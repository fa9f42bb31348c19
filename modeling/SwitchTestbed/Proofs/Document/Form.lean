import SwitchTestbed.Proofs.Json.Ordered
import SwitchTestbed.Resolved

/-!
# Forms of values

* `Doc.IsForm` : a document from which a decoder gives a value, once the document has been written
  and read;
* `isForm_list`, `isForm_stringMap`, `isForm_record` : lists, maps and records of forms;
* `FieldForm`, `RecordForm` : one field of a record, and the fields up to one;
* `kept` : a field that may be left out where it has its default;
* `Doc.IsForm.readsJson` : what is written as JSON is read back.
-/

namespace SwitchTestbed

/-- A document of at most `n` levels from which a decoder gives a value, in every notation. -/
structure Doc.IsForm {α : Type} (d : Doc) (n : Nat) (dec : Decoder α) (a : α) : Prop where
  integral : d.Integral
  depth : d.depth ≤ n
  notNull : d.asRead ≠ .null
  reads : ∀ δ, dec δ d.asRead = .ok a

/-! ## Parts of documents -/

namespace Doc

theorem integralElements_iff {es : List Doc} : IntegralElements es ↔ ∀ d ∈ es, d.Integral := by
  induction es with
  | nil => simp [IntegralElements]
  | cons d es ih => rw [IntegralElements, ih, List.forall_mem_cons]

theorem integralMembers_iff {ms : List (String × Doc)} :
    IntegralMembers ms ↔ ∀ m ∈ ms, m.2.Integral := by
  induction ms with
  | nil => simp [IntegralMembers]
  | cons m ms ih => rw [IntegralMembers, ih, List.forall_mem_cons]

theorem depthElements_le_iff {es : List Doc} {n : Nat} :
    depthElements es ≤ n ↔ ∀ d ∈ es, d.depth ≤ n := by
  induction es with
  | nil => simp [depthElements]
  | cons d es ih => rw [depthElements, Nat.max_le, ih, List.forall_mem_cons]

theorem depthMembers_le_iff {ms : List (String × Doc)} {n : Nat} :
    depthMembers ms ≤ n ↔ ∀ m ∈ ms, m.2.depth ≤ n := by
  induction ms with
  | nil => simp [depthMembers]
  | cons m ms ih => rw [depthMembers, Nat.max_le, ih, List.forall_mem_cons]

end Doc

section Forms

variable {α β : Type} {n : Nat} {dec : Decoder α} {a : α} {d : Doc}

/-! ## Scalars -/

theorem isForm_text (s : String) : (Doc.text s).IsForm n .string s where
  integral := trivial
  depth := Nat.zero_le n
  notNull := nofun
  reads _ := rfl

theorem isForm_uint64 (w : UInt64) : (Doc.int w.toNat).IsForm n .uint64 w where
  integral := by
    have hw : w.toNat < 18446744073709551616 := w.toNat_lt
    rw [Doc.Integral]
    omega
  depth := Nat.zero_le n
  notNull := nofun
  reads δ := by
    have hw : w.toNat < 18446744073709551616 := w.toNat_lt
    have hrange : 0 ≤ (w.toNat : Int) ∧ (w.toNat : Int) < 0x10000000000000000 := by omega
    show Decoder.uint64 δ (.int w.toNat) = .ok w
    unfold Decoder.uint64
    dsimp only
    rw [if_pos hrange, Int.toNat_natCast, Nat.toUInt64, UInt64.ofNat_toNat]

theorem isForm_variant {known : List (String × α)} {name : String}
    (h : lookupEntry name known = some a) : (Doc.text name).IsForm n (.variant known) a where
  integral := trivial
  depth := Nat.zero_le n
  notNull := nofun
  reads δ := by
    show Decoder.variantOf known name = .ok a
    rw [Decoder.variantOf, h]

/-! ## Containers -/

theorem mapM_map_eq_ok {ε β γ : Type} {f : β → γ} {g : γ → Except ε α} {h : β → α} {bs : List β}
    (hg : ∀ b ∈ bs, g (f b) = .ok (h b)) : (bs.map f).mapM g = .ok (bs.map h) := by
  induction bs with
  | nil => rfl
  | cons b bs ih =>
    obtain ⟨hb, hbs⟩ := List.forall_mem_cons.mp hg
    rw [List.map_cons, List.mapM_cons, hb, ih hbs]
    rfl

theorem isForm_list {f : α → Doc} {as : List α} (h : ∀ a ∈ as, (f a).IsForm n dec a) :
    (Doc.seq (as.map f)).IsForm (n + 1) (.list dec) as where
  integral := Doc.integralElements_iff.mpr (List.forall_mem_map.mpr fun a ha => (h a ha).integral)
  depth := Nat.succ_le_succ
    (Doc.depthElements_le_iff.mpr (List.forall_mem_map.mpr fun a ha => (h a ha).depth))
  notNull := nofun
  reads δ := by
    rw [Doc.asRead, Doc.elementsAsRead_eq_map, List.map_map]
    have hread : ((as.map (Doc.asRead ∘ f)).mapM (dec δ)) = .ok (as.map id) :=
      mapM_map_eq_ok fun a ha => (h a ha).reads δ
    rwa [List.map_id] at hread

theorem isForm_stringMap {f : α → Doc} {m : StringMap α}
    (h : ∀ e ∈ m.entries, (f e.2).IsForm n dec e.2) :
    (m.toDoc f).IsForm (n + 1) (.stringMap dec) m where
  integral := Doc.integralMembers_iff.mpr (List.forall_mem_map.mpr fun e he => (h e he).integral)
  depth := Nat.succ_le_succ
    (Doc.depthMembers_le_iff.mpr (List.forall_mem_map.mpr fun e he => (h e he).depth))
  notNull := nofun
  reads δ := by
    have hsorted : SortedEntries (m.entries.map fun e => (e.1, (f e.2).asRead)) := by
      have hkeys := m.sorted
      rwa [SortedEntries, List.map_map]
    have hmembers : Doc.membersAsRead [] (m.entries.map fun e => (e.1, f e.2)) =
        m.entries.map fun e => (e.1, (f e.2).asRead) := by
      rw [Doc.membersAsRead_eq_entries, List.map_map]
      exact StringMap.toList_ofList hsorted
    rw [StringMap.toDoc, Doc.asRead, hmembers]
    unfold Decoder.stringMap
    dsimp only
    rw [mapM_map_eq_ok (h := id), List.map_id]
    · exact congrArg Except.ok (StringMap.ofList_eq_of_perm (.refl _))
    · intro e he
      dsimp only
      rw [(h e he).reads δ]
      rfl

end Forms

/-! ## Fields of records -/

/-- The members of a map hold fields under their names, as they are read. -/
def Holds (fields : List (String × Option Doc)) (ms : List (String × Doc)) : Prop :=
  ∀ f ∈ fields, lookupEntry f.1 ms = f.2.map Doc.asRead

theorem memberAt_map_snd (name : String) (ms : List (String × Doc)) :
    (memberAt name ms).map Prod.snd = lookupEntry name ms := by
  have hfrom : ∀ k, ((ms.zipIdx k).find? fun m => m.1.1 = name).map (fun m => m.1.2) =
      lookupEntry name ms := by
    induction ms with
    | nil => exact fun _ => rfl
    | cons m ms ih =>
      intro k
      rw [List.zipIdx_cons, lookupEntry]
      split
      · rename_i hname
        rw [List.find?_cons_of_pos (by simp [hname])]
        rfl
      · rename_i hname
        rw [List.find?_cons_of_neg (by simpa [eq_comm] using hname), ih]
  rw [memberAt, Option.map_map]
  exact hfrom 0

/-- The fields of a record are held by what the record is read as. -/
theorem holds_record {fields : List (String × Option Doc)} (hnodup : (fields.map Prod.fst).Nodup) :
    Holds fields (Doc.membersAsRead [] (fields.filterMap fun f => f.2.map (f.1, ·))) := by
  intro f hf
  have hmem : ∀ d, (f.1, d) ∈ (fields.filterMap fun f => f.2.map (f.1, ·)) ↔ f.2 = some d := by
    intro d
    rw [List.mem_filterMap]
    constructor
    · rintro ⟨g, hg, hmember⟩
      obtain ⟨d', hd, heq⟩ := Option.map_eq_some_iff.mp hmember
      obtain ⟨hname, rfl⟩ := Prod.mk.inj heq
      have hsame : g = f := List.inj_on_of_nodup_map hnodup hg hf hname
      rwa [hsame] at hd
    · exact fun hd => ⟨f, hf, by rw [hd, Option.map_some]⟩
  have hunique : ((fields.filterMap fun f => f.2.map (f.1, ·)).map
      fun m => (m.1, m.2.asRead)).Pairwise (·.1 ≠ ·.1) := by
    rw [List.pairwise_map, List.pairwise_filterMap]
    refine (List.pairwise_map.mp hnodup).imp fun hne m hm m' hm' => ?_
    obtain ⟨_, -, rfl⟩ := Option.map_eq_some_iff.mp hm
    obtain ⟨_, -, rfl⟩ := Option.map_eq_some_iff.mp hm'
    exact hne
  rw [Doc.membersAsRead_eq_entries]
  refine Option.ext fun v => ?_
  rw [Option.map_eq_some_iff]
  refine (StringMap.get?_eq_some_iff (m := .ofList _)).trans ?_
  rw [(StringMap.entries_ofList_perm (List.pairwise_map.mpr hunique)).mem_iff, List.mem_map]
  constructor
  · rintro ⟨⟨name, d⟩, hd, heq⟩
    obtain ⟨rfl, rfl⟩ := Prod.mk.inj heq
    exact ⟨d, (hmem d).mp hd, rfl⟩
  · rintro ⟨d, hd, rfl⟩
    exact ⟨(f.1, d), (hmem d).mpr hd, rfl⟩

section Field

variable {α β : Type} {fields : List (String × Option Doc)} {n i : Nat} {name : String}
  {dec : Decoder α} {a : α} {s : RecordShape}

/-- A value is read from the field of an index, which is of at most `n` levels. -/
structure FieldForm (fields : List (String × Option Doc)) (n i : Nat)
    (read : Dialect → Fields → Reading α) (a : α) : Prop where
  integral : ∀ f ∈ fields[i]?, ∀ d ∈ f.2, d.Integral
  depth : ∀ f ∈ fields[i]?, ∀ d ∈ f.2, d.depth ≤ n
  reads : ∀ δ ms, Holds fields ms → read δ (.named ms) = .ok a

theorem field_of_lookup {δ : Dialect} {ms : List (String × Doc)} {d : Doc}
    (hlookup : lookupEntry name ms = some d) (hd : dec δ d = .ok a) (absent : Nat → Reading α) :
    field δ (.named ms) i name dec absent = .ok a := by
  rw [← memberAt_map_snd] at hlookup
  obtain ⟨⟨place, d⟩, hmember, rfl⟩ := Option.map_eq_some_iff.mp hlookup
  rw [field]
  simp only [hmember, hd, Reading.atPlace]

theorem field_of_lookup_none {δ : Dialect} {ms : List (String × Doc)}
    (hlookup : lookupEntry name ms = none) (absent : Nat → Reading α) :
    field δ (.named ms) i name dec absent = absent ms.length := by
  rw [← memberAt_map_snd, Option.map_eq_none_iff] at hlookup
  rw [field]
  simp only [hlookup]

theorem FieldForm.of_some {d : Doc} (hfield : fields[i]? = some (name, some d))
    (h : d.IsForm n dec a) {absent : Dialect → Fields → Nat → Reading α} :
    FieldForm fields n i (fun δ fs => field δ fs i name dec (absent δ fs)) a where
  integral := by
    rw [hfield]
    rintro _ ⟨⟩ _ ⟨⟩
    exact h.integral
  depth := by
    rw [hfield]
    rintro _ ⟨⟩ _ ⟨⟩
    exact h.depth
  reads δ ms hms :=
    field_of_lookup (hms _ (List.mem_of_getElem? hfield)) (h.reads δ) _

theorem FieldForm.required {d : Doc} (hfield : fields[i]? = some (name, some d))
    (h : d.IsForm n dec a) :
    FieldForm fields n i (fun δ fs => SwitchTestbed.required s δ fs i name dec) a :=
  .of_some hfield h

/-- A field that may be left out where it has its default. -/
def kept [DecidableEq α] (skip : Bool) (value : α) (a : α) (d : Doc) : Option Doc :=
  if skip ∧ a = value then none else some d

theorem FieldForm.defaulted_none {value : α} (hfield : fields[i]? = some (name, none)) :
    FieldForm fields n i (fun δ fs => SwitchTestbed.defaulted δ fs i name dec value) value where
  integral := by
    rw [hfield]
    rintro _ ⟨⟩ _ ⟨⟩
  depth := by
    rw [hfield]
    rintro _ ⟨⟩ _ ⟨⟩
  reads δ ms hms := field_of_lookup_none (hms _ (List.mem_of_getElem? hfield)) _

theorem FieldForm.kept [DecidableEq α] {skip : Bool} {value : α} {d : Doc}
    (hfield : fields[i]? = some (name, SwitchTestbed.kept skip value a d)) (h : d.IsForm n dec a) :
    FieldForm fields n i (fun δ fs => SwitchTestbed.defaulted δ fs i name dec value) a := by
  rw [SwitchTestbed.kept] at hfield
  split at hfield
  · rename_i hskip
    rw [hskip.2]
    exact .defaulted_none hfield
  · exact .of_some hfield h

theorem FieldForm.nullable {o : Option α} {f : α → Doc}
    (hfield : fields[i]? = some (name, o.map f)) (h : ∀ a ∈ o, (f a).IsForm n dec a) :
    FieldForm fields n i
      (fun δ fs => SwitchTestbed.defaulted δ fs i name (.nullable dec) none) o := by
  cases o with
  | none => exact .defaulted_none hfield
  | some a =>
    have ha := h a rfl
    refine .of_some hfield ⟨ha.integral, ha.depth, ha.notNull, fun δ => ?_⟩
    unfold Decoder.nullable
    split
    · rename_i hnull
      exact absurd hnull ha.notNull
    · rw [ha.reads δ]
      rfl

/-- A value is read from the fields up to one, which are of at most `n` levels. -/
structure RecordForm (fields : List (String × Option Doc)) (n i : Nat)
    (read : Dialect → Fields → Reading α) (a : α) : Prop where
  integral : ∀ f ∈ fields.take i, ∀ d ∈ f.2, d.Integral
  depth : ∀ f ∈ fields.take i, ∀ d ∈ f.2, d.depth ≤ n
  reads : ∀ δ ms, Holds fields ms → read δ (.named ms) = .ok a

theorem RecordForm.map {f : β → α} {b : β} {read : Dialect → Fields → Reading β}
    (h : FieldForm fields n 0 read b) :
    RecordForm fields n 1 (fun δ fs => f <$> read δ fs) (f b) where
  integral g hg := h.integral g (by cases fields <;> simp_all)
  depth g hg := h.depth g (by cases fields <;> simp_all)
  reads δ ms hms := by
    rw [h.reads δ ms hms]
    rfl

theorem RecordForm.seq {f : β → α} {b : β} {rest : Dialect → Fields → Reading (β → α)}
    {read : Dialect → Fields → Reading β} (hrest : RecordForm fields n i rest f)
    (h : FieldForm fields n i read b) :
    RecordForm fields n (i + 1) (fun δ fs => rest δ fs <*> read δ fs) (f b) where
  integral g hg := by
    rw [List.take_add_one] at hg
    rcases List.mem_append.mp hg with hg | hg
    · exact hrest.integral g hg
    · exact h.integral g (by simpa using hg)
  depth g hg := by
    rw [List.take_add_one] at hg
    rcases List.mem_append.mp hg with hg | hg
    · exact hrest.depth g hg
    · exact h.depth g (by simpa using hg)
  reads δ ms hms := by
    rw [hrest.reads δ ms hms, h.reads δ ms hms]
    rfl

theorem integral_record (h : ∀ f ∈ fields, ∀ d ∈ f.2, d.Integral) :
    (Doc.record fields).Integral := by
  refine Doc.integralMembers_iff.mpr fun m hm => ?_
  obtain ⟨f, hf, hmember⟩ := List.mem_filterMap.mp hm
  obtain ⟨d, hd, rfl⟩ := Option.map_eq_some_iff.mp hmember
  exact h f hf d hd

theorem depth_record_le (h : ∀ f ∈ fields, ∀ d ∈ f.2, d.depth ≤ n) :
    (Doc.record fields).depth ≤ n + 1 := by
  refine Nat.succ_le_succ (Doc.depthMembers_le_iff.mpr fun m hm => ?_)
  obtain ⟨f, hf, hmember⟩ := List.mem_filterMap.mp hm
  obtain ⟨d, hd, rfl⟩ := Option.map_eq_some_iff.mp hmember
  exact h f hf d hd

/-- **A record of forms is a form**, whichever of its fields are left out. -/
theorem isForm_record {read : RecordShape → Dialect → Fields → Reading α}
    (hnodup : (fields.map Prod.fst).Nodup) (h : RecordForm fields n fields.length (read s) a) :
    (Doc.record fields).IsForm (n + 1) (.record s read) a where
  integral := integral_record (by simpa using h.integral)
  depth := depth_record_le (by simpa using h.depth)
  notNull := nofun
  reads δ := by
    show (read s δ (.named _)).toExcept = .ok a
    rw [h.reads δ _ (holds_record hnodup)]
    rfl

end Field

/-! ## JSON texts -/

/-- A decoder gives a value from a JSON text. -/
def Decoder.ReadsJson {α : Type} (dec : Decoder α) (text : String) (a : α) : Prop :=
  ∃ d, Json.parse text.toUTF8.toList = .ok d ∧ dec .json d = .ok a

/-- **A form that is not too deep is read back from JSON.** -/
theorem Doc.IsForm.readsJson {α : Type} {dec : Decoder α} {a : α} {d : Doc} {n : Nat}
    (h : d.IsForm n dec a) (hn : n ≤ Json.maxDepth) :
    dec.ReadsJson (Json.render d) a := by
  refine ⟨d.asRead, ?_, h.reads .json⟩
  rw [Json.parse_render h.integral, Json.upTo_eq_ok_iff]
  exact ⟨Nat.le_trans h.depth hn, rfl⟩

end SwitchTestbed
