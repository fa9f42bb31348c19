import SwitchTestbed.Proofs.Wire.Message

/-!
# The kinds of fields

* `Codec.Lawful` : a scalar is read back from what it is written as; all codecs are lawful;
* `IsLens` : a part of a message is what was last put there;
* `Field.carries_scalar`, `Field.carries_alternative`, `Field.carries_packed`,
  `Field.carries_nested`, `Field.carries_repeated`, `Field.carries_map` : a field of each kind puts
  its part into a message that does not have it yet;
* `Carried.of_alternatives` : fields of which at most one is written.
-/

namespace SwitchTestbed.Wire

/-! ## Scalars -/

/-- A scalar is read back. -/
class Codec.Lawful {β : Type} (c : Codec β) : Prop where
  read_write : ∀ b, c.read (c.write b).payload = some b

namespace Codec

theorem lawful_ofWord {β : Type} {default : β} {toWord : β → UInt64} {fromWord : UInt64 → β}
    (h : ∀ b, fromWord (toWord b) = b) : (Codec.ofWord default toWord fromWord).Lawful :=
  ⟨fun b => congrArg some (h b)⟩

instance : uint64.Lawful := lawful_ofWord fun _ => rfl

instance : uint32.Lawful := lawful_ofWord UInt32.toUInt32_toUInt64

instance : int64.Lawful := lawful_ofWord Int64.toInt64_toUInt64

/-- The sign of a negative integer fills the upper half of the word, which is dropped again. -/
theorem int32_ofWord_toWord (i : Int32) : i.toInt64.toUInt64.toUInt32.toInt32 = i := by
  have hlow : i.toInt64.toUInt64.toUInt32.toInt32 = i.toInt64.toInt32 := by
    apply Int32.toBitVec_inj.mp
    rw [Int64.toBitVec_toInt32, BitVec.signExtend_eq_setWidth_of_le _ (by decide)]
    rfl
  rw [hlow, Int32.toInt32_toInt64]

instance : int32.Lawful := lawful_ofWord int32_ofWord_toWord

instance : bool.Lawful := lawful_ofWord (by decide)

instance : bytes.Lawful := ⟨fun b => congrArg some (Bytes.toByteArray_toList b)⟩

instance : string.Lawful where
  read_write s := by
    show String.fromUTF8? s.toUTF8.toList.toByteArray = some s
    rw [Bytes.toByteArray_toList, Bytes.fromUTF8?_toUTF8]

instance : double.Lawful := ⟨fun _ => rfl⟩

end Codec

/-! ## Parts of messages -/

/-- A part of an `α`. -/
structure IsLens {α β : Type} (get : α → β) (set : β → α → α) : Prop where
  get_set : ∀ b a, get (set b a) = b := by intros; rfl
  set_set : ∀ b c a, set c (set b a) = set c a := by intros; rfl
  set_get : ∀ a, set (get a) a = a := by intros; rfl

namespace Field

variable {α β : Type} {height : Nat} {a m : α}

/-! ## Fields with one way of being written -/

theorem Carries.of_write {f : Field α} {m' : α} (hwrites : ∀ vs, f.Writes a vs ↔ vs = f.write a)
    (hdelimited : f.delimited = false)
    (h : ∀ depth, f.mergeAll depth (f.write a) m = some m') : f.Carries height a m m' where
  writes_write := (hwrites _).mpr rfl
  delimited _ hd := absurd hd (by simp [hdelimited])
  merges hvs _ _ _ := by
    rw [(hwrites _).mp hvs]
    exact h _

theorem carries_scalar [DecidableEq β] {number : Nat} {c : Codec β} [c.Lawful] {get : α → β}
    {set : β → α → α} (hfresh : set c.default m = m := by rfl) :
    (scalar number c get set).Carries height a m (set (get a) m) := by
  refine .of_write (fun _ => Iff.rfl) rfl fun depth => ?_
  by_cases hdefault : get a = c.default
  · simp only [mergeAll, scalar, hdefault, if_true, List.foldlM_nil, hfresh]
    rfl
  · simp only [mergeAll, scalar, if_neg hdefault, List.foldlM_cons, List.foldlM_nil,
      Codec.Lawful.read_write, Option.map_some]
    rfl

theorem carries_alternative {number : Nat} {c : Codec β} [c.Lawful] {get : α → Option β}
    {set : β → α → α} {b : β} (hget : get a = some b) :
    (alternative number c get set).Carries height a m (set b m) := by
  refine .of_write (fun _ => Iff.rfl) rfl fun depth => ?_
  simp only [mergeAll, alternative, hget, Option.map_some, Option.toList_some, List.foldlM_cons,
    List.foldlM_nil, Codec.Lawful.read_write]
  rfl

theorem carries_silent_alternative {number : Nat} {c : Codec β} {get : α → Option β}
    {set : β → α → α} (hget : get a = none) :
    (alternative number c get set).Carries height a m m := by
  refine .of_write (fun _ => Iff.rfl) rfl fun depth => ?_
  simp only [mergeAll, alternative, hget, Option.map_none, Option.toList_none, List.foldlM_nil]
  rfl

/-! ## Integers in one text -/

theorem packedWords_flatMap (ns : List UInt64) : ∀ steps,
    (ns.flatMap fun n => varint n.toNat).length ≤ steps →
      packedWords steps (ns.flatMap fun n => varint n.toNat) = some ns := by
  induction ns with
  | nil =>
    intro steps _
    simp only [List.flatMap_nil, packedWords]
  | cons n ns ih =>
    intro steps hsteps
    obtain ⟨b, s, hs⟩ := List.exists_cons_of_ne_nil (varint_ne_nil n.toNat)
    rw [List.flatMap_cons, List.length_append, hs, List.length_cons] at hsteps
    obtain ⟨steps, rfl⟩ : ∃ k, steps = k + 1 := ⟨steps - 1, by omega⟩
    rw [List.flatMap_cons, hs, List.cons_append, packedWords, ← List.cons_append, ← hs,
      readVarint_toNat]
    simp only [Option.bind_eq_bind, Option.bind_some, ih steps (by omega)]

theorem carries_packed {number : Nat} {get : α → List Int32} {set : List Int32 → α → α}
    (hfresh : get m = [] := by rfl) (hkeep : set [] m = m := by rfl) :
    (packed number get set).Carries height a m (set (get a) m) := by
  refine .of_write (fun _ => Iff.rfl) rfl fun depth => ?_
  cases hints : get a with
  | nil =>
    simp only [mergeAll, packed, hints, List.isEmpty_nil, if_true, List.foldlM_nil, hkeep]
    rfl
  | cons i is =>
    have hwords := packedWords_flatMap ((i :: is).map fun i => i.toInt64.toUInt64) _ (Nat.le_refl _)
    rw [List.flatMap_map] at hwords
    simp only [mergeAll, packed, hints, List.isEmpty_cons, Bool.false_eq_true, if_false,
      List.foldlM_cons, List.foldlM_nil, Value.payload, Bytes.toList_toByteArray, hwords,
      Option.map_some, hfresh, List.nil_append, List.map_map, Function.comp_def,
      Codec.int32_ofWord_toWord, List.map_id']
    rfl

/-! ## Messages inside messages -/

section Messages

variable [Message β] {inner : Nat}

theorem carries_silent_nested {number : Nat} {get : α → Option β} {set : Option β → α → α}
    (hget : get a = none) : (nested number get set).Carries height a m m where
  writes_write := by
    show WritesEach (get a).toList ((get a).map fun b => Value.message (valuesOf b)).toList
    rw [hget]
    exact .nil
  delimited _ hdelimited := absurd hdelimited Bool.false_ne_true
  merges {vs} hvs _ _ _ := by
    change WritesEach (get a).toList vs at hvs
    rw [hget] at hvs
    cases hvs
    rfl

theorem writesEach_map [ReadsBack β inner] (bs : List β) :
    WritesEach bs (bs.map fun b => .message (valuesOf b)) := by
  induction bs with
  | nil => exact .nil
  | cons b bs ih => exact .cons (written_valuesOf b) ih

variable [ReadsBack β inner]

theorem carries_nested (hheight : inner < height := by decide) {number : Nat} {get : α → Option β}
    {set : Option β → α → α} (hfresh : get m = none := by rfl) (hkeep : set none m = m := by rfl) :
    (nested number get set).Carries height a m (set (get a) m) where
  writes_write := by
    have hlist : ((get a).map fun b => Value.message (valuesOf b)).toList =
        (get a).toList.map fun b => .message (valuesOf b) := by cases get a <;> rfl
    show WritesEach (get a).toList _
    rw [show (nested number get set).write a = _ from hlist]
    exact writesEach_map _
  delimited _ hdelimited := absurd hdelimited Bool.false_ne_true
  merges {vs} hvs hsize {depth} hdepth := by
    cases hget : get a with
    | none =>
      have hsilent : (nested number get set).Carries height a m m := carries_silent_nested hget
      rw [hkeep]
      exact hsilent.merges hvs hsize hdepth
    | some b =>
      change WritesEach (get a).toList vs at hvs
      rw [hget] at hvs
      cases hvs with
      | cons hb hnil =>
        cases hnil
        have hread := mergeNested_of_written hb (hsize _ List.mem_cons_self)
          (Nat.lt_of_lt_of_le hheight hdepth)
        simp only [mergeAll, nested, List.foldlM_cons, List.foldlM_nil, hfresh, Option.getD_none,
          hread, Option.map_some]
        rfl

/-- Messages are added behind those that are there already. -/
theorem mergeAll_repeated (number : Nat) {get : α → List β} {set : List β → α → α}
    (hlens : IsLens get set) {bs : List β} {vs : List Value} (hvs : WritesEach bs vs) {depth : Nat}
    (hdepth : inner < depth) : ∀ m, (∀ v ∈ vs, v.body.length < UInt64.size) →
      (repeated number get set).mergeAll depth vs m = some (set (get m ++ bs) m) := by
  induction hvs with
  | nil =>
    intro m _
    rw [List.append_nil, hlens.set_get]
    rfl
  | @cons b bs ws vs hb _ ih =>
    intro m hsize
    have hread := mergeNested_of_written hb (hsize _ List.mem_cons_self) hdepth
    have hrest := ih (set (get m ++ [b]) m) fun v hv => hsize v (List.mem_cons_of_mem _ hv)
    rw [hlens.get_set, hlens.set_set, List.append_assoc, List.singleton_append] at hrest
    rw [mergeAll, List.foldlM_cons, ← hrest]
    simp only [repeated, hread, Option.map_some]
    rfl

theorem carries_repeated (hheight : inner < height := by decide) {number : Nat} {get : α → List β}
    {set : List β → α → α} (hfresh : get m = [] := by rfl) (hlens : IsLens get set := by exact {}) :
    (repeated number get set).Carries height a m (set (get a) m) where
  writes_write := writesEach_map (get a)
  delimited _ hdelimited := absurd hdelimited Bool.false_ne_true
  merges hvs hsize depth hdepth := by
    have hmerged := mergeAll_repeated number hlens hvs (Nat.lt_of_lt_of_le hheight hdepth) m hsize
    rwa [hfresh, List.nil_append] at hmerged

end Messages

/-! ## Maps -/

instance : ReadsBack MapEntry 0 where
  carried _ := .cons carries_scalar (.cons carries_scalar .nil)

/-- Entries are inserted one after the other. -/
theorem mergeAll_map (number : Nat) {get : α → StringMap String} {set : StringMap String → α → α}
    (hlens : IsLens get set) {depth : Nat} (hdepth : 0 < depth) (es : List (String × String)) :
    ∀ m, (∀ e ∈ es, (Value.message (valuesOf (⟨e.1, e.2⟩ : MapEntry))).body.length < UInt64.size) →
      (map number get set).mergeAll depth
          (es.map fun e => .message (valuesOf (⟨e.1, e.2⟩ : MapEntry))) m =
        some (set (es.foldl (fun entries e => entries.insert e.1 e.2) (get m)) m) := by
  induction es with
  | nil =>
    intro m _
    rw [List.foldl_nil, hlens.set_get]
    rfl
  | cons e es ih =>
    intro m hsize
    have hread := mergeNested_of_written (written_valuesOf (⟨e.1, e.2⟩ : MapEntry))
      (hsize e List.mem_cons_self) hdepth
    have hrest := ih (set ((get m).insert e.1 e.2) m) fun e he =>
      hsize e (List.mem_cons_of_mem _ he)
    rw [hlens.get_set, hlens.set_set] at hrest
    rw [List.foldl_cons, ← hrest, List.map_cons, mergeAll, List.foldlM_cons]
    simp only [map, hread, Option.map_some]
    rfl

theorem carries_map (hheight : 0 < height := by decide) {number : Nat}
    {get : α → StringMap String} {set : StringMap String → α → α} (hfresh : get m = ∅ := by rfl)
    (hlens : IsLens get set := by exact {}) :
    (map number get set).Carries height a m (set (get a) m) where
  writes_write := ⟨_, .refl _, rfl⟩
  delimited := by
    rintro _ ⟨es, -, rfl⟩ - v hv
    obtain ⟨e, -, rfl⟩ := List.mem_map.mp hv
    rfl
  merges := by
    rintro _ ⟨es, hperm, rfl⟩ hsize depth hdepth
    have hmerged := mergeAll_map number hlens (Nat.lt_of_lt_of_le hheight hdepth) es m
      fun e he => hsize _ (List.mem_map_of_mem he)
    rw [hfresh] at hmerged
    rw [hmerged]
    exact congrArg (fun entries => some (set entries m)) (StringMap.ofList_eq_of_perm hperm)

end Field

/-! ## Alternatives -/

/-- Of alternatives each is either not written or completes the message. -/
theorem Carried.of_alternatives {α : Type} {height : Nat} {a : α} {fs : List (Field α)} :
    ∀ {m : α}, (∀ f ∈ fs, (f.write a = [] ∧ ∀ m, f.Carries height a m m) ∨
        ∀ m, f.Carries height a m a) →
      ((∀ f ∈ fs, f.write a = []) → m = a) → Carried height a fs m a := by
  induction fs with
  | nil =>
    intro m _ hsilent
    cases hsilent (by simp)
    exact .nil
  | cons f fs ih =>
    intro m hfs hsilent
    have htail := fun g hg => hfs g (List.mem_cons_of_mem f hg)
    rcases hfs f List.mem_cons_self with ⟨hwrite, hf⟩ | hf
    · exact .cons (hf m) (ih htail fun hrest => hsilent (List.forall_mem_cons.mpr ⟨hwrite, hrest⟩))
    · exact .cons (hf m) (ih htail fun _ => rfl)

end SwitchTestbed.Wire
