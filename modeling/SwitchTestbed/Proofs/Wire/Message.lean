import SwitchTestbed.Proofs.StringMap
import SwitchTestbed.Proofs.Wire.Record
import SwitchTestbed.Wire.Message

/-!
# Messages are read as they are written

* `Field.Carries` : reading what a field writes of a message takes another message one step closer
  to it; `Carried` : reading what all of them write completes it;
* `ReadsBack` : the numbers of the fields are good, and the message without fields is completed to
  any other;
* `mergeText_of_written`, `decode_of_encodes` : such a message is read back, in whichever order its
  maps are written.

Fields are read in the order in which they are written, so that each one finds the message as the
fields before it have left it, and still without what it is about to add.
-/

namespace SwitchTestbed.Wire

/-! ## Texts as values -/

section Merging

variable {α : Type} [Message α]

/-- What values add to a message, one after the other. -/
def mergeValues (depth : Nat) (vs : List (Nat × Value)) (a : α) : Option α :=
  vs.foldlM (fun a v => mergeRecord depth ⟨v.1, v.2.payload⟩ a) a

/-- What values of one field add to a message. -/
def Field.mergeAll (f : Field α) (depth : Nat) (vs : List Value) (a : α) : Option α :=
  vs.foldlM (fun a v => f.merge depth v.payload a) a

/-- A number has a key, and is followed by nothing that it does not announce. -/
structure Readable (α : Type) [Message α] (number : Nat) (v : Value) : Prop where
  pos : 0 < number
  key : fieldKey number wireBytes < 0x100000000
  delimited : isDelimited α number = true → v.wireType = wireBytes

theorem mergeText_encodeFields (depth : Nat) {vs : List (Nat × Value)} :
    ∀ {steps : Nat} {a : α}, (∀ v ∈ vs, Readable α v.1 v.2) →
      (encodeFields vs).length < UInt64.size → (encodeFields vs).length ≤ steps →
      mergeText depth steps (encodeFields vs) a = mergeValues depth vs a := by
  induction vs with
  | nil =>
    intro steps a _ _ _
    simp only [encodeFields, mergeText, mergeValues, List.foldlM_nil, Option.pure_def]
  | cons v vs ih =>
    obtain ⟨number, v⟩ := v
    intro steps a hread hsize hsteps
    obtain ⟨b, s, hs⟩ := List.exists_cons_of_ne_nil (encodeField_ne_nil number v)
    have hv := hread (number, v) List.mem_cons_self
    have hlength : (encodeFields ((number, v) :: vs)).length =
        (encodeField number v).length + (encodeFields vs).length := by
      rw [encodeFields, List.length_append]
    have hpos : 0 < (encodeField number v).length := List.length_pos_of_ne_nil (by simp [hs])
    obtain ⟨steps, rfl⟩ : ∃ k, steps = k + 1 := ⟨steps - 1, by omega⟩
    have hrecord := readRecord_encodeField depth hv.pos hv.key hv.delimited
      (Nat.lt_of_le_of_lt (length_body_le number v) (by omega)) (encodeFields vs)
    rw [encodeFields, hs, List.cons_append, mergeText, ← List.cons_append, ← hs, hrecord,
      mergeValues, List.foldlM_cons]
    refine congrArg (mergeRecord depth ⟨number, v.payload⟩ a).bind (funext fun a => ?_)
    exact ih (fun v hv => hread v (List.mem_cons_of_mem _ hv)) (by omega) (by omega)

/-! ## Fields by their numbers -/

omit [Message α] in
theorem find?_number {fs : List (Field α)} (hnodup : (fs.map Field.number).Nodup) {f : Field α}
    (hf : f ∈ fs) : fs.find? (fun g => g.number = f.number) = some f := by
  induction fs with
  | nil => cases hf
  | cons g fs ih =>
    obtain ⟨hnew, hrest⟩ := List.nodup_cons.mp hnodup
    rcases List.mem_cons.mp hf with rfl | hf
    · exact List.find?_cons_of_pos (by simp)
    · have hne : g.number ≠ f.number := fun h => hnew (h ▸ List.mem_map_of_mem hf)
      rw [List.find?_cons_of_neg (by simpa using hne)]
      exact ih hrest hf

theorem mergeValues_of_mem (hnodup : ((Message.fields (α := α)).map Field.number).Nodup)
    {f : Field α} (hf : f ∈ Message.fields (α := α)) (depth : Nat) (vs : List Value) (a : α) :
    mergeValues depth (vs.map (f.number, ·)) a = f.mergeAll depth vs a := by
  rw [mergeValues, List.foldlM_map, Field.mergeAll]
  simp only [mergeRecord, find?_number hnodup hf]

end Merging

/-! ## Messages that are read back -/

/-- Reading what a field writes of `a` takes `m` to `m'`, wherever at least `height` messages may
still be opened. -/
structure Field.Carries {α : Type} (height : Nat) (f : Field α) (a m m' : α) : Prop where
  writes_write : f.Writes a (f.write a)
  delimited : ∀ {vs}, f.Writes a vs → f.delimited = true → ∀ v ∈ vs, v.wireType = wireBytes
  merges : ∀ {vs}, f.Writes a vs → (∀ v ∈ vs, v.body.length < UInt64.size) →
    ∀ {depth}, height ≤ depth → f.mergeAll depth vs m = some m'

/-- Reading what fields write of `a` takes one message to another. -/
inductive Carried {α : Type} (height : Nat) (a : α) : List (Field α) → α → α → Prop where
  | nil {m : α} : Carried height a [] m m
  | cons {f : Field α} {fs : List (Field α)} {m m' m'' : α} :
    f.Carries height a m m' → Carried height a fs m' m'' → Carried height a (f :: fs) m m''

/-- Numbers stand for one field each and have keys, and what is written of a message completes the
one without fields. There are `height` messages one inside the other. -/
class ReadsBack (α : Type) [Message α] (height : outParam Nat) : Prop where
  nodup : ((Message.fields (α := α)).map Field.number).Nodup := by decide
  keys : ∀ number ∈ (Message.fields (α := α)).map Field.number,
    0 < number ∧ fieldKey number wireBytes < 0x100000000 := by decide
  carried : ∀ a : α, Carried height a Message.fields Message.empty a

section Reading

variable {α : Type} {height : Nat}

theorem writesAll_flatMap {a : α} {fs : List (Field α)} {m m' : α} (h : Carried height a fs m m') :
    WritesAll a fs (fs.flatMap fun f => (f.write a).map (f.number, ·)) := by
  induction h with
  | nil => exact .nil
  | cons hf _ ih => exact .cons hf.writes_write ih

theorem length_body_le_of_mem {v : Nat × Value} {vs : List (Nat × Value)} (h : v ∈ vs) :
    v.2.body.length ≤ (encodeFields vs).length := by
  induction vs with
  | nil => cases h
  | cons w vs ih =>
    rw [encodeFields, List.length_append]
    rcases List.mem_cons.mp h with rfl | h
    · exact Nat.le_add_right_of_le (length_body_le _ _)
    · exact Nat.le_add_left_of_le (ih h)

variable [Message α]

theorem written_valuesOf [ReadsBack α height] (a : α) : Written a (valuesOf a) :=
  writesAll_flatMap (ReadsBack.carried a)

/-- The text of a message is one of those that its maps allow. -/
theorem encodes_encode [ReadsBack α height] (a : α) : Encodes a (encode a) :=
  ⟨_, written_valuesOf a, rfl⟩

variable [ReadsBack α height]

/-- The fields of a message, one after the other: each is found by its number, and completes its
part. -/
theorem mergeValues_of_writesAll {a m m' : α} {fs : List (Field α)}
    (hcarried : Carried height a fs m m') {vs : List (Nat × Value)} (hvs : WritesAll a fs vs)
    (hfs : fs ⊆ Message.fields) (hsize : ∀ v ∈ vs, v.2.body.length < UInt64.size) {depth : Nat}
    (hdepth : height ≤ depth) :
    mergeValues depth vs m = some m' := by
  induction hcarried generalizing vs with
  | nil =>
    cases hvs
    rfl
  | cons hf _ ih =>
    cases hvs with
    | cons hw hrest =>
      obtain ⟨hmem, hfs⟩ := List.cons_subset.mp hfs
      have hfirst := hf.merges hw
        (fun v hv => hsize _ (List.mem_append_left _ (List.mem_map_of_mem hv))) hdepth
      rw [← mergeValues_of_mem ReadsBack.nodup hmem] at hfirst
      rw [mergeValues, List.foldlM_append, ← mergeValues, hfirst, Option.bind_eq_bind,
        Option.bind_some]
      exact ih hrest hfs fun v hv => hsize v (List.mem_append_right _ hv)

theorem readable_of_writesAll {a m m' : α} {fs : List (Field α)}
    (hcarried : Carried height a fs m m') {vs : List (Nat × Value)} (hvs : WritesAll a fs vs)
    (hfs : fs ⊆ Message.fields) :
    ∀ v ∈ vs, Readable α v.1 v.2 := by
  induction hcarried generalizing vs with
  | nil =>
    cases hvs
    simp
  | @cons f fs _ _ _ hf _ ih =>
    cases hvs with
    | cons hw hrest =>
      obtain ⟨hmem, hfs⟩ := List.cons_subset.mp hfs
      intro v hv
      rcases List.mem_append.mp hv with hv | hv
      · obtain ⟨value, hvalue, rfl⟩ := List.mem_map.mp hv
        obtain ⟨hpos, hkey⟩ := ReadsBack.keys f.number (List.mem_map_of_mem hmem)
        refine ⟨hpos, hkey, fun hdelimited => hf.delimited hw ?_ value hvalue⟩
        obtain ⟨g, hg, hsame⟩ := List.any_eq_true.mp hdelimited
        obtain ⟨hnumber, hg'⟩ := Bool.and_eq_true_iff.mp hsame
        have heq : g = f := List.inj_on_of_nodup_map ReadsBack.nodup hg hmem
          (of_decide_eq_true hnumber)
        rwa [← heq]
      · exact ih hrest hfs v hv

/-- **A message is read back from any of its texts.** -/
theorem mergeText_of_written {a : α} {vs : List (Nat × Value)} (h : Written a vs)
    (hsize : (encodeFields vs).length < UInt64.size) {depth : Nat} (hdepth : height ≤ depth) :
    mergeText depth (encodeFields vs).length (encodeFields vs) (Message.empty : α) = some a := by
  have hcarried := ReadsBack.carried a
  have hread := readable_of_writesAll hcarried h (List.Subset.refl _)
  rw [mergeText_encodeFields depth hread hsize (Nat.le_refl _)]
  exact mergeValues_of_writesAll hcarried h (List.Subset.refl _)
    (fun v hv => Nat.lt_of_le_of_lt (length_body_le_of_mem hv) hsize) hdepth

theorem mergeNested_of_written {a : α} {vs : List (Nat × Value)} (h : Written a vs)
    (hsize : (Value.message vs).body.length < UInt64.size) {depth : Nat} (hdepth : height < depth) :
    mergeNested depth (Value.message vs).payload (Message.empty : α) = some a := by
  obtain ⟨inner, rfl⟩ : ∃ k, depth = k + 1 := ⟨depth - 1, by omega⟩
  rw [Value.body, List.length_append] at hsize
  exact mergeText_of_written h (by omega) (by omega)

theorem decode_of_encodes {a : α} {s : List UInt8} (h : Encodes a s)
    (hsize : s.length < UInt64.size) (hheight : height ≤ maxNesting) : decode s = some a := by
  obtain ⟨vs, hvs, rfl⟩ := h
  exact mergeText_of_written hvs hsize hheight

end Reading

end SwitchTestbed.Wire
