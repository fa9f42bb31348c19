/-!
# Maps keyed by text

* `StringMap β` : entries in strictly increasing order of their keys, so each key stands once and
  two maps with the same entries are equal. Text is ordered by code point, which is also the
  order of its UTF-8 bytes;
* `StringMap.insert`, `StringMap.get?`, `StringMap.ofList` : an entry inserted later replaces an
  earlier one of the same key (`get?_insert_self`, `get?_insert_of_ne`).
-/

namespace SwitchTestbed

/-! ## Sorted entry lists -/

/-- One entry put into its place, instead of any entry of the same key. -/
def insertEntry {β : Type} (k : String) (v : β) : List (String × β) → List (String × β)
  | [] => [(k, v)]
  | (k', v') :: rest =>
    if k < k' then (k, v) :: (k', v') :: rest
    else if k = k' then (k, v) :: rest
    else (k', v') :: insertEntry k v rest

/-- The value of the first entry of a key. -/
def lookupEntry {β : Type} (k : String) : List (String × β) → Option β
  | [] => none
  | (k', v) :: rest => if k = k' then some v else lookupEntry k rest

/-- Keys stand in strictly increasing order. -/
def SortedEntries {β : Type} (es : List (String × β)) : Prop :=
  (es.map Prod.fst).Pairwise (· < ·)

theorem mem_keys_insertEntry {β : Type} {k x : String} {v : β} {es : List (String × β)} :
    x ∈ (insertEntry k v es).map Prod.fst ↔ x = k ∨ x ∈ es.map Prod.fst := by
  induction es with
  | nil => simp [insertEntry]
  | cons e rest ih =>
    obtain ⟨k', v'⟩ := e
    simp only [insertEntry]
    split
    · simp
    · split
      · rename_i h
        subst h
        simp
      · simp only [List.map_cons, List.mem_cons, ih]
        grind

theorem key_lt_of_not_lt {a b : String} (h : ¬a < b) (hne : a ≠ b) : b < a := by
  have := String.le_total a b
  rcases this with hab | hba
  · exact absurd (String.le_antisymm hab (String.not_lt.mp h)) hne
  · exact Classical.byContradiction fun hn =>
      hne (String.le_antisymm (String.not_lt.mp hn) hba)

theorem sortedEntries_insertEntry {β : Type} (k : String) (v : β) {es : List (String × β)}
    (h : SortedEntries es) : SortedEntries (insertEntry k v es) := by
  induction es with
  | nil => simp [insertEntry, SortedEntries]
  | cons e rest ih =>
    obtain ⟨k', v'⟩ := e
    have hcons := List.pairwise_cons.mp h
    simp only [insertEntry]
    split
    · rename_i hlt
      refine List.pairwise_cons.mpr ⟨fun x hx => ?_, h⟩
      rcases List.mem_cons.mp hx with rfl | hx
      · exact hlt
      · exact String.lt_trans hlt (hcons.1 x hx)
    · split
      · rename_i heq
        subst heq
        exact List.pairwise_cons.mpr hcons
      · rename_i hlt hne
        refine List.pairwise_cons.mpr ⟨fun x hx => ?_, ih hcons.2⟩
        rcases mem_keys_insertEntry.mp hx with rfl | hx
        · exact key_lt_of_not_lt hlt hne
        · exact hcons.1 x hx

theorem lookupEntry_insertEntry_self {β : Type} (k : String) (v : β) (es : List (String × β)) :
    lookupEntry k (insertEntry k v es) = some v := by
  induction es with
  | nil => simp [insertEntry, lookupEntry]
  | cons e rest ih =>
    obtain ⟨k', v'⟩ := e
    simp only [insertEntry]
    split
    · simp [lookupEntry]
    · split
      · simp [lookupEntry]
      · rename_i hne
        simp [lookupEntry, hne, ih]

theorem lookupEntry_insertEntry_of_ne {β : Type} {k k' : String} (v : β) (h : k' ≠ k)
    (es : List (String × β)) : lookupEntry k' (insertEntry k v es) = lookupEntry k' es := by
  induction es with
  | nil => simp [insertEntry, lookupEntry, h]
  | cons e rest ih =>
    obtain ⟨j, w⟩ := e
    simp only [insertEntry]
    split
    · simp [lookupEntry, h]
    · split
      · rename_i heq
        subst heq
        simp [lookupEntry, h]
      · simp [lookupEntry, ih]

/-! ## The map -/

/-- A finite map from text, its entries in strictly increasing order of the keys. -/
structure StringMap (β : Type) where
  entries : List (String × β)
  sorted : SortedEntries entries
  deriving DecidableEq

namespace StringMap

variable {β γ : Type}

instance [Repr β] : Repr (StringMap β) := ⟨fun m n => reprPrec m.entries n⟩

/-- The map without entries. -/
def empty : StringMap β := ⟨[], List.Pairwise.nil⟩

instance : Inhabited (StringMap β) := ⟨empty⟩

instance : EmptyCollection (StringMap β) := ⟨empty⟩

/-- The map with one more entry, which replaces any of the same key. -/
def insert (m : StringMap β) (k : String) (v : β) : StringMap β :=
  ⟨insertEntry k v m.entries, sortedEntries_insertEntry k v m.sorted⟩

/-- The value under a key. -/
def get? (m : StringMap β) (k : String) : Option β := lookupEntry k m.entries

/-- Whether a key has a value. -/
def contains (m : StringMap β) (k : String) : Bool := (m.get? k).isSome

/-- All entries, by increasing key. -/
def toList (m : StringMap β) : List (String × β) := m.entries

/-- All keys, increasing. -/
def keys (m : StringMap β) : List String := m.entries.map Prod.fst

/-- Whether there is no entry. -/
def isEmpty (m : StringMap β) : Bool := m.entries.isEmpty

/-- Number of entries. -/
def size (m : StringMap β) : Nat := m.entries.length

/-- Entries inserted one after the other: of two with the same key the later one stays. -/
def ofList (es : List (String × β)) : StringMap β :=
  es.foldl (fun m e => m.insert e.1 e.2) empty

/-- The same keys with other values. -/
def mapWithKey (f : String → β → γ) (m : StringMap β) : StringMap γ :=
  ⟨m.entries.map fun e => (e.1, f e.1 e.2), by
    have := m.sorted
    unfold SortedEntries at this ⊢
    rwa [List.map_map, show Prod.fst ∘ (fun e : String × β => (e.1, f e.1 e.2)) = Prod.fst from rfl]⟩

@[simp] theorem get?_insert_self (m : StringMap β) (k : String) (v : β) :
    (m.insert k v).get? k = some v :=
  lookupEntry_insertEntry_self k v m.entries

theorem get?_insert_of_ne (m : StringMap β) {k k' : String} (v : β) (h : k' ≠ k) :
    (m.insert k v).get? k' = m.get? k' :=
  lookupEntry_insertEntry_of_ne v h m.entries

@[simp] theorem get?_empty (k : String) : (empty : StringMap β).get? k = none := rfl

end StringMap

end SwitchTestbed
