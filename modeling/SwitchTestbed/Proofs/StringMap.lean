import Mathlib.Data.List.Induction
import Mathlib.Data.List.Nodup
import SwitchTestbed.Data.StringMap

/-!
# What maps have under their keys

* `get?_ofList_last`, `get?_ofList_ofFn` : the last entry of a key counts;
* `exists_get?_ofList_iff` : the keys are those of the entries;
* `toList_ofList` : entries in their order are kept as they are;
* `get?_eq_some_iff`, `mem_keys_iff`, `keys_eq_of_mem_iff` : lookups, entries and keys;
* `exists_split_iff` : the entries before an entry;
* `eq_of_perm`, `ofList_eq_of_perm` : the order of entries does not matter;
* `lookupEntry_filter` : without the entries of another key;
* `get?_mapWithKey`, `keys_mapWithKey` : other values under the same keys.
-/

namespace SwitchTestbed.StringMap

variable {β γ : Type}

/-! ## Maps built entry by entry -/

theorem get?_insert (m : StringMap β) (k k' : String) (v : β) :
    (m.insert k v).get? k' = if k' = k then some v else m.get? k' := by
  split
  · rename_i hk
    rw [hk, get?_insert_self]
  · rename_i hk
    exact get?_insert_of_ne m v hk

theorem entries_ofList (es : List (String × β)) :
    (ofList es).entries = es.foldl (fun acc e => insertEntry e.1 e.2 acc) [] :=
  (List.foldl_hom StringMap.entries fun _ _ => rfl).symm

theorem mem_insertEntry {k : String} {v : β} {e : String × β} {es : List (String × β)}
    (h : e ∈ insertEntry k v es) : e = (k, v) ∨ e ∈ es := by
  induction es with
  | nil => exact .inl (List.mem_singleton.mp h)
  | cons e' es ih =>
    rw [insertEntry] at h
    split at h
    · exact (List.mem_cons.mp h).imp_right id
    · split at h
      · exact (List.mem_cons.mp h).imp_right (List.mem_cons_of_mem _)
      · rcases List.mem_cons.mp h with rfl | h
        · exact .inr List.mem_cons_self
        · exact (ih h).imp_right (List.mem_cons_of_mem _)

/-- Entries of other keys change nothing under a key. -/
theorem get?_foldl_insert {k : String} : ∀ (es : List (String × β)) (m : StringMap β),
    k ∉ es.map Prod.fst → (es.foldl (fun m e => m.insert e.1 e.2) m).get? k = m.get? k := by
  intro es
  induction es with
  | nil => exact fun _ _ => rfl
  | cons e es ih =>
    intro m hk
    rw [List.map_cons, List.mem_cons, not_or] at hk
    rw [List.foldl_cons, ih _ hk.2, get?_insert_of_ne m e.2 hk.1]

theorem get?_ofList_last {k : String} {v : β} {before after : List (String × β)}
    (h : k ∉ after.map Prod.fst) : (ofList (before ++ (k, v) :: after)).get? k = some v := by
  rw [ofList, List.foldl_append, List.foldl_cons, get?_foldl_insert _ _ h, get?_insert_self]

theorem get?_ofList_getElem {es : List (String × β)} {i : Nat} (hi : i < es.length)
    (h : ∀ j (hj : j < es.length), i < j → es[j].1 ≠ es[i].1) :
    (ofList es).get? es[i].1 = some es[i].2 := by
  have hlast : es[i].1 ∉ (es.drop (i + 1)).map Prod.fst := by
    intro hmem
    obtain ⟨e, he, hkey⟩ := List.mem_map.mp hmem
    obtain ⟨k, hk, rfl⟩ := List.getElem_of_mem he
    rw [List.getElem_drop] at hkey
    exact h _ _ (by omega) hkey
  have hsplit : es.take i ++ (es[i].1, es[i].2) :: es.drop (i + 1) = es :=
    (congrArg (es.take i ++ ·) (List.getElem_cons_drop hi)).trans (List.take_append_drop i es)
  calc (ofList es).get? es[i].1
      = (ofList (es.take i ++ (es[i].1, es[i].2) :: es.drop (i + 1))).get? es[i].1 := by rw [hsplit]
    _ = some es[i].2 := get?_ofList_last hlast

theorem get?_ofList_ofFn {n : Nat} {e : Fin n → String × β} {i : Fin n}
    (h : ∀ j, i < j → (e j).1 ≠ (e i).1) : (ofList (List.ofFn e)).get? (e i).1 = some (e i).2 := by
  have hi : i.val < (List.ofFn e).length := by
    rw [List.length_ofFn]
    exact i.isLt
  have hget := get?_ofList_getElem hi fun j hj hij => by
    rw [List.length_ofFn] at hj
    rw [List.getElem_ofFn, List.getElem_ofFn]
    exact h ⟨j, hj⟩ hij
  rwa [List.getElem_ofFn] at hget

/-- What is found under a key is one of its entries. -/
theorem mem_of_get?_foldl_insert {k : String} {v : β} :
    ∀ (es : List (String × β)) (m : StringMap β),
      (es.foldl (fun m e => m.insert e.1 e.2) m).get? k = some v →
        m.get? k = some v ∨ (k, v) ∈ es := by
  intro es
  induction es with
  | nil => exact fun _ h => Or.inl h
  | cons e es ih =>
    intro m h
    rcases ih _ h with hm | hes
    · rw [get?_insert] at hm
      split at hm
      · rename_i hk
        cases hm
        exact Or.inr (by simp [hk])
      · exact Or.inl hm
    · exact Or.inr (List.mem_cons_of_mem e hes)

theorem mem_of_get?_ofList {k : String} {v : β} {es : List (String × β)}
    (h : (ofList es).get? k = some v) : (k, v) ∈ es :=
  (mem_of_get?_foldl_insert es empty h).resolve_left (by simp)

/-- Every key of the entries is a key of the map. -/
theorem exists_get?_ofList {k : String} {es : List (String × β)} (h : k ∈ es.map Prod.fst) :
    ∃ v, (ofList es).get? k = some v := by
  induction es using List.reverseRecOn with
  | nil => simp at h
  | append_singleton es e ih =>
    rw [ofList, List.foldl_append, List.foldl_cons, List.foldl_nil, get?_insert]
    split
    · exact ⟨e.2, rfl⟩
    · rename_i hk
      refine ih ?_
      simpa [hk] using h

theorem exists_get?_ofList_iff {k : String} {es : List (String × β)} :
    (∃ v, (ofList es).get? k = some v) ↔ k ∈ es.map Prod.fst := by
  constructor
  · rintro ⟨v, hv⟩
    exact List.mem_map.mpr ⟨(k, v), mem_of_get?_ofList hv, rfl⟩
  · exact exists_get?_ofList

/-- A key beyond all others comes last. -/
theorem insertEntry_of_forall_lt {k : String} {v : β} {es : List (String × β)}
    (h : ∀ e ∈ es, e.1 < k) : insertEntry k v es = es ++ [(k, v)] := by
  induction es with
  | nil => rfl
  | cons e es ih =>
    have hlt : e.1 < k := h e (by simp)
    have hnlt : ¬k < e.1 := fun hgt => String.lt_irrefl k (String.lt_trans hgt hlt)
    have hne : k ≠ e.1 := by
      rintro rfl
      exact String.lt_irrefl _ hlt
    rw [insertEntry, if_neg hnlt, if_neg hne, ih fun e he => h e (by simp [he]), List.cons_append]

/-- Entries that stand in the order of their keys stay as they are. -/
theorem toList_ofList {es : List (String × β)} (h : SortedEntries es) :
    (ofList es).toList = es := by
  induction es using List.reverseRecOn with
  | nil => rfl
  | append_singleton es e ih =>
    rw [SortedEntries, List.map_append, List.pairwise_append] at h
    obtain ⟨hes, -, hlast⟩ := h
    have hlt : ∀ e' ∈ es, e'.1 < e.1 := fun e' he' =>
      hlast e'.1 (List.mem_map_of_mem he') e.1 (by simp)
    rw [ofList, List.foldl_append]
    exact (congrArg (insertEntry e.1 e.2) (ih hes)).trans (insertEntry_of_forall_lt hlt)

/-! ## Lookups and entries -/

/-- No key stands twice. -/
theorem nodup_keys (m : StringMap β) : m.keys.Nodup := by
  refine List.Pairwise.imp ?_ m.sorted
  rintro a b hlt rfl
  exact String.lt_irrefl a hlt

theorem lookupEntry_eq_some_iff {k : String} {v : β} : ∀ {es : List (String × β)},
    (es.map Prod.fst).Nodup → (lookupEntry k es = some v ↔ (k, v) ∈ es) := by
  intro es
  induction es with
  | nil => simp [lookupEntry]
  | cons e es ih =>
    obtain ⟨k', w⟩ := e
    intro hnodup
    obtain ⟨hnew, hrest⟩ := List.nodup_cons.mp hnodup
    rw [lookupEntry, List.mem_cons, Prod.mk.injEq]
    split
    · rename_i hk
      subst hk
      -- the key stands here, so it does not stand among the rest
      have hnone : (k, v) ∉ es := fun hmem => hnew (List.mem_map.mpr ⟨(k, v), hmem, rfl⟩)
      simp [hnone, eq_comm]
    · rename_i hk
      simp [hk, ih hrest]

theorem get?_eq_some_iff {m : StringMap β} {k : String} {v : β} :
    m.get? k = some v ↔ (k, v) ∈ m.entries :=
  lookupEntry_eq_some_iff m.nodup_keys

theorem mem_keys_iff {m : StringMap β} {k : String} : k ∈ m.keys ↔ (m.get? k).isSome = true := by
  rw [keys, List.mem_map, Option.isSome_iff_exists]
  constructor
  · rintro ⟨⟨k, v⟩, hmem, rfl⟩
    exact ⟨v, get?_eq_some_iff.mpr hmem⟩
  · rintro ⟨v, hv⟩
    exact ⟨(k, v), get?_eq_some_iff.mp hv, rfl⟩

/-- The keys stand in their order, so that they are known by their members. -/
theorem keys_eq_of_mem_iff {m : StringMap β} {m' : StringMap γ}
    (h : ∀ k, k ∈ m.keys ↔ k ∈ m'.keys) : m.keys = m'.keys :=
  ((List.perm_ext_iff_of_nodup m.nodup_keys m'.nodup_keys).mpr h).eq_of_pairwise
    (fun _ _ _ _ hlt hgt => absurd (String.lt_trans hlt hgt) (String.lt_irrefl _))
    m.sorted m'.sorted

theorem mem_keys_ofList {es : List (String × β)} {k : String} :
    k ∈ (ofList es).keys ↔ k ∈ es.map Prod.fst := by
  rw [mem_keys_iff, Option.isSome_iff_exists, exists_get?_ofList_iff]

/-- What stands before an entry are those of smaller keys. -/
theorem exists_split_iff {m : StringMap β} {k : String} {v : β} {p : String → β → Prop} :
    (∃ before after, m.entries = before ++ (k, v) :: after ∧ ∀ e ∈ before, p e.1 e.2) ↔
      m.get? k = some v ∧ ∀ k' v', m.get? k' = some v' → k' < k → p k' v' := by
  have hsorted : m.entries.Pairwise (·.1 < ·.1) :=
    List.pairwise_map.mp (show (m.entries.map Prod.fst).Pairwise (· < ·) from m.sorted)
  simp only [get?_eq_some_iff]
  constructor
  · rintro ⟨before, after, heq, hbefore⟩
    rw [heq] at hsorted ⊢
    obtain ⟨-, hrest, -⟩ := List.pairwise_append.mp hsorted
    refine ⟨by simp, fun k' v' hmem hlt => ?_⟩
    rcases List.mem_append.mp hmem with hmem | hmem
    · exact hbefore (k', v') hmem
    · rcases List.mem_cons.mp hmem with heq | hmem
      · cases heq
        exact absurd hlt (String.lt_irrefl _)
      · have hgt : k < k' := List.rel_of_pairwise_cons hrest hmem
        exact absurd (String.lt_trans hlt hgt) (String.lt_irrefl _)
  · rintro ⟨hmem, hsmaller⟩
    obtain ⟨before, after, heq⟩ := List.append_of_mem hmem
    rw [heq] at hsorted hsmaller
    obtain ⟨-, -, hbefore⟩ := List.pairwise_append.mp hsorted
    exact ⟨before, after, heq, fun e he => hsmaller e.1 e.2 (List.mem_append_left _ he)
      (hbefore e he (k, v) List.mem_cons_self)⟩

/-! ## Entries in another order -/

/-- Entries stand in the order of their keys. -/
theorem eq_of_perm {m m' : StringMap β} (h : m.entries.Perm m'.entries) : m = m' := by
  have hsorted : ∀ m : StringMap β, m.entries.Pairwise (·.1 < ·.1) := fun m =>
    List.pairwise_map.mp (show (m.entries.map Prod.fst).Pairwise (· < ·) from m.sorted)
  have heq : m.entries = m'.entries := h.eq_of_pairwise
    (fun _ _ _ _ hlt hgt => absurd (String.lt_trans hlt hgt) (String.lt_irrefl _))
    (hsorted m) (hsorted m')
  cases m
  cases m'
  cases heq
  rfl

theorem entries_ofList_perm {es : List (String × β)} (h : (es.map Prod.fst).Nodup) :
    (ofList es).entries.Perm es := by
  refine (List.perm_ext_iff_of_nodup (List.Nodup.of_map _ (nodup_keys _)) (List.Nodup.of_map _ h)).mpr
    fun e => ?_
  rw [← get?_eq_some_iff]
  refine ⟨mem_of_get?_ofList, fun he => ?_⟩
  obtain ⟨v, hv⟩ := exists_get?_ofList (List.mem_map_of_mem he)
  have hsame : some v = some e.2 :=
    ((lookupEntry_eq_some_iff h).mpr (mem_of_get?_ofList hv)).symm.trans
      ((lookupEntry_eq_some_iff h).mpr he)
  rw [hv, hsame]

/-- The entries of a map, in whichever order, make up the map. -/
theorem ofList_eq_of_perm {m : StringMap β} {es : List (String × β)} (h : es.Perm m.entries) :
    ofList es = m :=
  eq_of_perm ((entries_ofList_perm ((h.map Prod.fst).nodup_iff.mpr m.nodup_keys)).trans h)

/-! ## Some of the entries -/

theorem lookupEntry_filter {k k' : String} (h : k ≠ k') (es : List (String × β)) :
    lookupEntry k (es.filter fun e => e.1 ≠ k') = lookupEntry k es := by
  induction es with
  | nil => rfl
  | cons e es ih =>
    by_cases he : e.1 = k'
    · rw [List.filter_cons_of_neg (by simpa using he), ih, lookupEntry, if_neg (by rwa [he])]
    · rw [List.filter_cons_of_pos (by simpa using he), lookupEntry, lookupEntry, ih]

/-! ## Other values under the same keys -/

theorem lookupEntry_map (f : String → β → γ) (k : String) (es : List (String × β)) :
    lookupEntry k (es.map fun e => (e.1, f e.1 e.2)) = (lookupEntry k es).map (f k) := by
  induction es with
  | nil => rfl
  | cons e es ih =>
    rw [List.map_cons, lookupEntry, lookupEntry, ih]
    split
    · rename_i hk
      rw [hk, Option.map_some]
    · rfl

@[simp] theorem get?_mapWithKey (f : String → β → γ) (m : StringMap β) (k : String) :
    (m.mapWithKey f).get? k = (m.get? k).map (f k) :=
  lookupEntry_map f k m.entries

@[simp] theorem keys_mapWithKey (f : String → β → γ) (m : StringMap β) :
    (m.mapWithKey f).keys = m.keys := by
  rw [keys, mapWithKey, List.map_map]
  rfl

end SwitchTestbed.StringMap
