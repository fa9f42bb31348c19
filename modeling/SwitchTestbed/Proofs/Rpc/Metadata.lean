import SwitchTestbed.Rpc.Metadata

/-!
# Lines of a name

* `Metadata.values` : the values of all lines of a name, in order;
* `Metadata.contains_eq_false_iff`, `Metadata.get?_eq_head?` : what is looked up is told from them;
* `Metadata.values_filter`, `Metadata.values_insertNew`, `Metadata.values_foldl_insertNew`,
  `Metadata.values_withoutConnection` : what the operations do to them;
* `Metadata.prefix_foldl_insertNew`, `Metadata.foldl_insertNew_of_contains` : new lines come last,
  and once only.
-/

namespace SwitchTestbed.Rpc.Metadata

variable (m : Metadata) (name : String)

def values : List String := (m.filter fun line => line.1 = name).map Prod.snd

theorem values_append (m' : Metadata) :
    values (m ++ m') name = m.values name ++ m'.values name := by
  simp [values]

theorem values_concat_self (value : String) :
    values (m ++ [(name, value)]) name = m.values name ++ [value] := by
  simp [values]

theorem values_concat_of_ne {other : String} (value : String) (h : other ≠ name) :
    values (m ++ [(name, value)]) other = m.values other := by
  simp [values, h.symm]

theorem values_map (vs : List String) : values (vs.map (name, ·)) name = vs := by
  induction vs with
  | nil => rfl
  | cons v vs ih => simpa [values] using ih

theorem contains_eq_false_iff : m.contains name = false ↔ m.values name = [] := by
  simp [contains, values]

theorem get?_eq_head? : m.get? name = (m.values name).head? := by
  rw [get?, values, List.head?_map, List.head?_filter]

theorem values_filter (keep : String → Bool) :
    values (m.filter fun line => keep line.1) name = if keep name then m.values name else [] := by
  have hcommon : ∀ line : String × String,
      (decide (line.1 = name) && keep line.1) = (keep name && decide (line.1 = name)) := by
    intro line
    by_cases hline : line.1 = name
    · simp [hline]
    · simp [hline]
  rw [values, List.filter_filter, funext hcommon]
  cases keep name with
  | true => simp [values]
  | false => simp

theorem values_insertNew (key value : String) : (m.insertNew key value).values name =
    m.values name ++ if key = name ∧ m.values name = [] then [value] else [] := by
  cases hkey : m.contains key with
  | true =>
    have hvalues : ¬(key = name ∧ m.values name = []) := by
      rintro ⟨rfl, hnil⟩
      rw [(contains_eq_false_iff m key).mpr hnil] at hkey
      cases hkey
    rw [insertNew, hkey, if_pos rfl, if_neg hvalues, List.append_nil]
  | false =>
    rw [insertNew, hkey, if_neg (by decide), values_append]
    congr 1
    by_cases hname : key = name
    · have hnil : m.values name = [] := hname ▸ (contains_eq_false_iff m key).mp hkey
      rw [if_pos ⟨hname, hnil⟩]
      simp [values, hname]
    · rw [if_neg fun h => hname h.1]
      simp [values, hname]

/-- Of lines that are added one after the other the first of a name counts, if there was none. -/
theorem values_foldl_insertNew (lines : Metadata) :
    values (lines.foldl (fun m line => m.insertNew line.1 line.2) m) name =
      if m.values name = [] then (lines.get? name).toList else m.values name := by
  induction lines generalizing m with
  | nil => by_cases hnil : m.values name = [] <;> simp [hnil, get?]
  | cons line lines ih =>
    rw [List.foldl_cons, ih, values_insertNew]
    by_cases hline : line.1 = name
    · by_cases hnil : m.values name = [] <;> simp [hline, hnil, get?]
    · simp [hline, get?]

theorem contains_append (m' : Metadata) :
    contains (m ++ m') name = (m.contains name || contains m' name) :=
  List.any_append

theorem prefix_insertNew (key value : String) : m <+: m.insertNew key value := by
  unfold insertNew
  split
  · exact List.prefix_rfl
  · exact List.prefix_append _ _

theorem contains_insertNew (key value : String) : (m.insertNew key value).contains key = true := by
  unfold insertNew
  split
  · assumption
  · simp [contains]

theorem contains_of_prefix {m m' : Metadata} {name : String} (h : m <+: m')
    (hm : m.contains name = true) : m'.contains name = true := by
  obtain ⟨rest, rfl⟩ := h
  rw [contains_append, hm, Bool.true_or]

theorem prefix_foldl_insertNew (lines : Metadata) :
    m <+: lines.foldl (fun (m : Metadata) line => m.insertNew line.1 line.2) m := by
  induction lines generalizing m with
  | nil => exact List.prefix_rfl
  | cons line lines ih => exact (m.prefix_insertNew line.1 line.2).trans (ih _)

theorem contains_foldl_insertNew {lines : Metadata} {line : String × String} (h : line ∈ lines) :
    contains (lines.foldl (fun (m : Metadata) line => m.insertNew line.1 line.2) m) line.1 =
      true := by
  induction lines generalizing m with
  | nil => cases h
  | cons line' lines ih =>
    rw [List.foldl_cons]
    rcases List.mem_cons.mp h with rfl | h
    · exact contains_of_prefix (prefix_foldl_insertNew _ lines) (m.contains_insertNew _ _)
    · exact ih _ h

/-- Lines whose names are there already change nothing. -/
theorem foldl_insertNew_of_contains {lines : Metadata}
    (h : ∀ line ∈ lines, m.contains line.1 = true) :
    lines.foldl (fun m line => m.insertNew line.1 line.2) m = m := by
  induction lines with
  | nil => rfl
  | cons line lines ih =>
    have hline : m.insertNew line.1 line.2 = m := if_pos (h line List.mem_cons_self)
    rw [List.foldl_cons, hline]
    exact ih fun line hmem => h line (List.mem_cons_of_mem _ hmem)

/-! ## Connections -/

theorem connectionNames_congr {m m' : Metadata}
    (h : m.values connectionHeader = m'.values connectionHeader) :
    m.connectionNames = m'.connectionNames := by
  rw [connectionNames, connectionNames, get?_eq_head?, get?_eq_head?, h]

theorem values_withoutConnection : m.withoutConnection.values name =
    if !connectionHeaders.contains name && !m.connectionNames.contains name then m.values name
    else [] :=
  m.values_filter name fun key =>
    !connectionHeaders.contains key && !m.connectionNames.contains key

end SwitchTestbed.Rpc.Metadata
