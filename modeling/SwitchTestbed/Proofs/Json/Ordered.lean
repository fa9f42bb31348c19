import SwitchTestbed.Proofs.Json.Document
import SwitchTestbed.Proofs.StringMap

/-!
# Documents that have been read

* `Doc.asRead_seq`, `Doc.asRead_map` : a sequence, and a map in the order of its names, are read as
  themselves if their parts are;
* `asRead_of_parse` : a document that has been read is read as itself.
-/

namespace SwitchTestbed

/-! ## Documents in order -/

namespace Doc

theorem elementsAsRead_eq_map (es : List Doc) : elementsAsRead es = es.map asRead := by
  induction es with
  | nil => rw [elementsAsRead, List.map_nil]
  | cons d es ih => rw [elementsAsRead, ih, List.map_cons]

theorem asRead_seq {es : List Doc} (h : ∀ d ∈ es, d.asRead = d) : (seq es).asRead = seq es := by
  rw [asRead, elementsAsRead_eq_map, List.map_congr_left h, List.map_id']

/-- Members in the order of their names, each of which is read as itself. -/
structure ReadMembers (ms : List (String × Doc)) : Prop where
  sorted : SortedEntries ms
  values : ∀ m ∈ ms, m.2.asRead = m.2

theorem membersAsRead_eq_foldl (ms : List (String × Doc)) : ∀ acc, membersAsRead acc ms =
    ms.foldl (fun acc m => insertEntry m.1 m.2.asRead acc) acc := by
  induction ms with
  | nil => exact fun acc => by rw [membersAsRead, List.foldl_nil]
  | cons m ms ih => exact fun acc => by rw [membersAsRead, ih, List.foldl_cons]

/-- Members are read as the map that they make up. -/
theorem membersAsRead_eq_entries (ms : List (String × Doc)) :
    membersAsRead [] ms = (StringMap.ofList (ms.map fun m => (m.1, m.2.asRead))).entries := by
  rw [membersAsRead_eq_foldl, StringMap.entries_ofList, List.foldl_map]

theorem asRead_map {ms : List (String × Doc)} (h : ReadMembers ms) : (map ms).asRead = map ms := by
  have hvalues : ms.map (fun m => (m.1, m.2.asRead)) = ms :=
    (List.map_congr_left fun m hm => by rw [h.values m hm]).trans (List.map_id' ms)
  rw [asRead, membersAsRead_eq_entries, hvalues]
  exact congrArg map (StringMap.toList_ofList h.sorted)

theorem ReadMembers.nil : ReadMembers [] := ⟨List.Pairwise.nil, by simp⟩

theorem ReadMembers.insert {k : String} {d : Doc} {ms : List (String × Doc)} (h : ReadMembers ms)
    (hd : d.asRead = d) : ReadMembers (insertEntry k d ms) where
  sorted := sortedEntries_insertEntry k d h.sorted
  values m hm := by
    rcases StringMap.mem_insertEntry hm with rfl | hm
    · exact hd
    · exact h.values m hm

end Doc

namespace Json

/-! ## What is read -/

theorem exists_of_bind_eq_ok {ε α β : Type} {x : Except ε α} {f : α → Except ε β} {b : β}
    (h : (x >>= f) = .ok b) : ∃ a, x = .ok a ∧ f a = .ok b := by
  cases x with
  | error e => cases h
  | ok a => exact ⟨a, rfl, h⟩

/-- A numeral stands for a number. -/
theorem asRead_of_value {n : Numeral} {d : Doc} (h : n.value = .ok d) : d.asRead = d := by
  simp only [Numeral.value] at h
  split at h
  · split at h
    · cases h
      rw [Doc.asRead]
    · split at h
      · cases h
        rw [Doc.asRead]
      · obtain ⟨x, -, hx⟩ := exists_of_bind_eq_ok h
        cases hx
        rw [Doc.asRead]
  · obtain ⟨x, -, hx⟩ := exists_of_bind_eq_ok h
    cases hx
    rw [Doc.asRead]

theorem asRead_of_letters {d d' : Doc} {letters s r : List UInt8} (hd : d.asRead = d)
    (h : (readLetters letters s >>= fun rest => .ok (d, rest)) = .ok (d', r)) :
    d'.asRead = d' := by
  obtain ⟨_, -, heq⟩ := exists_of_bind_eq_ok h
  cases heq
  exact hd

theorem asRead_of_scan {d : Doc} {negative : Bool} {s r : List UInt8}
    (h : (Numeral.scan negative s >>= fun n => n.1.value >>= fun v => .ok (v, n.2)) = .ok (d, r)) :
    d.asRead = d := by
  obtain ⟨_, -, hn⟩ := exists_of_bind_eq_ok h
  obtain ⟨d, hvalue, heq⟩ := exists_of_bind_eq_ok hn
  cases heq
  exact asRead_of_value hvalue

/-- What each reader gives within some steps is read as itself. -/
structure GivesRead (fuel : Nat) : Prop where
  value : ∀ {depth s d r}, readValue fuel depth s = .ok (d, r) → d.asRead = d
  elements : ∀ {depth first acc s es r}, (∀ d ∈ acc, d.asRead = d) →
    readElements fuel depth first acc s = .ok (es, r) → ∀ d ∈ es, d.asRead = d
  members : ∀ {depth first acc s ms r}, Doc.ReadMembers acc →
    readMembers fuel depth first acc s = .ok (ms, r) → Doc.ReadMembers ms
  member : ∀ {depth acc s ms r}, Doc.ReadMembers acc →
    readMember fuel depth acc s = .ok (ms, r) → Doc.ReadMembers ms

theorem givesRead_zero : GivesRead 0 where
  value h := by
    rw [readValue] at h
    cases h
  elements _ h := by
    rw [readElements] at h
    cases h
  members _ h := by
    rw [readMembers] at h
    cases h
  member _ h := by
    rw [readMember] at h
    cases h

section Step

variable {fuel depth : Nat} {s r : List UInt8} (ih : GivesRead fuel)

include ih

theorem asRead_of_readValue {d : Doc} (h : readValue (fuel + 1) depth s = .ok (d, r)) :
    d.asRead = d := by
  rw [readValue] at h
  split at h
  · cases h
  -- `null`, `true`, `false`
  iterate 3
    split at h
    · exact asRead_of_letters (by rw [Doc.asRead]) h
  -- numbers, with and without a sign
  iterate 2
    split at h
    · exact asRead_of_scan h
  split at h
  · obtain ⟨_, -, hd⟩ := exists_of_bind_eq_ok h
    cases hd
    rw [Doc.asRead]
  split at h
  · split at h
    · cases h
    · obtain ⟨es, hes, hd⟩ := exists_of_bind_eq_ok h
      cases hd
      exact Doc.asRead_seq (ih.elements (by simp) hes)
  split at h
  · split at h
    · cases h
    · obtain ⟨ms, hms, hd⟩ := exists_of_bind_eq_ok h
      cases hd
      exact Doc.asRead_map (ih.members .nil hms)
  · cases h

theorem asRead_of_readElements {first : Bool} {acc es : List Doc} (hacc : ∀ d ∈ acc, d.asRead = d)
    (h : readElements (fuel + 1) depth first acc s = .ok (es, r)) : ∀ d ∈ es, d.asRead = d := by
  have hmore : ∀ {t}, (readValue fuel depth t >>= fun x =>
      readElements fuel depth false (x.1 :: acc) x.2) = .ok (es, r) → ∀ d ∈ es, d.asRead = d := by
    intro t h
    obtain ⟨x, hx, hes⟩ := exists_of_bind_eq_ok h
    exact ih.elements (List.forall_mem_cons.mpr ⟨ih.value hx, hacc⟩) hes
  rw [readElements] at h
  split at h
  · cases h
  split at h
  · cases h
    exact fun d hd => hacc d (List.mem_reverse.mp hd)
  split at h
  · exact hmore h
  split at h
  · split at h
    · cases h
    · cases h
    · exact hmore h
  · cases h

theorem readMembers_of_readMembers {first : Bool} {acc ms : List (String × Doc)}
    (hacc : Doc.ReadMembers acc) (h : readMembers (fuel + 1) depth first acc s = .ok (ms, r)) :
    Doc.ReadMembers ms := by
  rw [readMembers] at h
  split at h
  · cases h
  split at h
  · cases h
    exact hacc
  split at h
  · split at h
    · exact ih.member hacc h
    · cases h
  split at h
  · split at h
    · cases h
    split at h
    · exact ih.member hacc h
    · split at h <;> cases h
  · cases h

theorem readMembers_of_readMember {acc ms : List (String × Doc)} (hacc : Doc.ReadMembers acc)
    (h : readMember (fuel + 1) depth acc s = .ok (ms, r)) : Doc.ReadMembers ms := by
  rw [readMember] at h
  obtain ⟨k, -, h⟩ := exists_of_bind_eq_ok h
  obtain ⟨_, -, h⟩ := exists_of_bind_eq_ok h
  obtain ⟨d, hd, h⟩ := exists_of_bind_eq_ok h
  exact ih.members (hacc.insert (ih.value hd)) h

end Step

theorem givesRead (fuel : Nat) : GivesRead fuel := by
  induction fuel with
  | zero => exact givesRead_zero
  | succ fuel ih =>
    exact ⟨asRead_of_readValue ih, asRead_of_readElements ih, readMembers_of_readMembers ih,
      readMembers_of_readMember ih⟩

/-- **A document that has been read is read as itself.** -/
theorem asRead_of_parse {s : List UInt8} {d : Doc} (h : parse s = .ok d) : d.asRead = d := by
  obtain ⟨⟨d, rest⟩, hread, hend⟩ := exists_of_bind_eq_ok h
  dsimp only at hend
  split at hend
  · cases hend
    exact (givesRead _).value hread
  · cases hend

end Json

end SwitchTestbed
