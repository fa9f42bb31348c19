import SwitchTestbed.Placement.Assignment

/-!
# The search for devices

* `Choice` : a candidate for each row of an order, on devices that differ from one another and from
  those taken (`choice_cons_iff`);
* `NotAfter` : the lexicographic order; `FirstChoice` : the choice that no other one is before;
* `Selected` : what a search leaves behind, whether it succeeds or not;
* `selectFrom_spec`, `select_spec` : the search finds the first choice if there is one, and else
  puts every device back.
-/

namespace SwitchTestbed.Placement

/-! ## Choices -/

/-- The candidate of a row of a table at a position. -/
def candidateAt? (table : List (List Candidate)) (row position : Nat) : Option Candidate :=
  (table.getD row [])[position]?

/-- A candidate of each row, by its position. Their devices differ from one another and from those
taken. -/
structure Choice (table : List (List Candidate)) (order taken : List Nat) (f : Nat → Nat) :
    Prop where
  free : ∀ r ∈ order, ∃ c, candidateAt? table r (f r) = some c ∧ c.device ∉ taken
  distinct : ∀ r ∈ order, ∀ r' ∈ order, ∀ c c', candidateAt? table r (f r) = some c →
    candidateAt? table r' (f r') = some c' → c.device = c'.device → r = r'

section Choices

variable {table : List (List Candidate)} {order rest taken : List Nat} {row : Nat} {f : Nat → Nat}

theorem choice_nil : Choice table [] taken f where
  free := fun _ hr => by cases hr
  distinct := fun _ hr => by cases hr

/-- The device of the first row is taken for the other rows. -/
theorem choice_cons_iff (hrow : row ∉ rest) : Choice table (row :: rest) taken f ↔
    ∃ c, candidateAt? table row (f row) = some c ∧ c.device ∉ taken ∧
      Choice table rest (c.device :: taken) f := by
  constructor
  · rintro ⟨hfree, hdistinct⟩
    obtain ⟨c, hc, hc'⟩ := hfree row (by simp)
    refine ⟨c, hc, hc', ⟨fun r hr => ?_, fun r hr r' hr' => ?_⟩⟩
    · obtain ⟨e, he, he'⟩ := hfree r (by simp [hr])
      refine ⟨e, he, ?_⟩
      rw [List.mem_cons, not_or]
      refine ⟨fun hec => hrow ?_, he'⟩
      have heq : row = r := hdistinct row (by simp) r (by simp [hr]) c e hc he hec.symm
      exact heq ▸ hr
    · exact hdistinct r (by simp [hr]) r' (by simp [hr'])
  · rintro ⟨c, hc, hc', hfree, hdistinct⟩
    -- a device of another row is not the one taken for this row
    have hother : ∀ r ∈ rest, ∀ e, candidateAt? table r (f r) = some e → e.device ≠ c.device := by
      intro r hr e he hec
      obtain ⟨e', he', hfree'⟩ := hfree r hr
      rw [he] at he'
      cases he'
      exact hfree' (by simp [hec])
    constructor
    · intro r hr
      rcases List.mem_cons.mp hr with rfl | hr
      · exact ⟨c, hc, hc'⟩
      · obtain ⟨e, he, he'⟩ := hfree r hr
        exact ⟨e, he, fun hmem => he' (by simp [hmem])⟩
    · intro r hr r' hr' e e' he he' hee
      rcases List.mem_cons.mp hr with rfl | hrest
      · rw [hc] at he
        cases he
        rcases List.mem_cons.mp hr' with rfl | hrest'
        · rfl
        · exact absurd hee.symm (hother r' hrest' e' he')
      · rcases List.mem_cons.mp hr' with rfl | hrest'
        · rw [hc] at he'
          cases he'
          exact absurd hee (hother r hrest e he)
        · exact hdistinct r hrest r' hrest' e e' he he' hee

end Choices

/-! ## The first choice -/

/-- The first list is the second one or before it in the lexicographic order. -/
def NotAfter (ps qs : List Nat) : Prop := ps = qs ∨ List.Lex (· < ·) ps qs

theorem notAfter_cons_iff {p q : Nat} {ps qs : List Nat} :
    NotAfter (p :: ps) (q :: qs) ↔ p < q ∨ p = q ∧ NotAfter ps qs := by
  rw [NotAfter, List.cons_lex_cons_iff, List.cons.injEq]
  constructor
  · rintro (⟨rfl, rfl⟩ | hlt | ⟨rfl, h⟩)
    · exact .inr ⟨rfl, .inl rfl⟩
    · exact .inl hlt
    · exact .inr ⟨rfl, .inr h⟩
  · rintro (hlt | ⟨rfl, rfl | h⟩)
    · exact .inr (.inl hlt)
    · exact .inl ⟨rfl, rfl⟩
    · exact .inr (.inr ⟨rfl, h⟩)

/-- A choice that is not after any other one when rows are compared in their order. -/
structure FirstChoice (table : List (List Candidate)) (order taken : List Nat) (f : Nat → Nat) :
    Prop where
  choice : Choice table order taken f
  least : ∀ g, Choice table order taken g → NotAfter (order.map f) (order.map g)

/-! ## What a search leaves behind -/

/-- A search that succeeds has the first choice. One that does not has put every device back, and
there is no choice. Rows that it was not asked for keep what was chosen for them. -/
structure Selected (table : List (List Candidate)) (order : List Nat) (s : Selection)
    (r : Bool × Selection) : Prop where
  length : r.2.chosen.length = s.chosen.length
  outside : ∀ row, row ∉ order → r.2.position row = s.position row
  found : r.1 = true → FirstChoice table order s.taken r.2.position
  lost : r.1 = false → r.2.taken = s.taken ∧ ∀ f, ¬Choice table order s.taken f

section Search

variable {table : List (List Candidate)} {rest order : List Nat} {s : Selection}
  {next : Selection → Bool × Selection} {row position : Nat} {c : Candidate}

theorem position_take_self (h : row < s.chosen.length) (device : Nat) :
    (s.take row position device).position row = position := by
  simp [Selection.take, Selection.position, h]

theorem position_take_of_ne {other : Nat} (h : other ≠ row) (device : Nat) :
    (s.take row position device).position other = s.position other := by
  simp [Selection.take, Selection.position, List.getD_eq_getElem?_getD, List.getElem?_set_ne h.symm]

theorem length_take (device : Nat) :
    (s.take row position device).chosen.length = s.chosen.length := List.length_set

/-- A search that starts where another one has ended without a trace outside its rows. -/
theorem Selected.trans {s' : Selection} {r : Bool × Selection} (htaken : s'.taken = s.taken)
    (hlength : s'.chosen.length = s.chosen.length)
    (houtside : ∀ row, row ∉ order → s'.position row = s.position row)
    (h : Selected table order s' r) : Selected table order s r where
  length := h.length.trans hlength
  outside := fun row hrow => (h.outside row hrow).trans (houtside row hrow)
  found := htaken ▸ h.found
  lost := htaken ▸ h.lost

/-- The other rows find their devices beside this candidate, and no choice has an earlier one. -/
theorem Selected.of_found {s' : Selection} (hrow : row ∉ rest) (hlt : row < s.chosen.length)
    (hc : candidateAt? table row position = some c) (hfree : c.device ∉ s.taken)
    (hbefore : ∀ f, Choice table (row :: rest) s.taken f → position ≤ f row)
    (h : Selected table rest (s.take row position c.device) (true, s')) :
    Selected table (row :: rest) s (true, s') := by
  have hfirst : FirstChoice table rest (c.device :: s.taken) s'.position := h.found rfl
  have hposition : s'.position row = position :=
    (h.outside row hrow).trans (position_take_self hlt c.device)
  refine ⟨h.length.trans (length_take c.device), fun r hr => ?_, fun _ => ⟨?_, fun g hg => ?_⟩,
    fun hfalse => by cases hfalse⟩
  · rw [List.mem_cons, not_or] at hr
    exact (h.outside r hr.2).trans (position_take_of_ne hr.1 c.device)
  · exact (choice_cons_iff hrow).mpr ⟨c, hposition.symm ▸ hc, hfree, hfirst.choice⟩
  · rw [List.map_cons, List.map_cons, hposition, notAfter_cons_iff]
    rcases Nat.eq_or_lt_of_le (hbefore g hg) with heq | hlt'
    · obtain ⟨e, he, -, hrest⟩ := (choice_cons_iff hrow).mp hg
      rw [← heq, hc] at he
      cases he
      exact .inr ⟨heq, hfirst.least g hrest⟩
    · exact .inl hlt'

/-- Candidates that are passed over are those that no choice has. -/
theorem selectFrom_spec (hrow : row ∉ rest) {n : Nat} (hlt : row < n)
    (hnext : ∀ s, s.chosen.length = n → Selected table rest s (next s)) :
    ∀ (cs : List Candidate) (position : Nat) (s : Selection), s.chosen.length = n →
      (∀ k, candidateAt? table row (position + k) = cs[k]?) →
      (∀ f, Choice table (row :: rest) s.taken f → position ≤ f row) →
      Selected table (row :: rest) s (selectFrom next row position cs s) := by
  intro cs
  induction cs with
  | nil =>
    intro position s _ hcs hbefore
    refine ⟨rfl, fun _ _ => rfl, fun h => absurd h Bool.false_ne_true,
      fun _ => ⟨rfl, fun f hf => ?_⟩⟩
    obtain ⟨c, hc, -⟩ := hf.free row (by simp)
    have hnone := hcs (f row - position)
    rw [Nat.add_sub_cancel' (hbefore f hf), hc] at hnone
    cases hnone
  | cons c cs ih =>
    intro position s hlength hcs hbefore
    have hc : candidateAt? table row position = some c := hcs 0
    have hcs' : ∀ k, candidateAt? table row (position + 1 + k) = cs[k]? := fun k => by
      rw [Nat.add_right_comm, Nat.add_assoc, hcs, List.getElem?_cons_succ]
    -- after the candidate, a choice can only have a later one
    have hlater : ¬(∃ f, Choice table (row :: rest) s.taken f ∧ f row = position) →
        ∀ f, Choice table (row :: rest) s.taken f → position + 1 ≤ f row := fun hnone f hf =>
      Nat.lt_of_le_of_ne (hbefore f hf) fun heq => hnone ⟨f, hf, heq.symm⟩
    rw [selectFrom]
    by_cases hfree : c.device ∈ s.taken
    · rw [if_pos (by simpa using hfree)]
      refine ih (position + 1) s hlength hcs' (hlater ?_)
      rintro ⟨f, hf, rfl⟩
      obtain ⟨e, he, hefree, -⟩ := (choice_cons_iff hrow).mp hf
      rw [hc] at he
      cases he
      exact hefree hfree
    · rw [if_neg (by simpa using hfree)]
      have hlength' : (s.take row position c.device).chosen.length = n :=
        (length_take c.device).trans hlength
      have hselected := hnext (s.take row position c.device) hlength'
      cases hanswer : next (s.take row position c.device) with
      | mk ok s' =>
        rw [hanswer] at hselected
        cases ok with
        | true => exact .of_found hrow (hlength ▸ hlt) hc hfree hbefore hselected
        | false =>
          obtain ⟨htaken, hnone⟩ := hselected.lost rfl
          have hback : (s'.putBack c.device).taken = s.taken := by
            rw [Selection.putBack, htaken]
            exact List.erase_cons_head c.device s.taken
          have hlength'' : (s'.putBack c.device).chosen.length = n :=
            hselected.length.trans hlength'
          refine .trans hback (hlength''.trans hlength.symm) (fun r hr => ?_)
            (ih (position + 1) (s'.putBack c.device) hlength'' hcs' (hback ▸ hlater ?_))
          · rw [List.mem_cons, not_or] at hr
            exact (hselected.outside r hr.2).trans (position_take_of_ne hr.1 c.device)
          · rintro ⟨f, hf, rfl⟩
            obtain ⟨e, he, -, hrest⟩ := (choice_cons_iff hrow).mp hf
            rw [hc] at he
            cases he
            exact hnone f hrest

/-- **A search finds the first choice if there is one**, and leaves the devices taken as they were
if there is none. -/
theorem select_spec (table : List (List Candidate)) : ∀ (order : List Nat) (s : Selection),
    order.Nodup → (∀ r ∈ order, r < s.chosen.length) →
      Selected table order s (select table order s) := by
  intro order
  induction order with
  | nil =>
    intro s _ _
    exact ⟨rfl, fun _ _ => rfl, fun _ => ⟨choice_nil, fun _ _ => .inl rfl⟩, fun h => by cases h⟩
  | cons row rest ih =>
    intro s hnodup hlt
    rw [List.nodup_cons] at hnodup
    refine selectFrom_spec hnodup.1 (hlt row (by simp)) (fun s' hs' => ?_) (table.getD row []) 0 s
      rfl (fun k => ?_) fun _ _ => Nat.zero_le _
    · exact ih s' hnodup.2 fun r hr => hs' ▸ hlt r (by simp [hr])
    · rw [Nat.zero_add, candidateAt?]

end Search

end SwitchTestbed.Placement
