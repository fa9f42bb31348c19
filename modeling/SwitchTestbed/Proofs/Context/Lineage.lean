import SwitchTestbed.Context.Family
import SwitchTestbed.Proofs.Context

/-!
# What contexts inherit

* `Origin`, `FamilyTree` : how each context of a family came about, and which ones were given up;
* `FamilyTree.lineage` : a context and all it derives from; `FamilyTree.deadlines` : the deadlines
  that these brought with them, where a default one counts only for want of any other;
* `Grown` : the families that come about by origins, by giving up and by waiting;
* `Describes` : a family has what its tree says; `Describes.add`, `Describes.cancel` : one step;
* `Lawful`, `contexts_follow_lineage` : the laws of deadlines and of giving up.
-/

namespace SwitchTestbed

/-- How a context came about: from nothing, or from another one by a deadline, which a default one
does not change if there is one already. -/
inductive Origin where
  | background
  | bounded (parent : Nat) (deadline : Instant)
  | defaulted (parent : Nat) (deadline : Instant)
  deriving DecidableEq

def Origin.parent? : Origin → Option Nat
  | background => none
  | bounded p _ => some p
  | defaulted p _ => some p

/-- The contexts derived so far, the latest first, and those given up. The number of a context is
that of the contexts before it. -/
structure FamilyTree where
  origins : List Origin := []
  givenUp : List Nat := []

/-! ## Lineages -/

/-- A context and those it derives from, itself first. -/
def lineOf : List Origin → Nat → List (Nat × Origin)
  | [], _ => []
  | x :: earlier, i =>
    if i = earlier.length then
      (i, x) :: (match x.parent? with
        | some p => lineOf earlier p
        | none => [])
    else lineOf earlier i

/-- The deadlines that the contexts of a line brought with them. -/
def deadlinesOf : List (Nat × Origin) → List Instant
  | [] => []
  | (_, .background) :: above => deadlinesOf above
  | (_, .bounded _ d) :: above => d :: deadlinesOf above
  | (_, .defaulted _ d) :: above => if deadlinesOf above = [] then [d] else deadlinesOf above

namespace FamilyTree

variable (t : FamilyTree)

def size : Nat := t.origins.length

def add (x : Origin) : FamilyTree := { t with origins := x :: t.origins }

def cancel (i : Nat) : FamilyTree := { t with givenUp := t.givenUp ++ [i] }

def line (i : Nat) : List (Nat × Origin) := lineOf t.origins i

/-- The numbers of a context and of those it derives from. -/
def lineage (i : Nat) : List Nat := (t.line i).map Prod.fst

def deadlines (i : Nat) : List Instant := deadlinesOf (t.line i)

def origin? (i : Nat) : Option Origin := (t.line i).head?.map Prod.snd

def parent? (i : Nat) : Option Nat := (t.origin? i).bind Origin.parent?

end FamilyTree

/-- Every context derives from earlier ones. -/
def Origin.Ordered : List Origin → Prop
  | [] => True
  | x :: earlier => (∀ p, x.parent? = some p → p < earlier.length) ∧ Origin.Ordered earlier

theorem lineOf_self (x : Origin) (earlier : List Origin) :
    lineOf (x :: earlier) earlier.length =
      (earlier.length, x) :: x.parent?.elim [] (lineOf earlier) := by
  rw [lineOf, if_pos rfl]
  cases x.parent? <;> rfl

theorem lineOf_of_ne {x : Origin} {earlier : List Origin} {i : Nat}
    (h : i ≠ earlier.length) : lineOf (x :: earlier) i = lineOf earlier i := by
  rw [lineOf, if_neg h]

theorem mem_lineOf : ∀ {xs : List Origin} {i : Nat} {e : Nat × Origin},
    e ∈ lineOf xs i → e.1 ≤ i ∧ i < xs.length := by
  intro xs
  induction xs with
  | nil => exact fun h => by cases h
  | cons x earlier ih =>
    intro i e h
    by_cases hi : i = earlier.length
    · subst hi
      refine ⟨?_, Nat.lt_succ_self _⟩
      rw [lineOf_self] at h
      rcases List.mem_cons.mp h with rfl | habove
      · exact Nat.le_refl _
      · cases hp : x.parent? with
        | none =>
          rw [hp] at habove
          cases habove
        | some p =>
          rw [hp] at habove
          obtain ⟨hle, hlt⟩ := ih habove
          omega
    · rw [lineOf_of_ne hi] at h
      obtain ⟨hle, hlt⟩ := ih h
      exact ⟨hle, Nat.lt_succ_of_lt hlt⟩

/-- The line of a context goes on with that of its parent, which is earlier. -/
theorem lineOf_eq_cons : ∀ {xs : List Origin} {i : Nat}, Origin.Ordered xs → i < xs.length →
    ∃ x, lineOf xs i = (i, x) :: x.parent?.elim [] (lineOf xs) ∧
      ∀ p, x.parent? = some p → p < i := by
  intro xs
  induction xs with
  | nil => exact fun _ hi => absurd hi (Nat.not_lt_zero _)
  | cons x earlier ih =>
    intro i hordered hi
    obtain ⟨hparent, hearlier⟩ := hordered
    -- what is derived later does not show in earlier lines
    have hlater : ∀ y : Origin, (∀ p, y.parent? = some p → p < earlier.length) →
        y.parent?.elim [] (lineOf earlier) = y.parent?.elim [] (lineOf (x :: earlier)) := by
      intro y hy
      cases hp : y.parent? with
      | none => rfl
      | some p => exact (lineOf_of_ne (Nat.ne_of_lt (hy p hp))).symm
    by_cases hlast : i = earlier.length
    · subst hlast
      exact ⟨x, by rw [lineOf_self, hlater x hparent], hparent⟩
    · have hlt : i < earlier.length := by
        rw [List.length_cons] at hi
        omega
      obtain ⟨y, hline, hy⟩ := ih hearlier hlt
      refine ⟨y, ?_, hy⟩
      rw [lineOf_of_ne hlast, hline, hlater y fun p hp => Nat.lt_trans (hy p hp) hlt]

namespace FamilyTree

variable {t : FamilyTree} {i : Nat}

theorem line_add_self (x : Origin) :
    (t.add x).line t.size = (t.size, x) :: x.parent?.elim [] t.line :=
  lineOf_self x t.origins

theorem line_add_of_lt (x : Origin) (h : i < t.size) : (t.add x).line i = t.line i :=
  lineOf_of_ne (Nat.ne_of_lt h)

theorem line_eq_cons (h : Origin.Ordered t.origins) (hi : i < t.size) :
    ∃ x, t.origin? i = some x ∧ t.line i = (i, x) :: x.parent?.elim [] t.line ∧
      ∀ p, x.parent? = some p → p < i := by
  obtain ⟨x, hline, hx⟩ := lineOf_eq_cons h hi
  have hline : t.line i = (i, x) :: x.parent?.elim [] t.line := hline
  exact ⟨x, by rw [origin?, hline]; rfl, hline, hx⟩

theorem le_of_mem_lineage {j : Nat} (h : j ∈ t.lineage i) : j ≤ i := by
  obtain ⟨e, he, rfl⟩ := List.mem_map.mp h
  exact (mem_lineOf he).1

theorem deadlines_kept {p : Nat} {d d' : Instant}
    (hline : t.line i = (i, .defaulted p d') :: t.line p) (hd : (t.deadlines p).min? = some d) :
    t.deadlines i = t.deadlines p := by
  have hsome : deadlinesOf (t.line p) ≠ [] := by
    intro hnil
    rw [deadlines, hnil] at hd
    cases hd
  rw [deadlines, hline, deadlinesOf, if_neg hsome]
  rfl

theorem deadlines_inherited {x : Origin} {p : Nat} {d : Instant}
    (hline : t.line i = (i, x) :: x.parent?.elim [] t.line) (hp : x.parent? = some p)
    (hd : (t.deadlines p).min? = some d) : ∃ d' ≤ d, (t.deadlines i).min? = some d' := by
  rw [hp, Option.elim_some] at hline
  cases x with
  | background => cases hp
  | bounded q e =>
    cases hp
    refine ⟨min e d, Nat.min_le_right e d, ?_⟩
    have hcons : t.deadlines i = e :: t.deadlines p := by
      rw [deadlines, hline]
      rfl
    rw [hcons, List.min?_cons, hd]
    rfl
  | defaulted q e =>
    cases hp
    rw [deadlines_kept hline hd]
    exact ⟨d, Nat.le_refl d, hd⟩

/-- No context derives from one that derives from it. -/
theorem not_mem_lineage_of_mem {j : Nat} (h : j ∈ t.lineage i) (hne : j ≠ i) : i ∉ t.lineage j := by
  intro hback
  have hji := le_of_mem_lineage h
  have hij := le_of_mem_lineage hback
  omega

/-- Contexts of one parent do not derive from one another. -/
theorem not_mem_lineage_of_sibling (h : Origin.Ordered t.origins) (hi : i < t.size) {k : Nat}
    (hk : k < t.size) (hne : k ≠ i) (hparent : t.parent? k = t.parent? i) : i ∉ t.lineage k := by
  obtain ⟨x, hx, -, hlt⟩ := line_eq_cons h hi
  obtain ⟨y, hy, hline, -⟩ := line_eq_cons h hk
  have hxy : y.parent? = x.parent? := by simpa [parent?, hx, hy] using hparent
  intro hmem
  rw [lineage, hline, hxy, List.map_cons, List.mem_cons] at hmem
  rcases hmem with rfl | hmem
  · exact hne rfl
  · cases hp : x.parent? with
    | none =>
      rw [hp] at hmem
      cases hmem
    | some p =>
      rw [hp] at hmem
      have hle : i ≤ p := le_of_mem_lineage hmem
      have hpi := hlt p hp
      omega

end FamilyTree

/-! ## Families -/

/-- The families that origins lead to, some of whose members are given up in between, while time
goes by. A bound whose end cannot be told ends the program and leads to none. -/
inductive Grown : FamilyTree → Instant → Family → Prop where
  | start (now : Instant) : Grown {} now {}
  | background {t : FamilyTree} {now : Instant} {f : Family} (h : Grown t now f) :
      Grown (t.add .background) now f.background
  | withTimeout {t : FamilyTree} {now : Instant} {f g : Family} (h : Grown t now f) {i : Nat}
      (hi : i < t.size) (d : Duration) (hg : f.derive i (·.withTimeout now d) = .ok g) :
      Grown (t.add (.bounded i (now + d))) now g
  | withDeadline {t : FamilyTree} {now : Instant} {f g : Family} (h : Grown t now f) {i : Nat}
      (hi : i < t.size) (d : Instant) (hg : f.derive i (fun c => .ok (c.withDeadline d)) = .ok g) :
      Grown (t.add (.bounded i d)) now g
  | withDefaultTimeout {t : FamilyTree} {now : Instant} {f g : Family} (h : Grown t now f) {i : Nat}
      (hi : i < t.size) (d : Duration) (hg : f.derive i (·.withDefaultTimeout now d) = .ok g) :
      Grown (t.add (.defaulted i (now + d))) now g
  | cancel {t : FamilyTree} {now : Instant} {f : Family} (h : Grown t now f) {i : Nat}
      (hi : i < t.size) : Grown (t.cancel i) now (f.cancel i now)
  | wait {t : FamilyTree} {now : Instant} {f : Family} (h : Grown t now f) (d : Duration) :
      Grown t (now + d) f

/-- A family has what its tree says: the tokens of a member are the numbers of its lineage. -/
structure Describes (t : FamilyTree) (now : Instant) (f : Family) : Prop where
  ordered : Origin.Ordered t.origins
  members : f.members.length = t.size
  fresh : f.tokens = t.size
  tokens : ∀ i, i < t.size → (f.member i).tokens = t.lineage i
  deadline : ∀ i, i < t.size → (f.member i).deadline = (t.deadlines i).min?
  ended : f.ended.map Prod.fst = t.givenUp
  past : ∀ e ∈ f.ended, e.2 ≤ now

namespace Family

theorem member_add_of_lt {f : Family} {deadline : Option Instant} {parents : List Nat} {i : Nat}
    (h : i < f.members.length) : (f.add deadline parents).member i = f.member i := by
  rw [member, member, add, List.getElem?_append_left h]

theorem member_add_self (f : Family) (deadline : Option Instant) (parents : List Nat) :
    (f.add deadline parents).member f.members.length = ⟨deadline, f.tokens :: parents⟩ := by
  rw [member, add, List.getElem?_concat_length]
  rfl

theorem derive_eq_ok {f g : Family} {i : Nat} {bound : Context → Outcome Error Context} :
    f.derive i bound = .ok g ↔ ∃ c, bound (f.context (f.member i)) = .ok c ∧
      g = f.add c.deadline (f.member i).tokens := by
  rw [derive]
  cases bound (f.context (f.member i)) <;> simp [Outcome.map, eq_comm]

theorem cancelledAt_concat {f : Family} {m : Member} {e : Nat × Instant}
    (h : m.tokens.contains e.1 = false) :
    { f with ended := f.ended ++ [e] }.cancelledAt m = f.cancelledAt m := by
  rw [cancelledAt, cancelledAt, List.find?_append, List.find?_singleton, h]
  simp

end Family

namespace Describes

variable {t : FamilyTree} {now : Instant} {f : Family} {i : Nat}

/-- **One derivation** adds what its parent has and the deadline that it brings. -/
theorem add (h : Describes t now f) {x : Origin} {deadline : Option Instant}
    {parents : List Nat} (hx : ∀ p, x.parent? = some p → p < t.size)
    (hparents : parents = x.parent?.elim [] t.lineage)
    (hdeadline : deadline = (deadlinesOf ((t.size, x) :: x.parent?.elim [] t.line)).min?) :
    Describes (t.add x) now (f.add deadline parents) := by
  have hcases : ∀ i, i < (t.add x).size → i = t.size ∨ i < t.size := by
    intro i hi
    have hi : i < t.size + 1 := hi
    omega
  have hself : (f.add deadline parents).member t.size = ⟨deadline, f.tokens :: parents⟩ := by
    rw [← h.members]
    exact f.member_add_self deadline parents
  have hothers : ∀ i, i < t.size → (f.add deadline parents).member i = f.member i := fun i hi =>
    Family.member_add_of_lt (h.members ▸ hi)
  refine ⟨⟨hx, h.ordered⟩, ?_, ?_, fun i hi => ?_, fun i hi => ?_, h.ended, h.past⟩
  · show (f.members ++ [_]).length = t.size + 1
    rw [List.length_append, h.members, List.length_singleton]
  · show f.tokens + 1 = t.size + 1
    rw [h.fresh]
  · rcases hcases i hi with rfl | hi
    · rw [hself, FamilyTree.lineage, FamilyTree.line_add_self, List.map_cons, h.fresh, hparents]
      cases x.parent? <;> rfl
    · rw [hothers i hi, FamilyTree.lineage, FamilyTree.line_add_of_lt x hi]
      exact h.tokens i hi
  · rcases hcases i hi with rfl | hi
    · rw [hself, FamilyTree.deadlines, FamilyTree.line_add_self]
      exact hdeadline
    · rw [hothers i hi, FamilyTree.deadlines, FamilyTree.line_add_of_lt x hi]
      exact h.deadline i hi

theorem bounded (h : Describes t now f) (hi : i < t.size) (d : Instant) :
    Describes (t.add (.bounded i d)) now
      (f.add ((f.context (f.member i)).withDeadline d).deadline (f.member i).tokens) := by
  refine h.add (fun p hp => ?_) (h.tokens i hi) ?_
  · cases hp
    exact hi
  · show some _ = (d :: deadlinesOf (t.line i)).min?
    have hparent : (f.context (f.member i)).deadline = (deadlinesOf (t.line i)).min? :=
      h.deadline i hi
    rw [hparent, List.min?_cons]
    cases (deadlinesOf (t.line i)).min? with
    | none => rfl
    | some e => exact congrArg some (Nat.min_comm e d)

theorem defaulted (h : Describes t now f) (hi : i < t.size) (d : Duration) :
    Describes (t.add (.defaulted i (now + d))) now
      (f.add ((f.context (f.member i)).bounded now d).deadline (f.member i).tokens) := by
  refine h.add (fun p hp => ?_) (h.tokens i hi) ?_
  · cases hp
    exact hi
  · show some ((f.context (f.member i)).deadline.getD (now + d)) =
      (if deadlinesOf (t.line i) = [] then [now + d] else deadlinesOf (t.line i)).min?
    have hparent : (f.context (f.member i)).deadline = (deadlinesOf (t.line i)).min? :=
      h.deadline i hi
    rw [hparent]
    cases hds : deadlinesOf (t.line i) with
    | nil => rfl
    | cons e ds => rw [if_neg (List.cons_ne_nil e ds), List.min?_cons, Option.getD_some]

/-- **Giving up** ends one token, which is the number of the member. -/
theorem cancel_eq (h : Describes t now f) (hi : i < t.size) :
    f.cancel i now = { f with ended := f.ended ++ [(i, now)] } := by
  obtain ⟨x, -, hline, -⟩ := FamilyTree.line_eq_cons h.ordered hi
  have htokens : (f.member i).tokens = i :: (x.parent?.elim [] t.line).map Prod.fst := by
    rw [h.tokens i hi, FamilyTree.lineage, hline, List.map_cons]
  rw [Family.cancel, htokens]

theorem cancel (h : Describes t now f) (hi : i < t.size) :
    Describes (t.cancel i) now (f.cancel i now) := by
  rw [h.cancel_eq hi]
  refine ⟨h.ordered, h.members, h.fresh, h.tokens, h.deadline, ?_, fun e he => ?_⟩
  · show (f.ended ++ [(i, now)]).map Prod.fst = t.givenUp ++ [i]
    rw [List.map_append, h.ended]
    rfl
  · rcases List.mem_append.mp he with he | he
    · exact h.past e he
    · cases List.mem_singleton.mp he
      exact Nat.le_refl now

end Describes

/-- Every family is described by its tree. -/
theorem Grown.describes {t : FamilyTree} {now : Instant} {f : Family} (h : Grown t now f) :
    Describes t now f := by
  induction h with
  | start now => exact ⟨trivial, rfl, rfl, nofun, nofun, rfl, nofun⟩
  | background _ ih => exact ih.add nofun rfl rfl
  | withTimeout _ hi d hg ih =>
    obtain ⟨c, hc, rfl⟩ := Family.derive_eq_ok.mp hg
    rw [Context.withTimeout_eq_ok hc]
    exact ih.bounded hi _
  | withDeadline _ hi d hg ih =>
    obtain ⟨c, hc, rfl⟩ := Family.derive_eq_ok.mp hg
    cases hc
    exact ih.bounded hi d
  | withDefaultTimeout _ hi d hg ih =>
    obtain ⟨c, hc, rfl⟩ := Family.derive_eq_ok.mp hg
    rw [Context.withDefaultTimeout_eq_ok hc]
    exact ih.defaulted hi d
  | cancel _ hi ih => exact ih.cancel hi
  | wait _ d ih =>
    exact { ih with past := fun e he => Nat.le_trans (ih.past e he) (Nat.le_add_right _ d) }

/-! ## Main result -/

def Family.contextAt (f : Family) (i : Nat) : Context := f.context (f.member i)

/-- The laws of one context. The last three tell what giving it up leaves alone. -/
structure Lawful (t : FamilyTree) (now : Instant) (f : Family) (i : Nat) : Prop where
  deadline : (f.contextAt i).deadline = (t.deadlines i).min?
  inherited : ∀ p d, t.parent? i = some p → (f.contextAt p).deadline = some d →
    ∃ d' ≤ d, (f.contextAt i).deadline = some d'
  kept : ∀ p d d', t.origin? i = some (.defaulted p d') → (f.contextAt p).deadline = some d →
    (f.contextAt i).deadline = some d
  unbounded : (f.contextAt i).remaining now = none ↔ (f.contextAt i).deadline = none
  remaining : ∀ d, (f.contextAt i).deadline = some d → ∃ left,
    (f.contextAt i).remaining now = some left ∧ (d ≤ now → left = 0) ∧ (now ≤ d → now + left = d)
  cancelled : (f.contextAt i).isCancelled now = true ↔ ∃ j ∈ t.lineage i, j ∈ t.givenUp
  others : ∀ k, k < t.size → i ∉ t.lineage k → (f.cancel i now).contextAt k = f.contextAt k
  ancestors : ∀ k ∈ t.lineage i, k ≠ i → (f.cancel i now).contextAt k = f.contextAt k
  siblings : ∀ k, k < t.size → k ≠ i → t.parent? k = t.parent? i →
    (f.cancel i now).contextAt k = f.contextAt k

namespace Describes

variable {t : FamilyTree} {now : Instant} {f : Family} {i : Nat}

/-- A context has been given up if one of its tokens has ended, which cannot be in the future. -/
theorem isCancelled_iff (h : Describes t now f) (hi : i < t.size) :
    (f.contextAt i).isCancelled now = true ↔ ∃ j ∈ t.lineage i, j ∈ t.givenUp := by
  have htokens := h.tokens i hi
  have hcontext : (f.contextAt i).cancelledAt =
      (f.ended.find? fun e => (t.lineage i).contains e.1).map Prod.snd := by
    rw [← htokens]
    rfl
  rw [Context.isCancelled, hcontext]
  cases hfind : f.ended.find? fun e => (t.lineage i).contains e.1 with
  | some e =>
    have hmem : e ∈ f.ended := List.mem_of_find?_eq_some hfind
    have htoken : e.1 ∈ t.lineage i := by simpa using List.find?_some hfind
    have hgiven : e.1 ∈ t.givenUp := h.ended ▸ List.mem_map_of_mem hmem
    exact ⟨fun _ => ⟨e.1, htoken, hgiven⟩, fun _ => by simpa using h.past e hmem⟩
  | none =>
    refine ⟨fun hfalse => (by cases hfalse), fun hgiven => ?_⟩
    obtain ⟨j, hj, hgiven⟩ := hgiven
    rw [← h.ended] at hgiven
    obtain ⟨e, he, rfl⟩ := List.mem_map.mp hgiven
    have hnone := List.find?_eq_none.mp hfind e he
    exact absurd hj (by simpa using hnone)

theorem contextAt_cancel (h : Describes t now f) (hi : i < t.size) {k : Nat} (hk : k < t.size)
    (hapart : i ∉ t.lineage k) : (f.cancel i now).contextAt k = f.contextAt k := by
  have hother : (f.member k).tokens.contains i = false := by
    rw [h.tokens k hk]
    simpa using hapart
  rw [h.cancel_eq hi]
  show (⟨(f.member k).deadline, _⟩ : Context) = ⟨(f.member k).deadline, _⟩
  rw [Family.cancelledAt_concat hother]
  rfl

/-- **Every member of a described family is lawful.** -/
theorem lawful (h : Describes t now f) (hi : i < t.size) : Lawful t now f i := by
  obtain ⟨x, hx, hline, hlt⟩ := FamilyTree.line_eq_cons h.ordered hi
  have hdeadline : ∀ k, k < t.size → (f.contextAt k).deadline = (t.deadlines k).min? := h.deadline
  have hparent : t.parent? i = x.parent? := by rw [FamilyTree.parent?, hx, Option.bind_some]
  refine
    { deadline := hdeadline i hi
      inherited := fun p d hp hd => ?_
      kept := fun p d d' hd' hd => ?_
      unbounded := Option.map_eq_none_iff
      remaining := fun d hd => ⟨d - now, by rw [Context.remaining, hd]; rfl, ?_, ?_⟩
      cancelled := h.isCancelled_iff hi
      others := fun k hk hapart => h.contextAt_cancel hi hk hapart
      ancestors := fun k hk hne => ?_
      siblings := fun k hk hne hsame => ?_ }
  · rw [hparent] at hp
    have hpi := hlt p hp
    rw [hdeadline p (Nat.lt_trans hpi hi)] at hd
    rw [hdeadline i hi]
    exact FamilyTree.deadlines_inherited hline hp hd
  · have hdefaulted : x = .defaulted p d' := Option.some.inj (hx.symm.trans hd')
    rw [hdefaulted] at hline hlt
    rw [hdeadline p (Nat.lt_trans (hlt p rfl) hi)] at hd
    rw [hdeadline i hi, FamilyTree.deadlines_kept hline hd]
    exact hd
  · exact Nat.sub_eq_zero_of_le
  · exact Nat.add_sub_cancel'
  · have hki : k ≤ i := FamilyTree.le_of_mem_lineage hk
    exact h.contextAt_cancel hi (Nat.lt_of_le_of_lt hki hi)
      (FamilyTree.not_mem_lineage_of_mem hk hne)
  · exact h.contextAt_cancel hi hk
      (FamilyTree.not_mem_lineage_of_sibling h.ordered hi hk hne hsame)

end Describes

/-- **Contexts follow their lineage**, in every family and at any time. The deadline of a context is
the earliest of those that it and its ancestors brought, it has been given up exactly if it or one
of them was, and giving it up changes nothing for its ancestors and its siblings. -/
theorem contexts_follow_lineage {t : FamilyTree} {now : Instant} {f : Family} (h : Grown t now f) :
    ∀ i < t.size, Lawful t now f i := fun _ hi => h.describes.lawful hi

/-- A context and two that derive from it, one of which is given up before a default deadline is put
on it, and a context apart. -/
def branches : FamilyTree where
  origins := [.bounded 0 40, .background, .defaulted 1 120, .bounded 0 10, .background]
  givenUp := [1]

def branchesFamily : Family where
  members :=
    [⟨none, [0]⟩, ⟨some 10, [1, 0]⟩, ⟨some 10, [2, 1, 0]⟩, ⟨none, [3]⟩, ⟨some 40, [4, 0]⟩]
  tokens := 5
  ended := [(1, 0)]

theorem grown_branches : Grown branches 25 branchesFamily := by
  have hpair : Grown _ 0 _ := (Grown.start 0).background.withTimeout (i := 0) (by decide) 10 rfl
  have hgiven : Grown _ 0 _ := hpair.cancel (i := 1) (by decide)
  have hdefault : Grown _ 0 _ := hgiven.withDefaultTimeout (i := 1) (by decide) 120 rfl
  exact (hdefault.background.withDeadline (i := 0) (by decide) 40 rfl).wait 25

theorem contexts_follow_lineage_branches :
    Grown branches 25 branchesFamily ∧
    (branchesFamily.contextAt 2).deadline = some 10 ∧
    (branchesFamily.contextAt 2).isCancelled 25 = true ∧
    (branchesFamily.contextAt 4).isCancelled 25 = false ∧
    (branchesFamily.cancel 1 25).contextAt 4 = branchesFamily.contextAt 4 := by
  have hlaws := contexts_follow_lineage grown_branches
  refine ⟨grown_branches, (hlaws 2 (by decide)).deadline, ?_, ?_, ?_⟩
  · exact (hlaws 2 (by decide)).cancelled.mpr ⟨1, by decide, by decide⟩
  · rw [← Bool.not_eq_true, (hlaws 4 (by decide)).cancelled]
    decide
  · exact (hlaws 1 (by decide)).siblings 4 (by decide) (by decide) (by decide)

end SwitchTestbed
