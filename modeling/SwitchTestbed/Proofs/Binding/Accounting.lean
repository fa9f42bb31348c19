import SwitchTestbed.Proofs.Backend.Watched
import SwitchTestbed.Proofs.Binding.Lifecycle
import SwitchTestbed.Simulated.Backend

/-!
# What becomes of granted topologies

* `outstanding` : the topologies that were granted and not taken back;
* `Binding.Accounted` : nothing is outstanding but what the binding holds;
* `Binding.Replaces` : a call whose grant takes the place of a reservation that is still held;
* `Binding.accounted_call_iff`, `Binding.keepsAccounts_iff` : over a backend that takes back what it
  has just granted, the accounts are kept exactly as long as nothing is replaced;
* `grants_accounted` : the backend over an inventory never grants a second reservation. The
  simulated one does, and then the first is lost.
-/

namespace SwitchTestbed

variable {σ τ ω : Type}

/-! ## Accounts -/

/-- The topologies outstanding after one more deed. A backend is not told what it takes back: it is
what it has granted last. -/
def settle (ts : List Topology) : Deed → List Topology
  | .granted t => t :: ts
  | .tookBack => ts.tail
  | .dialed _ _ => ts

/-- The topologies that were granted and not taken back, the last one first. -/
def outstanding (deeds : List Deed) : List Topology := deeds.foldl settle []

theorem outstanding_append (deeds later : List Deed) :
    outstanding (deeds ++ later) = later.foldl settle (outstanding deeds) :=
  List.foldl_append

@[simp] theorem outstanding_granted (deeds : List Deed) (t : Topology) :
    outstanding (deeds ++ [.granted t]) = t :: outstanding deeds :=
  outstanding_append deeds _

@[simp] theorem outstanding_tookBack (deeds : List Deed) :
    outstanding (deeds ++ [.tookBack]) = (outstanding deeds).tail :=
  outstanding_append deeds _

/-- What has just been granted can be given back. -/
def Backend.TakesBack (B : Backend σ τ) : Prop :=
  ∀ c now d s t, (B.reserve c now d s).2 = .ok t → (B.release (B.reserve c now d s).1).2 = .ok ()

namespace Binding

/-- Nothing is outstanding but the topology of the reservation held. -/
def Accounted (b : Binding (Watched σ)) : Prop :=
  match b.held with
  | none => outstanding b.backend.2 = []
  | some r => ∃ t, outstanding b.backend.2 = [t] ∧ Reservation.ofTopology t = .ok r

/-- The binding with a backend that is watched from now on. -/
def watch (b : Binding σ) : Binding (Watched σ) := ⟨(b.backend, []), b.held⟩

/-- The call is granted while a reservation is held. -/
def Replaces (B : Backend σ τ) (b : Binding σ) (x : Call) : Prop :=
  b.held.isSome = true ∧ ∃ r, (b.call B x).2 = .ok (some r)

/-- At no point of the run a reservation is replaced. -/
def NeverReplaces (B : Backend σ τ) (b : Binding σ) (xs : List Call) : Prop :=
  ∀ before x, before ++ [x] <+: xs → ¬(b.run B before).1.Replaces B x

/-- At every point of the run nothing is outstanding but what is held. -/
def KeepsAccounts (B : Backend σ τ) (b : Binding σ) (xs : List Call) : Prop :=
  ∀ before, before <+: xs → (b.watch.run B.watched before).1.Accounted

theorem accounted_watch {b : Binding σ} (h : b.held = none) : b.watch.Accounted := by
  unfold Accounted
  rw [show b.watch.held = none from h]
  rfl

theorem replaces_watched (B : Backend σ τ) (b : Binding (Watched σ)) (x : Call) :
    b.Replaces B.watched x ↔ b.unwatched.Replaces B x := by
  rw [Replaces, Replaces, (call_watched B b x).2]
  rfl

theorem not_replaces_release (B : Backend σ τ) (b : Binding σ) (c : Context) (now : Instant) :
    ¬b.Replaces B (.release c now) := by
  rintro ⟨-, r, hr⟩
  simp only [call] at hr
  cases hanswer : (b.release B c now).2 <;> rw [hanswer] at hr <;> cases hr

/-! ## One call -/

section Step

variable {B : Backend σ τ} {b : Binding (Watched σ)}

/-- A grant keeps the accounts exactly if nothing is held. -/
theorem accounted_grant_iff {s : σ} {t : Topology} {r : Reservation} (h : b.Accounted)
    (hr : Reservation.ofTopology t = .ok r) :
    Accounted (⟨(s, b.backend.2 ++ [.granted t]), some r⟩ : Binding (Watched σ)) ↔
      b.held = none := by
  unfold Accounted at h ⊢
  simp only [outstanding_granted, List.cons.injEq]
  cases hheld : b.held with
  | none =>
    simp only [hheld] at h
    exact iff_of_true ⟨t, ⟨rfl, h⟩, hr⟩ rfl
  | some r' =>
    simp only [hheld] at h
    -- the topology of what is held would be outstanding beside the new one
    obtain ⟨t', hout, -⟩ := h
    refine iff_of_false ?_ (by simp)
    rintro ⟨-, ⟨-, hnone⟩, -⟩
    rw [hout] at hnone
    cases hnone

theorem accounted_congr {s : σ} {deeds : List Deed} (h : b.Accounted)
    (hsame : outstanding deeds = outstanding b.backend.2) :
    Accounted ({ b with backend := (s, deeds) } : Binding (Watched σ)) := by
  unfold Accounted at h ⊢
  dsimp only
  rwa [hsame]

theorem accounted_reserve_iff (hback : B.TakesBack) (h : b.Accounted) (c : Context) (now : Instant)
    (fixed : StringMap String) (d : Demand) :
    (b.reserve B.watched c now fixed d).1.Accounted ↔
      ((∃ r, (b.reserve B.watched c now fixed d).2 = .ok r) → b.held = none) := by
  cases hfixed : fixed.isEmpty with
  | false =>
    rw [reserve_fixed hfixed]
    exact iff_of_true h (by simp)
  | true =>
    cases hlive : c.isCancelled now with
    | true =>
      rw [reserve_cancelled hfixed hlive]
      exact iff_of_true h (by simp)
    | false =>
      have hwatched := reserve_watched B c now d b.backend
      cases hanswer : (B.reserve c now d b.backend.1).2 with
      | error e =>
        rw [hanswer] at hwatched
        rw [reserve_refused hfixed hlive hwatched]
        exact iff_of_true (accounted_congr h (by simp [grantOf])) (by simp)
      | aborted =>
        rw [hanswer] at hwatched
        rw [reserve_aborted hfixed hlive hwatched]
        exact iff_of_true (accounted_congr h (by simp [grantOf])) (by simp)
      | ok t =>
        rw [hanswer] at hwatched
        cases hr : Reservation.ofTopology t with
        | ok r =>
          rw [reserve_granted hfixed hlive hwatched hr]
          exact (accounted_grant_iff h hr).trans (by simp)
        | error e =>
          -- what is granted is given back before the call ends
          rw [reserve_rejected hfixed hlive hwatched hr, release_watched,
            hback c now d b.backend.1 t hanswer]
          refine iff_of_true (accounted_congr h ?_) (by simp)
          simp only [grantOf, returnOf, outstanding_tookBack, outstanding_granted, List.tail_cons]

/-- A release that succeeds leaves nothing outstanding, and one that fails changes nothing. -/
theorem accounted_release (h : b.Accounted) (c : Context) (now : Instant) :
    (b.release B.watched c now).1.Accounted := by
  cases hlive : c.isCancelled now with
  | true =>
    rw [release_cancelled hlive]
    exact h
  | false =>
    have hwatched := release_watched B b.backend
    cases hanswer : (B.release b.backend.1).2 with
    | error e =>
      rw [hanswer] at hwatched
      rw [release_refused hlive hwatched]
      exact accounted_congr h (by simp [returnOf])
    | ok u =>
      rw [hanswer] at hwatched
      rw [release_done hlive hwatched]
      unfold Accounted at h ⊢
      simp only [returnOf, outstanding_tookBack]
      cases hheld : b.held with
      | none =>
        simp only [hheld] at h
        rw [h, List.tail_nil]
      | some r =>
        simp only [hheld] at h
        obtain ⟨t, hout, -⟩ := h
        rw [hout, List.tail_cons]

/-- **One call keeps the accounts** exactly if it replaces nothing. -/
theorem accounted_call_iff (hback : B.TakesBack) (h : b.Accounted) (x : Call) :
    (b.call B.watched x).1.Accounted ↔ ¬b.Replaces B.watched x := by
  cases x with
  | reserve c now fixed d =>
    refine (accounted_reserve_iff hback h c now fixed d).trans ?_
    simp only [Replaces, call]
    cases (b.reserve B.watched c now fixed d).2 <;> cases b.held <;> simp [Outcome.map]
  | release c now =>
    exact iff_of_true (accounted_release h c now) (not_replaces_release B.watched b c now)

end Step

/-! ## Runs -/

/-- **A run keeps the accounts** exactly as long as it replaces nothing. -/
theorem keepsAccounts_iff {B : Backend σ τ} (hback : B.TakesBack) {b : Binding σ}
    (h : b.held = none) (xs : List Call) : b.KeepsAccounts B xs ↔ b.NeverReplaces B xs := by
  -- the run with the deeds of the backend replaces what the run without them does
  have hreplaces : ∀ before x, (b.watch.run B.watched before).1.Replaces B.watched x ↔
      (b.run B before).1.Replaces B x := by
    intro before x
    rw [replaces_watched, (run_watched B b.watch before).1]
    rfl
  constructor
  · intro hkeeps before x hprefix
    rw [← hreplaces, ← accounted_call_iff hback (hkeeps before
      ((List.prefix_append before [x]).trans hprefix)), ← run_concat]
    exact hkeeps _ hprefix
  · -- the accounts were kept up to each call, and it replaces nothing
    intro hnever before
    induction before using List.reverseRecOn with
    | nil => exact fun _ => accounted_watch h
    | append_singleton before x ih =>
      intro hprefix
      rw [run_concat, accounted_call_iff hback (ih ((List.prefix_append before [x]).trans hprefix)),
        hreplaces]
      exact hnever before x hprefix

end Binding

/-! ## The backends -/

section Inventory

variable (S : Stubs ω τ) (connect : String → Work (Except String Console))

theorem inventoryBackend_takesBack : (inventoryBackend S connect).TakesBack := by
  intro c now d s t h
  rcases stock_reserve_cases S connect c now d s with
    ⟨duts, ates, used, expiresAt, -, -, heq⟩ | ⟨e, heq⟩ | heq
  · rw [heq, release_of_active S connect (Stock.withActive_pool_active _ _)]
  · rw [heq] at h
    cases h
  · rw [heq] at h
    cases h

namespace Binding

/-- What the binding holds is in force in the pool. -/
def Backed (b : Binding (Stock ω)) : Prop :=
  b.held.isSome = true → b.backend.pool.active.isSome = true

theorem backed_call {b : Binding (Stock ω)} (x : Call) (h : b.Backed) :
    (b.call (inventoryBackend S connect) x).1.Backed := by
  rcases call_cases S connect b x with
    ⟨t, used, r, -, -, heq⟩ | ⟨a, -, heq⟩ | ⟨e, heq⟩ | heq
  · rw [heq]
    exact fun _ => rfl
  · rw [heq]
    exact fun hheld => by cases hheld
  · rw [heq]
    exact h
  · rw [heq]
    exact h

/-- A pool grants nothing while it has a reservation in force. -/
theorem not_replaces_of_backed {b : Binding (Stock ω)} (h : b.Backed) (x : Call) :
    ¬b.Replaces (inventoryBackend S connect) x := by
  rintro ⟨hheld, r, hr⟩
  rcases call_cases S connect b x with
    ⟨t, used, r', hfree, -, -⟩ | ⟨a, -, heq⟩ | ⟨e, heq⟩ | heq
  · have hactive := h hheld
    rw [hfree] at hactive
    cases hactive
  · rw [heq] at hr
    cases hr
  · rw [heq] at hr
    cases hr
  · rw [heq] at hr
    cases hr

theorem neverReplaces_inventory {b : Binding (Stock ω)} (h : b.held = none) (xs : List Call) :
    b.NeverReplaces (inventoryBackend S connect) xs := by
  intro before x _
  refine not_replaces_of_backed S connect ?_ x
  exact run_induction (fun _ y => backed_call S connect y) (fun hheld => by simp [h] at hheld) before

end Binding

end Inventory

theorem simulatedBackend_takesBack : simulatedBackend.TakesBack := fun _ _ _ _ _ _ => rfl

/-- Unless it has been told to refuse, the simulated backend grants whatever is held already. -/
theorem simulated_replaces {b : Binding Simulation} {c : Context} {now : Instant}
    {fixed : StringMap String} {d : Demand} {r : Reservation} (hheld : b.held.isSome = true)
    (hfixed : fixed.isEmpty = true) (hlive : c.isCancelled now = false)
    (hrefusal : b.backend.refusal = none)
    (hr : Reservation.ofTopology (b.backend.topology.getD (synthesize d.testbed)) = .ok r) :
    b.Replaces simulatedBackend (.reserve c now fixed d) := by
  refine ⟨hheld, r, ?_⟩
  have hgrant : simulatedBackend.reserve c now d b.backend =
      ({ b.backend with
          reserves := b.backend.reserves + 1, testbeds := b.backend.testbeds ++ [d.testbed] },
        .ok (b.backend.topology.getD (synthesize d.testbed))) := by
    simp only [simulatedBackend, bareBackend, Simulation.reserve, hrefusal]
  simp only [Binding.call]
  rw [Binding.reserve_granted hfixed hlive hgrant hr]
  rfl

/-! ## Main result -/

/-- **What becomes of every grant.** Whatever state it starts in, a binding over an inventory never
replaces the reservation it holds, and at every point of a run the only topology that was granted
and not given back is the one it holds. Over the simulated backend the accounts are kept up to the
first reservation that replaces another one, and no further. -/
theorem grants_accounted :
    (∀ (S : Stubs ω τ) (connect : String → Work (Except String Console)) (s : Stock ω) xs,
      Binding.NeverReplaces (inventoryBackend S connect) ⟨s, none⟩ xs ∧
        Binding.KeepsAccounts (inventoryBackend S connect) ⟨s, none⟩ xs) ∧
    ∀ (s : Simulation) xs,
      Binding.KeepsAccounts simulatedBackend ⟨s, none⟩ xs ↔
        Binding.NeverReplaces simulatedBackend ⟨s, none⟩ xs := by
  refine ⟨fun S connect s xs => ?_, fun s xs =>
    Binding.keepsAccounts_iff simulatedBackend_takesBack rfl xs⟩
  have hnever := Binding.neverReplaces_inventory S connect (b := ⟨s, none⟩) rfl xs
  have hback := inventoryBackend_takesBack S connect
  exact ⟨hnever, (Binding.keepsAccounts_iff hback rfl xs).mpr hnever⟩

/-- The second of two reservations takes the place of the first, whose devices nobody gives back:
the release that follows is for those of the second. -/
theorem simulated_grant_lost :
    let ask : String → Call := fun id =>
      .reserve {} 0 ∅ { testbed := { duts := [{ id }] }, freshId := "r1", today := 0 }
    let start : Binding Simulation := ⟨{}, none⟩
    let xs : List Call := [ask "dut1", ask "dut2"]
    let released := (start.watch.run simulatedBackend.watched (xs ++ [.release {} 0])).1
    (∃ r r', (start.run simulatedBackend xs).2 = [.ok (some r), .ok (some r')]) ∧
    ¬start.NeverReplaces simulatedBackend xs ∧
    ¬start.KeepsAccounts simulatedBackend xs ∧
    released.held = none ∧
    outstanding released.backend.2 = [synthesize { duts := [{ id := "dut1" }] }] := by
  intro ask start xs released
  have hreplaces : ¬start.NeverReplaces simulatedBackend xs := by
    intro hnever
    exact hnever [ask "dut1"] (ask "dut2") (List.prefix_refl _)
      (simulated_replaces rfl rfl rfl rfl rfl)
  refine ⟨⟨_, _, rfl⟩, hreplaces, fun hkeeps => hreplaces ?_, rfl, rfl⟩
  exact (Binding.keepsAccounts_iff simulatedBackend_takesBack rfl xs).mp hkeeps

end SwitchTestbed
