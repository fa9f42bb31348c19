import SwitchTestbed.Proofs.Binding.Calls

/-!
# Backends under observation

* `Deed` : what a backend did: granted a topology, took devices back, or was dialed;
* `Backend.watched` : a backend whose state keeps a list of its deeds, the last one at the end;
* `Binding.unwatched` : a binding without that list. Keeping it changes neither what is held nor any
  answer (`Binding.call_watched`, `Binding.run_watched`).
-/

namespace SwitchTestbed

open Rpc

/-- What a backend did. -/
inductive Deed where
  | granted (t : Topology)
  | tookBack
  | dialed (address : String) (o : DialOptions)

/-- The state of a backend and what it did so far. -/
abbrev Watched (σ : Type) := σ × List Deed

variable {σ τ : Type}

/-- The state without the deeds. -/
def watchedPart (σ : Type) : Part (Watched σ) σ := ⟨Prod.fst, fun s w => (s, w.2)⟩

/-- The deed of a topology that is granted, or none. -/
def grantOf : Outcome Error Topology → List Deed
  | .ok t => [.granted t]
  | .error _ => []
  | .aborted => []

/-- The deed of devices that are taken back, or none. -/
def returnOf : Except Error Unit → List Deed
  | .ok () => [.tookBack]
  | .error _ => []

/-- A backend that keeps a list of its deeds. -/
def Backend.watched (B : Backend σ τ) : Backend (Watched σ) τ where
  reserve c now d w :=
    let (s, r) := B.reserve c now d w.1
    ((s, w.2 ++ grantOf r), r)
  release w :=
    let (s, r) := B.release w.1
    ((s, w.2 ++ returnOf r), r)
  dial address o w :=
    let (s, work) := B.dial address o w.1
    ((s, w.2 ++ [.dialed address o]), work)
  clients := B.clients.within (watchedPart σ)
  dialConsole c now dims w :=
    let (s, r) := B.dialConsole c now dims w.1
    ((s, w.2), r)

section Watched

variable (B : Backend σ τ)

theorem reserve_watched (c : Context) (now : Instant) (d : Demand) (w : Watched σ) :
    B.watched.reserve c now d w = (((B.reserve c now d w.1).1,
      w.2 ++ grantOf (B.reserve c now d w.1).2), (B.reserve c now d w.1).2) := rfl

theorem release_watched (w : Watched σ) :
    B.watched.release w =
      (((B.release w.1).1, w.2 ++ returnOf (B.release w.1).2), (B.release w.1).2) := rfl

theorem dial_watched (address : String) (o : DialOptions) (w : Watched σ) :
    B.watched.dial address o w =
      (((B.dial address o w.1).1, w.2 ++ [.dialed address o]), (B.dial address o w.1).2) := rfl

end Watched

/-! ## Observation changes nothing -/

namespace Binding

/-- The binding without the deeds of its backend. -/
def unwatched (b : Binding (Watched σ)) : Binding σ := ⟨b.backend.1, b.held⟩

variable (B : Backend σ τ) (b : Binding (Watched σ))

theorem reserve_unwatched (c : Context) (now : Instant) (fixed : StringMap String) (d : Demand) :
    (b.reserve B.watched c now fixed d).1.unwatched = (b.unwatched.reserve B c now fixed d).1 ∧
      (b.reserve B.watched c now fixed d).2 = (b.unwatched.reserve B c now fixed d).2 := by
  cases hfixed : fixed.isEmpty with
  | false =>
    rw [reserve_fixed hfixed, reserve_fixed hfixed]
    exact ⟨rfl, rfl⟩
  | true =>
    cases hlive : c.isCancelled now with
    | true =>
      rw [reserve_cancelled hfixed hlive, reserve_cancelled hfixed hlive]
      exact ⟨rfl, rfl⟩
    | false =>
      have hwatched := reserve_watched B c now d b.backend
      cases hB : B.reserve c now d b.unwatched.backend with
      | mk s r =>
        rw [show b.backend.1 = b.unwatched.backend from rfl, hB] at hwatched
        cases r with
        | error e =>
          rw [reserve_refused hfixed hlive hwatched, reserve_refused hfixed hlive hB]
          exact ⟨rfl, rfl⟩
        | aborted =>
          rw [reserve_aborted hfixed hlive hwatched, reserve_aborted hfixed hlive hB]
          exact ⟨rfl, rfl⟩
        | ok t =>
          cases hr : Reservation.ofTopology t with
          | error e =>
            rw [reserve_rejected hfixed hlive hwatched hr, reserve_rejected hfixed hlive hB hr]
            exact ⟨rfl, rfl⟩
          | ok r =>
            rw [reserve_granted hfixed hlive hwatched hr, reserve_granted hfixed hlive hB hr]
            exact ⟨rfl, rfl⟩

theorem release_unwatched (c : Context) (now : Instant) :
    (b.release B.watched c now).1.unwatched = (b.unwatched.release B c now).1 ∧
      (b.release B.watched c now).2 = (b.unwatched.release B c now).2 := by
  cases hlive : c.isCancelled now with
  | true =>
    rw [release_cancelled hlive, release_cancelled hlive]
    exact ⟨rfl, rfl⟩
  | false =>
    have hwatched := release_watched B b.backend
    cases hB : B.release b.unwatched.backend with
    | mk s r =>
      rw [show b.backend.1 = b.unwatched.backend from rfl, hB] at hwatched
      cases r with
      | error e =>
        rw [release_refused hlive hwatched, release_refused hlive hB]
        exact ⟨rfl, rfl⟩
      | ok u =>
        rw [release_done hlive hwatched, release_done hlive hB]
        exact ⟨rfl, rfl⟩

/-- **One call** does the same whether or not the backend is watched. -/
theorem call_watched (x : Call) :
    (b.call B.watched x).1.unwatched = (b.unwatched.call B x).1 ∧
      (b.call B.watched x).2 = (b.unwatched.call B x).2 := by
  cases x with
  | reserve c now fixed d =>
    obtain ⟨hstate, hanswer⟩ := reserve_unwatched B b c now fixed d
    simp only [call]
    rw [hstate, hanswer]
    exact ⟨rfl, rfl⟩
  | release c now =>
    obtain ⟨hstate, hanswer⟩ := release_unwatched B b c now
    simp only [call]
    rw [hstate, hanswer]
    exact ⟨rfl, rfl⟩

/-- **A run** does the same whether or not the backend is watched. -/
theorem run_watched (xs : List Call) :
    (b.run B.watched xs).1.unwatched = (b.unwatched.run B xs).1 ∧
      (b.run B.watched xs).2 = (b.unwatched.run B xs).2 := by
  induction xs generalizing b with
  | nil => exact ⟨rfl, rfl⟩
  | cons x xs ih =>
    obtain ⟨hstate, hanswer⟩ := call_watched B b x
    obtain ⟨hstates, hanswers⟩ := ih (b.call B.watched x).1
    rw [hstate] at hstates hanswers
    rw [run_cons, run_cons, hstates, hanswers, hanswer]
    exact ⟨rfl, rfl⟩

end Binding

end SwitchTestbed
