import SwitchTestbed.Binding

/-!
# Calls on the life of a reservation

* `Binding.reserve_granted`, `Binding.reserve_rejected`, … : what a binding makes of the answer of
  its backend; `Binding.reserve_outcome`, `Binding.release_outcome` : all that can come of it;
* `Call`, `Answer` : a call that reserves or releases, and the answer to it;
* `Binding.call`, `Binding.run` : one call and one call after the other;
* `Binding.run_induction` : what every call keeps, every run keeps.
-/

namespace SwitchTestbed

/-! ## Answers of the backend -/

namespace Binding

section Backend

variable {σ τ : Type} {B : Backend σ τ} {b : Binding σ} {c : Context} {now : Instant}
  {fixed : StringMap String} {d : Demand} {s : σ}

theorem reserve_fixed (h : fixed.isEmpty = false) :
    b.reserve B c now fixed d = (b, .error .partialReservation) := by
  simp [reserve, h]

theorem reserve_cancelled (hfixed : fixed.isEmpty = true) (h : c.isCancelled now = true) :
    b.reserve B c now fixed d = (b, .error .cancelled) := by
  simp [reserve, hfixed, h]

section Asked

variable (hfixed : fixed.isEmpty = true) (hlive : c.isCancelled now = false)

include hfixed hlive

theorem reserve_granted {t : Topology} {r : Reservation}
    (h : B.reserve c now d b.backend = (s, .ok t)) (hr : Reservation.ofTopology t = .ok r) :
    b.reserve B c now fixed d = (⟨s, some r⟩, .ok r) := by
  simp [reserve, hfixed, hlive, h, hr]

/-- A topology that makes no reservation is given back. -/
theorem reserve_rejected {t : Topology} {e : Error}
    (h : B.reserve c now d b.backend = (s, .ok t)) (hr : Reservation.ofTopology t = .error e) :
    b.reserve B c now fixed d = ({ b with backend := (B.release s).1 }, .error e) := by
  simp [reserve, hfixed, hlive, h, hr]

theorem reserve_refused {e : Error} (h : B.reserve c now d b.backend = (s, .error e)) :
    b.reserve B c now fixed d = ({ b with backend := s }, .error e) := by
  simp [reserve, hfixed, hlive, h]

theorem reserve_aborted (h : B.reserve c now d b.backend = (s, .aborted)) :
    b.reserve B c now fixed d = ({ b with backend := s }, .aborted) := by
  simp [reserve, hfixed, hlive, h]

end Asked

variable (B b c now fixed d) in
/-- **What can come of an attempt to reserve**, whatever the backend: what it grants is held, or
what is held stays. -/
theorem reserve_outcome :
    (∃ t r, (B.reserve c now d b.backend).2 = .ok t ∧ Reservation.ofTopology t = .ok r ∧
      b.reserve B c now fixed d = (⟨(B.reserve c now d b.backend).1, some r⟩, .ok r)) ∨
    ∃ s, (b.reserve B c now fixed d).1 = { b with backend := s } ∧
      (s = b.backend ∨ s = (B.reserve c now d b.backend).1 ∨
        s = (B.release (B.reserve c now d b.backend).1).1) := by
  cases hfixed : fixed.isEmpty with
  | false =>
    rw [reserve_fixed hfixed]
    exact Or.inr ⟨_, rfl, Or.inl rfl⟩
  | true =>
    cases hlive : c.isCancelled now with
    | true =>
      rw [reserve_cancelled hfixed hlive]
      exact Or.inr ⟨_, rfl, Or.inl rfl⟩
    | false =>
      rcases hB : B.reserve c now d b.backend with ⟨s, _ | _ | _⟩
      case ok t =>
        cases hr : Reservation.ofTopology t with
        | ok r => exact Or.inl ⟨t, r, rfl, hr, reserve_granted hfixed hlive hB hr⟩
        | error e =>
          rw [reserve_rejected hfixed hlive hB hr]
          exact Or.inr ⟨_, rfl, Or.inr (Or.inr rfl)⟩
      case error e =>
        rw [reserve_refused hfixed hlive hB]
        exact Or.inr ⟨_, rfl, Or.inr (Or.inl rfl)⟩
      case aborted =>
        rw [reserve_aborted hfixed hlive hB]
        exact Or.inr ⟨_, rfl, Or.inr (Or.inl rfl)⟩

theorem release_cancelled (h : c.isCancelled now = true) :
    b.release B c now = (b, .error .cancelled) := by
  simp [release, h]

theorem release_done (hlive : c.isCancelled now = false)
    (h : B.release b.backend = (s, .ok ())) : b.release B c now = (⟨s, none⟩, .ok ()) := by
  simp [release, hlive, h]

theorem release_refused {e : Error} (hlive : c.isCancelled now = false)
    (h : B.release b.backend = (s, .error e)) :
    b.release B c now = ({ b with backend := s }, .error e) := by
  simp [release, hlive, h]

variable (B b c now) in
/-- **What can come of a release**, whatever the backend: nothing is held any more, or what is held
stays. -/
theorem release_outcome :
    b.release B c now = (⟨(B.release b.backend).1, none⟩, .ok ()) ∨
    ∃ s, (b.release B c now).1 = { b with backend := s } ∧
      (s = b.backend ∨ s = (B.release b.backend).1) := by
  cases hlive : c.isCancelled now with
  | true =>
    rw [release_cancelled hlive]
    exact Or.inr ⟨_, rfl, Or.inl rfl⟩
  | false =>
    rcases hB : B.release b.backend with ⟨s, _ | _⟩
    case error e =>
      rw [release_refused hlive hB]
      exact Or.inr ⟨_, rfl, Or.inr rfl⟩
    case ok u => exact Or.inl (release_done hlive hB)

end Backend

end Binding

/-! ## Runs -/

/-- A call on the life of a reservation. -/
inductive Call where
  | reserve (c : Context) (now : Instant) (fixed : StringMap String) (d : Demand)
  | release (c : Context) (now : Instant)

/-- The answer to a call: nothing but an error, or the reservation if one is granted. -/
abbrev Answer := Outcome Error (Option Reservation)

namespace Binding

variable {σ τ : Type}

/-- One call. -/
def call (B : Backend σ τ) (b : Binding σ) : Call → Binding σ × Answer
  | .reserve c now fixed d => ((b.reserve B c now fixed d).1, (b.reserve B c now fixed d).2.map some)
  | .release c now =>
    ((b.release B c now).1, (Outcome.ofExcept (b.release B c now).2).map fun _ => none)

/-- One call after the other, with all answers. -/
def run (B : Backend σ τ) (b : Binding σ) : List Call → Binding σ × List Answer
  | [] => (b, [])
  | x :: xs =>
    (((b.call B x).1.run B xs).1, (b.call B x).2 :: ((b.call B x).1.run B xs).2)

@[simp] theorem run_nil (B : Backend σ τ) (b : Binding σ) : b.run B [] = (b, []) := rfl

theorem run_cons (B : Backend σ τ) (b : Binding σ) (x : Call) (xs : List Call) :
    b.run B (x :: xs) =
      (((b.call B x).1.run B xs).1, (b.call B x).2 :: ((b.call B x).1.run B xs).2) := rfl

theorem run_append (B : Backend σ τ) (b : Binding σ) (xs ys : List Call) :
    b.run B (xs ++ ys) =
      (((b.run B xs).1.run B ys).1, (b.run B xs).2 ++ ((b.run B xs).1.run B ys).2) := by
  induction xs generalizing b with
  | nil => rfl
  | cons x xs ih => rw [List.cons_append, run_cons, ih, run_cons, List.cons_append]

/-- The last call of a run. -/
theorem run_concat (B : Backend σ τ) (b : Binding σ) (xs : List Call) (x : Call) :
    (b.run B (xs ++ [x])).1 = ((b.run B xs).1.call B x).1 := by
  rw [run_append, run_cons, run_nil]

/-- What every call keeps, every run keeps. -/
theorem run_induction {B : Backend σ τ} {P : Binding σ → Prop}
    (step : ∀ b x, P b → P (b.call B x).1) {b : Binding σ} (h : P b) (xs : List Call) :
    P (b.run B xs).1 := by
  induction xs generalizing b with
  | nil => exact h
  | cons x xs ih => exact ih (step b x h)

end Binding

end SwitchTestbed
