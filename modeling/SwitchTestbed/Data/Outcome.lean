/-!
# Outcomes

* `Outcome ε α` : a value, an error, or the end of the whole program. The last is kept apart from
  errors because nobody can recover from it;
* `Outcome.map`, `Outcome.mapError`, `Outcome.bind`, `Outcome.ofExcept`.
-/

namespace SwitchTestbed

/-- How a step ends. -/
inductive Outcome (ε α : Type) where
  | ok (value : α)
  | error (cause : ε)
  /-- The program ends in the middle of the step. -/
  | aborted
  deriving DecidableEq, Repr

namespace Outcome

variable {ε α β : Type}

instance [Inhabited ε] : Inhabited (Outcome ε α) := ⟨error default⟩

/-- A result without the possibility to end the program. -/
def ofExcept : Except ε α → Outcome ε α
  | .ok a => ok a
  | .error e => error e

/-- The value changed. -/
def map (f : α → β) : Outcome ε α → Outcome ε β
  | ok a => ok (f a)
  | error e => error e
  | aborted => aborted

/-- The error changed. -/
def mapError {δ : Type} (f : ε → δ) : Outcome ε α → Outcome δ α
  | ok a => ok a
  | error e => error (f e)
  | aborted => aborted

theorem ofExcept_eq_ok {r : Except ε α} {a : α} : ofExcept r = ok a ↔ r = .ok a := by
  cases r <;> simp [ofExcept]

theorem ofExcept_eq_error {r : Except ε α} {e : ε} : ofExcept r = error e ↔ r = .error e := by
  cases r <;> simp [ofExcept]

theorem mapError_ofExcept {δ : Type} (f : ε → δ) (r : Except ε α) :
    (ofExcept r).mapError f = ofExcept (r.mapError f) := by
  cases r <;> rfl

/-- One step after the other. -/
def bind : Outcome ε α → (α → Outcome ε β) → Outcome ε β
  | ok a, f => f a
  | error e, _ => error e
  | aborted, _ => aborted

instance : Monad (Outcome ε) where
  pure := ok
  bind := bind

/-- The value, if there is one. -/
def toOption : Outcome ε α → Option α
  | ok a => some a
  | _ => none

end Outcome

end SwitchTestbed
