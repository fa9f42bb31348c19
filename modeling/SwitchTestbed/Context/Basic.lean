import SwitchTestbed.Data.Outcome
import SwitchTestbed.Error
import SwitchTestbed.Time.Duration

/-!
# Contexts of calls

A caller bounds what it starts by a deadline and by the right to give up.

* `Context` : a deadline and the instant at which the caller gives up, each if there is one;
* `Context.withDeadline`, `Context.withTimeout`, `Context.withDefaultTimeout` : contexts with a
  tighter bound. A deadline that cannot be told ends the program;
* `Work` : something that takes a while and then has a result; `Work.behindSleep` : a result behind a
  sleep, of thirty years at most;
* `Context.run` : the earliest event decides: the work ends, the deadline passes, the caller gives
  up. Work that ends just at the deadline has ended, and so has work that takes no time;
* `Context.perform` : the same for work that changes a state when it starts;
  `Context.performWithin` : and that has a default bound.
-/

namespace SwitchTestbed

/-- What bounds the work of a caller. -/
structure Context where
  deadline : Option Instant := none
  /-- When the caller gives up. -/
  cancelledAt : Option Instant := none
  deriving DecidableEq, Repr, Inhabited

namespace Context

/-- Nothing bounds the work. -/
def background : Context := {}

/-- The deadline, or an earlier one that was there before. -/
def withDeadline (c : Context) (d : Instant) : Context :=
  { c with deadline := some (match c.deadline with | some e => min e d | none => d) }

/-- The deadline a while from now, or an earlier one that was there before. -/
def withTimeout (c : Context) (now : Instant) (t : Duration) : Outcome Error Context :=
  if now + t ≤ lastInstant then .ok (c.withDeadline (now + t)) else .aborted

/-- The deadline a while from now, unless there is one already. -/
def withDefaultTimeout (c : Context) (now : Instant) (t : Duration) : Outcome Error Context :=
  match c.deadline with
  | some _ => .ok c
  | none => c.withTimeout now t

/-- The time left until the deadline. -/
def remaining (c : Context) (now : Instant) : Option Duration := c.deadline.map (· - now)

/-- Whether the caller has given up. -/
def isCancelled (c : Context) (now : Instant) : Bool :=
  match c.cancelledAt with
  | some t => t ≤ now
  | none => false

end Context

/-! ## Running work -/

/-- Something that takes a while and then has a result. -/
structure Work (ρ : Type) where
  delay : Duration := 0
  result : ρ
  deriving DecidableEq, Repr

/-- The longest sleep: thirty years of 365 days. -/
def longestSleep : Duration := 30 * 365 * 24 * Duration.hour

/-- A result behind a sleep. -/
def Work.behindSleep {ρ : Type} (d : Duration) (r : ρ) : Work ρ := ⟨min d longestSleep, r⟩

/-- Work that takes no time. -/
def Work.instantly {ρ : Type} (r : ρ) : Work ρ := ⟨0, r⟩

/-- The result changed. -/
def Work.map {ρ ρ' : Type} (f : ρ → ρ') (w : Work ρ) : Work ρ' := ⟨w.delay, f w.result⟩

/-- How work under a context ends. -/
inductive Verdict (ρ : Type) where
  /-- The caller had given up before, and the work was not started. -/
  | refused
  | finished (result : ρ)
  /-- The deadline passed first. -/
  | expired
  /-- The caller gave up first. -/
  | cancelled
  deriving DecidableEq, Repr

/-- The result of work, or the error that stands for its end before. -/
def Verdict.toExcept {α : Type} : Verdict (Except Error α) → Except Error α
  | refused => .error .cancelled
  | finished r => r
  | expired => .error .timeout
  | cancelled => .error .cancelled

/-- When and how work under a context ends. -/
structure Ending (ρ : Type) where
  time : Instant
  verdict : Verdict ρ
  deriving DecidableEq, Repr

namespace Context

/-- Whether an event at an instant comes before another one that may never come. -/
def before (t : Instant) : Option Instant → Bool
  | some u => t < u
  | none => true

/-- Whether an instant is at or before a deadline that may not exist. -/
def within (t : Instant) : Option Instant → Bool
  | some d => t ≤ d
  | none => true

/-- How work that starts now ends. -/
def run {ρ : Type} (c : Context) (now : Instant) (w : Work ρ) : Ending ρ :=
  let done := now + w.delay
  if c.isCancelled now then ⟨now, .refused⟩
  else if w.delay = 0 then ⟨now, .finished w.result⟩
  else
    let expiry := c.deadline.map (max · now)
    match c.cancelledAt with
    | some t =>
      if t < done ∧ before t expiry then ⟨t, .cancelled⟩
      else if within done c.deadline then ⟨done, .finished w.result⟩
      else ⟨expiry.getD done, .expired⟩
    | none =>
      if within done c.deadline then ⟨done, .finished w.result⟩
      else ⟨expiry.getD done, .expired⟩

/-- Work that changes a state when it starts. Work that is refused changes nothing. -/
def perform {σ α : Type} (c : Context) (now : Instant)
    (start : σ → σ × Work (Except Error α)) (s : σ) : σ × Instant × Except Error α :=
  if c.isCancelled now then (s, now, .error .cancelled)
  else
    let (s, w) := start s
    let ending := c.run now w
    (s, ending.time, ending.verdict.toExcept)

/-- Work that changes a state when it starts and may take a while, unless there is a deadline
already. It is told the context that it is bounded by. -/
def performWithin {σ α : Type} (c : Context) (now : Instant) (t : Duration)
    (start : Context → σ → σ × Work (Except Error α)) (s : σ) : σ × Instant × Outcome Error α :=
  match c.withDefaultTimeout now t with
  | .ok c =>
    let (s, finish, r) := c.perform now (start c) s
    (s, finish, .ofExcept r)
  | .error e => (s, now, .error e)
  | .aborted => (s, now, .aborted)

end Context

end SwitchTestbed
