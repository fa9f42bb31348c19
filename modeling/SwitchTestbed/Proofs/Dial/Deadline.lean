import SwitchTestbed.Proofs.Backend.Watched
import SwitchTestbed.Proofs.Dial.Service
import SwitchTestbed.Simulated.Backend

/-!
# How long a dial may take

The bound of a dial is the deadline of its caller, or where there is none that of the service.

* `DialBounded` : a dial is over at an instant, and lets the backend take no longer;
* `dialService_bounded` : so it is for the bound of the dial;
* `dialService_expired` : a dial that is not done by then has timed out;
* `dial_keeps_deadline` : both together, and when the bound of the service holds beside;
* `dial_outlasts_service` : the deadline of a caller that lies behind it takes its place.
-/

namespace SwitchTestbed

open Rpc

variable {σ τ : Type} {c : Context} {now : Instant} {t : ServiceTarget}

/-- The instant at which a dial that starts now has to be over. -/
def dialBound (c : Context) (now : Instant) (t : ServiceTarget) : Instant :=
  c.deadline.getD (now + t.timeouts.dial)

/-- A dial is over at the instant, or at once if that has passed, and the backend is asked for one
connection that may take no longer, or for nothing if the caller has given up. -/
structure DialBounded (B : Backend σ τ) (c : Context) (now : Instant) (device : String)
    (t : ServiceTarget) (o : DialOptions) (s : σ) (bound : Instant) : Prop where
  finish : (dialService B.dial c now device t o s).2.1 ≤ max now bound
  connect : ∃ o' k, (dialService B.watched.dial c now device t o (s, [])).1.2 =
      (if c.isCancelled now then [] else [.dialed t.address o']) ∧
    o'.connectTimeout = some k ∧ k ≤ bound - now

theorem DialBounded.mono {B : Backend σ τ} {device : String} {o : DialOptions} {s : σ}
    {bound later : Instant} (h : DialBounded B c now device t o s bound) (hle : bound ≤ later) :
    DialBounded B c now device t o s later where
  finish := by
    have hmax : max now bound ≤ max now later :=
      Nat.max_le.mpr ⟨Nat.le_max_left _ _, Nat.le_trans hle (Nat.le_max_right _ _)⟩
    exact Nat.le_trans h.finish hmax
  connect := by
    obtain ⟨o', k, hdeeds, hk, hbound⟩ := h.connect
    exact ⟨o', k, hdeeds, hk, Nat.le_trans hbound (Nat.sub_le_sub_right hle now)⟩

/-- What a caller allows and what the bound leaves: the less of the two counts. -/
theorem connectTimeout_le_bound (c : Context) (now : Instant) (t : ServiceTarget)
    (o : DialOptions) :
    ∃ k, (dialedOptions c now t o).connectTimeout = some k ∧ k ≤ dialBound c now t - now := by
  refine ⟨_, connectTimeout_dialedOptions c now t o, ?_⟩
  cases o.connectTimeout with
  | none => exact Nat.le_refl _
  | some own => exact Nat.min_le_right _ _

section Bound

variable (B : Backend σ τ) (device : String) (o : DialOptions) (s : σ)

/-- **A dial is over at its bound**, and the backend knows. -/
theorem dialService_bounded (h : c.Boundable now t.timeouts.dial) :
    DialBounded B c now device t o s (dialBound c now t) := by
  obtain ⟨k, hk, hbound⟩ := connectTimeout_le_bound c now t o
  cases hlive : c.isCancelled now with
  | true =>
    refine ⟨?_, dialedOptions c now t o, k, ?_, hk, hbound⟩
    · rw [dialService_cancelled _ _ _ h hlive]
      exact Nat.le_max_left _ _
    · rw [dialService_cancelled _ _ _ h hlive, hlive, if_pos rfl]
  | false =>
    refine ⟨?_, dialedOptions c now t o, k, ?_, hk, hbound⟩
    · rw [dialService_live _ _ _ h hlive]
      exact Context.run_time_le (c.deadline_bounded now t.timeouts.dial) _
    · rw [dialService_live _ _ _ h hlive, dial_watched, hlive]
      rfl

/-- **A dial that is not done at its bound has timed out there**, if the caller does not give up
before. -/
theorem dialService_expired (h : c.Boundable now t.timeouts.dial)
    (hgiven : ∀ u, c.cancelledAt = some u → max now (dialBound c now t) < u)
    (hslow : 0 < (B.dial t.address (dialedOptions c now t o) s).2.delay)
    (hlate : dialBound c now t < now + (B.dial t.address (dialedOptions c now t o) s).2.delay) :
    (dialService B.dial c now device t o s).2 =
      (max now (dialBound c now t), .error (.dial t.protocol device .timeout)) := by
  have hlive : c.isCancelled now = false := by
    unfold Context.isCancelled
    cases hu : c.cancelledAt with
    | none => rfl
    | some u =>
      have hnow : now < u := Nat.lt_of_le_of_lt (Nat.le_max_left _ _) (hgiven u hu)
      simpa using hnow
  have hexpired := Context.run_expired (c := c.bounded now t.timeouts.dial) hlive
    (c.deadline_bounded now t.timeouts.dial) hslow hlate hgiven
  have hbound : c.deadline.getD (now + t.timeouts.dial) = dialBound c now t := rfl
  rw [dialService_live _ _ _ h hlive, hexpired, hbound]
  rfl

end Bound

/-! ## Main result -/

/-- **A dial keeps the deadline of its caller**, and where the caller brings none that of the
service: it is over at that bound, or at once if that has passed, the backend may not take longer to
connect, and what is not done by then has timed out. The bound of the service holds beside unless the
caller brings a deadline behind it. Where there is no deadline and the bound of the service cannot be
told, the program ends, and nothing has been dialed. -/
theorem dial_keeps_deadline (B : Backend σ τ) (c : Context) (now : Instant) (device : String)
    (t : ServiceTarget) (o : DialOptions) (s : σ) :
    let work := (B.dial t.address (dialedOptions c now t o) s).2
    (c.Boundable now t.timeouts.dial → DialBounded B c now device t o s (dialBound c now t)) ∧
    (∀ d, c.deadline = some d → DialBounded B c now device t o s d) ∧
    (c.Boundable now t.timeouts.dial → (∀ d, c.deadline = some d → d ≤ now + t.timeouts.dial) →
      DialBounded B c now device t o s (now + t.timeouts.dial)) ∧
    (c.Boundable now t.timeouts.dial → 0 < work.delay → dialBound c now t < now + work.delay →
      (∀ u, c.cancelledAt = some u → max now (dialBound c now t) < u) →
      (dialService B.dial c now device t o s).2 =
        (max now (dialBound c now t), .error (.dial t.protocol device .timeout))) ∧
    (¬c.Boundable now t.timeouts.dial →
      dialService B.dial c now device t o s = (s, now, .aborted) ∧
      (dialService B.watched.dial c now device t o (s, [])).1.2 = []) := by
  intro work
  have hbounded (h : c.Boundable now t.timeouts.dial) :
      DialBounded B c now device t o s (dialBound c now t) := dialService_bounded B device o s h
  refine ⟨hbounded, ?_, ?_, ?_, ?_⟩
  · intro d hd
    have hbound : dialBound c now t = d := by rw [dialBound, hd, Option.getD_some]
    rw [← hbound]
    exact hbounded (Context.boundable_of_deadline hd _)
  · intro htold hearlier
    refine (hbounded htold).mono ?_
    unfold dialBound
    cases hd : c.deadline with
    | none => exact Nat.le_refl _
    | some d => exact hearlier d hd
  · intro htold hslow hlate hgiven
    exact dialService_expired B device o s htold hgiven hslow hlate
  · intro huntold
    exact ⟨dialService_aborted _ _ _ huntold,
      congrArg (·.1.2) (dialService_aborted device o (s, ([] : List Deed)) huntold)⟩

def hastyTarget : ServiceTarget := ⟨.gnmi, "10.0.0.1:9339", .uniform (Duration.ofSeconds 1)⟩

def slowSimulation : Simulation := { dialDelay := Duration.ofSeconds 5 }

theorem dial_keeps_deadline_slow :
    DialBounded simulatedBackend {} 0 "sw1" hastyTarget {} slowSimulation (Duration.ofSeconds 1) ∧
    (dialService simulatedBackend.dial {} 0 "sw1" hastyTarget {} slowSimulation).2 =
      (Duration.ofSeconds 1, .error (.dial .gnmi "sw1" .timeout)) := by
  obtain ⟨-, -, hservice, hexpired, -⟩ :=
    dial_keeps_deadline simulatedBackend {} 0 "sw1" hastyTarget {} slowSimulation
  have hsecond : 0 + hastyTarget.timeouts.dial = Duration.ofSeconds 1 := by decide
  rw [hsecond] at hservice
  exact ⟨hservice (by decide) nofun, hexpired (by decide) (by decide) (by decide) nofun⟩

/-- With a minute of its caller a dial goes on for the five seconds that it takes, and the backend
is told that it may take the minute. With a deadline that has passed before, work that takes no time
is done all the same. -/
theorem dial_outlasts_service :
    (let c : Context := { deadline := some (Duration.ofSeconds 60) }
    (∃ conn, (dialService simulatedBackend.dial c 0 "sw1" hastyTarget {} slowSimulation).2 =
      (Duration.ofSeconds 5, .ok conn)) ∧
    hastyTarget.timeouts.dial < Duration.ofSeconds 5 ∧
    ∃ o', (dialService simulatedBackend.dial c 0 "sw1" hastyTarget {} slowSimulation).1.dials =
        [("10.0.0.1:9339", o')] ∧
      o'.connectTimeout = some (Duration.ofSeconds 60)) ∧
    let c : Context := { deadline := some 3 }
    ∃ conn, (dialService simulatedBackend.dial c 7 "sw1" hastyTarget {} {}).2 = (7, .ok conn) :=
  ⟨⟨⟨_, rfl⟩, by decide, _, rfl, rfl⟩, _, rfl⟩

end SwitchTestbed
