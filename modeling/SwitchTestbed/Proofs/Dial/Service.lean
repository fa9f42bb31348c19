import SwitchTestbed.Backend
import SwitchTestbed.Proofs.Context

/-!
# One dial of a service

* `dialedOptions` : the options with which a service is dialed (`connectTimeout_dialedOptions`);
* `dialService_cancelled`, `dialService_live`, `dialService_aborted` : a service is dialed unless the
  caller has given up, or the end of the bound cannot be told, which ends the program;
* `Reported` : what a caller learns of the end of a dial (`Reported.of_run`).
-/

namespace SwitchTestbed

open Rpc

variable {σ : Type} {dial : Dialing σ} {c : Context} {now : Instant}

/-- The options with which a service is dialed. -/
def dialedOptions (c : Context) (now : Instant) (t : ServiceTarget) (o : DialOptions) :
    DialOptions :=
  effectiveOptions (c.bounded now t.timeouts.dial) now t o

/-- The backend may take what is left of the time, or what the caller allows if that is less. -/
theorem connectTimeout_dialedOptions (c : Context) (now : Instant) (t : ServiceTarget)
    (o : DialOptions) :
    let left := c.deadline.getD (now + t.timeouts.dial) - now
    (dialedOptions c now t o).connectTimeout =
      some ((o.connectTimeout.map (min · left)).getD left) := by
  have hleft : (c.bounded now t.timeouts.dial).remaining now =
      some (c.deadline.getD (now + t.timeouts.dial) - now) := rfl
  simp only [dialedOptions, effectiveOptions, hleft, Option.getD_some]
  cases o.connectTimeout <;> rfl

section Service

variable {t : ServiceTarget} (device : String) (o : DialOptions) (s : σ)

theorem dialService_cancelled (hbound : c.Boundable now t.timeouts.dial)
    (h : c.isCancelled now = true) : dialService dial c now device t o s =
      (s, now, .error (.dial t.protocol device .cancelled)) := by
  have hgiven : (c.bounded now t.timeouts.dial).isCancelled now = true := h
  simp only [dialService, Context.performWithin_of_boundable hbound,
    Context.perform_cancelled hgiven]
  rfl

theorem dialService_live (hbound : c.Boundable now t.timeouts.dial)
    (h : c.isCancelled now = false) :
    let dialed := dial t.address (dialedOptions c now t o) s
    let ending := (c.bounded now t.timeouts.dial).run now dialed.2
    dialService dial c now device t o s = (dialed.1, ending.time,
      .ofExcept (ending.verdict.toExcept.mapError (.dial t.protocol device))) := by
  have hlive : (c.bounded now t.timeouts.dial).isCancelled now = false := h
  simp only [dialService, Context.performWithin_of_boundable hbound, Context.perform_live hlive,
    Outcome.mapError_ofExcept]
  rfl

theorem dialService_aborted (h : ¬c.Boundable now t.timeouts.dial) :
    dialService dial c now device t o s = (s, now, .aborted) := by
  rw [dialService, Context.performWithin_aborted h]
  rfl

end Service

/-- What a caller learns of the end of a dial. Whatever went wrong has one layer around it that
names the protocol and the device. -/
inductive Reported (p : Protocol) (device : String) :
    Verdict (Except Error Connection) → Except Error Connection → Prop where
  | connected (conn : Connection) : Reported p device (.finished (.ok conn)) (.ok conn)
  | failed (e : Error) : Reported p device (.finished (.error e)) (.error (.dial p device e))
  | expired : Reported p device .expired (.error (.dial p device .timeout))
  | cancelled : Reported p device .cancelled (.error (.dial p device .cancelled))

theorem Reported.of_run (p : Protocol) (device : String) (h : c.isCancelled now = false)
    (w : Work (Except Error Connection)) :
    Reported p device (c.run now w).verdict
      ((c.run now w).verdict.toExcept.mapError (.dial p device)) := by
  rcases Context.run_verdict h w with hv | hv | hv
  · rw [hv]
    cases w.result with
    | ok conn => exact .connected conn
    | error e => exact .failed e
  · rw [hv]
    exact .expired
  · rw [hv]
    exact .cancelled

end SwitchTestbed
