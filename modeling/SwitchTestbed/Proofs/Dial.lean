import SwitchTestbed.Proofs.Dial.Service
import SwitchTestbed.Reservation.Dial

/-!
# What a dial asks of a backend

* `ServiceRegistry.target_unserved`, `ServiceRegistry.target_registered` : what has no address
  cannot be dialed;
* `ServiceEntry.timeLimit`, `ServiceRegistry.timeLimit` : how long a service may take to be dialed;
* `Dut.connect_unserved`, `Dut.connect_registered`, `Dut.connect_served`, `Dut.connect_aborted` : a
  service is dialed once and at its address, or not at all.
-/

namespace SwitchTestbed

open Rpc

/-! ## Services -/

namespace ServiceRegistry

variable {r : ServiceRegistry} {p : Protocol}

/-- No entry and an empty address are the same to who looks for an address. -/
theorem address_eq (r : ServiceRegistry) (p : Protocol) :
    r.address p = ((r.get? p).map ServiceEntry.address).getD "" := by
  rw [address]
  cases r.get? p <;> rfl

theorem target_unserved (h : r.address p = "") (device : String) :
    r.target device p = .error (.serviceNotRegistered p device) := by
  rw [address] at h
  rw [target]
  cases hget : r.get? p with
  | none => rfl
  | some e =>
    simp only [hget] at h
    simp [h]

theorem target_registered {e : ServiceEntry} (he : r.get? p = some e) (haddress : e.address ≠ "")
    (device : String) :
    r.target device p = .ok ⟨p, e.address, .uniform e.effectiveTimeout⟩ := by
  rw [target, he]
  exact if_neg (by simpa using haddress)

theorem exists_get?_of_address_ne (h : r.address p ≠ "") :
    ∃ e, r.get? p = some e ∧ e.address = r.address p := by
  rw [address] at h ⊢
  cases hget : r.get? p with
  | none => simp [hget] at h
  | some e => exact ⟨e, rfl, rfl⟩

end ServiceRegistry

/-- No timeout and one of zero both stand for two minutes. -/
def ServiceEntry.timeLimit (e : ServiceEntry) : Duration :=
  (e.timeout.filter (· ≠ 0)).getD (Duration.ofSeconds 120)

/-- The time limit of a service, two minutes where there is no entry. -/
def ServiceRegistry.timeLimit (r : ServiceRegistry) (p : Protocol) : Duration :=
  (r.get? p).elim (Duration.ofSeconds 120) ServiceEntry.timeLimit

theorem ServiceEntry.effectiveTimeout_eq (e : ServiceEntry) : e.effectiveTimeout = e.timeLimit := by
  unfold effectiveTimeout timeLimit
  cases e.timeout with
  | none => rfl
  | some d => by_cases hd : d = 0 <;> simp [hd, defaultServiceTimeout, Option.filter]

/-! ## Switches -/

namespace Dut

variable {σ τ β : Type} {B : Backend σ τ} {d : Dut} {p : Protocol}

theorem connect_unserved (h : d.grpc.address p = "") (c : Context) (now : Instant) (o : DialOptions)
    (s : σ) : d.connect B p c now o s = (s, now, .error (.serviceNotRegistered p d.name)) := by
  rw [connect, ServiceRegistry.target_unserved h]

/-- All bounds of a registered service are its timeout. -/
theorem connect_registered {e : ServiceEntry} (he : d.grpc.get? p = some e)
    (haddress : e.address ≠ "") (c : Context) (now : Instant) (o : DialOptions) (s : σ) :
    d.connect B p c now o s =
      dialService B.dial c now d.name ⟨p, e.address, .uniform e.timeLimit⟩ o s := by
  rw [connect, ServiceRegistry.target_registered he haddress, e.effectiveTimeout_eq]

/-- A caller who has not given up has the address dialed, with options of the factory. -/
theorem connect_served {e : ServiceEntry} (he : d.grpc.get? p = some e) (haddress : e.address ≠ "")
    {c : Context} {now : Instant} (hbound : c.Boundable now e.timeLimit)
    (hlive : c.isCancelled now = false) (o : DialOptions) (s : σ) :
    ∃ o', (d.connect B p c now o s).1 = (B.dial e.address o' s).1 := by
  rw [connect_registered he haddress, dialService_live _ _ _ hbound hlive]
  exact ⟨_, rfl⟩

/-- Where the end of the time limit cannot be told, nothing is dialed. -/
theorem connect_aborted {e : ServiceEntry} (he : d.grpc.get? p = some e)
    (haddress : e.address ≠ "") {c : Context} {now : Instant}
    (hbound : ¬c.Boundable now e.timeLimit) (o : DialOptions) (s : σ) :
    d.connect B p c now o s = (s, now, .aborted) := by
  rw [connect_registered he haddress, dialService_aborted _ _ _ hbound]

theorem dialWith_unserved (h : d.grpc.address p = "")
    (make : Connection → σ → σ × Except Error β) (c : Context) (now : Instant) (o : DialOptions)
    (s : σ) : d.dialWith B p make c now o s =
      (s, now, .error (.serviceNotRegistered p d.name)) := by
  rw [dialWith, connect_unserved h]

theorem dialWith_aborted {e : ServiceEntry} (he : d.grpc.get? p = some e)
    (haddress : e.address ≠ "") {c : Context} {now : Instant}
    (hbound : ¬c.Boundable now e.timeLimit) (make : Connection → σ → σ × Except Error β)
    (o : DialOptions) (s : σ) : d.dialWith B p make c now o s = (s, now, .aborted) := by
  rw [dialWith, connect_aborted he haddress hbound]

/-- What making a client leaves alone is after the dial as the connection left it. -/
theorem dialWith_state {α : Type} {f : σ → α} {make : Connection → σ → σ × Except Error β}
    (hmake : ∀ conn s, f (make conn s).1 = f s) (c : Context) (now : Instant) (o : DialOptions)
    (s : σ) : f (d.dialWith B p make c now o s).1 = f (d.connect B p c now o s).1 := by
  rw [dialWith]
  rcases d.connect B p c now o s with ⟨s', later, conn | _ | _⟩
  · exact hmake conn s'
  · rfl
  · rfl

end Dut

end SwitchTestbed
