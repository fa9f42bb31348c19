import SwitchTestbed.Proofs.Backend.Watched
import SwitchTestbed.Proofs.Dial
import SwitchTestbed.Simulated.Backend

/-!
# The one attempt of a dial

* `Completed` : the options of a caller as the backend gets them (`completed_dialedOptions`);
* `OneAttempt` : a dial asks the backend once or not at all, and says what came of it;
* `Dut.dialWith_attempts` : so does every dial that makes a client over the connection;
* `Dut.of_dialWith` : where such a client comes from;
* `dials_attempt_once` : the main result, for the clients of all protocols.
-/

namespace SwitchTestbed

open Rpc

variable {σ τ β γ : Type}

/-! ## Options -/

/-- The options of a caller as the backend gets them, for a service with a timeout. -/
structure Completed (c : Context) (now : Instant) (timeout : Duration) (o o' : DialOptions) :
    Prop where
  userAgent : o'.userAgent = o.userAgent
  metadata : o'.metadata = o.metadata
  maxReceive : o'.maxReceive = some (20 * 1024 * 1024)
  unaryTimeout : o'.unaryTimeout = some (o.unaryTimeout.getD timeout)
  streamTimeout : o'.streamTimeout = some (o.streamTimeout.getD timeout)
  connectTimeout : ∃ k, o'.connectTimeout = some k ∧
    (∀ own, o.connectTimeout = some own → k ≤ own) ∧
    (∀ d, c.deadline = some d → k ≤ d - now) ∧
    (c.deadline = none → k = min timeout (o.connectTimeout.getD timeout))

theorem completed_dialedOptions (c : Context) (now : Instant) (p : Protocol) (address : String)
    (timeout : Duration) (o : DialOptions) :
    Completed c now timeout o (dialedOptions c now ⟨p, address, .uniform timeout⟩ o) where
  userAgent := rfl
  metadata := rfl
  maxReceive := rfl
  unaryTimeout := rfl
  streamTimeout := rfl
  connectTimeout := by
    refine ⟨_, connectTimeout_dialedOptions c now _ o, ?_, ?_, ?_⟩
    · intro own hown
      rw [hown]
      exact Nat.min_le_left own _
    · intro d hd
      rw [hd, Option.getD_some]
      cases o.connectTimeout with
      | none => exact Nat.le_refl _
      | some own => exact Nat.min_le_right own _
    · intro hnone
      have hleft : now + timeout - now = timeout := Nat.add_sub_cancel_left now timeout
      rw [hnone, Option.getD_none]
      cases o.connectTimeout with
      | none => exact hleft.trans (Nat.min_self timeout).symm
      | some own => exact (congrArg (min own) hleft).trans (Nat.min_comm own timeout)

/-! ## Dials of a switch -/

/-- The answer to a dial that ended so: a client, if there is a connection to make it over. -/
def clientAfter (make : Connection → σ → σ × Except Error β) (s : σ) (finish : Instant) :
    Except Error Connection → σ × Instant × Outcome Error β
  | .ok conn => ((make conn s).1, finish, .ofExcept (make conn s).2)
  | .error err => (s, finish, .error err)

namespace Dut

theorem dialWith_of_connect {B : Backend σ τ} {d : Dut} {p : Protocol}
    {make : Connection → σ → σ × Except Error β} {c : Context} {now finish : Instant}
    {o : DialOptions} {s s' : σ} {r : Except Error Connection}
    (h : d.connect B p c now o s = (s', finish, .ofExcept r)) :
    d.dialWith B p make c now o s = clientAfter make s' finish r := by
  rw [dialWith, h]
  cases r <;> rfl

end Dut

/-! ## One attempt -/

/-- A dial asks the backend once or not at all. Where the protocol has no address, and where the
caller has given up before, it does not; else it does so at the registered address, with the
completed options, and the caller learns how that ended. A timeout whose end cannot be told, with no
deadline to take its place, ends the program before. `watched` is the same dial through a watched
backend, and `make` makes the client over a connection. -/
structure OneAttempt (B : Backend σ τ) (d : Dut) (p : Protocol)
    (make : Connection → σ → σ × Except Error β)
    (dial : Context → Instant → DialOptions → σ → σ × Instant × Outcome Error β)
    (watched : Context → Instant → DialOptions → Watched σ → Watched σ × Instant × Outcome Error γ) :
    Prop where
  unserved : (∀ e, d.grpc.get? p = some e → e.address = "") → ∀ c now o w,
    dial c now o w.1 = (w.1, now, .error (.serviceNotRegistered p d.name)) ∧
      (watched c now o w).1 = w
  aborted : ∀ e, d.grpc.get? p = some e → e.address ≠ "" →
    ∀ c now o w, ¬c.Boundable now e.timeLimit →
      dial c now o w.1 = (w.1, now, .aborted) ∧ (watched c now o w).1 = w
  cancelled : ∀ e, d.grpc.get? p = some e → e.address ≠ "" →
    ∀ c now o w, c.Boundable now e.timeLimit → c.isCancelled now = true →
      dial c now o w.1 = (w.1, now, .error (.dial p d.name .cancelled)) ∧ (watched c now o w).1 = w
  attempted : ∀ e, d.grpc.get? p = some e → e.address ≠ "" →
    ∀ c now o w, c.Boundable now e.timeLimit → c.isCancelled now = false →
      ∃ o', Completed c now e.timeLimit o o' ∧
        (watched c now o w).1.2 = w.2 ++ [.dialed e.address o'] ∧
        let dialed := B.dial e.address o' w.1
        let ending := (c.bounded now e.timeLimit).run now dialed.2
        ∃ r, Reported p d.name ending.verdict r ∧
          dial c now o w.1 = clientAfter make dialed.1 ending.time r

namespace Dut

variable (B : Backend σ τ) (d : Dut)

/-- **Whoever dials through a backend makes one attempt**, if the client over the connection is made
without the backend. -/
theorem dialWith_attempts (p : Protocol) (make : Connection → σ → σ × Except Error β)
    {make' : Connection → Watched σ → Watched σ × Except Error γ}
    (hmake : ∀ conn w, (make' conn w).1.2 = w.2) :
    OneAttempt B d p make (d.dialWith B p make) (d.dialWith B.watched p make') where
  unserved hnone c now o w := by
    have haddress : d.grpc.address p = "" := by
      rw [ServiceRegistry.address_eq]
      cases he : d.grpc.get? p with
      | none => rfl
      | some e => simp [hnone e he]
    rw [dialWith_unserved haddress, dialWith_unserved haddress]
    exact ⟨rfl, rfl⟩
  aborted e he haddress c now o w hbound :=
    ⟨dialWith_aborted he haddress hbound make o w.1,
      congrArg Prod.fst (dialWith_aborted he haddress hbound make' o w)⟩
  cancelled e he haddress c now o w hbound hgiven := by
    have hconnect : ∀ {σ : Type} (B : Backend σ τ) (s : σ), d.connect B p c now o s =
        (s, now, .ofExcept (.error (.dial p d.name .cancelled))) := by
      intro σ B s
      rw [connect_registered he haddress, dialService_cancelled _ _ _ hbound hgiven]
      rfl
    exact ⟨dialWith_of_connect (hconnect B w.1),
      congrArg Prod.fst (dialWith_of_connect (hconnect B.watched w))⟩
  attempted e he haddress c now o w hbound hlive := by
    have hbounded : (c.bounded now e.timeLimit).isCancelled now = false := hlive
    have hconnect := connect_registered (B := B) he haddress c now o w.1
    rw [dialService_live _ _ _ hbound hlive] at hconnect
    refine ⟨_, completed_dialedOptions c now p e.address e.timeLimit o, ?_, _,
      Reported.of_run p d.name hbounded _, dialWith_of_connect hconnect⟩
    rw [dialWith_state hmake, connect_registered he haddress,
      dialService_live _ _ _ hbound hlive, dial_watched]

variable {B d} in
/-- **A client comes from a connection**, which the backend gave for the registered address and the
completed options. -/
theorem of_dialWith {p : Protocol} {make : Connection → σ → σ × Except Error β} {c : Context}
    {now : Instant} {o : DialOptions} {s : σ} {client : β}
    (h : (d.dialWith B p make c now o s).2.2 = .ok client) :
    ∃ e o' conn, d.grpc.get? p = some e ∧
      Completed c now e.timeLimit o o' ∧
      (B.dial e.address o' s).2.result = .ok conn ∧
      (make conn (B.dial e.address o' s).1).2 = .ok client := by
  have hattempt : OneAttempt B d p make (d.dialWith B p make)
      (d.dialWith B.watched p fun _ w => (w, (.ok () : Except Error Unit))) :=
    d.dialWith_attempts B p make fun _ _ => rfl
  by_cases hnone : ∀ e, d.grpc.get? p = some e → e.address = ""
  · rw [(hattempt.unserved hnone c now o (s, [])).1] at h
    cases h
  obtain ⟨e, hnot⟩ := Classical.not_forall.mp hnone
  obtain ⟨he, haddress⟩ := Classical.not_imp.mp hnot
  by_cases hbound : c.Boundable now e.timeLimit
  case neg =>
    rw [(hattempt.aborted e he haddress c now o (s, []) hbound).1] at h
    cases h
  cases hlive : c.isCancelled now with
  | true =>
    rw [(hattempt.cancelled e he haddress c now o (s, []) hbound hlive).1] at h
    cases h
  | false =>
    obtain ⟨o', hcompleted, -, r, hreported, hdial⟩ :=
      hattempt.attempted e he haddress c now o (s, []) hbound hlive
    rw [hdial] at h
    cases r with
    | error err => cases h
    | ok conn =>
      -- only work that has finished gives a connection, and it is the one of the backend
      have hresult : (B.dial e.address o' s).2.result = .ok conn := by
        have hbounded : (c.bounded now e.timeLimit).isCancelled now = false := hlive
        rcases Context.run_verdict hbounded (B.dial e.address o' s).2 with hv | hv | hv
        · rw [hv] at hreported
          generalize (B.dial e.address o' s).2.result = r at hreported
          cases hreported
          rfl
        · rw [hv] at hreported
          cases hreported
        · rw [hv] at hreported
          cases hreported
      exact ⟨e, o', conn, he, hcompleted, hresult, Outcome.ofExcept_eq_ok.mp h⟩

end Dut

/-! ## Main result -/

/-- **Every dial makes one attempt**, over any backend and whatever comes of it. -/
theorem dials_attempt_once (B : Backend σ τ) (d : Dut) :
    OneAttempt B d .gnmi
      (fun conn s =>
        ((B.clients.gnmi conn s).1, (B.clients.gnmi conn s).2.map Gnmi.Client.shielded))
      (d.dialGnmi B) (d.dialGnmi B.watched) ∧
    OneAttempt B d .gnoi
      (fun conn s => ((B.clients.gnoi conn s).1, (B.clients.gnoi conn s).2.map (·, conn)))
      (d.dialGnoi B) (d.dialGnoi B.watched) ∧
    OneAttempt B d .p4rt B.clients.p4rt (d.dialP4rt B) (d.dialP4rt B.watched) := by
  unfold Dut.dialGnmi Dut.dialGnoi Dut.dialP4rt
  exact ⟨d.dialWith_attempts B .gnmi _ fun _ _ => rfl,
    d.dialWith_attempts B .gnoi _ fun _ _ => rfl, d.dialWith_attempts B .p4rt _ fun _ _ => rfl⟩

/-- A switch that is reserved as "x" and whose P4Runtime has no timeout to speak of. -/
def leaf : Dut where
  id := "x"
  dims := { name := "leaf1" }
  grpc :=
    { gnoi := some ⟨"10.0.0.1:9339", some (Duration.ofSeconds 30)⟩
      p4rt := some ⟨"10.0.0.1:9559", some 0⟩ }

def refusingSimulation : Simulation :=
  { refusing := ["10.0.0.1:9559"], dialDelay := Duration.ofSeconds 1 }

/-- A dial that is refused is not tried again, and its one error names the host. -/
theorem dials_attempt_once_refused :
    (∃ o', Completed {} 0 (Duration.ofSeconds 120) {} o' ∧
      (leaf.dialP4rt simulatedBackend.watched {} 0 {} (refusingSimulation, [])).1.2 =
        [.dialed "10.0.0.1:9559" o']) ∧
    (leaf.dialP4rt simulatedBackend {} 0 {} refusingSimulation).2 =
      (Duration.ofSeconds 1,
        .error (.dial .p4rt "leaf1" (.transport (.refused "10.0.0.1:9559")))) := by
  obtain ⟨-, -, hp4rt⟩ := dials_attempt_once simulatedBackend leaf
  obtain ⟨o', hcompleted, hdeeds, -⟩ :=
    hp4rt.attempted _ rfl (by decide) {} 0 {} (refusingSimulation, []) (by decide) rfl
  -- a timeout of zero counts as none
  have htimeout : ServiceEntry.timeLimit ⟨"10.0.0.1:9559", some 0⟩ = Duration.ofSeconds 120 := by
    simp [ServiceEntry.timeLimit, Option.filter]
  rw [htimeout] at hcompleted
  exact ⟨⟨o', hcompleted, hdeeds⟩, rfl⟩

end SwitchTestbed
