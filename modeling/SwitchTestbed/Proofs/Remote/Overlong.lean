import SwitchTestbed.Proofs.Binding.Dialed
import SwitchTestbed.Proofs.Remote.Clients

/-!
# Calls that end the program

A bound of more than 99999999 whole hours cannot be written, and a call that has to tell it ends the
program. The check of a configuration accepts such timeouts.

* `Proceeds` : a call arrives, or ends the program if it cannot tell its timeout
  (`Remote.Channel.calls_proceed`);
* `ofMillis_overlong_iff` : which configured timeouts cannot be written;
* `reserved_calls_proceed_unless_overlong` : so it is for the calls to every switch of a checked
  configuration;
* `overlong_timeout_ends_program` : one that passes the check and ends the program.
-/

namespace SwitchTestbed

open Remote Rpc

variable {ω κ τ : Type}

/-- A call that can tell its timeout arrives once, and the program goes on; one that cannot changes
nothing and ends the program. -/
def Proceeds (given : StringMap String) (bound : CallKind → Duration) :
    CallProperty (Stock (Observed ω)) := fun kind m received _ call => ∀ s,
  (Sendable given (bound kind) m → (call s).2 ≠ .aborted ∧
    ∃ head, (call s).1.arrived = s.arrived ++ [⟨some head, received⟩]) ∧
  (¬Sendable given (bound kind) m → call s = (s, .aborted))

/-- The same for subscriptions, which arrive later. -/
def Gnmi.Client.SubscriptionsProceed (client : Gnmi.Client (Stock (Observed ω)) τ)
    (given : StringMap String) (bound : CallKind → Duration) : Prop :=
  ∀ q s, (Sendable given (bound .streaming) q.metadata → ∃ t, client.subscribe q s = (s, .ok t)) ∧
    (¬Sendable given (bound .streaming) q.metadata → client.subscribe q s = (s, .aborted))

theorem lift_aborted {ω β : Type} {call : Exchange ω β} {s : Stock ω}
    (h : call s.clients = (s.clients, .aborted)) :
    (Stock.clientPart ω).lift call s = (s, .aborted) := by
  have hclients : (Stock.clientPart ω).get s = s.clients := rfl
  rw [Part.lift, hclients, h]
  rfl

namespace Remote.Channel

variable {c : Channel} {peer : Peer ω κ} {given : StringMap String} {bound : CallKind → Duration}

/-- **Every call of the clients of a channel goes on**, unless it cannot tell its timeout. -/
theorem calls_proceed (h : Preset c.defaults given bound) :
    (c.gnmiClient peer.observed).Calls (Proceeds given bound) ∧
      (c.gnoiClient peer.observed).Calls (Proceeds given bound) ∧
      (c.p4rtClient peer.observed).Calls (Proceeds given bound) := by
  refine calls ?_ ?_
  · intro α β u q s
    constructor
    · intro hs
      obtain ⟨head, -, harrived, hgoes⟩ := call_arrives peer (u := u) h hs s.clients
      exact ⟨hgoes, head, harrived⟩
    · intro hs
      exact lift_aborted (call_aborted peer.observed (h.overlong hs) s.clients)
  · intro q s
    constructor
    · intro hs
      obtain ⟨head, -, harrived, hgoes⟩ := read_arrives peer h hs s.clients
      exact ⟨hgoes, head, harrived⟩
    · intro hs
      exact lift_aborted (read_aborted peer.observed (h.overlong hs) s.clients)

theorem subscriptions_proceed (h : Preset c.defaults given bound) :
    (c.gnmiClient peer.observed).SubscriptionsProceed given bound := by
  intro q s
  constructor
  · intro hs
    obtain ⟨m, hbegun, -, -⟩ := h.sendable hs
    exact ⟨_, subscribe_gnmiClient hbegun s⟩
  · intro hs
    exact subscribe_gnmiClient_aborted (h.overlong hs) s

end Remote.Channel

/-! ## Configured timeouts -/

theorem ofMillis_overlong_iff (n : Nat) :
    99999999 < Duration.ofMillis n / Duration.hour ↔ 360000000000000 ≤ n := by
  have hhour : Duration.hour = 3600000 * Duration.milli := by decide
  have hmilli : 0 < Duration.milli := by decide
  rw [Duration.ofMillis, hhour, Nat.mul_div_mul_right n 3600000 hmilli]
  exact Nat.le_div_iff_mul_le (k := 3600000) (x := 100000000) (by decide)

theorem inventory_validate_of_validate {cfg : Config} (h : cfg.validate = .ok ()) :
    cfg.inventory.validate = .ok () := by
  unfold Config.validate at h
  cases hkind : cfg.backendKind with
  | error e =>
    rw [hkind] at h
    cases h
  | ok kind =>
    rw [hkind] at h
    exact h

/-! ## Main result -/

/-- **Calls to the switches of a checked configuration go on unless their bound is overlong.**
Whatever a binding over the configured devices has been through, a switch that it holds has the
services of the one device of its name, and what a client of one of them is asked for either arrives
once or, if neither the request nor the metadata of the dial tells a timeout and the bound cannot be
written, ends the program. A configured timeout cannot be written from 360000000000000 milliseconds
on. -/
theorem reserved_calls_proceed_unless_overlong (peer : Peer ω κ)
    (connect : String → Work (Except String Console)) (cfg : Config) (hvalid : cfg.validate = .ok ())
    (b : Binding (Stock (Observed ω)))
    (hreached : b.Reached (inventoryBackend peer.observed.stubs connect)
      fun s => s.pool.inventory = cfg.inventory)
    (id : String) (d : Dut) (hd : b.dut? id = some d) :
    let B := inventoryBackend peer.observed.stubs connect
    (∃ e ∈ cfg.inventory.devices, e.role = .dut ∧ e.name = d.name ∧
      (∀ e' ∈ cfg.inventory.devices, e'.name = d.name → e' = e) ∧
      ∀ c now o s,
        (∀ client, (d.dialGnmi B c now o s).2.2 = .ok client → ∃ svc, e.services.gnmi = some svc ∧
          client.Calls (Proceeds o.metadata (callBound o svc.entry)) ∧
          client.SubscriptionsProceed o.metadata (callBound o svc.entry)) ∧
        (∀ client conn, (d.dialGnoi B c now o s).2.2 = .ok (client, conn) →
          ∃ svc, e.services.gnoi = some svc ∧
            client.Calls (Proceeds o.metadata (callBound o svc.entry))) ∧
        ∀ client, (d.dialP4rt B c now o s).2.2 = .ok client → ∃ svc, e.services.p4rt = some svc ∧
          client.Calls (Proceeds o.metadata (callBound o svc.entry))) ∧
    ∀ n : Nat, 99999999 < Duration.ofMillis n / Duration.hour ↔ 360000000000000 ≤ n := by
  intro B
  refine ⟨?_, ofMillis_overlong_iff⟩
  obtain ⟨e, he, hrole, hname, hservices⟩ := device_of_held hreached hd
  have hentry : ∀ {p entry}, d.grpc.get? p = some entry →
      ∃ svc, e.services.configured p = some svc ∧ svc.entry = entry := by
    intro p entry hget
    rw [hservices p] at hget
    exact Option.map_eq_some_iff.mp hget
  refine ⟨e, he, hrole, hname, fun e' he' hname' =>
    Inventory.eq_of_name_eq (inventory_validate_of_validate hvalid) he' he
      (hname'.trans hname.symm), fun c now o s => ⟨?_, ?_, ?_⟩⟩
  · intro client h
    obtain ⟨entry, ch, hget, hpreset, rfl⟩ := Dut.of_dialGnmi h
    obtain ⟨svc, hsvc, rfl⟩ := hentry hget
    exact ⟨svc, hsvc, (Channel.calls_proceed hpreset).1, Channel.subscriptions_proceed hpreset⟩
  · intro client conn h
    obtain ⟨entry, ch, hget, hpreset, rfl⟩ := Dut.of_dialGnoi h
    obtain ⟨svc, hsvc, rfl⟩ := hentry hget
    exact ⟨svc, hsvc, (Channel.calls_proceed hpreset).2.1⟩
  · intro client h
    obtain ⟨entry, ch, hget, hpreset, rfl⟩ := Dut.of_dialP4rt h
    obtain ⟨svc, hsvc, rfl⟩ := hentry hget
    exact ⟨svc, hsvc, (Channel.calls_proceed hpreset).2.2⟩

/-- One switch, whose gNOI has the longest timeout that can be configured. -/
def patient : Config where
  inventory.devices :=
    [{ id := "s1", name := "leaf1",
       services :=
        { gnoi := some ⟨"10.0.0.1:9339", some 18446744073709551615⟩
          p4rt := some ⟨"10.0.0.1:9559", some 30000⟩ } }]

/-- What is asked for when it is reserved. -/
def patientDemand : Demand where
  testbed.duts := [{ id := "a" }]
  freshId := "r1"
  today := 0

/-- The switch as it is reserved. -/
def patientDut : Dut :=
  (Placement.reserved patient.inventory.devices[0] patientDemand.testbed.duts[0] []).toDut

/-- A binding that holds it. -/
def patientHeld : Binding (Stock (Observed SimulatedSwitch)) :=
  (Binding.call switchBackend ⟨⟨⟨patient.inventory, none⟩, ({}, [])⟩, none⟩
    (.reserve {} 0 ∅ patientDemand)).1

theorem patientHeld_dut : patientHeld.dut? "a" = some patientDut := by
  have hplace : Pool.place ⟨patient.inventory, none⟩ patientDemand.testbed =
      .ok ([Placement.reserved patient.inventory.devices[0] patientDemand.testbed.duts[0] []], [],
        ["s1"]) :=
    Pool.place_of_sorted ["s1"] (by decide) (by decide) rfl rfl
  have hgrant : switchBackend.reserve {} 0 patientDemand ⟨⟨patient.inventory, none⟩, ({}, [])⟩ =
      (⟨⟨patient.inventory, some ⟨"r1", ["s1"]⟩⟩, ({}, [])⟩,
        .ok ⟨"r1", [Placement.reserved patient.inventory.devices[0]
          patientDemand.testbed.duts[0] []], [], none⟩) :=
    stock_reserve_placed SimulatedSwitch.peer.observed.stubs _ rfl rfl hplace rfl
  simp only [patientHeld, Binding.call]
  rw [Binding.reserve_granted rfl rfl hgrant rfl]
  rfl

theorem reached_patientHeld :
    patientHeld.Reached switchBackend fun s => s.pool.inventory = patient.inventory := by
  have hstart : Binding.Reached switchBackend (fun s => s.pool.inventory = patient.inventory)
      ⟨⟨⟨patient.inventory, none⟩, ({}, [])⟩, none⟩ := .start rfl
  exact hstart.call _

theorem patientDut_dialGnoi : ∃ client conn,
    (patientDut.dialGnoi switchBackend {} 0 {} patientHeld.backend).2.2 = .ok (client, conn) :=
  ⟨_, _, rfl⟩

/-- Its P4Runtime, which has thirty seconds, answers calls. -/
theorem reserved_calls_proceed_unless_overlong_patient :
    patient.validate = .ok () ∧ patientHeld.dut? "a" = some patientDut ∧
    ∃ client, (patientDut.dialP4rt switchBackend {} 0 {} patientHeld.backend).2.2 = .ok client ∧
      ∀ s, (client.capabilities ⟨{}, []⟩ s).2 ≠ .aborted := by
  have hdial : ∃ client,
      (patientDut.dialP4rt switchBackend {} 0 {} patientHeld.backend).2.2 = .ok client := ⟨_, rfl⟩
  obtain ⟨client, hdial⟩ := hdial
  obtain ⟨⟨e, he, -, -, -, hcalls⟩, -⟩ := reserved_calls_proceed_unless_overlong
    SimulatedSwitch.peer noConsoles patient rfl patientHeld
    reached_patientHeld "a" patientDut patientHeld_dut
  obtain ⟨svc, hsvc, hclient⟩ := (hcalls {} 0 {} patientHeld.backend).2.2 client hdial
  have hsendable : Sendable ∅ (callBound {} svc.entry .unary) [] := by
    obtain rfl := List.mem_singleton.mp he
    cases hsvc
    exact Or.inr (by decide)
  exact ⟨rfl, patientHeld_dut, client, hdial,
    fun s => ((hclient.capabilities ⟨{}, []⟩ s).1 hsendable).1⟩

/-- **A timeout that passes the check ends the program**, at the first call to gNOI. -/
theorem overlong_timeout_ends_program :
    patient.validate = .ok () ∧ patientHeld.dut? "a" = some patientDut ∧
    ∃ client conn,
      (patientDut.dialGnoi switchBackend {} 0 {} patientHeld.backend).2.2 = .ok (client, conn) ∧
      ∀ s, client.time ⟨{}, []⟩ s = (s, .aborted) := by
  obtain ⟨client, conn, hdial⟩ := patientDut_dialGnoi
  obtain ⟨entry, ch, hget, hpreset, rfl⟩ := Dut.of_dialGnoi hdial
  cases hget
  have hoverlong : ¬Sendable ∅ (Duration.ofMillis 18446744073709551615) [] := by
    rintro (h | h)
    · exact h rfl
    · exact absurd h (by decide)
  exact ⟨rfl, patientHeld_dut, _, conn, hdial,
    fun s => ((Channel.calls_proceed hpreset).2.1.time ⟨{}, []⟩ s).2 hoverlong⟩

end SwitchTestbed
