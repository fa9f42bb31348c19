import SwitchTestbed.Backend
import SwitchTestbed.Proofs.Dial.Attempt
import SwitchTestbed.Proofs.Remote.Observed
import SwitchTestbed.Remote.Channel

/-!
# Clients of dialed services

* `CallProperty`, `Gnmi.Client.Calls`, `Gnoi.Client.Calls`, `P4Runtime.Client.Calls` : every call of
  a client has a property;
* `Gnmi.Client.Subscribed` : a subscription after any calls on it;
* `callBound` : the bound of the calls over a dialed connection;
* `Dut.of_dialGnmi`, `Dut.of_dialGnoi`, `Dut.of_dialP4rt` : over an inventory a client makes its
  calls over a channel with that bound, and `Remote.Channel.calls` : so they are what the channel
  does.
-/

namespace SwitchTestbed

open Remote Rpc

variable {σ τ ω κ : Type}

/-- The calls that have arrived at the peer of a stock. -/
def Stock.arrived (s : Stock (Observed ω)) : List Sighting := s.clients.2

/-! ## Every call of a client -/

/-- A property of a call, given its kind, its metadata and what arrives of it. -/
abbrev CallProperty (σ : Type) := CallKind → Metadata → Received → (β : Type) → Exchange σ β → Prop

/-- A `set` is a call only if its documents can be wrapped. -/
structure Gnmi.Client.Calls (client : Gnmi.Client σ τ) (P : CallProperty σ) : Prop where
  capabilities : ∀ q, P .unary q.metadata .gnmiCapabilities _ (client.capabilities q)
  get : ∀ q, P .unary q.metadata (.gnmiGet q.message) _ (client.get q)
  set : ∀ q m, q.message.wrapped = .ok m → P .unary q.metadata (.gnmiSet m) _ (client.set q)
  refused : ∀ q e, q.message.wrapped = .error e → ∀ s, client.set q s = (s, .error e.status)

@[inherit_doc Gnmi.Client.Calls]
structure Gnoi.Client.Calls (client : Gnoi.Client σ) (P : CallProperty σ) : Prop where
  time : ∀ q, P .unary q.metadata .gnoiTime _ (client.time q)
  reboot : ∀ q, P .unary q.metadata (.gnoiReboot q.message) _ (client.reboot q)
  rebootStatus : ∀ q, P .unary q.metadata .gnoiRebootStatus _ (client.rebootStatus q)

structure P4Runtime.Client.Calls (client : P4Runtime.Client σ) (P : CallProperty σ) : Prop where
  write : ∀ q, P .unary q.metadata (.p4Write q.message) _ (client.write q)
  read : ∀ q, P .streaming q.metadata (.p4Read q.message) _ (client.read q)
  capabilities : ∀ q, P .unary q.metadata .p4Capabilities _ (client.capabilities q)

/-- A subscription that a request has opened, and whether it has been started since. Between the
calls on it anything may happen to what it shares with others. -/
inductive Gnmi.Client.Subscribed (client : Gnmi.Client σ τ) (q : Request Unit) :
    Bool → τ → Prop where
  | opened {s : σ} {t : τ} (h : (client.subscribe q s).2 = .ok t) : Subscribed client q false t
  | used {started : Bool} {t : τ} (h : Subscribed client q started t) (x : StreamCall) (s : σ) :
      Subscribed client q (started || x.starts) (client.stream.after x (s, t)).2

/-! ## Over a channel -/

namespace Remote.Channel

variable (c : Channel) (peer : Peer ω κ)

/-- The clients over a channel, as switches hand them out. -/
def gnmiClient : Gnmi.Client (Stock ω) (Subscription κ) :=
  ((c.gnmi peer).within (Stock.clientPart ω)).shielded

@[inherit_doc gnmiClient] def gnoiClient : Gnoi.Client (Stock ω) :=
  (c.gnoi peer).within (Stock.clientPart ω)

@[inherit_doc gnmiClient] def p4rtClient : P4Runtime.Client (Stock ω) :=
  (c.p4rt peer).within (Stock.clientPart ω)

variable {c peer}

/-- **What holds of the calls of a channel holds of those of its clients.** -/
theorem calls {P : CallProperty (Stock ω)}
    (hcall : ∀ {α β : Type} (u : Unary α β) (q : Request α), P .unary q.metadata
      (SimulatedSwitch.received u q.message) β ((Stock.clientPart ω).lift (c.call peer u q)))
    (hread : ∀ q, P .streaming q.metadata (.p4Read q.message) _
      ((Stock.clientPart ω).lift (c.read peer q))) :
    (c.gnmiClient peer).Calls P ∧ (c.gnoiClient peer).Calls P ∧ (c.p4rtClient peer).Calls P := by
  refine ⟨⟨hcall .gnmiCapabilities, hcall .gnmiGet, ?_, ?_⟩,
    ⟨hcall .gnoiTime, hcall .gnoiReboot, hcall .gnoiRebootStatus⟩,
    ⟨hcall .p4Write, hread, hcall .p4Capabilities⟩⟩
  · intro q m hm
    have hset : (c.gnmiClient peer).set q =
        (Stock.clientPart ω).lift (c.call peer .gnmiSet { q with message := m }) := by
      funext s
      simp only [gnmiClient, Gnmi.Client.shielded, hm]
      rfl
    rw [hset]
    exact hcall .gnmiSet { q with message := m }
  · intro q e he s
    simp only [gnmiClient, Gnmi.Client.shielded, he]

theorem subscribe_gnmiClient {q q' : Request Unit} (h : c.defaults.begun .streaming q = .ok q')
    (s : Stock ω) : (c.gnmiClient peer).subscribe q s =
      (s, .ok { phase := .pending (c.head q'.metadata) }) := by
  have hstreaming : c.defaults.streaming q = .ok q' := h
  show (s, (c.defaults.streaming q).map fun r => _) = _
  rw [hstreaming]
  rfl

theorem subscribe_gnmiClient_aborted {q : Request Unit}
    (h : c.defaults.begun .streaming q = .aborted) (s : Stock ω) :
    (c.gnmiClient peer).subscribe q s = (s, .aborted) := by
  have hstreaming : c.defaults.streaming q = .aborted := h
  show (s, (c.defaults.streaming q).map fun r => _) = _
  rw [hstreaming]
  rfl

end Remote.Channel

/-! ## Dialed clients -/

/-- The bound of the calls of a kind over a dialed connection: that of the caller, or else that of
the service, two minutes where it states none or zero. -/
def callBound (o : DialOptions) (e : ServiceEntry) (kind : CallKind) : Duration :=
  (match kind with
  | .unary => o.unaryTimeout
  | .streaming => o.streamTimeout).getD e.timeLimit

theorem Rpc.Connection.of_channel {address : String} {o : DialOptions} {conn : Connection}
    (h : Connection.channel address o = .ok conn) :
    ∃ defaults, CallDefaults.ofOptions o = .ok defaults ∧ conn.calls = some defaults := by
  unfold Connection.channel at h
  split at h
  · cases h
  split at h
  · cases h
  cases hdefaults : CallDefaults.ofOptions o with
  | error e => simp [hdefaults] at h
  | ok defaults =>
    rw [hdefaults] at h
    cases h
    exact ⟨defaults, rfl, rfl⟩

namespace Dut

variable {S : Stubs ω τ} {peer : Peer ω κ} {connect : String → Work (Except String Console)}
  {d : Dut} {p : Protocol} {c : Context} {now : Instant} {o : DialOptions} {s : Stock ω}

/-- **Over an inventory a client comes from a channel** with the bounds and the metadata of the
dial. -/
theorem of_dialWith_inventory {β : Type} {make : Connection → Stock ω → Stock ω × Except Error β}
    {client : β}
    (h : (d.dialWith (inventoryBackend S connect) p make c now o s).2.2 = .ok client) :
    ∃ (e : ServiceEntry) (ch : Channel) (conn : Connection) (s' : Stock ω),
      d.grpc.get? p = some e ∧ Preset ch.defaults o.metadata (callBound o e) ∧
      Channel.ofConnection conn = .ok ch ∧ (make conn s').2 = .ok client := by
  obtain ⟨e, o', conn, he, hcompleted, hconn, hmake⟩ := of_dialWith h
  obtain ⟨defaults, hdefaults, hcalls⟩ := Connection.of_channel hconn
  have hpreset : Preset defaults o'.metadata (callBound o e) :=
    .of_ofOptions hdefaults hcompleted.unaryTimeout hcompleted.streamTimeout
  refine ⟨e, ⟨defaults, conn.options.userAgent⟩, conn, _, he, hcompleted.metadata ▸ hpreset, ?_,
    hmake⟩
  rw [Channel.ofConnection, Connection.defaults, hcalls]
  rfl

theorem of_dialGnmi {client : Gnmi.Client (Stock ω) (Subscription κ)}
    (h : (d.dialGnmi (inventoryBackend peer.stubs connect) c now o s).2.2 = .ok client) :
    ∃ (e : ServiceEntry) (ch : Channel), d.grpc.get? .gnmi = some e ∧
      Preset ch.defaults o.metadata (callBound o e) ∧
      client = ch.gnmiClient peer := by
  obtain ⟨e, ch, conn, s', he, hpreset, hch, hmake⟩ := of_dialWith_inventory h
  have hclient : (((Channel.ofConnection conn).map (·.gnmi peer)).map
      (·.within (Stock.clientPart ω))).map Gnmi.Client.shielded = .ok client := hmake
  rw [hch] at hclient
  cases hclient
  exact ⟨e, ch, he, hpreset, rfl⟩

theorem of_dialGnoi {client : Gnoi.Client (Stock ω) × Connection}
    (h : (d.dialGnoi (inventoryBackend peer.stubs connect) c now o s).2.2 = .ok client) :
    ∃ (e : ServiceEntry) (ch : Channel), d.grpc.get? .gnoi = some e ∧
      Preset ch.defaults o.metadata (callBound o e) ∧
      client.1 = ch.gnoiClient peer := by
  obtain ⟨e, ch, conn, s', he, hpreset, hch, hmake⟩ := of_dialWith_inventory h
  have hclient : (((Channel.ofConnection conn).map (·.gnoi peer)).map
      (·.within (Stock.clientPart ω))).map (·, conn) = .ok client := hmake
  rw [hch] at hclient
  cases hclient
  exact ⟨e, ch, he, hpreset, rfl⟩

theorem of_dialP4rt {client : P4Runtime.Client (Stock ω)}
    (h : (d.dialP4rt (inventoryBackend peer.stubs connect) c now o s).2.2 = .ok client) :
    ∃ (e : ServiceEntry) (ch : Channel), d.grpc.get? .p4rt = some e ∧
      Preset ch.defaults o.metadata (callBound o e) ∧
      client = ch.p4rtClient peer := by
  obtain ⟨e, ch, conn, s', he, hpreset, hch, hmake⟩ := of_dialWith_inventory h
  have hclient : ((Channel.ofConnection conn).map (·.p4rt peer)).map
      (·.within (Stock.clientPart ω)) = .ok client := hmake
  rw [hch] at hclient
  cases hclient
  exact ⟨e, ch, he, hpreset, rfl⟩

end Dut

/-- A simulated switch under observation, and no consoles. -/
def switchBackend :
    Backend (Stock (Observed SimulatedSwitch)) (Subscription SimulatedSwitch.Listening) :=
  inventoryBackend SimulatedSwitch.peer.observed.stubs noConsoles

/-- Its state before any call. -/
def freshStock : Stock (Observed SimulatedSwitch) := ⟨{ inventory := {} }, ({}, [])⟩

end SwitchTestbed
