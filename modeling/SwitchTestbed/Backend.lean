import SwitchTestbed.Config
import SwitchTestbed.Gnmi.Client
import SwitchTestbed.Gnoi
import SwitchTestbed.P4Runtime
import SwitchTestbed.Pool
import SwitchTestbed.Rpc.Connection

/-!
# Backends

Whoever owns the devices is a backend.

* `Stubs ω τ` : how the clients of each protocol are made over a connection; `ω` is the state they
  share and `τ` what a subscription knows about itself;
* `effectiveOptions` : the options of a caller with what the service and the context add;
* `dialService` : one dial within the bound of the service, or within the deadline that the caller
  brings. Whatever goes wrong is reported with the protocol and the device;
* `Console` : the near end of an open console;
* `Backend σ τ` : grants and takes back topologies and reaches their devices. `σ` is its state, and
  every operation is a step of it. Where clients and consoles are not given they are not supported;
* `inventoryBackend` : grants devices of a pool. Its connections carry calls, but dialing sends
  nothing; `Stock.ofConfig` is the stock that a configuration asks for.
-/

namespace SwitchTestbed

open Rpc

/-! ## Clients over connections -/

/-- How the clients of each protocol are made over a connection. -/
structure Stubs (ω τ : Type) where
  gnmi : Connection → ω → ω × Except Error (Gnmi.Client ω τ)
  gnoi : Connection → ω → ω × Except Error (Gnoi.Client ω)
  p4rt : Connection → ω → ω × Except Error (P4Runtime.Client ω)

/-- No clients over any connection. -/
def Stubs.unsupported {ω τ : Type} : Stubs ω τ :=
  { gnmi := fun _ s => (s, .error (.unsupported .gnmiClient))
    gnoi := fun _ s => (s, .error (.unsupported .gnoiClients))
    p4rt := fun _ s => (s, .error (.unsupported .p4rtClient)) }

/-- Stubs on a part of a state. -/
def Stubs.within {σ ω τ : Type} (p : Part σ ω) (S : Stubs ω τ) : Stubs σ τ :=
  { gnmi := fun conn s =>
      let (s, r) := p.lift (S.gnmi conn) s
      (s, r.map (·.within p))
    gnoi := fun conn s =>
      let (s, r) := p.lift (S.gnoi conn) s
      (s, r.map (·.within p))
    p4rt := fun conn s =>
      let (s, r) := p.lift (S.p4rt conn) s
      (s, r.map (·.within p)) }

/-! ## Dialing services -/

/-- Bytes of the largest message that is taken in over a dialed connection: 20 MiB. -/
def maxReceiveSize : Nat := 20 * 1024 * 1024

/-- The options of a caller with what the service and the context add. The connection may take no
longer than the context has left; deadlines of calls that the caller leaves open are those of the
service; the bound on messages is the same for all. -/
def effectiveOptions (c : Context) (now : Instant) (t : ServiceTarget) (o : DialOptions) :
    DialOptions :=
  let budget := (c.remaining now).getD t.timeouts.dial
  { o with
    connectTimeout := some (match o.connectTimeout with | some d => min d budget | none => budget)
    unaryTimeout := some (o.unaryTimeout.getD t.timeouts.unary)
    streamTimeout := some (o.streamTimeout.getD t.timeouts.stream)
    maxReceive := some maxReceiveSize }

/-- How something is dialed: at an address, with options, from a state. -/
abbrev Dialing (σ : Type) :=
  String → DialOptions → σ → σ × Work (Except Error Rpc.Connection)

/-- Dials a service of the device of the given name, once. -/
def dialService {σ : Type} (dial : Dialing σ) (c : Context) (now : Instant) (device : String)
    (t : ServiceTarget) (o : DialOptions) (s : σ) :
    σ × Instant × Outcome Error Rpc.Connection :=
  let (s, finish, r) := c.performWithin now t.timeouts.dial
    (fun c => dial t.address (effectiveOptions c now t o)) s
  (s, finish, r.mapError (.dial t.protocol device))

/-! ## Backends -/

/-- The near end of an open console. -/
inductive Console where
  /-- A stream to an address. -/
  | remote (address : String)
  /-- A pipe inside the program, by its number. -/
  | pipe (number : Nat)
  deriving DecidableEq, Repr, Inhabited

/-- Grants and takes back topologies and reaches their devices. -/
structure Backend (σ τ : Type) where
  /-- Grants devices for a testbed. A failure changes nothing. -/
  reserve : Context → Instant → Demand → σ → σ × Outcome Error Topology
  /-- Takes the granted devices back. -/
  release : σ → σ × Except Error Unit
  dial : Dialing σ
  clients : Stubs σ τ := .unsupported
  /-- Opens the console of a device. -/
  dialConsole : Context → Instant → Dims → σ → σ × Instant × Outcome Error Console :=
    fun _ now _ s => (s, now, .error (.unsupported .dialConsole))

/-! ## The backend over an inventory -/

/-- A pool of devices and the state of the clients over connections to them. -/
structure Stock (ω : Type) where
  pool : Pool
  clients : ω
  deriving DecidableEq, Inhabited

namespace Stock

/-- The clients of a stock. -/
def clientPart (ω : Type) : Part (Stock ω) ω := ⟨clients, fun w s => { s with clients := w }⟩

/-- The stock that a configuration asks for, its backend being known. -/
def ofConfig {ω : Type} (c : Config) (clients : ω) : Except Error (Stock ω) :=
  match c.backendKind with
  | .ok .pins => .ok ⟨⟨c.inventory, none⟩, clients⟩
  | .error e => .error e

end Stock

/-- No console can be reached. -/
def noConsoles (_ : String) : Work (Except String Console) :=
  .instantly (.error "Connection refused (os error 111)")

/-- Grants devices of the pool; consoles are reached by `connect`. -/
def inventoryBackend {ω τ : Type} (S : Stubs ω τ)
    (connect : String → Work (Except String Console)) : Backend (Stock ω) τ where
  reserve c now d s :=
    let (pool, r) := s.pool.reserve (c.isCancelled now) d
    ({ s with pool }, r)
  release s :=
    let (pool, r) := s.pool.release
    ({ s with pool }, r)
  dial address o s := (s, .instantly (Connection.channel address o))
  clients := S.within (Stock.clientPart ω)
  dialConsole c now dims s := (s, s.pool.dialConsole connect c now dims.name)

end SwitchTestbed
