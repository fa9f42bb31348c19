import SwitchTestbed.Backend
import SwitchTestbed.Reservation.Basic

/-!
# Dialing reserved switches

* `Dut.connect` : looks a protocol up and dials it through the backend;
* `Dut.dialGnmi`, `Dut.dialGnoi`, `Dut.dialP4rt` : clients over such a connection; that of gNMI is
  shielded;
* `Dut.dialConsole` : the console, which the backend knows how to reach.
-/

namespace SwitchTestbed

open Rpc

namespace Dut

variable {σ τ : Type}

/-- Dials a service of the switch. -/
def connect (d : Dut) (B : Backend σ τ) (p : Protocol) (c : Context) (now : Instant)
    (o : DialOptions) (s : σ) : σ × Instant × Outcome Error Connection :=
  match d.grpc.target d.name p with
  | .error e => (s, now, .error e)
  | .ok t => dialService B.dial c now d.name t o s

/-- Dials a service and makes a client over the connection. -/
def dialWith {β : Type} (d : Dut) (B : Backend σ τ) (p : Protocol)
    (make : Connection → σ → σ × Except Error β) (c : Context) (now : Instant) (o : DialOptions)
    (s : σ) : σ × Instant × Outcome Error β :=
  match d.connect B p c now o s with
  | (s, now, .ok conn) =>
    let (s, r) := make conn s
    (s, now, .ofExcept r)
  | (s, now, .error e) => (s, now, .error e)
  | (s, now, .aborted) => (s, now, .aborted)

/-- A gNMI client that gives the switch documents and streams as it wants them. -/
def dialGnmi (d : Dut) (B : Backend σ τ) (c : Context) (now : Instant) (o : DialOptions) (s : σ) :
    σ × Instant × Outcome Error (Gnmi.Client σ τ) :=
  d.dialWith B .gnmi
    (fun conn s =>
      let (s, r) := B.clients.gnmi conn s
      (s, r.map Gnmi.Client.shielded))
    c now o s

/-- A gNOI client and the connection below it. -/
def dialGnoi (d : Dut) (B : Backend σ τ) (c : Context) (now : Instant) (o : DialOptions) (s : σ) :
    σ × Instant × Outcome Error (Gnoi.Client σ × Connection) :=
  d.dialWith B .gnoi
    (fun conn s =>
      let (s, r) := B.clients.gnoi conn s
      (s, r.map fun client => (client, conn)))
    c now o s

/-- A P4Runtime client. -/
def dialP4rt (d : Dut) (B : Backend σ τ) (c : Context) (now : Instant) (o : DialOptions) (s : σ) :
    σ × Instant × Outcome Error (P4Runtime.Client σ) :=
  d.dialWith B .p4rt B.clients.p4rt c now o s

/-- The console of the switch. -/
def dialConsole (d : Dut) (B : Backend σ τ) (c : Context) (now : Instant) (s : σ) :
    σ × Instant × Outcome Error Console :=
  B.dialConsole c now d.dims s

end Dut

end SwitchTestbed
