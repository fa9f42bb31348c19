import SwitchTestbed.Backend
import SwitchTestbed.Gnmi.Recorder

/-!
# The simulated backend

It grants every testbed, with devices made up to fit it, and records what it is asked for.

* `Recordings` : what the clients of all protocols have seen, and the connections they were made
  over; `Recordings.stubs` are the same clients for every connection;
* `synthesize` : a topology made up for a testbed;
* `Simulation` : what has been asked for and what is going to fail;
* `simulatedBackend` : the backend; `bareBackend` leaves clients and consoles unsupported.
-/

namespace SwitchTestbed

open Rpc

/-! ## Clients that record -/

/-- What the clients of all protocols have seen. -/
structure Recordings where
  gnmi : Gnmi.Recorder := {}
  gnoi : Gnoi.Recorder := {}
  p4rt : P4Runtime.Recorder := {}
  /-- The address and the options of each connection that a client was made over. -/
  connections : List (String × DialOptions) := []
  deriving DecidableEq, Inhabited

namespace Recordings

/-- What the gNMI client has seen. -/
def gnmiPart : Part Recordings Gnmi.Recorder := ⟨gnmi, fun r s => { s with gnmi := r }⟩

/-- What the gNOI client has seen. -/
def gnoiPart : Part Recordings Gnoi.Recorder := ⟨gnoi, fun r s => { s with gnoi := r }⟩

/-- What the P4Runtime client has seen. -/
def p4rtPart : Part Recordings P4Runtime.Recorder := ⟨p4rt, fun r s => { s with p4rt := r }⟩

/-- One more client was made over the connection. -/
def connected (s : Recordings) (conn : Connection) : Recordings :=
  { s with connections := s.connections ++ [(conn.target, conn.options)] }

/-- The same clients for every connection. -/
def stubs : Stubs Recordings Gnmi.RecordedStream where
  gnmi conn s := (s.connected conn, .ok (Gnmi.Recorder.client.within gnmiPart))
  gnoi conn s := (s.connected conn, .ok (Gnoi.Recorder.client.within gnoiPart))
  p4rt conn s := (s.connected conn, .ok (P4Runtime.Recorder.client.within p4rtPart))

end Recordings

/-! ## Made-up devices -/

/-- The description of a made-up device. It is named like the requirement, and where that wishes
for nothing the vendor is "MOCK" and the rest is empty. -/
def synthesizeDims (r : DeviceRequirement) : Dims :=
  { name := r.id
    vendor := r.vendor.getD "MOCK"
    hardwareModel := r.hardwareModel.getD ""
    softwareVersion := r.softwareVersion.getD ""
    ports := .ofList (r.ports.zipIdx.map fun (p, i) =>
      (p.id, ⟨"Ethernet" ++ toString (8 * i), p.speed.getD .unspecified⟩)) }

/-- A made-up switch, which serves all protocols of switches. -/
def synthesizeDut (r : DeviceRequirement) : ReservedDevice :=
  { id := r.id
    dims := synthesizeDims r
    grpc := .ofList
      [(.gnmi, ⟨r.id ++ ":9339", none⟩), (.gnoi, ⟨r.id ++ ":9339", none⟩),
        (.p4rt, ⟨r.id ++ ":9559", none⟩)] }

/-- A made-up traffic generator. -/
def synthesizeAte (r : DeviceRequirement) : ReservedDevice :=
  { id := r.id, dims := synthesizeDims r, http := r.id ++ ":443" }

/-- A topology made up for a testbed. -/
def synthesize (t : Testbed) : Topology :=
  { id := "mock-reservation"
    duts := t.duts.map synthesizeDut
    ates := t.ates.map synthesizeAte }

/-! ## The state -/

/-- A pipe to the console of a device, as its far end sees it. -/
structure ConsolePipe where
  device : String
  number : Nat
  /-- What has been written at the near end. -/
  written : String := ""
  deriving DecidableEq, Repr, Inhabited

/-- What has been asked for, and what is going to fail. -/
structure Simulation where
  /-- Granted instead of a made-up topology. -/
  topology : Option Topology := none
  /-- The next reservation fails for this reason. -/
  refusal : Option String := none
  /-- Addresses that refuse to be dialed. -/
  refusing : List String := []
  /-- How long a dial takes. -/
  dialDelay : Duration := 0
  /-- The dials so far, with their options. -/
  dials : List (String × DialOptions) := []
  /-- The testbeds for which devices were granted. -/
  testbeds : List Testbed := []
  reserves : Nat := 0
  releases : Nat := 0
  clients : Recordings := {}
  /-- Far ends of open consoles that nobody has taken. -/
  pipes : List ConsolePipe := []
  /-- Number of consoles opened so far. -/
  opened : Nat := 0
  deriving DecidableEq, Inhabited

namespace Simulation

/-- The clients of a simulation. -/
def clientPart : Part Simulation Recordings := ⟨clients, fun r s => { s with clients := r }⟩

/-- The next reservation fails. -/
def failNextReserve (s : Simulation) (reason : String) : Simulation :=
  { s with refusal := some reason }

/-- Dials to an address fail. -/
def failDial (s : Simulation) (address : String) : Simulation :=
  { s with refusing := address :: s.refusing }

/-- Every dial takes a while. -/
def setDialDelay (s : Simulation) (d : Duration) : Simulation := { s with dialDelay := d }

/-- Grants the fixed topology or one made up for the testbed. -/
def reserve (s : Simulation) (t : Testbed) : Simulation × Outcome Error Topology :=
  match s.refusal with
  | some reason => ({ s with refusal := none }, .error (.allocation (.stated reason)))
  | none =>
    ({ s with reserves := s.reserves + 1, testbeds := s.testbeds ++ [t] },
      .ok (s.topology.getD (synthesize t)))

/-- Takes the devices back. -/
def release (s : Simulation) : Simulation × Except Error Unit :=
  ({ s with releases := s.releases + 1 }, .ok ())

/-- Dials an address; the connection carries no calls. -/
def dial : Dialing Simulation := fun address o s =>
  ({ s with dials := s.dials ++ [(address, o)] },
    .behindSleep s.dialDelay
      (if s.refusing.contains address then .error (.transport (.refused address))
      else .ok ⟨address, o, none⟩))

/-- Opens a console. -/
def dialConsole (s : Simulation) (device : String) : Simulation × Console :=
  ({ s with pipes := s.pipes ++ [⟨device, s.opened, ""⟩], opened := s.opened + 1 },
    .pipe s.opened)

/-- Writes at the near end of a console. -/
def writeConsole (s : Simulation) (number : Nat) (text : String) : Simulation :=
  { s with pipes := s.pipes.map fun p =>
      if p.number = number then { p with written := p.written ++ text } else p }

/-- Takes the far end of the console that was opened last to a device. -/
def takeConsole (s : Simulation) (device : String) : Simulation × Option ConsolePipe :=
  match s.pipes.reverse.find? fun p => p.device = device with
  | some p => ({ s with pipes := s.pipes.erase p }, some p)
  | none => (s, none)

end Simulation

/-! ## The backend -/

/-- The simulated backend without clients and consoles. -/
def bareBackend : Backend Simulation Gnmi.RecordedStream where
  reserve _ _ d s := s.reserve d.testbed
  release s := s.release
  dial := Simulation.dial

/-- The simulated backend. -/
def simulatedBackend : Backend Simulation Gnmi.RecordedStream :=
  { bareBackend with
    clients := Recordings.stubs.within Simulation.clientPart
    dialConsole := fun _ now dims s =>
      let (s, console) := s.dialConsole dims.name
      (s, now, .ok console) }

end SwitchTestbed
