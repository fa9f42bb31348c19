import SwitchTestbed.Resolved
import SwitchTestbed.Service

/-!
# Reservations

* `Timestamp` : a point of time on the wall clock;
* `ReservedDevice`, `Topology` : what the owner of the devices grants;
* `Dut`, `Ate` : a reserved switch and a reserved traffic generator;
* `Reservation` : the reserved devices by the identifiers of their requirements;
* `Reservation.ofTopology` : those of a granted topology, unless two devices of one role have the
  same identifier;
* `Reservation.resolve` : what is published about a reservation. Every device has to stand under
  its own identifier. Of a switch these are gNMI and P4Runtime, whether or not they are registered.
-/

namespace SwitchTestbed

/-! ## Granted topologies -/

/-- Nanoseconds since the start of 1970. -/
abbrev Timestamp := Nat

/-- A granted device. -/
structure ReservedDevice where
  /-- Identifier of the requirement that the device meets. -/
  id : String
  dims : Dims := {}
  /-- Services that are reached by calls. -/
  grpc : ServiceRegistry := {}
  /-- Address for HTTP through a tunnel; empty where there is none. -/
  http : String := ""
  deriving DecidableEq, Repr, Inhabited

/-- Granted devices under one reservation. -/
structure Topology where
  id : String
  duts : List ReservedDevice := []
  ates : List ReservedDevice := []
  /-- When the devices are taken back, if that is known. -/
  expiresAt : Option Timestamp := none
  deriving DecidableEq, Repr, Inhabited

namespace Topology

/-- The granted devices of one role. -/
def devices (t : Topology) : Role → List ReservedDevice
  | .dut => t.duts
  | .ate => t.ates

end Topology

/-! ## Reservations -/

/-- A reserved switch. -/
structure Dut where
  id : String
  dims : Dims
  /-- Services that are reached by calls. -/
  grpc : ServiceRegistry
  deriving DecidableEq, Repr, Inhabited

/-- A reserved traffic generator. -/
structure Ate where
  id : String
  dims : Dims
  /-- Address for HTTP through a tunnel; empty where there is none. -/
  http : String
  deriving DecidableEq, Repr, Inhabited

/-- Host name of a reserved device. -/
def Dut.name (d : Dut) : String := d.dims.name

@[inherit_doc Dut.name] def Ate.name (a : Ate) : String := a.dims.name

/-- Reserved devices by the identifiers of their requirements. -/
structure Reservation where
  id : String
  duts : StringMap Dut := ∅
  ates : StringMap Ate := ∅
  /-- When the devices are taken back, if that is known. -/
  expiresAt : Option Timestamp := none
  deriving DecidableEq

instance : Inhabited Reservation := ⟨⟨"", ∅, ∅, none⟩⟩

namespace ReservedDevice

/-- A granted switch. -/
def toDut (d : ReservedDevice) : Dut := ⟨d.id, d.dims, d.grpc⟩

/-- A granted traffic generator. -/
def toAte (d : ReservedDevice) : Ate := ⟨d.id, d.dims, d.http⟩

/-- Devices by identifier, added to those there are already, or the first identifier that comes
twice. -/
def keyed {α : Type} (make : ReservedDevice → α) :
    List ReservedDevice → StringMap α → Except String (StringMap α)
  | [], m => .ok m
  | d :: ds, m => if m.contains d.id then .error d.id else keyed make ds (m.insert d.id (make d))

end ReservedDevice

namespace Reservation

/-- The devices of a granted topology; switches are looked at first. -/
def ofTopology (t : Topology) : Except Error Reservation :=
  match ReservedDevice.keyed ReservedDevice.toDut t.duts ∅ with
  | .error id => .error (.allocation (.returnedTwice .dut id))
  | .ok duts =>
    match ReservedDevice.keyed ReservedDevice.toAte t.ates ∅ with
    | .error id => .error (.allocation (.returnedTwice .ate id))
    | .ok ates => .ok ⟨t.id, duts, ates, t.expiresAt⟩

end Reservation

/-! ## Describing reservations -/

/-- A port as it is published. -/
def Port.resolve (id : String) (p : Port) : ResolvedPort := ⟨id, p.speed, p.name⟩

/-- A description as it is published, with the services of the device. -/
def Dims.resolve (d : Dims) (id : String) (services : List Service) : ResolvedDevice :=
  { id
    hardwareModel := d.hardwareModel
    vendor := d.vendor
    softwareVersion := d.softwareVersion
    name := d.name
    ports := d.ports.mapWithKey Port.resolve
    services := .ofList (services.map fun s => (s.id, s)) }

/-- The service under which a protocol of a switch is published. -/
def Dut.service (d : Dut) (id : String) (p : Protocol) : Service :=
  ⟨id, .proxiedGrpc (d.grpc.address p) []⟩

/-- What is published about a switch. -/
def Dut.resolve (d : Dut) : ResolvedDevice :=
  d.dims.resolve d.id [d.service gnmiService .gnmi, d.service p4rtService .p4rt]

/-- What is published about a traffic generator. -/
def Ate.resolve (a : Ate) : ResolvedDevice :=
  a.dims.resolve a.id [⟨httpService, .httpOverGrpc a.http⟩]

namespace Reservation

/-- The first device that stands under another identifier than its own. -/
def keyMismatch {α : Type} (id : α → String) (m : StringMap α) : Option ResolutionError :=
  (m.entries.find? fun e => e.1 ≠ id e.2).map fun e => .keyMismatch e.1 (id e.2)

/-- What is published about a reservation; switches are looked at first. -/
def resolve (r : Reservation) : Except Error ResolvedReservation :=
  match keyMismatch Dut.id r.duts with
  | some e => .error (.resolution e)
  | none =>
    match keyMismatch Ate.id r.ates with
    | some e => .error (.resolution e)
    | none =>
      .ok ⟨r.id, r.duts.mapWithKey fun _ d => d.resolve, r.ates.mapWithKey fun _ a => a.resolve⟩

end Reservation

end SwitchTestbed
