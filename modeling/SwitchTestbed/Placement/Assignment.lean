import SwitchTestbed.Inventory
import SwitchTestbed.Placement.PortMatching
import SwitchTestbed.Reservation.Basic

/-!
# Placing requirements on devices

* `Candidate` : a device that fits a requirement, with its ports matched;
* `Selection` : the devices taken during a search, and the candidate chosen for each requirement;
* `select` : a different device for each row of a table of candidates, the first choice in search
  order;
* `allocate` : devices for all requirements of a role. Requirements with fewer candidates are
  placed first, equal ones in their order.
-/

namespace SwitchTestbed.Placement

/-- A device that fits a requirement: its position, and the position of the port for each
requested one. -/
structure Candidate where
  device : Nat
  ports : List Nat
  deriving DecidableEq, Repr, Inhabited

/-- Whether a wish, if there is one, is met up to case. -/
def meets (wish : Option String) (actual : String) : Bool :=
  match wish with
  | some w => Text.equalUpToCase w actual
  | none => true

/-- The ports of a device for a requirement, if the device fits. -/
def satisfies (d : InventoryDevice) (req : DeviceRequirement) : Option (List Nat) :=
  if meets req.vendor d.vendor && meets req.hardwareModel d.hardwareModel
      && meets req.softwareVersion d.softwareVersion then
    matchPorts req.ports d.ports
  else none

/-- The devices of a role that fit a requirement and whose identifiers are not used, in the order
of the inventory. -/
def candidates (inv : Inventory) (role : Role) (used : List String) (req : DeviceRequirement) :
    List Candidate :=
  inv.devices.zipIdx.filterMap fun (d, i) =>
    if d.role = role && !used.contains d.id then (satisfies d req).map (⟨i, ·⟩) else none

/-! ## The search -/

/-- What a search changes as it goes. -/
structure Selection where
  /-- Devices that nobody else gets. -/
  taken : List Nat := []
  /-- For each row of the table the position of the candidate that was chosen for it last. -/
  chosen : List Nat
  deriving DecidableEq, Repr, Inhabited

namespace Selection

/-- Before a search of so many rows no device is taken. -/
def start (rows : Nat) : Selection := { chosen := .replicate rows 0 }

/-- The device is taken for a row, where its candidate stands at the position. -/
def take (s : Selection) (row position device : Nat) : Selection :=
  { taken := device :: s.taken, chosen := s.chosen.set row position }

/-- The device is free again; the choice is overwritten by the next one. -/
def putBack (s : Selection) (device : Nat) : Selection :=
  { s with taken := s.taken.erase device }

/-- The position chosen for a row. -/
def position (s : Selection) (row : Nat) : Nat := s.chosen.getD row 0

end Selection

/-- Goes through the candidates of a row, of which the first has the position: takes each device
that is not taken and asks `next` for devices for the remaining rows. If there are none, the device
is put back. -/
def selectFrom (next : Selection → Bool × Selection) (row : Nat) :
    Nat → List Candidate → Selection → Bool × Selection
  | _, [], s => (false, s)
  | position, c :: cs, s =>
    if s.taken.contains c.device then selectFrom next row (position + 1) cs s
    else
      match next (s.take row position c.device) with
      | (true, s) => (true, s)
      | (false, s) => selectFrom next row (position + 1) cs (s.putBack c.device)

/-- Devices for rows of a table, which are searched in the order given: all different, and different
from those taken. -/
def select (table : List (List Candidate)) : List Nat → Selection → Bool × Selection
  | [], s => (true, s)
  | row :: rest, s => selectFrom (select table rest) row 0 (table.getD row []) s

/-! ## Allocation -/

/-- A requirement at its place among the others, with its candidates. -/
structure Row where
  place : Nat
  requirement : DeviceRequirement
  candidates : List Candidate

/-- Rows with fewer candidates first, equal ones in their order. -/
def searchOrder (rows : List Row) : List Row :=
  rows.mergeSort fun a b => a.candidates.length ≤ b.candidates.length

/-- What a device is known by once it is reserved for a requirement. Of two requested ports with
one identifier the later counts. -/
def reserved (d : InventoryDevice) (req : DeviceRequirement) (ports : List Nat) : ReservedDevice :=
  { id := req.id
    dims :=
      { name := d.name
        vendor := d.vendor
        hardwareModel := d.hardwareModel
        softwareVersion := d.softwareVersion
        ports := .ofList ((req.ports.zip ports).map fun (w, j) =>
          (w.id, (d.ports[j]?).getD ⟨"", .unspecified⟩)) }
    grpc := d.services.registry
    http := d.http.getD "" }

/-- Devices for all requirements of a role, in their order, together with the identifiers in use
from then on. -/
def allocate (inv : Inventory) (role : Role) (reqs : List DeviceRequirement)
    (used : List String) : Except AllocationError (List ReservedDevice × List String) :=
  let rows := reqs.zipIdx.map fun (req, i) => (⟨i, req, candidates inv role used req⟩ : Row)
  match rows.find? fun r => r.candidates.isEmpty with
  | some r => .error (.noDevice role r.requirement.id)
  | none =>
    let order := (searchOrder rows).map Row.place
    match select (rows.map Row.candidates) order (.start reqs.length) with
    | (false, _) => .error (.notTogether role reqs.length)
    | (true, s) =>
      let placed := rows.filterMap fun row => do
        let c ← row.candidates[s.position row.place]?
        let d ← inv.devices[c.device]?
        some (reserved d row.requirement c.ports, d.id)
      .ok (placed.map Prod.fst, used ++ placed.map Prod.snd)

end SwitchTestbed.Placement
