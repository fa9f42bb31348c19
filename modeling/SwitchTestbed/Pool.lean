import SwitchTestbed.Context.Basic
import SwitchTestbed.Data.Outcome
import SwitchTestbed.Placement.Assignment
import SwitchTestbed.Service

/-!
# A pool of devices

* `Demand` : what is asked for when devices are reserved;
* `expiry` : when a reservation ends;
* `Pool` : an inventory and the reservation in force, at most one at a time; `Pool.reserve`,
  `Pool.release`;
* `Pool.openConsole`, `Pool.dialConsole` : connect to the console of a device.
-/

namespace SwitchTestbed

/-- What is asked for when devices are reserved, and what the world supplies for it. -/
structure Demand where
  testbed : Testbed
  /-- How long the devices are going to be held. -/
  runtime : Duration := 0
  /-- How long one would wait for devices to become free. -/
  wait : Duration := 0
  /-- An identifier that no earlier reservation has. -/
  freshId : String
  /-- The wall clock. -/
  today : Timestamp
  deriving Inhabited

/-- The longest runtime that is kept track of: as many milliseconds as 63 bits count. -/
def maxRuntime : Duration := Duration.ofMillis 0x7fffffffffffffff

/-- The last nanosecond of the year 262142. -/
def lastTimestamp : Timestamp := Duration.ofSeconds 8210266876800 - 1

/-- When a reservation ends: never for a runtime of zero or one too long to keep track of. An end
after the last year of the calendar ends the program. -/
def expiry (today : Timestamp) (runtime : Duration) : Outcome Error (Option Timestamp) :=
  if runtime = 0 ∨ maxRuntime < runtime then .ok none
  else if today + runtime ≤ lastTimestamp then .ok (some (today + runtime))
  else .aborted

/-- The reservation in force. -/
structure ActiveReservation where
  id : String
  /-- Identifiers of its devices in the inventory. -/
  devices : List String
  deriving DecidableEq, Repr, Inhabited

/-- An inventory and the reservation in force. -/
structure Pool where
  inventory : Inventory
  active : Option ActiveReservation := none
  deriving DecidableEq, Repr, Inhabited

namespace Pool

/-- Devices for a testbed: those under test are placed first. -/
def place (p : Pool) (t : Testbed) :
    Except AllocationError (List ReservedDevice × List ReservedDevice × List String) := do
  let (duts, used) ← Placement.allocate p.inventory .dut t.duts []
  let (ates, used) ← Placement.allocate p.inventory .ate t.ates used
  .ok (duts, ates, used)

/-- Grants a topology, unless the caller has given up, a reservation is in force, or the devices
do not suffice. -/
def reserve (p : Pool) (cancelled : Bool) (d : Demand) : Pool × Outcome Error Topology :=
  if cancelled then (p, .error .cancelled)
  else
    match p.active with
    | some a => (p, .error (.allocation (.stillActive a.id)))
    | none =>
      match p.place d.testbed with
      | .error e => (p, .error (.allocation e))
      | .ok (duts, ates, used) =>
        match expiry d.today d.runtime with
        | .ok expiresAt =>
          ({ p with active := some ⟨d.freshId, used⟩ }, .ok ⟨d.freshId, duts, ates, expiresAt⟩)
        | .error e => (p, .error e)
        | .aborted => (p, .aborted)

/-- Gives the devices of the reservation in force back. -/
def release (p : Pool) : Pool × Except Error Unit :=
  match p.active with
  | some _ => ({ p with active := none }, .ok ())
  | none => (p, .error .noReservation)

/-- Connecting to a console, of which a failure names the address. -/
def consoleWork {γ : Type} (address : String) (w : Work (Except String γ)) :
    Work (Except Error γ) :=
  w.map (·.mapError fun reason => .transport (.console address reason))

/-- Connects to the console that the inventory has for the name of a device; connecting is a step of
a state, and fails for a reason that the system gives. That there is a console is checked before the
context is looked at. -/
def openConsole {σ γ : Type} (p : Pool) (connect : String → σ → σ × Work (Except String γ))
    (c : Context) (now : Instant) (device : String) (s : σ) : σ × Instant × Outcome Error γ :=
  match p.inventory.consoles.get? device with
  | none => (s, now, .error (.serviceNotRegistered .console device))
  | some address =>
    c.performWithin now defaultServiceTimeout
      (fun _ s => ((connect address s).1, consoleWork address (connect address s).2)) s

/-- Connects to the console of a device, where that leaves no trace. -/
def dialConsole {γ : Type} (p : Pool) (connect : String → Work (Except String γ)) (c : Context)
    (now : Instant) (device : String) : Instant × Outcome Error γ :=
  (p.openConsole (fun address s => (s, connect address)) c now device ()).2

end Pool

end SwitchTestbed
