import SwitchTestbed.Binding
import SwitchTestbed.Daemon.Arguments
import SwitchTestbed.Daemon.Config
import SwitchTestbed.Simulated.Backend

/-!
# Holding devices

* `identifierOf` : the identifier that sixteen random bytes make, in groups of hexadecimal digits;
* `Holding` : what is published about the devices held, and how giving them back ends;
* `hold` : reserves devices through a binding and describes them;
* `holdConfigured`, `holdDemo` : devices of an inventory and simulated ones;
* `Arguments.hold` : either of them, as the arguments say.
-/

namespace SwitchTestbed.Daemon

/-! ## Identifiers of reservations -/

/-- The two hexadecimal digits of a byte. -/
def byteDigits (b : UInt8) : List Char := [Nat.digitChar (b.toNat / 16), Nat.digitChar (b.toNat % 16)]

/-- Random bytes marked as such: the version stands in the seventh byte, the variant in the
ninth. -/
def markRandom (bytes : List UInt8) : List UInt8 :=
  bytes.zipIdx.map fun (b, i) =>
    if i = 6 then b % 16 + 0x40 else if i = 8 then b % 64 + 0x80 else b

/-- The identifier that sixteen random bytes make. -/
def identifierOf (bytes : List UInt8) : String :=
  String.ofList ((markRandom bytes).zipIdx.flatMap fun (b, i) =>
    if i = 4 ∨ i = 6 ∨ i = 8 ∨ i = 10 then '-' :: byteDigits b else byteDigits b)

/-! ## Holdings -/

/-- Devices held. -/
structure Holding where
  published : ResolvedReservation
  /-- How giving the devices back ends. -/
  release : Except Error Unit

/-- What is written about the devices held. -/
def Holding.text (h : Holding) : String := Json.render h.published.toDoc

/-- Reserves devices through a binding and describes them; nothing bounds how long that takes. -/
def hold {σ τ : Type} (B : Backend σ τ) (b : Binding σ) (d : Demand) : Outcome Error Holding :=
  match b.reserve B .background 0 ∅ d with
  | (b, .ok _) =>
    match b.resolve with
    | .ok published => .ok ⟨published, (b.release B .background 0).2⟩
    | .error e => .error e
  | (_, .error e) => .error e
  | (_, .aborted) => .aborted

/-- The demand for a testbed and a timing. -/
def demandOf (t : Testbed) (timing : Timing) (freshId : String) (today : Timestamp) : Demand :=
  { testbed := t
    runtime := .ofSeconds timing.runtimeSeconds.toNat
    wait := .ofSeconds timing.waitSeconds.toNat
    freshId, today }

/-- An inventory of which only reservations are made: nothing is dialed. -/
def reservingBackend : Backend (Stock Unit) Unit :=
  inventoryBackend .unsupported noConsoles

/-- One device of either role with two fast ports. -/
def demoTestbed : Testbed :=
  let ports : List PortRequirement := [⟨"port1", some .gb100⟩, ⟨"port2", some .gb100⟩]
  { duts := [{ id := "dut", ports }], ates := [{ id := "ate", ports }] }

section Hold

variable (freshId : String) (today : Timestamp)

/-- Holds simulated devices. -/
def holdDemo : Outcome Error Holding :=
  hold simulatedBackend ⟨{}, none⟩ (demandOf demoTestbed {} freshId today)

/-- Holds devices of the inventory that the configuration has. -/
def holdConfigured (c : DaemonConfig) : Outcome Error Holding :=
  match Binding.ofConfig c.binding () with
  | .ok b => hold reservingBackend b (demandOf c.testbed c.timing freshId today)
  | .error e => .error e

/-- Holds what the arguments ask for; `contents` are those of the file that they name, if it is
there. -/
def Arguments.hold (a : Arguments) (contents : Option ByteArray) : Outcome DaemonError Holding :=
  match a.config with
  | none => (holdDemo freshId today).mapError .binding
  | some _ =>
    match DaemonConfig.ofFile contents with
    | .ok c => (holdConfigured freshId today c).mapError .binding
    | .error e => .error e

end Hold

end SwitchTestbed.Daemon
