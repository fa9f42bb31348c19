import SwitchTestbed.Device

/-!
# Testbeds

* `PortRequirement`, `DeviceRequirement` : what a test needs of a port and of a device; a field
  that is not set fits anything;
* `Testbed` : the required devices by role.

Each type has a `toDoc` and a `decoder`. Wishes that are not set are left out of a document.
-/

namespace SwitchTestbed

/-- What is needed of one port. -/
structure PortRequirement where
  /-- Identifier within the testbed, such as "port1". -/
  id : String
  speed : Option PortSpeed := none
  deriving DecidableEq, Repr, Inhabited

/-- What is needed of one device. -/
structure DeviceRequirement where
  /-- Identifier under which the reserved device is kept. -/
  id : String
  vendor : Option String := none
  hardwareModel : Option String := none
  softwareVersion : Option String := none
  ports : List PortRequirement := []
  deriving DecidableEq, Repr, Inhabited

/-- The devices that a test needs. -/
structure Testbed where
  duts : List DeviceRequirement := []
  ates : List DeviceRequirement := []
  deriving DecidableEq, Repr, Inhabited

namespace Testbed

/-- The requirements on devices of one role. -/
def requirements (t : Testbed) : Role → List DeviceRequirement
  | .dut => t.duts
  | .ate => t.ates

end Testbed

/-! ## Document form -/

namespace PortRequirement

/-- A record of the identifier and the speed. -/
def toDoc (r : PortRequirement) : Doc :=
  .record [("id", some (.text r.id)), ("speed", r.speed.map PortSpeed.toDoc)]

/-- Reads what is needed of a port. -/
def decoder : Decoder PortRequirement :=
  .record ⟨"PortRequirement", 2⟩ fun s δ fields =>
    PortRequirement.mk
      <$> required s δ fields 0 "id" .string
      <*> defaulted δ fields 1 "speed" (.nullable PortSpeed.decoder) none

end PortRequirement

namespace DeviceRequirement

/-- A record of the identifier, the wishes and the ports. -/
def toDoc (r : DeviceRequirement) : Doc :=
  .record
    [("id", some (.text r.id)), ("vendor", r.vendor.map .text),
      ("hardware_model", r.hardwareModel.map .text),
      ("software_version", r.softwareVersion.map .text),
      ("ports", some (.seq (r.ports.map PortRequirement.toDoc)))]

/-- Reads what is needed of a device. -/
def decoder : Decoder DeviceRequirement :=
  .record ⟨"DeviceRequirement", 5⟩ fun s δ fields =>
    DeviceRequirement.mk
      <$> required s δ fields 0 "id" .string
      <*> defaulted δ fields 1 "vendor" (.nullable .string) none
      <*> defaulted δ fields 2 "hardware_model" (.nullable .string) none
      <*> defaulted δ fields 3 "software_version" (.nullable .string) none
      <*> defaulted δ fields 4 "ports" (.list PortRequirement.decoder) []

end DeviceRequirement

namespace Testbed

/-- A record of the requirements of both roles. -/
def toDoc (t : Testbed) : Doc :=
  .map [("duts", .seq (t.duts.map DeviceRequirement.toDoc)),
    ("ates", .seq (t.ates.map DeviceRequirement.toDoc))]

/-- Reads a testbed. -/
def decoder : Decoder Testbed :=
  .record ⟨"Testbed", 2⟩ fun _ δ fields =>
    Testbed.mk
      <$> defaulted δ fields 0 "duts" (.list DeviceRequirement.decoder) []
      <*> defaulted δ fields 1 "ates" (.list DeviceRequirement.decoder) []

end Testbed

end SwitchTestbed
