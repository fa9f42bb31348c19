import SwitchTestbed.Service

/-!
# Inventories

* `ServiceConfig`, `ServicesConfig` : where a device serves gNMI, gNOI and P4Runtime;
  `ServicesConfig.registry` is its registry;
* `InventoryDevice`, `Inventory` : the devices that may be handed out;
* `Inventory.validate` : identifiers and names stand once, and no service has an empty address.

Each type has a `toDoc` and a `decoder`. Services, addresses and timeouts that are not set are
left out of a document.
-/

namespace SwitchTestbed

/-- Where a service is reached, and within which time. -/
structure ServiceConfig where
  address : String
  timeoutMillis : Option UInt64 := none
  deriving DecidableEq, Repr, Inhabited

namespace ServiceConfig

/-- The entry of a registry. -/
def entry (c : ServiceConfig) : ServiceEntry :=
  ⟨c.address, c.timeoutMillis.map fun ms => Duration.ofMillis ms.toNat⟩

end ServiceConfig

/-- The services of a device that are reached by calls. -/
structure ServicesConfig where
  gnmi : Option ServiceConfig := none
  gnoi : Option ServiceConfig := none
  p4rt : Option ServiceConfig := none
  deriving DecidableEq, Repr, Inhabited

namespace ServicesConfig

/-- The configured services in the order of their protocols. -/
def toList (c : ServicesConfig) : List (Protocol × ServiceConfig) :=
  [(Protocol.gnmi, c.gnmi), (Protocol.gnoi, c.gnoi), (Protocol.p4rt, c.p4rt)].filterMap
    fun (p, s) => s.map (p, ·)

/-- The registry of the configured services. -/
def registry (c : ServicesConfig) : ServiceRegistry :=
  .ofList (c.toList.map fun (p, s) => (p, s.entry))

end ServicesConfig

/-- A device that may be handed out. -/
structure InventoryDevice where
  id : String
  role : Role := .dut
  /-- Host name. -/
  name : String
  vendor : String := ""
  hardwareModel : String := ""
  softwareVersion : String := ""
  ports : List Port := []
  services : ServicesConfig := {}
  /-- Address for HTTP through a tunnel. -/
  http : Option String := none
  /-- Address of the console server. -/
  console : Option String := none
  deriving DecidableEq, Repr, Inhabited

/-- The devices that may be handed out. -/
structure Inventory where
  devices : List InventoryDevice := []
  deriving DecidableEq, Repr, Inhabited

namespace Inventory

/-- The first thing wrong with one device after those already seen: a repeated identifier, a
repeated name, or an empty address. -/
def deviceProblem (seen : List InventoryDevice) (d : InventoryDevice) : Option ConfigError :=
  if seen.any fun e => e.id = d.id then some (.duplicateId d.id)
  else if seen.any fun e => e.name = d.name then some (.duplicateName d.name)
  else
    (d.services.toList.find? fun s => s.2.address.isEmpty).map fun s => .emptyAddress d.id s.1

/-- The first thing wrong with any device. -/
def firstProblem (seen : List InventoryDevice) : List InventoryDevice → Option ConfigError
  | [] => none
  | d :: rest =>
    match deviceProblem seen d with
    | some e => some e
    | none => firstProblem (d :: seen) rest

/-- Checks the devices in their order. -/
def validate (inv : Inventory) : Except Error Unit :=
  match firstProblem [] inv.devices with
  | some e => .error (.config e)
  | none => .ok ()

/-- The console of each device name that has one: of several devices of one name the last
counts. -/
def consoles (inv : Inventory) : StringMap String :=
  .ofList (inv.devices.filterMap fun d => d.console.map (d.name, ·))

end Inventory

/-! ## Document form -/

namespace ServiceConfig

/-- A record of the address and the timeout. -/
def toDoc (c : ServiceConfig) : Doc :=
  .record [("addr", some (.text c.address)),
    ("timeout_ms", c.timeoutMillis.map fun ms => .int ms.toNat)]

/-- Reads where a service is reached. -/
def decoder : Decoder ServiceConfig :=
  .record ⟨"ServiceConfig", 2⟩ fun s δ fields =>
    ServiceConfig.mk
      <$> required s δ fields 0 "addr" .string
      <*> defaulted δ fields 1 "timeout_ms" (.nullable .uint64) none

end ServiceConfig

namespace ServicesConfig

/-- A record of the configured services. -/
def toDoc (c : ServicesConfig) : Doc :=
  .record [("gnmi", c.gnmi.map ServiceConfig.toDoc), ("gnoi", c.gnoi.map ServiceConfig.toDoc),
    ("p4rt", c.p4rt.map ServiceConfig.toDoc)]

/-- Reads the services of a device. -/
def decoder : Decoder ServicesConfig :=
  .record ⟨"ServicesConfig", 3⟩ fun _ δ fields =>
    ServicesConfig.mk
      <$> defaulted δ fields 0 "gnmi" (.nullable ServiceConfig.decoder) none
      <*> defaulted δ fields 1 "gnoi" (.nullable ServiceConfig.decoder) none
      <*> defaulted δ fields 2 "p4rt" (.nullable ServiceConfig.decoder) none

end ServicesConfig

namespace InventoryDevice

/-- A record of everything known about the device. -/
def toDoc (d : InventoryDevice) : Doc :=
  .record
    [("id", some (.text d.id)), ("role", some d.role.toDoc), ("name", some (.text d.name)),
      ("vendor", some (.text d.vendor)), ("hardware_model", some (.text d.hardwareModel)),
      ("software_version", some (.text d.softwareVersion)),
      ("ports", some (.seq (d.ports.map Port.toDoc))), ("services", some d.services.toDoc),
      ("http", d.http.map .text), ("console", d.console.map .text)]

/-- Reads a device. -/
def decoder : Decoder InventoryDevice :=
  .record ⟨"InventoryDevice", 10⟩ fun s δ fields =>
    InventoryDevice.mk
      <$> required s δ fields 0 "id" .string
      <*> defaulted δ fields 1 "role" Role.decoder .dut
      <*> required s δ fields 2 "name" .string
      <*> defaulted δ fields 3 "vendor" .string ""
      <*> defaulted δ fields 4 "hardware_model" .string ""
      <*> defaulted δ fields 5 "software_version" .string ""
      <*> defaulted δ fields 6 "ports" (.list (Port.decoderNamed "InventoryPort")) []
      <*> defaulted δ fields 7 "services" ServicesConfig.decoder {}
      <*> defaulted δ fields 8 "http" (.nullable .string) none
      <*> defaulted δ fields 9 "console" (.nullable .string) none

end InventoryDevice

namespace Inventory

/-- A record of the devices. -/
def toDoc (inv : Inventory) : Doc := .map [("devices", .seq (inv.devices.map InventoryDevice.toDoc))]

/-- Reads an inventory. -/
def decoder : Decoder Inventory :=
  .record ⟨"InventoryConfig", 1⟩ fun _ δ fields =>
    Inventory.mk <$> defaulted δ fields 0 "devices" (.list InventoryDevice.decoder) []

end Inventory

end SwitchTestbed
