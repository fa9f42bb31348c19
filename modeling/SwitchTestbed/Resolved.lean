import SwitchTestbed.Device

/-!
# Resolved reservations

What is published about a reservation, for tools that cannot ask the owner of the devices.

* `Endpoint`, `Service` : how a service is reached;
* `ResolvedPort`, `ResolvedDevice`, `ResolvedReservation`.

Each type has a `toDoc` and a `decoder`. An endpoint carries its kind under `type`; a chain of no
proxies is left out.
-/

namespace SwitchTestbed

/-- The service under which gNMI is published. -/
def gnmiService : String := "gnmi.gNMI"

/-- The service under which P4Runtime is published. -/
def p4rtService : String := "p4.v1.P4Runtime"

/-- The service under which a traffic generator is published. -/
def httpService : String := "http"

/-- How a service is reached. -/
inductive Endpoint where
  /-- By calls, if need be through a chain of proxies. -/
  | proxiedGrpc (address : String) (proxy : List String)
  /-- By HTTP through a tunnel. -/
  | httpOverGrpc (address : String)
  deriving DecidableEq, Repr, Inhabited

/-- The address of an endpoint. -/
def Endpoint.address : Endpoint → String
  | proxiedGrpc address _ => address
  | httpOverGrpc address => address

/-- A published service. -/
structure Service where
  id : String
  endpoint : Endpoint
  deriving DecidableEq, Repr, Inhabited

/-- A published port. -/
structure ResolvedPort where
  id : String
  speed : PortSpeed
  name : String
  deriving DecidableEq, Repr, Inhabited

/-- A published device. -/
structure ResolvedDevice where
  id : String
  hardwareModel : String
  vendor : String
  softwareVersion : String
  name : String
  ports : StringMap ResolvedPort := ∅
  services : StringMap Service := ∅
  deriving DecidableEq, Repr, Inhabited

/-- A published reservation. -/
structure ResolvedReservation where
  id : String
  devices : StringMap ResolvedDevice := ∅
  ates : StringMap ResolvedDevice := ∅
  deriving DecidableEq, Repr, Inhabited

/-! ## Document form -/

/-- A map with its members in key order. -/
def StringMap.toDoc {α : Type} (f : α → Doc) (m : StringMap α) : Doc :=
  .map (m.entries.map fun e => (e.1, f e.2))

namespace Endpoint

/-- The kinds of endpoints. -/
inductive Kind where
  | proxiedGrpc
  | httpOverGrpc
  deriving DecidableEq, Repr

/-- Both kinds with their keys. -/
def Kind.keyed : List (String × Kind) :=
  [("proxied_grpc", .proxiedGrpc), ("http_over_grpc", .httpOverGrpc)]

/-- The member that tells the kind. -/
def kindMember : String := "type"

/-- A record that begins with the kind. -/
def toDoc : Endpoint → Doc
  | proxiedGrpc address proxy =>
    .record [(kindMember, some (.text "proxied_grpc")), ("address", some (.text address)),
      ("proxy", if proxy.isEmpty then none else some (.seq (proxy.map .text)))]
  | httpOverGrpc address =>
    .map [(kindMember, .text "http_over_grpc"), ("address", .text address)]

/-- Reads a kind. -/
def Kind.decoder : Decoder Kind := fun δ d =>
  match d with
  | .text name => Decoder.variantOf Kind.keyed name
  | _ => .error (.invalidType (d.found δ) "variant identifier")

/-- Reads what stands beside the kind. -/
def Kind.rest : Kind → Decoder Endpoint
  | .proxiedGrpc =>
    .record ⟨"ProxiedGrpcEndpoint", 2⟩ fun s δ fields =>
      Endpoint.proxiedGrpc
        <$> required s δ fields 0 "address" .string
        <*> defaulted δ fields 1 "proxy" (.list .string) []
  | .httpOverGrpc =>
    .record ⟨"HttpOverGrpcEndpoint", 1⟩ fun s δ fields =>
      Endpoint.httpOverGrpc <$> required s δ fields 0 "address" .string

/-- Reads an endpoint: a map with its kind anywhere, or a sequence with its kind in front. What
stands beside the kind is set aside until the kind is known. -/
def decoder : Decoder Endpoint := fun δ d =>
  match d with
  | .map ms =>
    match lookupEntry kindMember ms with
    | some tag => do
      let kind ← Kind.decoder δ tag
      kind.rest δ.aside (.map (ms.filter fun m => m.1 ≠ kindMember))
    | none => .error (.missingField kindMember)
  | .seq (tag :: rest) => do
    let kind ← Kind.decoder δ tag
    kind.rest δ.aside (.seq rest)
  | .seq [] => .error (.missingField kindMember)
  | _ => .error (.invalidType (d.found δ) "internally tagged enum Endpoint")

end Endpoint

namespace Service

/-- A record of the identifier and the endpoint. -/
def toDoc (s : Service) : Doc := .map [("id", .text s.id), ("endpoint", s.endpoint.toDoc)]

/-- Reads a service. -/
def decoder : Decoder Service :=
  .record ⟨"Service", 2⟩ fun s δ fields =>
    Service.mk
      <$> required s δ fields 0 "id" .string
      <*> required s δ fields 1 "endpoint" Endpoint.decoder

end Service

namespace ResolvedPort

/-- A record of the identifier, the speed and the name. -/
def toDoc (p : ResolvedPort) : Doc :=
  .map [("id", .text p.id), ("speed", p.speed.toDoc), ("name", .text p.name)]

/-- Reads a port. -/
def decoder : Decoder ResolvedPort :=
  .record ⟨"ResolvedPort", 3⟩ fun s δ fields =>
    ResolvedPort.mk
      <$> required s δ fields 0 "id" .string
      <*> required s δ fields 1 "speed" PortSpeed.decoder
      <*> required s δ fields 2 "name" .string

end ResolvedPort

namespace ResolvedDevice

/-- A record of what is published about a device. -/
def toDoc (d : ResolvedDevice) : Doc :=
  .map [("id", .text d.id), ("hardware_model", .text d.hardwareModel), ("vendor", .text d.vendor),
    ("software_version", .text d.softwareVersion), ("name", .text d.name),
    ("ports", d.ports.toDoc ResolvedPort.toDoc), ("services", d.services.toDoc Service.toDoc)]

/-- Reads a device. -/
def decoder : Decoder ResolvedDevice :=
  .record ⟨"ResolvedDevice", 7⟩ fun s δ fields =>
    ResolvedDevice.mk
      <$> required s δ fields 0 "id" .string
      <*> required s δ fields 1 "hardware_model" .string
      <*> required s δ fields 2 "vendor" .string
      <*> required s δ fields 3 "software_version" .string
      <*> required s δ fields 4 "name" .string
      <*> defaulted δ fields 5 "ports" (.stringMap ResolvedPort.decoder) ∅
      <*> defaulted δ fields 6 "services" (.stringMap Service.decoder) ∅

end ResolvedDevice

namespace ResolvedReservation

/-- A record of the identifier and the devices of both roles. -/
def toDoc (r : ResolvedReservation) : Doc :=
  .map [("id", .text r.id), ("devices", r.devices.toDoc ResolvedDevice.toDoc),
    ("ates", r.ates.toDoc ResolvedDevice.toDoc)]

/-- Reads a reservation. -/
def decoder : Decoder ResolvedReservation :=
  .record ⟨"ResolvedReservation", 3⟩ fun s δ fields =>
    ResolvedReservation.mk
      <$> required s δ fields 0 "id" .string
      <*> defaulted δ fields 1 "devices" (.stringMap ResolvedDevice.decoder) ∅
      <*> defaulted δ fields 2 "ates" (.stringMap ResolvedDevice.decoder) ∅

end ResolvedReservation

end SwitchTestbed
