import SwitchTestbed.Document.Decoder
import SwitchTestbed.Protocol

/-!
# Devices and their ports

* `Role` : a switch under test or a traffic generator;
* `PortSpeed` : declared speeds, each with its key in documents;
* `Port`, `Dims` : a port, and the static description of a reserved device.

Protocols, roles, speeds and ports have a `toDoc` and a `decoder`.
-/

namespace SwitchTestbed

/-- What a device is used for. -/
inductive Role where
  /-- A switch under test. -/
  | dut
  /-- A traffic generator. -/
  | ate
  deriving DecidableEq, Repr, Inhabited

namespace Role

/-- Both roles. -/
def all : List Role := [dut, ate]

/-- The key of a role in documents. -/
def key : Role → String
  | dut => "dut"
  | ate => "ate"

/-- The name of a role in messages on requirements. -/
def title : Role → String
  | dut => "Dut"
  | ate => "Ate"

/-- The name of a role in messages on devices. -/
def acronym : Role → String
  | dut => "DUT"
  | ate => "ATE"

end Role

/-- Declared speed of a port. -/
inductive PortSpeed where
  | unspecified
  | gb1
  | gb5
  | gb10
  | gb25
  | gb40
  | gb50
  | gb100
  | gb200
  | gb400
  | gb800
  deriving DecidableEq, Repr, Inhabited

namespace PortSpeed

/-- All speeds in their order. -/
def all : List PortSpeed :=
  [unspecified, gb1, gb5, gb10, gb25, gb40, gb50, gb100, gb200, gb400, gb800]

/-- The key of a speed in documents. -/
def key : PortSpeed → String
  | unspecified => "SPEED_UNSPECIFIED"
  | gb1 => "S_1GB"
  | gb5 => "S_5GB"
  | gb10 => "S_10GB"
  | gb25 => "S_25GB"
  | gb40 => "S_40GB"
  | gb50 => "S_50GB"
  | gb100 => "S_100GB"
  | gb200 => "S_200GB"
  | gb400 => "S_400GB"
  | gb800 => "S_800GB"

end PortSpeed

/-- A port of a device. -/
structure Port where
  /-- Physical name on the device, such as "Ethernet0". -/
  name : String
  speed : PortSpeed := .unspecified
  deriving DecidableEq, Repr, Inhabited

/-- Static description of a reserved device. -/
structure Dims where
  /-- Host name. -/
  name : String := ""
  vendor : String := ""
  hardwareModel : String := ""
  softwareVersion : String := ""
  /-- Ports by the identifier that the testbed gives them. -/
  ports : StringMap Port := ∅
  deriving DecidableEq, Repr, Inhabited

/-! ## Document form -/

namespace Protocol

/-- A protocol is its key. -/
def toDoc (p : Protocol) : Doc := .text p.key

/-- Reads a protocol. -/
def decoder : Decoder Protocol := Decoder.variant (all.map fun p => (p.key, p))

end Protocol

namespace Role

/-- A role is its key. -/
def toDoc (r : Role) : Doc := .text r.key

/-- Reads a role. -/
def decoder : Decoder Role := Decoder.variant (all.map fun r => (r.key, r))

end Role

namespace PortSpeed

/-- A speed is its key. -/
def toDoc (s : PortSpeed) : Doc := .text s.key

/-- Reads a speed. -/
def decoder : Decoder PortSpeed := Decoder.variant (all.map fun s => (s.key, s))

end PortSpeed

namespace Port

/-- A port is a record of its name and its speed. -/
def toDoc (p : Port) : Doc := .map [("name", .text p.name), ("speed", p.speed.toDoc)]

/-- Reads a port; the record goes by the given name in messages. -/
def decoderNamed (recordName : String) : Decoder Port :=
  .record ⟨recordName, 2⟩ fun s δ fields =>
    Port.mk
      <$> required s δ fields 0 "name" .string
      <*> defaulted δ fields 1 "speed" PortSpeed.decoder .unspecified

/-- Reads a port. -/
def decoder : Decoder Port := decoderNamed "Port"

end Port

end SwitchTestbed
