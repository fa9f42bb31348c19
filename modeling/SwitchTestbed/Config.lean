import SwitchTestbed.Inventory
import SwitchTestbed.Toml.Document

/-!
# Configurations

* `BackendKind` : who may own the devices;
* `HttpConfig` : bounds on HTTP requests;
* `Config` : the backend by its name, the bounds and the inventory; `Config.validate` checks it,
  the backend first;
* `Config.ofToml`, `Config.ofFile` : the configuration that a TOML text, or a file, stands for,
  checked.
-/

namespace SwitchTestbed

/-- Who may own the devices. -/
inductive BackendKind where
  /-- A pool of devices from the inventory. -/
  | pins
  deriving DecidableEq, Repr, Inhabited

namespace BackendKind

/-- The name of a kind. -/
def name : BackendKind → String
  | pins => "pins"

/-- The kind of a name; case matters. -/
def parse (s : String) : Except Error BackendKind :=
  if s = name pins then .ok pins else .error (.unknownBackend s)

end BackendKind

/-- Bounds on HTTP requests. -/
structure HttpConfig where
  /-- On a whole request. -/
  timeoutMillis : UInt64 := 30000
  /-- On connecting. -/
  connectTimeoutMillis : UInt64 := 5000
  deriving DecidableEq, Repr, Inhabited

/-- How devices are reserved and reached. -/
structure Config where
  backend : String := BackendKind.pins.name
  http : HttpConfig := {}
  inventory : Inventory := {}
  deriving DecidableEq, Repr

instance : Inhabited Config := ⟨{}⟩

namespace HttpConfig

/-- A record of both bounds. -/
def toDoc (c : HttpConfig) : Doc :=
  .map [("timeout_ms", .int c.timeoutMillis.toNat),
    ("connect_timeout_ms", .int c.connectTimeoutMillis.toNat)]

/-- Reads both bounds. -/
def decoder : Decoder HttpConfig :=
  .record ⟨"HttpConfig", 2⟩ fun _ δ fields =>
    HttpConfig.mk
      <$> defaulted δ fields 0 "timeout_ms" .uint64 30000
      <*> defaulted δ fields 1 "connect_timeout_ms" .uint64 5000

end HttpConfig

namespace Config

/-- A record of the three parts. -/
def toDoc (c : Config) : Doc :=
  .map [("backend", .text c.backend), ("http", c.http.toDoc), ("inventory", c.inventory.toDoc)]

/-- The fields of a configuration. -/
def read (_ : RecordShape) (δ : Dialect) (fields : Fields) : Reading Config :=
  Config.mk
    <$> defaulted δ fields 0 "backend" .string BackendKind.pins.name
    <*> defaulted δ fields 1 "http" HttpConfig.decoder {}
    <*> defaulted δ fields 2 "inventory" Inventory.decoder {}

/-- Reads a configuration. -/
def decoder : Decoder Config := .record ⟨"BindingConfig", 3⟩ read

/-- The kind of the backend. -/
def backendKind (c : Config) : Except Error BackendKind := BackendKind.parse c.backend

/-- Checks the backend and then the inventory. -/
def validate (c : Config) : Except Error Unit := do
  let _ ← c.backendKind
  c.inventory.validate

end Config

/-! ## Configurations from files -/

/-- The text in a file, of which `none` says that there is no such file. -/
def textOf : Option ByteArray → Except FileError String
  | none => .error .notFound
  | some bytes =>
    match String.fromUTF8? bytes with
    | some s => .ok s
    | none => .error .notUtf8

/-- What a decoder makes of a TOML text. That it is TOML at all is settled first. -/
def Decoder.ofToml {α : Type} (d : Decoder α) (text : String) : Except TomlError α :=
  match Toml.parse text with
  | none => .error .malformed
  | some doc => (d .toml doc).mapError .shape

namespace Config

/-- The configuration that a TOML text stands for, checked. -/
def ofToml (text : String) : Except Error Config := do
  let c ← (decoder.ofToml text).mapError fun e => .config (.toml e)
  c.validate
  .ok c

/-- The configuration in a file of the given path and contents. -/
def ofFile (path : String) (contents : Option ByteArray) : Except Error Config := do
  let text ← (textOf contents).mapError fun e => .config (.file path e)
  ofToml text

end Config

end SwitchTestbed
