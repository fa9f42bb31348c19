import SwitchTestbed.Config
import SwitchTestbed.Testbed

/-!
# Configurations of the daemon

* `Timing` : how long devices are held and waited for;
* `DaemonConfig` : the configuration of a binding, the testbed to reserve and the timing;
* `DaemonConfig.ofFile` : the one in a file, checked;
* `DaemonError` : why the daemon holds nothing.
-/

namespace SwitchTestbed

/-- How long devices are held and waited for. -/
structure Timing where
  runtimeSeconds : UInt64 := 3600
  waitSeconds : UInt64 := 0
  deriving DecidableEq, Repr, Inhabited

/-- Reads both times. -/
def Timing.decoder : Decoder Timing :=
  .record ⟨"ReservationTiming", 2⟩ fun _ δ fields =>
    Timing.mk
      <$> defaulted δ fields 0 "runtime_secs" .uint64 3600
      <*> defaulted δ fields 1 "wait_secs" .uint64 0

/-- What the daemon is to hold. -/
structure DaemonConfig where
  binding : Config
  testbed : Testbed
  timing : Timing
  deriving DecidableEq, Repr, Inhabited

/-- Why the daemon holds nothing. -/
inductive DaemonError where
  | file (cause : FileError)
  | toml (cause : TomlError)
  /-- What the binding says, of its configuration or of a reservation. -/
  | binding (cause : Error)
  deriving DecidableEq, Repr

/-- The text of an error. -/
def DaemonError.message : DaemonError → String
  | file cause => cause.message
  | toml cause => cause.message
  | binding cause => cause.message

namespace DaemonConfig

/-- Reads a configuration. The fields of the binding stand among the others; they are set aside
and read behind them. -/
def decoder : Decoder DaemonConfig := fun δ d =>
  match d with
  | .map ms => do
    let fields := Fields.named ms
    let (testbed, timing) ← (Prod.mk
      <$> defaulted δ fields 0 "testbed" Testbed.decoder {}
      <*> defaulted δ fields 1 "reservation" Timing.decoder {}).toExcept
    let binding ← (Config.read ⟨"BindingConfig", 3⟩ δ.aside fields).toExcept
    .ok ⟨binding, testbed, timing⟩
  | _ => .error (.invalidType (d.found δ) "struct DaemonConfig")

/-- The configuration that a TOML text stands for, checked. -/
def ofToml (text : String) : Except DaemonError DaemonConfig := do
  let c ← (decoder.ofToml text).mapError .toml
  c.binding.validate.mapError .binding
  .ok c

/-- The configuration in a file of the given contents. -/
def ofFile (contents : Option ByteArray) : Except DaemonError DaemonConfig := do
  ofToml (← (textOf contents).mapError .file)

end DaemonConfig

end SwitchTestbed
