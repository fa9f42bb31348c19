import SwitchTestbed.Rpc.CallDefaults
import SwitchTestbed.Wire.Message

/-!
# gNOI

* requests and responses of the calls `Time`, `Reboot` and `RebootStatus` of the system service;
* the fields of each message with their numbers on the wire;
* `Client σ` : the calls of the system service;
* `Recorder`, `Recorder.client` : a client with a fixed clock that records restarts.
-/

namespace SwitchTestbed.Gnoi

open Rpc Wire

/-! ## Messages -/

/-- Asks for the time of a device. -/
structure TimeRequest where
  deriving DecidableEq, Inhabited

/-- The time of a device, in nanoseconds since 1970. -/
structure TimeResponse where
  time : UInt64 := 0
  deriving DecidableEq, Inhabited

/-- Asks a device to start again. -/
structure RebootRequest where
  method : Int32 := 0
  delay : UInt64 := 0
  message : String := ""
  force : Bool := false
  deriving DecidableEq, Inhabited

/-- The answer to a `RebootRequest`. -/
structure RebootResponse where
  deriving DecidableEq, Inhabited

/-- Asks how far a restart is. -/
structure RebootStatusRequest where
  deriving DecidableEq, Inhabited

/-- How far a restart is. -/
structure RebootStatusResponse where
  active : Bool := false
  wait : UInt64 := 0
  due : UInt64 := 0
  reason : String := ""
  count : UInt32 := 0
  deriving DecidableEq, Inhabited

/-! ## Messages on the wire -/

instance : Message TimeRequest where
  empty := {}
  fields := []

instance : Message TimeResponse where
  empty := {}
  fields := [.scalar 1 .uint64 TimeResponse.time fun v m => { m with time := v }]

instance : Message RebootRequest where
  empty := {}
  fields :=
    [.scalar 1 .int32 RebootRequest.method fun v m => { m with method := v },
      .scalar 2 .uint64 RebootRequest.delay fun v m => { m with delay := v },
      .scalar 3 .string RebootRequest.message fun v m => { m with message := v },
      .scalar 5 .bool RebootRequest.force fun v m => { m with force := v }]

instance : Message RebootResponse where
  empty := {}
  fields := []

instance : Message RebootStatusRequest where
  empty := {}
  fields := []

instance : Message RebootStatusResponse where
  empty := {}
  fields :=
    [.scalar 1 .bool RebootStatusResponse.active fun v m => { m with active := v },
      .scalar 2 .uint64 RebootStatusResponse.wait fun v m => { m with wait := v },
      .scalar 3 .uint64 RebootStatusResponse.due fun v m => { m with due := v },
      .scalar 4 .string RebootStatusResponse.reason fun v m => { m with reason := v },
      .scalar 5 .uint32 RebootStatusResponse.count fun v m => { m with count := v }]

/-! ## Clients -/

/-- The calls of the system service. -/
structure Client (σ : Type) where
  time : Request TimeRequest → Exchange σ TimeResponse
  reboot : Request RebootRequest → Exchange σ RebootResponse
  rebootStatus : Request RebootStatusRequest → Exchange σ RebootStatusResponse

/-- A client on a part of a state. -/
def Client.within {σ ω : Type} (p : Part σ ω) (c : Client ω) : Client σ :=
  { time := fun r => p.lift (c.time r)
    reboot := fun r => p.lift (c.reboot r)
    rebootStatus := fun r => p.lift (c.rebootStatus r) }

/-- The restarts that a recording client was asked for. -/
structure Recorder where
  reboots : List RebootRequest := []
  deriving DecidableEq, Inhabited

namespace Recorder

/-- The time that a recording client always tells. -/
def fixedTime : UInt64 := 1700000000000000000

/-- The client that records. -/
def client : Client Recorder :=
  { time := fun _ r => (r, .ok ⟨fixedTime⟩)
    reboot := fun req r => ({ r with reboots := r.reboots ++ [req.message] }, .ok {})
    rebootStatus := fun _ r => (r, .ok { count := r.reboots.length.toUInt32 }) }

end Recorder

end SwitchTestbed.Gnoi
