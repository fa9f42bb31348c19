import SwitchTestbed.Rpc.CallDefaults
import SwitchTestbed.Wire.Message

/-!
# P4Runtime

* requests and responses of the calls `Write`, `Read` and `Capabilities`; the only entities are
  table entries;
* the fields of each message with their numbers on the wire;
* `Client σ` : the calls; `read` collects the whole answer;
* `Recorder`, `Recorder.client` : a client that records writes.
-/

namespace SwitchTestbed.P4Runtime

open Rpc Wire

/-! ## Messages -/

/-- A number of 128 bits. -/
structure UInt128 where
  high : UInt64 := 0
  low : UInt64 := 0
  deriving DecidableEq, Inhabited

/-- An entry of a table. -/
structure TableEntry where
  tableId : UInt32 := 0
  priority : Int32 := 0
  controllerMetadata : UInt64 := 0
  isDefaultAction : Bool := false
  deriving DecidableEq, Inhabited

/-- A table entry, or nothing. -/
structure Entity where
  tableEntry : Option TableEntry := none
  deriving DecidableEq, Inhabited

/-- One change of an entity. -/
structure Update where
  type : Int32 := 0
  entity : Option Entity := none
  deriving DecidableEq, Inhabited

/-- Changes to make. -/
structure WriteRequest where
  deviceId : UInt64 := 0
  electionId : Option UInt128 := none
  updates : List Update := []
  role : String := ""
  deriving DecidableEq, Inhabited

/-- The answer to a `WriteRequest`. -/
structure WriteResponse where
  deriving DecidableEq, Inhabited

/-- Entities to read. -/
structure ReadRequest where
  deviceId : UInt64 := 0
  entities : List Entity := []
  role : String := ""
  deriving DecidableEq, Inhabited

/-- One part of the answer to a `ReadRequest`. -/
structure ReadResponse where
  entities : List Entity := []
  deriving DecidableEq, Inhabited

/-- Asks what a device is capable of. -/
structure CapabilitiesRequest where
  deriving DecidableEq, Inhabited

/-- The answer to a `CapabilitiesRequest`. -/
structure CapabilitiesResponse where
  apiVersion : String := ""
  deriving DecidableEq, Inhabited

/-! ## Messages on the wire -/

instance : Message UInt128 where
  empty := {}
  fields :=
    [.scalar 1 .uint64 UInt128.high fun v m => { m with high := v },
      .scalar 2 .uint64 UInt128.low fun v m => { m with low := v }]

instance : Message TableEntry where
  empty := {}
  fields :=
    [.scalar 1 .uint32 TableEntry.tableId fun v m => { m with tableId := v },
      .scalar 4 .int32 TableEntry.priority fun v m => { m with priority := v },
      .scalar 5 .uint64 TableEntry.controllerMetadata fun v m =>
        { m with controllerMetadata := v },
      .scalar 8 .bool TableEntry.isDefaultAction fun v m => { m with isDefaultAction := v }]

instance : Message Entity where
  empty := {}
  fields := [.nested 2 Entity.tableEntry fun v m => { m with tableEntry := v }]

instance : Message Update where
  empty := {}
  fields :=
    [.scalar 1 .int32 Update.type fun v m => { m with type := v },
      .nested 2 Update.entity fun v m => { m with entity := v }]

instance : Message WriteRequest where
  empty := {}
  fields :=
    [.scalar 1 .uint64 WriteRequest.deviceId fun v m => { m with deviceId := v },
      .nested 3 WriteRequest.electionId fun v m => { m with electionId := v },
      .repeated 4 WriteRequest.updates fun v m => { m with updates := v },
      .scalar 6 .string WriteRequest.role fun v m => { m with role := v }]

instance : Message WriteResponse where
  empty := {}
  fields := []

instance : Message ReadRequest where
  empty := {}
  fields :=
    [.scalar 1 .uint64 ReadRequest.deviceId fun v m => { m with deviceId := v },
      .repeated 2 ReadRequest.entities fun v m => { m with entities := v },
      .scalar 3 .string ReadRequest.role fun v m => { m with role := v }]

instance : Message ReadResponse where
  empty := {}
  fields := [.repeated 1 ReadResponse.entities fun v m => { m with entities := v }]

instance : Message CapabilitiesRequest where
  empty := {}
  fields := []

instance : Message CapabilitiesResponse where
  empty := {}
  fields :=
    [.scalar 1 .string CapabilitiesResponse.apiVersion fun v m => { m with apiVersion := v }]

/-! ## Clients -/

/-- The calls of P4Runtime. -/
structure Client (σ : Type) where
  write : Request WriteRequest → Exchange σ WriteResponse
  read : Request ReadRequest → Exchange σ (List ReadResponse)
  capabilities : Request CapabilitiesRequest → Exchange σ CapabilitiesResponse

/-- A client on a part of a state. -/
def Client.within {σ ω : Type} (p : Part σ ω) (c : Client ω) : Client σ :=
  { write := fun r => p.lift (c.write r)
    read := fun r => p.lift (c.read r)
    capabilities := fun r => p.lift (c.capabilities r) }

/-- The writes that a recording client was asked for. -/
structure Recorder where
  writes : List WriteRequest := []
  deriving DecidableEq, Inhabited

namespace Recorder

/-- The client that records. -/
def client : Client Recorder :=
  { write := fun req r => ({ r with writes := r.writes ++ [req.message] }, .ok {})
    read := fun _ r => (r, .ok [{}])
    capabilities := fun _ r => (r, .ok ⟨"1.3.0"⟩) }

end Recorder

end SwitchTestbed.P4Runtime
