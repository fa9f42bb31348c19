import SwitchTestbed.Binary64
import SwitchTestbed.Data.StringMap

/-!
# gNMI messages

* `Path`, `PathElem` : where a value stands in the tree of a device;
* `TypedValue` : a value of one of several kinds, or of none;
* `Update`, `Notification` : new values, with the time at which they held;
* requests and responses of the calls `Capabilities`, `Get`, `Set` and `Subscribe`.

Enumerations stay numbers, so that unknown ones are kept.
-/

namespace SwitchTestbed.Gnmi

/-! ## Paths -/

/-- One step of a path; keys select a member of a list. -/
structure PathElem where
  name : String := ""
  key : StringMap String := ∅
  deriving DecidableEq, Inhabited

/-- Whether a step selects a member of a list. -/
def PathElem.isListMember (e : PathElem) : Bool := !e.key.isEmpty

/-- Where a value stands in the tree of a device. -/
structure Path where
  origin : String := ""
  elem : List PathElem := []
  target : String := ""
  deriving DecidableEq, Inhabited

/-- The root of the tree has no steps. -/
def Path.isRoot (p : Path) : Bool := p.elem.isEmpty

/-- The last step of a path. -/
def Path.lastElem? (p : Path) : Option PathElem := p.elem.getLast?

/-! ## Values -/

/-- Byte arrays are equal where their bytes are, whichever other instances are in scope. -/
instance (priority := 2000) decidableEqBytes : DecidableEq ByteArray :=
  fun a b => ByteArray.instDecidableEq a b

/-- The kinds of values. -/
inductive Scalar where
  | string (s : String)
  | int (i : Int64)
  | uint (n : UInt64)
  | bool (b : Bool)
  | bytes (b : ByteArray)
  | json (b : ByteArray)
  | jsonIetf (b : ByteArray)
  | ascii (s : String)
  | double (x : Binary64)
  deriving DecidableEq, Inhabited

/-- A value of one of several kinds, or of none. -/
structure TypedValue where
  value : Option Scalar := none
  deriving DecidableEq, Inhabited

namespace TypedValue

/-- A document after RFC 7951. -/
def jsonIetf (b : ByteArray) : TypedValue := ⟨some (.jsonIetf b)⟩

/-- The document of a value that holds one. -/
def jsonIetf? (v : TypedValue) : Option ByteArray :=
  match v.value with
  | some (.jsonIetf b) => some b
  | _ => none

end TypedValue

/-- A new value for a path. -/
structure Update where
  path : Option Path := none
  val : Option TypedValue := none
  duplicates : UInt32 := 0
  deriving DecidableEq, Inhabited

/-- What changed at one time. -/
structure Notification where
  timestamp : Int64 := 0
  base : Option Path := none
  update : List Update := []
  delete : List Path := []
  atomic : Bool := false
  deriving DecidableEq, Inhabited

/-! ## Set -/

/-- Paths to delete and values to replace or to update, below a common base. -/
structure SetRequest where
  base : Option Path := none
  delete : List Path := []
  replace : List Update := []
  update : List Update := []
  deriving DecidableEq, Inhabited

/-- What was done at one path. -/
structure UpdateResult where
  path : Option Path := none
  op : Int32 := 0
  deriving DecidableEq, Inhabited

/-- The operations in results. -/
def UpdateResult.deleted : Int32 := 1

@[inherit_doc UpdateResult.deleted] def UpdateResult.replaced : Int32 := 2

@[inherit_doc UpdateResult.deleted] def UpdateResult.updated : Int32 := 3

/-- The answer to a `SetRequest`. -/
structure SetResponse where
  base : Option Path := none
  response : List UpdateResult := []
  timestamp : Int64 := 0
  deriving DecidableEq, Inhabited

/-! ## Get -/

/-- The paths to read. -/
structure GetRequest where
  base : Option Path := none
  path : List Path := []
  type : Int32 := 0
  encoding : Int32 := 0
  deriving DecidableEq, Inhabited

/-- The answer to a `GetRequest`. -/
structure GetResponse where
  notification : List Notification := []
  deriving DecidableEq, Inhabited

/-! ## Capabilities -/

/-- Asks what a device is capable of. -/
structure CapabilityRequest where
  deriving DecidableEq, Inhabited

/-- A data model that a device supports. -/
structure ModelData where
  name : String := ""
  organization : String := ""
  version : String := ""
  deriving DecidableEq, Inhabited

/-- The answer to a `CapabilityRequest`. -/
structure CapabilityResponse where
  supportedModels : List ModelData := []
  supportedEncodings : List Int32 := []
  version : String := ""
  deriving DecidableEq, Inhabited

/-! ## Subscribe -/

/-- One path to follow. -/
structure SubscribedPath where
  path : Option Path := none
  mode : Int32 := 0
  sampleInterval : UInt64 := 0
  deriving DecidableEq, Inhabited

/-- The paths to follow. -/
structure SubscriptionList where
  base : Option Path := none
  subscription : List SubscribedPath := []
  mode : Int32 := 0
  updatesOnly : Bool := false
  encoding : Int32 := 0
  deriving DecidableEq, Inhabited

/-- Asks for the current values. -/
structure Poll where
  deriving DecidableEq, Inhabited

/-- What a `SubscribeRequest` asks for. -/
inductive SubscribeAction where
  | subscribe (paths : SubscriptionList)
  | poll (p : Poll)
  deriving DecidableEq, Inhabited

/-- A message to a subscription stream. -/
structure SubscribeRequest where
  request : Option SubscribeAction := none
  deriving DecidableEq, Inhabited

/-- What a `SubscribeResponse` tells. -/
inductive SubscribeEvent where
  | update (n : Notification)
  | sync (done : Bool)
  deriving DecidableEq, Inhabited

/-- A message from a subscription stream. -/
structure SubscribeResponse where
  response : Option SubscribeEvent := none
  deriving DecidableEq, Inhabited

end SwitchTestbed.Gnmi
