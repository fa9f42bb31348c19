import SwitchTestbed.Gnmi.Message
import SwitchTestbed.Wire.Message

/-!
# gNMI messages on the wire

The fields of each message with their numbers.
-/

namespace SwitchTestbed.Gnmi

open Wire

instance : Message PathElem where
  empty := {}
  fields :=
    [.scalar 1 .string PathElem.name fun v m => { m with name := v },
      .map 2 PathElem.key fun v m => { m with key := v }]

instance : Message Path where
  empty := {}
  fields :=
    [.scalar 2 .string Path.origin fun v m => { m with origin := v },
      .repeated 3 Path.elem fun v m => { m with elem := v },
      .scalar 4 .string Path.target fun v m => { m with target := v }]

/-- An alternative of a typed value. -/
def TypedValue.alternative {β : Type} (number : Nat) (c : Codec β) (get : Scalar → Option β)
    (make : β → Scalar) : Wire.Field TypedValue :=
  .alternative number c (fun v => v.value.bind get) fun b _ => ⟨some (make b)⟩

instance : Message TypedValue where
  empty := {}
  fields :=
    [TypedValue.alternative 1 .string (fun | .string s => some s | _ => none) .string,
      TypedValue.alternative 2 .int64 (fun | .int i => some i | _ => none) .int,
      TypedValue.alternative 3 .uint64 (fun | .uint n => some n | _ => none) .uint,
      TypedValue.alternative 4 .bool (fun | .bool b => some b | _ => none) .bool,
      TypedValue.alternative 5 .bytes (fun | .bytes b => some b | _ => none) .bytes,
      TypedValue.alternative 10 .bytes (fun | .json b => some b | _ => none) .json,
      TypedValue.alternative 11 .bytes (fun | .jsonIetf b => some b | _ => none) .jsonIetf,
      TypedValue.alternative 12 .string (fun | .ascii s => some s | _ => none) .ascii,
      TypedValue.alternative 14 .double (fun | .double x => some x | _ => none) .double]

instance : Message Update where
  empty := {}
  fields :=
    [.nested 1 Update.path fun v m => { m with path := v },
      .nested 3 Update.val fun v m => { m with val := v },
      .scalar 4 .uint32 Update.duplicates fun v m => { m with duplicates := v }]

instance : Message Notification where
  empty := {}
  fields :=
    [.scalar 1 .int64 Notification.timestamp fun v m => { m with timestamp := v },
      .nested 2 Notification.base fun v m => { m with base := v },
      .repeated 4 Notification.update fun v m => { m with update := v },
      .repeated 5 Notification.delete fun v m => { m with delete := v },
      .scalar 6 .bool Notification.atomic fun v m => { m with atomic := v }]

instance : Message SetRequest where
  empty := {}
  fields :=
    [.nested 1 SetRequest.base fun v m => { m with base := v },
      .repeated 2 SetRequest.delete fun v m => { m with delete := v },
      .repeated 3 SetRequest.replace fun v m => { m with replace := v },
      .repeated 4 SetRequest.update fun v m => { m with update := v }]

instance : Message UpdateResult where
  empty := {}
  fields :=
    [.nested 2 UpdateResult.path fun v m => { m with path := v },
      .scalar 4 .int32 UpdateResult.op fun v m => { m with op := v }]

instance : Message SetResponse where
  empty := {}
  fields :=
    [.nested 1 SetResponse.base fun v m => { m with base := v },
      .repeated 2 SetResponse.response fun v m => { m with response := v },
      .scalar 4 .int64 SetResponse.timestamp fun v m => { m with timestamp := v }]

instance : Message GetRequest where
  empty := {}
  fields :=
    [.nested 1 GetRequest.base fun v m => { m with base := v },
      .repeated 2 GetRequest.path fun v m => { m with path := v },
      .scalar 3 .int32 GetRequest.type fun v m => { m with type := v },
      .scalar 5 .int32 GetRequest.encoding fun v m => { m with encoding := v }]

instance : Message GetResponse where
  empty := {}
  fields := [.repeated 1 GetResponse.notification fun v m => { m with notification := v }]

instance : Message CapabilityRequest where
  empty := {}
  fields := []

instance : Message ModelData where
  empty := {}
  fields :=
    [.scalar 1 .string ModelData.name fun v m => { m with name := v },
      .scalar 2 .string ModelData.organization fun v m => { m with organization := v },
      .scalar 3 .string ModelData.version fun v m => { m with version := v }]

instance : Message CapabilityResponse where
  empty := {}
  fields :=
    [.repeated 1 CapabilityResponse.supportedModels fun v m => { m with supportedModels := v },
      .packed 2 CapabilityResponse.supportedEncodings fun v m =>
        { m with supportedEncodings := v },
      .scalar 3 .string CapabilityResponse.version fun v m => { m with version := v }]

instance : Message SubscribedPath where
  empty := {}
  fields :=
    [.nested 1 SubscribedPath.path fun v m => { m with path := v },
      .scalar 2 .int32 SubscribedPath.mode fun v m => { m with mode := v },
      .scalar 3 .uint64 SubscribedPath.sampleInterval fun v m => { m with sampleInterval := v }]

instance : Message SubscriptionList where
  empty := {}
  fields :=
    [.nested 1 SubscriptionList.base fun v m => { m with base := v },
      .repeated 2 SubscriptionList.subscription fun v m => { m with subscription := v },
      .scalar 5 .int32 SubscriptionList.mode fun v m => { m with mode := v },
      .scalar 6 .bool SubscriptionList.updatesOnly fun v m => { m with updatesOnly := v },
      .scalar 8 .int32 SubscriptionList.encoding fun v m => { m with encoding := v }]

instance : Message Poll where
  empty := {}
  fields := []

/-- The paths of a request to subscribe. -/
def SubscribeRequest.paths? (r : SubscribeRequest) : Option SubscriptionList :=
  match r.request with
  | some (.subscribe l) => some l
  | _ => none

/-- The content of a request to poll. -/
def SubscribeRequest.poll? (r : SubscribeRequest) : Option Poll :=
  match r.request with
  | some (.poll p) => some p
  | _ => none

instance : Message SubscribeRequest where
  empty := {}
  fields :=
    [.nested 1 SubscribeRequest.paths? fun v _ => ⟨v.map .subscribe⟩,
      .nested 3 SubscribeRequest.poll? fun v _ => ⟨v.map .poll⟩]

/-- The notification of a response. -/
def SubscribeResponse.update? (r : SubscribeResponse) : Option Notification :=
  match r.response with
  | some (.update n) => some n
  | _ => none

/-- What a response tells about the end of the first round. -/
def SubscribeResponse.sync? (r : SubscribeResponse) : Option Bool :=
  match r.response with
  | some (.sync b) => some b
  | _ => none

instance : Message SubscribeResponse where
  empty := {}
  fields :=
    [.nested 1 SubscribeResponse.update? fun v _ => ⟨v.map .update⟩,
      .alternative 3 .bool SubscribeResponse.sync? fun v _ => ⟨some (.sync v)⟩]

end SwitchTestbed.Gnmi
