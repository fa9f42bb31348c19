import SwitchTestbed.Remote.Framing
import SwitchTestbed.Remote.Peer
import SwitchTestbed.Text.Basic

/-!
# A simulated switch

A peer that answers every call in a fixed way and writes down what it receives.

* `Script` : how the switch is going to fail, if at all, and how long its payloads are;
* `Received`, `Sighting` : a request as the switch sees it;
* `SimulatedSwitch.peer` : the switch.
-/

namespace SwitchTestbed

open Remote Rpc

/-! ## What it is told and what it sees -/

/-- How a simulated switch behaves. -/
structure Script where
  /-- Nothing listens: no call arrives, and each fails like this. -/
  unreachable : Option Status := none
  failure : Option Trailers := none
  /-- Streams fail only after so many messages, and all other calls succeed. -/
  failAfter : Option Nat := none
  /-- Bytes of each value that is read. -/
  payload : Nat := 2
  deriving DecidableEq, Repr, Inhabited

namespace Script

/-- The failure of a whole call. -/
def callFailure (s : Script) : Option Trailers :=
  match s.failAfter with
  | none => s.failure
  | some _ => none

/-- The failure in the middle of a stream, and after how many messages it comes. -/
def streamFailure (s : Script) : Option (Nat × Trailers) := do some (← s.failAfter, ← s.failure)

end Script

/-- A request as a switch sees it. -/
inductive Received where
  | gnmiCapabilities
  | gnmiGet (r : Gnmi.GetRequest)
  | gnmiSet (r : Gnmi.SetRequest)
  | gnmiSubscribe
  | gnmiSubscribeMessage (r : Gnmi.SubscribeRequest)
  | gnoiTime
  | gnoiReboot (r : Gnoi.RebootRequest)
  | gnoiRebootStatus
  | p4Write (r : P4Runtime.WriteRequest)
  | p4Read (r : P4Runtime.ReadRequest)
  | p4Capabilities
  deriving DecidableEq, Inhabited

/-- A request together with what arrived before it. -/
structure Sighting where
  /-- Messages of a stream come without one. -/
  head : Option Head
  received : Received
  deriving DecidableEq, Inhabited

/-- A switch and what it has seen. -/
structure SimulatedSwitch where
  script : Script := {}
  seen : List Sighting := []
  deriving DecidableEq, Inhabited

/-! ## Answers -/

namespace SimulatedSwitch

/-- A unary request as it is seen. -/
def received {α β : Type} : Unary α β → α → Received
  | .gnmiCapabilities, _ => .gnmiCapabilities
  | .gnmiGet, r => .gnmiGet r
  | .gnmiSet, r => .gnmiSet r
  | .gnoiTime, _ => .gnoiTime
  | .gnoiReboot, r => .gnoiReboot r
  | .gnoiRebootStatus, _ => .gnoiRebootStatus
  | .p4Write, r => .p4Write r
  | .p4Capabilities, _ => .p4Capabilities

/-- A document of blanks. -/
def blanks (n : Nat) : Gnmi.TypedValue := .jsonIetf (List.replicate n (0x20 : UInt8)).toByteArray

/-- The values of the requested paths. -/
def getResponse (payload : Nat) (r : Gnmi.GetRequest) : Gnmi.GetResponse :=
  ⟨[{ timestamp := 7, update := r.path.map fun p => ⟨some p, some (blanks payload), 0⟩ }]⟩

/-- What was done at each path of a request. -/
def setResponse (r : Gnmi.SetRequest) : Gnmi.SetResponse :=
  { base := r.base
    response := r.delete.map (fun p => ⟨some p, Gnmi.UpdateResult.deleted⟩)
      ++ r.replace.map (fun u => ⟨u.path, Gnmi.UpdateResult.replaced⟩)
      ++ r.update.map fun u => ⟨u.path, Gnmi.UpdateResult.updated⟩
    timestamp := 9 }

/-- The response to a unary request. -/
def response {α β : Type} (s : Script) : Unary α β → α → β
  | .gnmiCapabilities, _ =>
    { supportedModels := [⟨"openconfig-system", "OpenConfig", "1.0"⟩]
      supportedEncodings := [4, 0]
      version := "0.10.0" }
  | .gnmiGet, r => getResponse s.payload r
  | .gnmiSet, r => setResponse r
  | .gnoiTime, _ => ⟨1650000000000000000⟩
  | .gnoiReboot, _ => {}
  | .gnoiRebootStatus, _ =>
    { active := true, wait := 5, due := 18446744073709551615, reason := "upgrade", count := 3 }
  | .p4Write, _ => {}
  | .p4Capabilities, _ => ⟨"1.3.0"⟩

/-- Responses leave in batches of at least so many bytes, or when there are no more of them. -/
def batchSize : Nat := 32 * 1024

/-- The responses that have left when a failure takes the place of the next one, given those of the
batch that is being filled and its bytes. The failure takes that batch with it. -/
def sentBefore (batch : List P4Runtime.ReadResponse) (bytes : Nat) :
    List P4Runtime.ReadResponse → List P4Runtime.ReadResponse
  | [] => []
  | r :: rest =>
    let bytes := bytes + headerSize + Wire.encodedSize r
    if batchSize ≤ bytes then batch ++ r :: sentBefore [] 0 rest
    else sentBefore (batch ++ [r]) bytes rest

/-- One response for each requested entity. -/
def readResponses (s : Script) (r : P4Runtime.ReadRequest) : Answers P4Runtime.ReadResponse :=
  let all : List P4Runtime.ReadResponse := r.entities.map fun e => ⟨[e]⟩
  match s.streamFailure with
  | some (n, trailers) => ⟨sentBefore [] 0 (all.take n), trailers⟩
  | none => ⟨all, {}⟩

/-- The response to a message of a stream, by its number. -/
def streamResponse (number : Nat) (r : Gnmi.SubscribeRequest) : Gnmi.SubscribeResponse :=
  match r.request with
  | some (.subscribe paths) => ⟨some (.sync !paths.updatesOnly)⟩
  | some (.poll _) => ⟨some (.update { timestamp := Int64.ofNat number })⟩
  | none => ⟨none⟩

/-! ## Streams -/

/-- A subscription as the switch knows it: how many messages it has read. -/
structure Listening where
  read : Nat := 0
  deriving DecidableEq, Inhabited

/-- How many more messages of a stream are read before it fails, if it is going to. -/
def patience (s : Script) (k : Listening) : Option Nat := s.streamFailure.map fun f => f.1 - k.read

/-- How a stream ends, if it has: with its failure, else when nothing more is going to arrive. -/
def streamEnd (s : Script) (k : Listening) (last : Bool) : Option Trailers :=
  match s.streamFailure with
  | some (n, trailers) => if n ≤ k.read then some trailers else if last then some {} else none
  | none => if last then some {} else none

/-- Reads the messages that have arrived and responds to each. -/
def converse (rs : List Gnmi.SubscribeRequest) (last : Bool) (w : SimulatedSwitch × Listening) :
    (SimulatedSwitch × Listening) × Said :=
  let (sw, k) := w
  let heard := rs.take ((patience sw.script k).getD rs.length)
  let k' : Listening := ⟨k.read + heard.length⟩
  let sw' := { sw with seen := sw.seen ++ heard.map fun r => ⟨none, .gnmiSubscribeMessage r⟩ }
  let responses := (heard.zipIdx (k.read + 1)).map fun m => streamResponse m.2 m.1
  ((sw', k'), ⟨responses, streamEnd sw.script k' last⟩)

/-! ## The peer -/

/-- The metadata line that names how messages are compressed. -/
def encodingHeader : String := "grpc-encoding"

/-- Whether a character of a line is taken for text. -/
def isPlain (c : Char) : Bool := c = '\t' || (0x20 ≤ c.toNat && c.toNat ≤ 0x7e)

/-- The way of compressing messages that is asked for and not known. -/
def unknownEncoding? (m : Metadata) : Option String := do
  let e ← m.get? encodingHeader
  if e = "identity" ∨ !e.toList.all isPlain then none else some e

/-- The end of a call whose messages are compressed. -/
def compressed (encoding : String) : Trailers :=
  ⟨.unimplemented, "Content is compressed with \x60" ++ encoding ++ "\x60 which isn't supported"⟩

/-- The metadata line that says how many bytes a request has. -/
def lengthHeader : String := "content-length"

/-- The number for which a text of at most nineteen digits stands. -/
def lengthOf? (s : String) : Option Nat :=
  if 19 < s.length then none else natOfDigits 10 <$> s.toList.mapM (digit? 10)

/-- Whether what the metadata says of the length of a request, if anything, is acceptable. -/
def lengthIs (accepted : Nat → Bool) (m : Metadata) : Bool :=
  match m.get? lengthHeader with
  | none => true
  | some s => (lengthOf? s).any accepted

/-- Whether a request with one message is as long as its metadata says. -/
def isWhole (m : Metadata) (size : Nat) : Bool := lengthIs (fun n => n = headerSize + size) m

/-- The status for a request that is not as long as it says. -/
def brokenOff : Status :=
  ⟨.internal,
    "h2 protocol error: http2 error: stream error received: unspecific protocol error detected"⟩

/-- A call that arrives, unless nothing listens. One with compressed messages is not looked at, nor
one that is not as long as it says. -/
def arrive {β : Type} (head : Head) (whole : Bool) (r : Received) (answer : Script → β)
    (sw : SimulatedSwitch) : SimulatedSwitch × Reply β :=
  match sw.script.unreachable, unknownEncoding? head.metadata with
  | some s, _ => (sw, .lost s)
  | none, some e => (sw, .closed (compressed e))
  | none, none =>
    if !whole then (sw, .lost brokenOff)
    else
      ({ sw with seen := sw.seen ++ [⟨some head, r⟩] },
        match sw.script.callFailure with
        | some t => .closed t
        | none => .answered (answer sw.script))

/-- The switch as its callers see it. -/
def peer : Peer SimulatedSwitch Listening where
  unary u head r :=
    arrive head (isWhole head.metadata (u.requestSize r)) (received u r) fun s => response s u r
  read head r :=
    arrive head (isWhole head.metadata (Wire.encodedSize r)) (.p4Read r) fun s => readResponses s r
  subscribe head :=
    arrive head (lengthIs (fun _ => true) head.metadata) .gnmiSubscribe fun _ => {}
  next := converse
  holds _ sw := (sw, true)

end SimulatedSwitch

end SwitchTestbed
