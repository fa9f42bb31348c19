import SwitchTestbed.Backend
import SwitchTestbed.Remote.Framing
import SwitchTestbed.Remote.Peer

/-!
# Clients over a channel

* `Channel` : what calls to a peer begin with, and what they may bring back;
* `Channel.head` : what is sent before any message. Lines that belong to the transport or to one
  connection stay behind;
* `Channel.call`, `Channel.read` : a unary call, and one whose stream of responses is collected as a
  whole or not at all;
* `Subscription` : a subscription, which is started by the first `recv`; requests sent before wait
  for it;
* `Channel.gnmi`, `Channel.gnoi`, `Channel.p4rt` : the clients; `Peer.stubs` makes them over
  connections.
-/

namespace SwitchTestbed.Remote

open Rpc

/-- Bytes of the largest message that is taken in where no other bound is set: 4 MiB. -/
def defaultMaxReceive : Nat := 4 * 1024 * 1024

/-- The metadata lines that belong to the transport and not to the caller. -/
def reservedHeaders : List String :=
  ["te", "user-agent", "content-type", "grpc-message", "grpc-message-type", "grpc-status"]

/-- What calls to a peer begin with. -/
structure Channel where
  defaults : CallDefaults
  userAgent : Option String := none
  deriving DecidableEq, Repr, Inhabited

namespace Channel

/-- The most bytes of a response. -/
def limit (c : Channel) : Nat := c.defaults.maxReceive.getD defaultMaxReceive

/-- What is sent before any message. -/
def head (c : Channel) (m : Metadata) : Head :=
  let m : Metadata := m.filter fun line => !reservedHeaders.contains line.1
  { metadata := m.withoutConnection
    userAgent := if m.connectionNames.contains "user-agent" then none else c.userAgent }

/-- A response, unless it is too long. -/
def accept {β : Type} (c : Channel) (size : β → Nat) (b : β) : Except Status β :=
  if c.limit < size b then .error (tooLarge c.limit (size b)) else .ok b

/-- The status for a call that went well and has no response. -/
def missingResponse : Status := ⟨.internal, "Missing response message."⟩

/-- What a call comes to that the peer has ended: its status, or what a clean end stands for. -/
def endOf {β : Type} (t : Trailers) (clean : Except Status β) : Except Status β :=
  match t.status? with
  | some s => .error s
  | none => clean

variable {ω κ : Type}

/-- A unary call. -/
def call {α β : Type} (c : Channel) (peer : Peer ω κ) (u : Unary α β) (r : Request α) :
    Exchange ω β := fun w =>
  match c.defaults.unary r with
  | .ok r =>
    let (w, reply) := peer.unary u (c.head r.metadata) r.message w
    (w, .ofExcept
      (match reply with
      | .answered b => c.accept u.responseSize b
      | .closed t => endOf t (.error missingResponse)
      | .lost s => .error s))
  | .error s => (w, .error s)
  | .aborted => (w, .aborted)

/-- All responses of a stream that ends cleanly, or the status of the first failure. -/
def collect {β : Type} (c : Channel) (size : β → Nat) (a : Answers β) : Except Status (List β) := do
  let bs ← a.responses.mapM (c.accept size)
  endOf a.trailers (.ok bs)

/-- A call with a stream of responses, collected in order. -/
def read (c : Channel) (peer : Peer ω κ) (r : Request P4Runtime.ReadRequest) :
    Exchange ω (List P4Runtime.ReadResponse) := fun w =>
  match c.defaults.streaming r with
  | .ok r =>
    let (w, reply) := peer.read (c.head r.metadata) r.message w
    (w, .ofExcept
      (match reply with
      | .answered a => c.collect Wire.encodedSize a
      | .closed t => endOf t (.ok [])
      | .lost s => .error s))
  | .error s => (w, .error s)
  | .aborted => (w, .aborted)

end Channel

/-! ## Subscriptions -/

/-- How far a subscription is. -/
inductive Phase (κ : Type) where
  /-- Not started yet. -/
  | pending (head : Head)
  | running (k : κ)
  /-- The peer did not accept it. -/
  | refused (s : Status)
  /-- It did not get as far as a peer. -/
  | lost (s : Status)
  | ended
  deriving DecidableEq, Repr

namespace Phase

variable {ω κ : Type}

/-- The state of a call that runs. -/
def call? : Phase κ → Option κ
  | running k => some k
  | _ => none

/-- Whether one more request is taken. Before the call is made it waits for it; behind, the transport
takes it as long as it holds the call, also where nobody is going to read it. A call that did not get
as far as a peer is held no more. -/
def takes (peer : Peer ω κ) (w : ω) : Phase κ → ω × Bool
  | pending _ => (w, true)
  | lost _ => (w, false)
  | phase => peer.holds phase.call? w

end Phase

/-- A subscription as its caller holds it. -/
structure Subscription (κ : Type) where
  /-- Requests that have been accepted and not been delivered. -/
  queue : List Gnmi.SubscribeRequest := []
  /-- Nothing more is going to be sent. -/
  halfClosed : Bool := false
  inbox : Inbox := {}
  /-- How the peer ended it, if it has. -/
  trailers : Option Trailers := none
  phase : Phase κ
  deriving DecidableEq

namespace Subscription

variable {ω κ : Type}

/-- The status for a request after the sending half was closed. -/
def sendAfterClose : Status := ⟨.failedPrecondition, "send after close_send"⟩

/-- The status for a request that the transport does not take any more. -/
def streamClosed : Status := ⟨.unavailable, "subscription stream closed"⟩

/-- The status for a message that cannot be read. -/
def malformedMessage : Status := ⟨.internal, "failed to decode Protobuf message"⟩

/-- The status for a stream that ends in the middle of a message. -/
def unexpectedEnd : Status := ⟨.internal, "Unexpected EOF decoding stream."⟩

/-- One more request, unless that comes too late or is not taken. -/
def send (peer : Peer ω κ) (r : Gnmi.SubscribeRequest) (w : ω) (t : Subscription κ) :
    (ω × Subscription κ) × Except Status Unit :=
  if t.halfClosed then ((w, t), .error sendAfterClose)
  else
    match t.phase.takes peer w with
    | (w, true) => ((w, { t with queue := t.queue ++ [r] }), .ok ())
    | (w, false) => ((w, t), .error streamClosed)

/-- Delivers what has been accepted and takes in what comes back. -/
def deliver (peer : Peer ω κ) (w : ω) (t : Subscription κ) (k : κ) : ω × Subscription κ :=
  let ((w, k), said) := peer.next t.queue t.halfClosed (w, k)
  (w,
    { t with
      queue := []
      inbox := t.inbox.add (said.responses.flatMap fun r => frame (Wire.encode r))
      trailers := t.trailers <|> said.trailers
      phase := .running k })

/-- The end of a subscription whose inbox holds no whole message any more. -/
def finish (t : Subscription κ) (trailers : Trailers) : Subscription κ × Gnmi.Reception :=
  if t.inbox.bytes.isEmpty then
    ({ t with phase := .ended },
      match trailers.status? with
      | some s => .failed s
      | none => .ended)
  else (t, .failed unexpectedEnd)

/-- Takes the next response out of the inbox. Where there is none and the peer is not done it has to
be waited for. -/
def take (limit : Nat) (t : Subscription κ) : Subscription κ × Gnmi.Reception :=
  let (inbox, delivery) := t.inbox.take limit
  let t := { t with inbox }
  match delivery with
  | .message body =>
    match Wire.decode body with
    | some r => (t, .response r)
    | none => (t, .failed malformedMessage)
  | .refused s => (t, .failed s)
  | .incomplete =>
    match t.trailers with
    | some trailers => t.finish trailers
    | none => (t, .waiting)

/-- The next response of a subscription that has been accepted. -/
def next (c : Channel) (peer : Peer ω κ) (w : ω) (t : Subscription κ) (k : κ) :
    (ω × Subscription κ) × Gnmi.Reception :=
  let (w, t) := t.deliver peer w k
  let (t, r) := t.take c.limit
  ((w, t), r)

/-- The next response; the first time it also starts the call. -/
def recv (c : Channel) (peer : Peer ω κ) (w : ω) (t : Subscription κ) :
    (ω × Subscription κ) × Gnmi.Reception :=
  match t.phase with
  | .pending head =>
    match peer.subscribe head w with
    | (w, .answered k) => t.next c peer w k
    | (w, .closed trailers) =>
      match trailers.status? with
      | some s => ((w, { t with phase := .refused s }), .failed s)
      | none => ((w, { t with phase := .ended }), .ended)
    | (w, .lost s) => ((w, { t with phase := .lost s }), .failed s)
  | .running k => t.next c peer w k
  | .refused s => ((w, t), .failed s)
  | .lost s => ((w, t), .failed s)
  | .ended => ((w, t), .ended)

end Subscription

/-! ## Clients -/

namespace Channel

variable {ω κ : Type}

/-- Subscriptions over a channel. -/
def stream (c : Channel) (peer : Peer ω κ) : Gnmi.Stream ω (Subscription κ) :=
  { send := fun r (w, t) => t.send peer r w
    recv := fun (w, t) => t.recv c peer w
    closeSend := fun (w, t) => ((w, { t with halfClosed := true }), .ok ()) }

/-- The gNMI client over a channel. -/
def gnmi (c : Channel) (peer : Peer ω κ) : Gnmi.Client ω (Subscription κ) :=
  { capabilities := c.call peer .gnmiCapabilities
    get := c.call peer .gnmiGet
    set := c.call peer .gnmiSet
    subscribe := fun r w =>
      (w, (c.defaults.streaming r).map fun r => { phase := .pending (c.head r.metadata) })
    stream := c.stream peer }

/-- The gNOI client over a channel. -/
def gnoi (c : Channel) (peer : Peer ω κ) : Gnoi.Client ω :=
  { time := c.call peer .gnoiTime
    reboot := c.call peer .gnoiReboot
    rebootStatus := c.call peer .gnoiRebootStatus }

/-- The P4Runtime client over a channel. -/
def p4rt (c : Channel) (peer : Peer ω κ) : P4Runtime.Client ω :=
  { write := c.call peer .p4Write
    read := c.read peer
    capabilities := c.call peer .p4Capabilities }

end Channel

/-! ## Clients of a connection -/

/-- The channel of a connection, if that carries calls. -/
def Channel.ofConnection (conn : Connection) : Except Error Channel :=
  conn.defaults.map (⟨·, conn.options.userAgent⟩)

/-- Clients that make their calls to a peer. -/
def Peer.stubs {ω κ : Type} (peer : Peer ω κ) : Stubs ω (Subscription κ) where
  gnmi conn w := (w, (Channel.ofConnection conn).map (·.gnmi peer))
  gnoi conn w := (w, (Channel.ofConnection conn).map (·.gnoi peer))
  p4rt conn w := (w, (Channel.ofConnection conn).map (·.p4rt peer))

end SwitchTestbed.Remote
