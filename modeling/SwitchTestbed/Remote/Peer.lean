import SwitchTestbed.Gnmi.Wire
import SwitchTestbed.Gnoi
import SwitchTestbed.P4Runtime
import SwitchTestbed.Rpc.Metadata
import SwitchTestbed.Rpc.Status

/-!
# The other side of calls

* `Unary α β` : the calls with one request and one response;
* `Head` : what arrives before any message;
* `Reply` : what comes back from a call;
* `Answers`, `Said` : the responses of a stream, and how it ends;
* `Peer ω κ` : a device as its callers see it, and the transport to it; `ω` is the state of both and
  `κ` that of one subscription.
-/

namespace SwitchTestbed.Remote

open Rpc

/-- The calls with one request and one response. -/
inductive Unary : Type → Type → Type where
  | gnmiCapabilities : Unary Gnmi.CapabilityRequest Gnmi.CapabilityResponse
  | gnmiGet : Unary Gnmi.GetRequest Gnmi.GetResponse
  | gnmiSet : Unary Gnmi.SetRequest Gnmi.SetResponse
  | gnoiTime : Unary Gnoi.TimeRequest Gnoi.TimeResponse
  | gnoiReboot : Unary Gnoi.RebootRequest Gnoi.RebootResponse
  | gnoiRebootStatus : Unary Gnoi.RebootStatusRequest Gnoi.RebootStatusResponse
  | p4Write : Unary P4Runtime.WriteRequest P4Runtime.WriteResponse
  | p4Capabilities : Unary P4Runtime.CapabilitiesRequest P4Runtime.CapabilitiesResponse

/-- Bytes of a request on the wire. -/
def Unary.requestSize {α β : Type} : Unary α β → α → Nat
  | gnmiCapabilities, r => Wire.encodedSize r
  | gnmiGet, r => Wire.encodedSize r
  | gnmiSet, r => Wire.encodedSize r
  | gnoiTime, r => Wire.encodedSize r
  | gnoiReboot, r => Wire.encodedSize r
  | gnoiRebootStatus, r => Wire.encodedSize r
  | p4Write, r => Wire.encodedSize r
  | p4Capabilities, r => Wire.encodedSize r

/-- Bytes of a response on the wire. -/
def Unary.responseSize {α β : Type} : Unary α β → β → Nat
  | gnmiCapabilities, b => Wire.encodedSize b
  | gnmiGet, b => Wire.encodedSize b
  | gnmiSet, b => Wire.encodedSize b
  | gnoiTime, b => Wire.encodedSize b
  | gnoiReboot, b => Wire.encodedSize b
  | gnoiRebootStatus, b => Wire.encodedSize b
  | p4Write, b => Wire.encodedSize b
  | p4Capabilities, b => Wire.encodedSize b

/-- What arrives before any message. -/
structure Head where
  metadata : Metadata
  userAgent : Option String
  deriving DecidableEq, Repr, Inhabited

/-- What comes back from a call. -/
inductive Reply (β : Type) where
  | answered (b : β)
  /-- The peer ended the call without an answer. -/
  | closed (t : Trailers)
  /-- The call did not get as far as a peer. -/
  | lost (s : Status)
  deriving DecidableEq

/-- The responses of a stream and how it ends. -/
structure Answers (β : Type) where
  responses : List β
  trailers : Trailers := {}
  deriving DecidableEq

/-- What a subscription says: responses, and how it ends if it has ended behind them. -/
structure Said where
  responses : List Gnmi.SubscribeResponse
  trailers : Option Trailers := none
  deriving DecidableEq

/-- A device as its callers see it, and the transport to it. -/
structure Peer (ω κ : Type) where
  unary : {α β : Type} → Unary α β → Head → α → ω → ω × Reply β
  read : Head → P4Runtime.ReadRequest → ω → ω × Reply (Answers P4Runtime.ReadResponse)
  /-- Accepts or refuses a subscription. -/
  subscribe : Head → ω → ω × Reply κ
  /-- What an accepted subscription says, given the requests that have arrived since it last spoke
  and whether these were the last ones. -/
  next : List Gnmi.SubscribeRequest → Bool → ω × κ → (ω × κ) × Said
  /-- Whether the transport takes one more request of a subscription that has been started. It stops
  when it lets go of the call, which may be as long after the call was refused, ended or cut off as
  it likes; no state of the call comes with one that runs no more. -/
  holds : Option κ → ω → ω × Bool

end SwitchTestbed.Remote
