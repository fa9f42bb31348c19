import SwitchTestbed.Gnmi.Payload
import SwitchTestbed.Rpc.CallDefaults
import SwitchTestbed.Rpc.Status

/-!
# gNMI clients

* `Reception` : what comes of asking a subscription for a response;
* `Stream σ τ` : the client's side of a subscription; `τ` is what the stream knows about itself
  and `σ` what it shares with others;
* `Client σ τ` : the four calls;
* `Stream.shielded` : a stream that never closes its sending half, because that ends a
  subscription on switches;
* `Client.shielded` : a client that wraps the documents of `set` and shields its streams.
-/

namespace SwitchTestbed.Gnmi

open Rpc

/-- What comes of asking a subscription for a response. -/
inductive Reception where
  | response (r : SubscribeResponse)
  /-- The other side is done. -/
  | ended
  | failed (s : Status)
  /-- The other side has nothing to say yet. Whoever asks goes on waiting, or asks again later. -/
  | waiting
  deriving DecidableEq

/-- The client's side of a subscription. -/
structure Stream (σ τ : Type) where
  send : SubscribeRequest → σ × τ → (σ × τ) × Except Status Unit
  recv : σ × τ → (σ × τ) × Reception
  /-- Nothing more is going to be sent. -/
  closeSend : σ × τ → (σ × τ) × Except Status Unit

/-- The calls of gNMI. -/
structure Client (σ τ : Type) where
  capabilities : Request CapabilityRequest → Exchange σ CapabilityResponse
  get : Request GetRequest → Exchange σ GetResponse
  set : Request SetRequest → Exchange σ SetResponse
  /-- Opens a subscription. -/
  subscribe : Request Unit → Exchange σ τ
  stream : Stream σ τ

/-- A stream that never closes its sending half. -/
def Stream.shielded {σ τ : Type} (s : Stream σ τ) : Stream σ τ :=
  { s with closeSend := fun st => (st, .ok ()) }

/-- A client that wraps the documents of `set` and shields its streams. A document that cannot
be wrapped is answered at once. -/
def Client.shielded {σ τ : Type} (c : Client σ τ) : Client σ τ :=
  { c with
    set := fun r s =>
      match r.message.wrapped with
      | .ok m => c.set { r with message := m } s
      | .error e => (s, .error e.status)
    stream := c.stream.shielded }

/-- A part of a state beside what a stream knows about itself. -/
def streamPart {σ ω : Type} (p : Part σ ω) (τ : Type) : Part (σ × τ) (ω × τ) :=
  ⟨fun st => (p.get st.1, st.2), fun wt st => (p.put wt.1 st.1, wt.2)⟩

/-- A stream on a part of a state. -/
def Stream.within {σ ω τ : Type} (p : Part σ ω) (c : Stream ω τ) : Stream σ τ :=
  { send := fun r => (streamPart p τ).lift (c.send r)
    recv := (streamPart p τ).lift c.recv
    closeSend := (streamPart p τ).lift c.closeSend }

/-- A client on a part of a state. -/
def Client.within {σ ω τ : Type} (p : Part σ ω) (c : Client ω τ) : Client σ τ :=
  { capabilities := fun r => p.lift (c.capabilities r)
    get := fun r => p.lift (c.get r)
    set := fun r => p.lift (c.set r)
    subscribe := fun r => p.lift (c.subscribe r)
    stream := c.stream.within p }

end SwitchTestbed.Gnmi
