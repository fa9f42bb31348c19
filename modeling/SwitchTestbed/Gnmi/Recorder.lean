import SwitchTestbed.Gnmi.Client

/-!
# A gNMI client that records

* `Recorder` : the requests so far, the log of each stream, the responses that every stream gives,
  and an error that the next call answers with;
* `Recorder.client` : the client that writes them down.
-/

namespace SwitchTestbed.Gnmi

open Rpc

/-- What happened on one stream. -/
structure StreamLog where
  sent : List SubscribeRequest := []
  /-- How often the sending half was closed. -/
  closed : Nat := 0
  deriving DecidableEq, Inhabited

/-- What a recording client has seen, and how it is going to answer. -/
structure Recorder where
  sets : List SetRequest := []
  gets : List GetRequest := []
  streams : List StreamLog := []
  /-- The responses that every stream gives, in order. -/
  responses : List SubscribeResponse := []
  /-- The answer to the next call, instead of its own. -/
  armed : Option Status := none
  deriving DecidableEq, Inhabited

/-- A stream of a recording client: the number of its log and the responses left. -/
structure RecordedStream where
  index : Nat
  responses : List SubscribeResponse
  deriving DecidableEq, Inhabited

namespace Recorder

/-- The next call fails with the status. -/
def failNext (r : Recorder) (s : Status) : Recorder := { r with armed := some s }

/-- A call that fails if it is to fail, once, and is recorded else. -/
def record {β : Type} (write : Recorder → Recorder × β) : Exchange Recorder β := fun r =>
  match r.armed with
  | some s => ({ r with armed := none }, .error s)
  | none =>
    let (r, b) := write r
    (r, .ok b)

/-- The log of a stream changed. -/
def changeLog (r : Recorder) (index : Nat) (f : StreamLog → StreamLog) : Recorder :=
  { r with streams := r.streams.modify index f }

/-- The streams of a recording client. -/
def stream : Stream Recorder RecordedStream :=
  { send := fun req (r, t) =>
      ((r.changeLog t.index fun l => { l with sent := l.sent ++ [req] }, t), .ok ())
    recv := fun (r, t) =>
      ((r, { t with responses := t.responses.tail }),
        match t.responses.head? with
        | some b => .response b
        | none => .ended)
    closeSend := fun (r, t) =>
      ((r.changeLog t.index fun l => { l with closed := l.closed + 1 }, t), .ok ()) }

/-- The client that records. -/
def client : Client Recorder RecordedStream :=
  { capabilities := fun _ => record fun r => (r, { version := "0.10.0" })
    get := fun req => record fun r => ({ r with gets := r.gets ++ [req.message] }, {})
    set := fun req => record fun r => ({ r with sets := r.sets ++ [req.message] }, {})
    subscribe := fun _ => record fun r =>
      ({ r with streams := r.streams ++ [{}] }, ⟨r.streams.length, r.responses⟩)
    stream }

end Recorder

end SwitchTestbed.Gnmi
