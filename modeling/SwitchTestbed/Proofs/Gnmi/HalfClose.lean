import SwitchTestbed.Proofs.Gnmi.Shielded
import SwitchTestbed.Proofs.Remote.Observed

/-!
# Closed sending halves

* `StreamEvent`, `Stream.run` : the calls on a stream one after the other, and what happens between
  them to what the stream shares with others;
* `Stream.watched` : a stream that keeps the calls on it;
* `PassedOn` : a run of a shielded stream is one of the stream behind it, without the calls that
  close the sending half (`passedOn`);
* `Recorder.Spares` : a change that leaves one log of a recorder alone;
* `Recorder.run_log`, `Subscription.send_open` : what that means for a stream that records and for
  one over a channel;
* `half_close_stays_inside` : the main result.
-/

namespace SwitchTestbed

open Remote Rpc

namespace Remote.StreamCall

/-- Whether a shielded stream passes a call on. -/
def passesOn : StreamCall → Bool
  | closeSend => false
  | _ => true

def request? : StreamCall → Option Gnmi.SubscribeRequest
  | send r => some r
  | _ => none

end Remote.StreamCall

namespace Gnmi

/-! ## Runs -/

/-- A call on a stream, or a change to what it shares with others that is not made through it. -/
inductive StreamEvent (σ : Type) where
  | call (x : StreamCall)
  | elsewhere (f : σ → σ)

inductive StreamAnswer where
  | sent (r : Except Status Unit)
  | received (r : Reception)
  | closed (r : Except Status Unit)

namespace StreamEvent

variable {σ : Type}

def call? : StreamEvent σ → Option StreamCall
  | call x => some x
  | elsewhere _ => none

/-- Whether it is left of a run once the calls that are not passed on are taken out. -/
def remains : StreamEvent σ → Bool
  | call x => x.passesOn
  | elsewhere _ => true

end StreamEvent

namespace Stream

variable {σ τ : Type} (c : Stream σ τ)

def answer : StreamCall → σ × τ → StreamAnswer
  | .send r, st => .sent (c.send r st).2
  | .recv, st => .received (c.recv st).2
  | .closeSend, st => .closed (c.closeSend st).2

/-- One event after the other, with all calls and their answers. -/
def run : List (StreamEvent σ) → σ × τ → (σ × τ) × List (StreamCall × StreamAnswer)
  | [], st => (st, [])
  | .call x :: es, st =>
    let (st', answers) := run es (c.after x st)
    (st', (x, c.answer x st) :: answers)
  | .elsewhere f :: es, st => run es (f st.1, st.2)

theorem run_call (x : StreamCall) (es : List (StreamEvent σ)) (st : σ × τ) :
    c.run (.call x :: es) st =
      ((c.run es (c.after x st)).1, (x, c.answer x st) :: (c.run es (c.after x st)).2) := rfl

theorem run_calls (es : List (StreamEvent σ)) (st : σ × τ) :
    (c.run es st).2.map Prod.fst = es.filterMap StreamEvent.call? := by
  induction es generalizing st with
  | nil => rfl
  | cons e es ih =>
    cases e with
    | call x => exact congrArg (x :: ·) (ih (c.after x st))
    | elsewhere f => exact ih (f st.1, st.2)

/-- **What every call keeps of a stream** holds whenever a call is answered. -/
theorem exists_of_mem_run {P : τ → Prop} (hkept : ∀ x st, P st.2 → P (c.after x st).2)
    {es : List (StreamEvent σ)} {st : σ × τ} (h : P st.2) {x : StreamCall} {a : StreamAnswer}
    (hx : (x, a) ∈ (c.run es st).2) : ∃ st', P st'.2 ∧ a = c.answer x st' := by
  induction es generalizing st with
  | nil => cases hx
  | cons e es ih =>
    cases e with
    | call y =>
      rcases List.mem_cons.mp hx with heq | hlater
      · cases heq
        exact ⟨st, h, rfl⟩
      · exact ih (hkept y st h) hlater
    | elsewhere f =>
      have hsame : P (f st.1, st.2).2 := h
      exact ih hsame hx

/-! ## Shielded streams -/

theorem after_shielded {x : StreamCall} (h : x.passesOn = true) (st : σ × τ) :
    c.shielded.after x st = c.after x st := by
  cases x with
  | send r => rfl
  | recv => rfl
  | closeSend => cases h

theorem answer_shielded {x : StreamCall} (h : x.passesOn = true) (st : σ × τ) :
    c.shielded.answer x st = c.answer x st := by
  cases x with
  | send r => rfl
  | recv => rfl
  | closeSend => cases h

theorem shielded_closeSend {x : StreamCall} (h : x.passesOn = false) (st : σ × τ) :
    c.shielded.after x st = st ∧ c.shielded.answer x st = .closed (.ok ()) := by
  cases x with
  | send r => cases h
  | recv => cases h
  | closeSend => exact ⟨rfl, rfl⟩

/-- **A run of a shielded stream** is, but for the calls that are not passed on, one of the stream
behind it. -/
theorem run_shielded (es : List (StreamEvent σ)) (st : σ × τ) :
    (c.shielded.run es st).1 = (c.run (es.filter StreamEvent.remains) st).1 ∧
      ((c.shielded.run es st).2.filter fun answer => answer.1.passesOn) =
        (c.run (es.filter StreamEvent.remains) st).2 := by
  induction es generalizing st with
  | nil => exact ⟨rfl, rfl⟩
  | cons e es ih =>
    cases e with
    | elsewhere f => exact ih (f st.1, st.2)
    | call x =>
      cases hx : x.passesOn with
      | true =>
        have hremains : (StreamEvent.call (σ := σ) x).remains = true := hx
        obtain ⟨hstate, hanswers⟩ := ih (c.after x st)
        rw [List.filter_cons_of_pos hremains, run_call, run_call, c.after_shielded hx,
          c.answer_shielded hx]
        refine ⟨hstate, ?_⟩
        rw [← hanswers]
        exact List.filter_cons_of_pos hx
      | false =>
        have hdropped : ¬x.passesOn = true := by rw [hx]; exact Bool.false_ne_true
        have hremains : ¬(StreamEvent.call (σ := σ) x).remains = true := hdropped
        obtain ⟨hafter, hanswer⟩ := c.shielded_closeSend hx st
        obtain ⟨hstate, hanswers⟩ := ih st
        rw [List.filter_cons_of_neg hremains, run_call, hafter, hanswer]
        refine ⟨hstate, ?_⟩
        rw [← hanswers]
        exact List.filter_cons_of_neg hdropped

/-! ## Streams under observation -/

/-- One more call of a stream that keeps them. -/
def watch {β : Type} (x : StreamCall) (call : σ × τ → (σ × τ) × β) :
    σ × τ × List StreamCall → (σ × τ × List StreamCall) × β := fun (s, t, seen) =>
  let ((s, t), b) := call (s, t)
  ((s, t, seen ++ [x]), b)

/-- A stream that keeps the calls on it, the last one at the end. -/
def watched : Stream σ (τ × List StreamCall) :=
  { send := fun r => watch (.send r) (c.send r)
    recv := watch .recv c.recv
    closeSend := watch .closeSend c.closeSend }

theorem after_watched (x : StreamCall) (s : σ) (t : τ) (seen : List StreamCall) :
    c.watched.after x (s, t, seen) =
      ((c.after x (s, t)).1, (c.after x (s, t)).2, seen ++ [x]) := by
  cases x <;> rfl

theorem run_watched (es : List (StreamEvent σ)) (s : σ) (t : τ) (seen : List StreamCall) :
    (c.watched.run es (s, t, seen)).1.2.2 = seen ++ es.filterMap StreamEvent.call? := by
  induction es generalizing s t seen with
  | nil => exact (List.append_nil seen).symm
  | cons e es ih =>
    cases e with
    | elsewhere f => exact ih (f s) t seen
    | call x =>
      have hcalls : (StreamEvent.call x :: es).filterMap StreamEvent.call? =
          x :: es.filterMap StreamEvent.call? := rfl
      rw [run_call, after_watched, ih, hcalls, List.append_assoc, List.singleton_append]

end Stream

/-- A client whose subscriptions keep the calls on them. -/
def Client.watched {σ τ : Type} (c : Client σ τ) : Client σ (τ × List StreamCall) :=
  { c with
    subscribe := fun q s => ((c.subscribe q s).1, (c.subscribe q s).2.map (·, []))
    stream := c.stream.watched }

/-- A subscription behind a shielded one sees the calls but those that close the sending half, ends
up where it would without the shield, and gives the answers to the calls it sees. The others
succeed. -/
structure PassedOn {σ τ : Type} (c : Client σ τ) (es : List (StreamEvent σ)) (s : σ) (t : τ) :
    Prop where
  calls : (c.shielded.stream.run es (s, t)).2.map Prod.fst = es.filterMap StreamEvent.call?
  seen : (c.watched.shielded.stream.run es (s, t, [])).1.2.2 =
    (es.filterMap StreamEvent.call?).filter StreamCall.passesOn
  state : (c.shielded.stream.run es (s, t)).1 =
    (c.stream.run (es.filter StreamEvent.remains) (s, t)).1
  answers : ((c.shielded.stream.run es (s, t)).2.filter fun answer => answer.1.passesOn) =
    (c.stream.run (es.filter StreamEvent.remains) (s, t)).2
  closes : ∀ a, (.closeSend, a) ∈ (c.shielded.stream.run es (s, t)).2 → a = .closed (.ok ())

theorem filterMap_call?_remains {σ : Type} (es : List (StreamEvent σ)) :
    (es.filter StreamEvent.remains).filterMap StreamEvent.call? =
      (es.filterMap StreamEvent.call?).filter StreamCall.passesOn := by
  induction es with
  | nil => rfl
  | cons e es ih =>
    cases e with
    | elsewhere f => exact ih
    | call x => cases hx : x.passesOn <;> simp [StreamEvent.remains, StreamEvent.call?, hx, ih]

theorem passedOn {σ τ : Type} (c : Client σ τ) (es : List (StreamEvent σ)) (s : σ) (t : τ) :
    PassedOn c es s t := by
  obtain ⟨hstate, hanswers⟩ := c.stream.run_shielded es (s, t)
  refine ⟨c.shielded.stream.run_calls es (s, t), ?_, hstate, hanswers, fun a ha => ?_⟩
  · have hwatched : (c.watched.shielded.stream.run es (s, t, [])).1 = _ :=
      (c.stream.watched.run_shielded es (s, t, [])).1
    rw [hwatched, c.stream.run_watched, List.nil_append, filterMap_call?_remains]
  · obtain ⟨st', -, hanswer⟩ := c.shielded.stream.exists_of_mem_run (P := fun _ => True)
      (fun _ _ _ => trivial) trivial ha
    exact hanswer

/-! ## Streams that record -/

namespace Recorder

/-- A change that leaves a log alone once there is one. -/
def Spares (index : Nat) (f : Recorder → Recorder) : Prop :=
  ∀ r log, r.streams[index]? = some log → (f r).streams[index]? = some log

theorem spares_record {index : Nat} {β : Type} {write : Recorder → Recorder × β}
    (h : Spares index fun r => (write r).1) : Spares index fun r => (record write r).1 := by
  intro r log hlog
  show (record write r).1.streams[index]? = some log
  cases harmed : r.armed with
  | some s =>
    rw [record_armed write harmed]
    exact hlog
  | none =>
    rw [record_free write harmed]
    exact h r log hlog

/-- Calls on the client leave the logs alone that there are. -/
theorem spares_call (index : Nat) (x : ClientCall) :
    Spares index fun r => (client.call x r).1 := by
  cases x with
  | capabilities q => exact spares_record fun r log hlog => hlog
  | get q => exact spares_record fun r log hlog => hlog
  | set q => exact spares_record fun r log hlog => hlog
  | failNext s => exact fun r log hlog => hlog
  | subscribe q =>
    refine spares_record fun r log hlog => ?_
    obtain ⟨hlt, -⟩ := List.getElem?_eq_some_iff.mp hlog
    exact (List.getElem?_append_left hlt).trans hlog

/-- Calls on a stream leave the logs of others alone. -/
theorem spares_after {index : Nat} {t : RecordedStream} (h : t.index ≠ index) (x : StreamCall) :
    Spares index fun r => (stream.after x (r, t)).1 := by
  intro r log hlog
  have hchanged : ∀ f, (r.changeLog t.index f).streams[index]? = some log := fun f =>
    (List.getElem?_modify_ne f r.streams h).trans hlog
  cases x with
  | send q => exact hchanged _
  | recv => exact hlog
  | closeSend => exact hchanged _

theorem subscribe_log {q : Request Unit} {r r' : Recorder} {t : RecordedStream}
    (h : client.subscribe q r = (r', .ok t)) : r'.streams[t.index]? = some {} := by
  have hrecord : record (fun r => ({ r with streams := r.streams ++ [{}] },
      (⟨r.streams.length, r.responses⟩ : RecordedStream))) r = (r', .ok t) := h
  cases harmed : r.armed with
  | some s =>
    rw [record_armed _ harmed] at hrecord
    cases hrecord
  | none =>
    rw [record_free _ harmed] at hrecord
    cases hrecord
    exact List.getElem?_concat_length

/-- The log of a shielded stream gets all that is sent, and no half-close. -/
theorem run_log {es : List (StreamEvent Recorder)} {r : Recorder} {t : RecordedStream}
    {log : StreamLog} (h : r.streams[t.index]? = some log)
    (hspared : ∀ f, .elsewhere f ∈ es → Spares t.index f) :
    (stream.shielded.run es (r, t)).1.1.streams[t.index]? = some { log with
      sent := log.sent ++ (es.filterMap StreamEvent.call?).filterMap StreamCall.request? } := by
  induction es generalizing r t log with
  | nil =>
    rw [List.filterMap_nil, List.filterMap_nil, List.append_nil]
    exact h
  | cons e es ih =>
    have hlater : ∀ f, .elsewhere f ∈ es → Spares t.index f :=
      fun f hf => hspared f (List.mem_cons_of_mem _ hf)
    cases e with
    | elsewhere f => exact ih (hspared f List.mem_cons_self r log h) hlater
    | call x =>
      cases x with
      | send q =>
        have hsent :
            (r.changeLog t.index fun l => { l with sent := l.sent ++ [q] }).streams[t.index]? =
              some { log with sent := log.sent ++ [q] } := by
          rw [changeLog, List.getElem?_modify_eq, h]
          rfl
        have hrun := ih hsent hlater
        rw [List.append_assoc] at hrun
        exact hrun
      | recv => exact ih (t := { t with responses := t.responses.tail }) h hlater
      | closeSend => exact ih h hlater

end Recorder

end Gnmi

/-! ## Streams over a channel -/

namespace Remote.Subscription

variable {ω κ : Type} {c : Channel} {peer : Peer ω κ}

theorem take_halfClosed (limit : Nat) (t : Subscription κ) :
    (t.take limit).1.halfClosed = t.halfClosed := by
  rw [take_kept]

theorem next_halfClosed (w : ω) (t : Subscription κ) (k : κ) :
    (t.next c peer w k).1.2.halfClosed = t.halfClosed :=
  take_halfClosed c.limit (t.deliver peer w k).2

theorem recv_halfClosed (w : ω) (t : Subscription κ) :
    (t.recv c peer w).1.2.halfClosed = t.halfClosed := by
  unfold recv
  cases t.phase with
  | running k => exact next_halfClosed w t k
  | refused s => rfl
  | lost s => rfl
  | ended => rfl
  | pending head =>
    dsimp only
    rcases peer.subscribe head w with ⟨w', k | trailers | s⟩
    · exact next_halfClosed w' t k
    · dsimp only
      cases trailers.status? <;> rfl
    · rfl

/-- **One call on a shielded stream leaves the sending half open.** -/
theorem after_shielded_halfClosed (x : StreamCall) (st : ω × Subscription κ)
    (h : st.2.halfClosed = false) :
    ((c.stream peer).shielded.after x st).2.halfClosed = false := by
  cases x with
  | send r => exact (st.2.sent peer r st.1).halfClosed_eq.trans h
  | recv => exact (recv_halfClosed st.1 st.2).trans h
  | closeSend => exact h

/-- With the sending half open, a request is refused only where the call has been let go. -/
theorem send_open {w : ω} {t : Subscription κ} (h : t.halfClosed = false)
    {r : Gnmi.SubscribeRequest} {e : Status} (he : (t.send peer r w).2 = .error e) :
    e = streamClosed := by
  have hsent := t.sent peer r w
  generalize t.send peer r w = answer at hsent he
  cases hsent with
  | late hclosed =>
    rw [h] at hclosed
    cases hclosed
  | accepted _ _ => cases he
  | letGo _ _ =>
    cases he
    rfl

end Remote.Subscription

/-! ## Main result -/

namespace Gnmi

/-- **Closing the sending half stays inside the shield.** Whatever the client and whatever is done
on one of its subscriptions, the stream behind it sees the same calls without those that close the
sending half, and gives the answers to all but these. So a recorder has all requests of a
subscription, also those after it was closed, and was not told of that. And over a channel no
request is refused because it comes too late. -/
theorem half_close_stays_inside :
    (∀ {σ τ : Type} (c : Client σ τ) (q : Request Unit) (s s' : σ) (t : τ),
      c.shielded.subscribe q s = (s', .ok t) →
        c.subscribe q s = (s', .ok t) ∧ c.watched.shielded.subscribe q s = (s', .ok (t, [])) ∧
          ∀ es, PassedOn c es s' t) ∧
    (∀ (q : Request Unit) (r r' : Recorder) (t : RecordedStream),
      Recorder.client.shielded.subscribe q r = (r', .ok t) →
        ∀ es, (∀ f, .elsewhere f ∈ es → Recorder.Spares t.index f) →
          (Recorder.client.shielded.stream.run es (r', t)).1.1.streams[t.index]? = some
            { sent := (es.filterMap StreamEvent.call?).filterMap StreamCall.request?
              closed := 0 }) ∧
    (∀ {ω κ : Type} (ch : Channel) (peer : Peer ω κ) (q : Request Unit) (w w' : ω)
      (t : Subscription κ), (ch.gnmi peer).shielded.subscribe q w = (w', .ok t) →
        ∀ es r e, (.send r, .sent (.error e)) ∈ ((ch.gnmi peer).shielded.stream.run es (w', t)).2 →
          e.code ≠ .failedPrecondition) := by
  refine ⟨fun c q s s' t h => ⟨h, ?_, fun es => passedOn c es s' t⟩,
    fun q r r' t h es hspared => Recorder.run_log (Recorder.subscribe_log (q := q) h) hspared, ?_⟩
  · have hinner : c.subscribe q s = (s', .ok t) := h
    show ((c.subscribe q s).1, (c.subscribe q s).2.map (·, [])) = _
    rw [hinner]
    rfl
  intro ω κ ch peer q w w' t h es r e hsent
  have hopened : t.halfClosed = false := by
    have hanswer : (ch.defaults.streaming q).map
        (fun r => ({ phase := .pending (ch.head r.metadata) } : Subscription κ)) = .ok t :=
      congrArg Prod.snd h
    cases hstreaming : ch.defaults.streaming q <;> rw [hstreaming] at hanswer <;> cases hanswer
    rfl
  obtain ⟨st, hopen, hanswer⟩ := Stream.exists_of_mem_run _ (P := fun t => t.halfClosed = false)
    Subscription.after_shielded_halfClosed hopened hsent
  have hrefused : (st.2.send peer r st.1).2 = .error e := StreamAnswer.sent.inj hanswer.symm
  rw [Subscription.send_open hopen hrefused]
  decide

/-- Requests on a stream whose sending half is closed before and between. -/
def reopened {σ : Type} (f g : σ → σ) : List (StreamEvent σ) :=
  [.call .closeSend, .elsewhere f, .call (.send {}), .call .closeSend, .elsewhere g,
    .call (.send {}), .call .recv]

/-- Between the requests another subscription is opened and its sending half is closed. -/
theorem half_close_stays_inside_reopened :
    let q : Request Unit := ⟨(), []⟩
    let opened := fun r => (Recorder.client.call (.subscribe q) r).1
    let closed := fun r => (Recorder.stream.after .closeSend (r, ⟨1, []⟩)).1
    let remote : Client SimulatedSwitch (Subscription SimulatedSwitch.Listening) :=
      Channel.gnmi ⟨{}, none⟩ SimulatedSwitch.peer
    (∃ r t, Recorder.client.shielded.subscribe q {} = (r, .ok t) ∧
      (∀ f, .elsewhere f ∈ reopened opened closed → Recorder.Spares t.index f) ∧
      PassedOn Recorder.client (reopened opened closed) r t ∧
      (Recorder.client.shielded.stream.run (reopened opened closed) (r, t)).1.1.streams[t.index]? =
        some { sent := [{}, {}], closed := 0 }) ∧
    ∃ w t, remote.shielded.subscribe q {} = (w, .ok t) ∧
      ∀ r e, (.send r, .sent (.error e)) ∈
        (remote.shielded.stream.run (reopened id id) (w, t)).2 → e.code ≠ .failedPrecondition := by
  intro q opened closed remote
  obtain ⟨hpassed, hrecorded, hremote⟩ := half_close_stays_inside
  have hspared : ∀ f, .elsewhere f ∈ reopened opened closed → Recorder.Spares 0 f := by
    intro f hf
    have hothers : f = opened ∨ f = closed := by simpa [reopened] using hf
    rcases hothers with rfl | rfl
    · exact Recorder.spares_call 0 (.subscribe q)
    · exact Recorder.spares_after Nat.one_ne_zero .closeSend
  exact ⟨⟨_, _, rfl, hspared,
      (hpassed Recorder.client q {} _ _ rfl).2.2 (reopened opened closed),
      hrecorded q {} _ _ rfl (reopened opened closed) hspared⟩,
    _, _, rfl, hremote ⟨{}, none⟩ SimulatedSwitch.peer q {} _ _ rfl (reopened id id)⟩

end Gnmi

end SwitchTestbed
