import SwitchTestbed.Proofs.Remote.Channel
import SwitchTestbed.Simulated.Switch

/-!
# Peers under observation

* `Observed`, `Peer.observed` : a peer whose state keeps the calls that arrive, the last one at the
  end;
* `Channel.call_arrives`, `Channel.read_arrives` : a call that can tell its timeout arrives once;
* `StreamCall`, `Stream.after` : what is done to a subscription;
* `Subscription.Stands` : whether a subscription has been started, which the first `recv` does
  (`Subscription.stands_after`).
-/

namespace SwitchTestbed

open Rpc

namespace Remote

variable {ω κ : Type}

abbrev Observed (ω : Type) := ω × List Sighting

/-- A peer that keeps the calls that arrive. -/
def Peer.observed (peer : Peer ω κ) : Peer (Observed ω) κ where
  unary u head r w :=
    let (s, reply) := peer.unary u head r w.1
    ((s, w.2 ++ [⟨some head, SimulatedSwitch.received u r⟩]), reply)
  read head r w :=
    let (s, reply) := peer.read head r w.1
    ((s, w.2 ++ [⟨some head, .p4Read r⟩]), reply)
  subscribe head w :=
    let (s, reply) := peer.subscribe head w.1
    ((s, w.2 ++ [⟨some head, .gnmiSubscribe⟩]), reply)
  next rs last w :=
    let ((s, k), said) := peer.next rs last (w.1.1, w.2)
    (((s, w.1.2), k), said)
  holds k w :=
    let (s, held) := peer.holds k w.1
    ((s, w.2), held)

/-! ## Calls -/

namespace Channel

variable {c : Channel} (peer : Peer ω κ) {given : StringMap String} {bound : CallKind → Duration}

/-- **A unary call arrives once**, and tells its timeout. -/
theorem call_arrives {α β : Type} {u : Unary α β} {q : Request α}
    (h : Preset c.defaults given bound) (hs : Sendable given (bound .unary) q.metadata)
    (w : Observed ω) :
    ∃ head, Carried given (bound .unary) q.metadata (head.metadata.values timeoutHeader) ∧
      (c.call peer.observed u q w).1.2 =
        w.2 ++ [⟨some head, SimulatedSwitch.received u q.message⟩] ∧
      (c.call peer.observed u q w).2 ≠ .aborted := by
  obtain ⟨m, hbegun, htimeout, hothers⟩ := h.sendable hs
  obtain ⟨hstate, hanswer⟩ := call_begun peer.observed (u := u) hbegun w
  exact ⟨c.head m, c.carried_head htimeout hothers, congrArg Prod.snd hstate, hanswer⟩

/-- **A read arrives once**, and tells its timeout. -/
theorem read_arrives {q : Request P4Runtime.ReadRequest}
    (h : Preset c.defaults given bound) (hs : Sendable given (bound .streaming) q.metadata)
    (w : Observed ω) :
    ∃ head, Carried given (bound .streaming) q.metadata (head.metadata.values timeoutHeader) ∧
      (c.read peer.observed q w).1.2 = w.2 ++ [⟨some head, .p4Read q.message⟩] ∧
      (c.read peer.observed q w).2 ≠ .aborted := by
  obtain ⟨m, hbegun, htimeout, hothers⟩ := h.sendable hs
  obtain ⟨hstate, hanswer⟩ := read_begun peer.observed hbegun w
  exact ⟨c.head m, c.carried_head htimeout hothers, congrArg Prod.snd hstate, hanswer⟩

end Channel

/-! ## Subscriptions -/

inductive StreamCall where
  | send (r : Gnmi.SubscribeRequest)
  | recv
  | closeSend

/-- Whether it starts a subscription that has not been started. -/
def StreamCall.starts : StreamCall → Bool
  | recv => true
  | _ => false

end Remote

/-- A subscription and what it shares with others, after one more call. -/
def Gnmi.Stream.after {σ τ : Type} (c : Gnmi.Stream σ τ) : Remote.StreamCall → σ × τ → σ × τ
  | .send r, st => (c.send r st).1
  | .recv, st => (c.recv st).1
  | .closeSend, st => (c.closeSend st).1

namespace Remote

/-- Whether a subscription has been started. If not, the head is what starting it sends. -/
def Subscription.Stands (head : Head) (t : Subscription κ) : Bool → Prop
  | false => t.phase = .pending head
  | true => ∀ head, t.phase ≠ .pending head

namespace Subscription

variable {c : Channel} (peer : Peer ω κ) {head : Head}

/-- Asking the transport whether it takes one more request leaves alone what `holds` does. -/
theorem takes_state {α : Type} {f : ω → α} (h : ∀ k w, f (peer.holds k w).1 = f w)
    (phase : Phase κ) (w : ω) : f (phase.takes peer w).1 = f w := by
  cases phase <;> first | rfl | exact h _ w

/-- **What comes of a request.** None is taken behind a half-close, and else all but those that the
phase of the call does not take. -/
inductive Sent (peer : Peer ω κ) (r : Gnmi.SubscribeRequest) (w : ω) (t : Subscription κ) :
    (ω × Subscription κ) × Except Status Unit → Prop where
  | late (h : t.halfClosed = true) : Sent peer r w t ((w, t), .error sendAfterClose)
  | accepted {w' : ω} (h : t.halfClosed = false) (htaken : t.phase.takes peer w = (w', true)) :
      Sent peer r w t ((w', { t with queue := t.queue ++ [r] }), .ok ())
  | letGo {w' : ω} (h : t.halfClosed = false) (hgone : t.phase.takes peer w = (w', false)) :
      Sent peer r w t ((w', t), .error streamClosed)

theorem sent (r : Gnmi.SubscribeRequest) (w : ω) (t : Subscription κ) :
    Sent peer r w t (t.send peer r w) := by
  unfold send
  by_cases hclosed : t.halfClosed = true
  · rw [if_pos hclosed]
    exact .late hclosed
  · rw [if_neg hclosed]
    have hopen : t.halfClosed = false := Bool.eq_false_iff.mpr hclosed
    rcases htakes : t.phase.takes peer w with ⟨w', taken⟩
    cases taken with
    | true => exact .accepted hopen htakes
    | false => exact .letGo hopen htakes

namespace Sent

variable {peer : Peer ω κ} {r : Gnmi.SubscribeRequest} {w : ω} {t : Subscription κ}
  {answer : (ω × Subscription κ) × Except Status Unit}

theorem phase_eq (h : Sent peer r w t answer) : answer.1.2.phase = t.phase := by
  cases h <;> rfl

theorem halfClosed_eq (h : Sent peer r w t answer) : answer.1.2.halfClosed = t.halfClosed := by
  cases h <;> rfl

theorem state_eq {α : Type} {f : ω → α} (hf : ∀ k w, f (peer.holds k w).1 = f w)
    (h : Sent peer r w t answer) : f answer.1.1 = f w := by
  have hstate := takes_state peer hf t.phase w
  cases h with
  | late _ => rfl
  | accepted _ htaken => rwa [htaken] at hstate
  | letGo _ hgone => rwa [hgone] at hstate

end Sent

/-- The end of a subscription leaves all but its phase as it is. -/
theorem finish_kept (t : Subscription κ) (trailers : Trailers) :
    (t.finish trailers).1 = { t with phase := (t.finish trailers).1.phase } := by
  unfold finish
  split <;> rfl

/-- A response is taken out of the inbox alone. -/
theorem take_kept (limit : Nat) (t : Subscription κ) :
    (t.take limit).1 =
      { t with inbox := (t.take limit).1.inbox, phase := (t.take limit).1.phase } := by
  unfold take
  rcases t.inbox.take limit with ⟨inbox, body | s | _⟩
  · dsimp only
    cases Wire.decode (α := Gnmi.SubscribeResponse) body <;> rfl
  · rfl
  · dsimp only
    cases htrailers : t.trailers with
    | none => rfl
    | some trailers =>
      dsimp only
      rw [finish_kept]

theorem finish_phase (t : Subscription κ) (trailers : Trailers) :
    (t.finish trailers).1.phase = t.phase ∨ (t.finish trailers).1.phase = .ended := by
  unfold finish
  by_cases hempty : t.inbox.bytes.isEmpty = true
  · rw [if_pos hempty]
    exact Or.inr rfl
  · rw [if_neg hempty]
    exact Or.inl rfl

theorem take_phase (limit : Nat) (t : Subscription κ) :
    (t.take limit).1.phase = t.phase ∨ (t.take limit).1.phase = .ended := by
  unfold take
  rcases t.inbox.take limit with ⟨inbox, body | s | _⟩
  · dsimp only
    cases Wire.decode (α := Gnmi.SubscribeResponse) body <;> exact Or.inl rfl
  · exact Or.inl rfl
  · dsimp only
    cases t.trailers with
    | none => exact Or.inl rfl
    | some trailers => exact finish_phase _ trailers

/-- What is taken in of a subscription that runs is no call, and does not make it wait again. -/
theorem next_started (w : Observed ω) (t : Subscription κ) (k : κ) :
    (t.next c peer.observed w k).1.1.2 = w.2 ∧
      ∀ head, (t.next c peer.observed w k).1.2.phase ≠ .pending head := by
  refine ⟨rfl, fun head hphase => ?_⟩
  let delivered := (t.deliver peer.observed w k).2
  have hrunning : ∃ k', delivered.phase = .running k' := ⟨_, rfl⟩
  obtain ⟨k', hk'⟩ := hrunning
  have htaken : (delivered.take c.limit).1.phase = .pending head := hphase
  rcases take_phase c.limit delivered with h | h
  · rw [h, hk'] at htaken
    cases htaken
  · rw [h] at htaken
    cases htaken

theorem recv_pending (w : Observed ω) {t : Subscription κ} (h : t.phase = .pending head) :
    (t.recv c peer.observed w).1.1.2 = w.2 ++ [⟨some head, .gnmiSubscribe⟩] ∧
      ∀ head, (t.recv c peer.observed w).1.2.phase ≠ .pending head := by
  have harrived : (peer.observed.subscribe head w).1.2 =
      w.2 ++ [⟨some head, .gnmiSubscribe⟩] := rfl
  unfold recv
  rw [h]
  dsimp only
  rcases hreply : peer.observed.subscribe head w with ⟨w', k | trailers | s⟩ <;>
    rw [hreply] at harrived
  · obtain ⟨hlog, hphase⟩ := next_started (c := c) peer w' t k
    exact ⟨hlog.trans harrived, hphase⟩
  · dsimp only
    cases trailers.status? with
    | some s => exact ⟨harrived, fun _ => nofun⟩
    | none => exact ⟨harrived, fun _ => nofun⟩
  · exact ⟨harrived, fun _ => nofun⟩

theorem recv_started (w : Observed ω) {t : Subscription κ} (h : ∀ head, t.phase ≠ .pending head) :
    (t.recv c peer.observed w).1.1.2 = w.2 ∧
      ∀ head, (t.recv c peer.observed w).1.2.phase ≠ .pending head := by
  unfold recv
  cases hphase : t.phase with
  | pending head => exact absurd hphase (h head)
  | running k => exact next_started peer w t k
  | refused s => exact ⟨rfl, h⟩
  | lost s => exact ⟨rfl, h⟩
  | ended => exact ⟨rfl, h⟩

/-- **One step of a subscription** is a call exactly if it starts it. -/
theorem stands_after {t : Subscription κ} {started : Bool} (h : t.Stands head started)
    (x : StreamCall) (w : Observed ω) :
    ((c.stream peer.observed).after x (w, t)).1.2 =
        w.2 ++ (if x.starts && !started then [⟨some head, .gnmiSubscribe⟩] else []) ∧
      ((c.stream peer.observed).after x (w, t)).2.Stands head (started || x.starts) := by
  cases x with
  | send r =>
    have hsent := t.sent peer.observed r w
    have hphase : ((c.stream peer.observed).after (.send r) (w, t)).2.phase = t.phase :=
      hsent.phase_eq
    refine ⟨(hsent.state_eq (f := Prod.snd) fun _ _ => rfl).trans (List.append_nil _).symm, ?_⟩
    cases started with
    | false => exact hphase.trans h
    | true => exact fun head hpending => h head (hphase ▸ hpending)
  | recv =>
    cases started with
    | false => exact recv_pending peer w h
    | true =>
      obtain ⟨hlog, hphase⟩ := recv_started (c := c) peer w h
      exact ⟨hlog.trans (List.append_nil _).symm, hphase⟩
  | closeSend =>
    refine ⟨(List.append_nil _).symm, ?_⟩
    cases started with
    | false => exact h
    | true => exact h

end Subscription

end Remote

end SwitchTestbed
