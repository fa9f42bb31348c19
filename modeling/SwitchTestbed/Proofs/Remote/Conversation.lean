import SwitchTestbed.Proofs.Remote.Transcript

/-!
# Conversations

* `Stream.run_keeps` : what every event keeps of a stream and its answers;
* `acceptedRequests`, `returnedResponses` : what the answers of a subscription tell;
* `Overrun` : some `recv` has come to a response that is longer than the limit;
* `Yields` : the answer of a `recv`, by what has been said and returned;
* `Kept`, `Told` : what holds of a subscription, its transcript and its answers, whatever is done
  (`kept_after`, `kept_run`);
* `Conversation` : what that means for whoever sees only the answers and the peer;
* `subscriptions_converse_in_order` : the main result.

A refused response leaves its body in the inbox, where the next `recv` looks for a header. So all
that is said of responses ends with the first overlong one.
-/

namespace SwitchTestbed

open Rpc

/-! ## Runs -/

namespace Gnmi

/-- An event of a part of what a stream shares with others. -/
def StreamEvent.beside {σ ρ : Type} : StreamEvent σ → StreamEvent (σ × ρ)
  | call x => call x
  | elsewhere f => elsewhere fun s => (f s.1, s.2)

end Gnmi

namespace Remote

variable {ω κ : Type}

/-! ## Answers -/

/-- The calls on a subscription and their answers. -/
abbrev Answered := List (StreamCall × Gnmi.StreamAnswer)

def accepted? : StreamCall × Gnmi.StreamAnswer → Option Gnmi.SubscribeRequest
  | (.send r, .sent (.ok ())) => some r
  | _ => none

def response? : StreamCall × Gnmi.StreamAnswer → Option Gnmi.SubscribeResponse
  | (.recv, .received (.response r)) => some r
  | _ => none

def acceptedRequests (as : Answered) : List Gnmi.SubscribeRequest := as.filterMap accepted?

def returnedResponses (as : Answered) : List Gnmi.SubscribeResponse := as.filterMap response?

section Answers

variable {as : Answered} {x : StreamCall} {a : Gnmi.StreamAnswer}

theorem acceptedRequests_of_some {r : Gnmi.SubscribeRequest} (h : accepted? (x, a) = some r) :
    acceptedRequests (as ++ [(x, a)]) = acceptedRequests as ++ [r] := by
  simp [acceptedRequests, h]

theorem acceptedRequests_of_none (h : accepted? (x, a) = none) :
    acceptedRequests (as ++ [(x, a)]) = acceptedRequests as := by
  simp [acceptedRequests, h]

theorem returnedResponses_of_some {r : Gnmi.SubscribeResponse} (h : response? (x, a) = some r) :
    returnedResponses (as ++ [(x, a)]) = returnedResponses as ++ [r] := by
  simp [returnedResponses, h]

theorem returnedResponses_of_none (h : response? (x, a) = none) :
    returnedResponses (as ++ [(x, a)]) = returnedResponses as := by
  simp [returnedResponses, h]

theorem response?_of_nothing {e : Gnmi.Reception} (h : ∀ r, e ≠ .response r) :
    response? (.recv, .received e) = none := by
  cases e with
  | response r => exact absurd rfl (h r)
  | _ => rfl

theorem mem_calls_concat {y : StreamCall} :
    y ∈ (as ++ [(x, a)]).map Prod.fst ↔ y ∈ as.map Prod.fst ∨ y = x := by
  simp

end Answers

/-! ## Responses -/

/-- Some `recv` has come to a response that is longer than the limit. -/
def Overrun (limit : Nat) (said : List Gnmi.SubscribeResponse) (as : Answered) : Prop :=
  ∃ r ∈ said, limit < Wire.encodedSize r ∧
    (.recv, .received (.failed (tooLarge limit (Wire.encodedSize r)))) ∈ as

theorem Overrun.mono {limit : Nat} {said said' : List Gnmi.SubscribeResponse} {as as' : Answered}
    (h : Overrun limit said as) (hsaid : said ⊆ said') (has : as ⊆ as') :
    Overrun limit said' as' := by
  obtain ⟨r, hr, hlong, hanswer⟩ := h
  exact ⟨r, hsaid hr, hlong, has hanswer⟩

/-- What has been said and not been returned waits in the inbox, and nothing else does. -/
def InStep (said : List Gnmi.SubscribeResponse) (as : Answered) (inbox : Inbox) : Prop :=
  ∃ left, said = returnedResponses as ++ left ∧ inbox = ⟨left.flatMap framed, none⟩

theorem InStep.add {said more : List Gnmi.SubscribeResponse} {as : Answered} {inbox : Inbox}
    (h : InStep said as inbox) : InStep (said ++ more) as (inbox.add (more.flatMap framed)) := by
  obtain ⟨left, rfl, rfl⟩ := h
  refine ⟨left ++ more, List.append_assoc .., ?_⟩
  rw [Inbox.add, List.flatMap_append]

/-- The answer of a `recv` when a part of what has been said was returned before: the next response,
or its length if that is above the limit, or no response if there is none. -/
inductive Yields (limit : Nat) (said returned : List Gnmi.SubscribeResponse) :
    Gnmi.Reception → Prop where
  | next {r : Gnmi.SubscribeResponse} {rest : List Gnmi.SubscribeResponse}
      (h : said = returned ++ r :: rest) (hfits : Wire.encodedSize r ≤ limit) :
      Yields limit said returned (.response r)
  | tooLarge {r : Gnmi.SubscribeResponse} {rest : List Gnmi.SubscribeResponse}
      (h : said = returned ++ r :: rest) (hlong : limit < Wire.encodedSize r) :
      Yields limit said returned (.failed (tooLarge limit (Wire.encodedSize r)))
  | nothing {a : Gnmi.Reception} (h : said = returned) (hnothing : ∀ r, a ≠ .response r) :
      Yields limit said returned a

theorem Subscription.take_inStep {t : Subscription κ} {limit : Nat}
    {said : List Gnmi.SubscribeResponse} {as : Answered} (hsaid : Framable said)
    (h : InStep said as t.inbox) :
    Yields limit said (returnedResponses as) (t.take limit).2 ∧
      (¬Overrun limit said (as ++ [(.recv, .received (t.take limit).2)]) →
        InStep said (as ++ [(.recv, .received (t.take limit).2)]) (t.take limit).1.inbox ∧
          ((t.take limit).1.phase = t.phase ∨
            said = returnedResponses (as ++ [(.recv, .received (t.take limit).2)]))) := by
  obtain ⟨left, hleft, hinbox⟩ := h
  cases left with
  | nil =>
    obtain ⟨hnothing, hempty⟩ := t.take_nothing hinbox limit
    rw [List.append_nil] at hleft
    have hreturned : said =
        returnedResponses (as ++ [(.recv, .received (t.take limit).2)]) := by
      rw [returnedResponses_of_none (response?_of_nothing hnothing), hleft]
    refine ⟨.nothing hleft hnothing, fun _ => ⟨⟨[], ?_, hempty⟩, .inr hreturned⟩⟩
    rw [List.append_nil, ← hreturned]
  | cons r rest =>
    have hsize : Wire.encodedSize r ≤ maxBody := hsaid r (by simp [hleft])
    rcases Nat.lt_or_ge limit (Wire.encodedSize r) with hlong | hfits
    · have hanswer := t.take_tooLarge hinbox hsize hlong
      rw [hanswer]
      refine ⟨.tooLarge hleft hlong, fun hover => absurd ?_ hover⟩
      exact ⟨r, by simp [hleft], hlong, by simp⟩
    · rw [t.take_next hinbox hsize hfits]
      refine ⟨.next hleft hfits, fun _ => ⟨⟨rest, ?_, rfl⟩, .inl rfl⟩⟩
      rw [returnedResponses_of_some rfl, hleft, List.append_assoc, List.singleton_append]

/-! ## What is kept -/

/-- How the call of a subscription was taken, if it was made. -/
def Phase.outcome? : Phase κ → Option (Option Status)
  | .pending _ => none
  | .running _ => some none
  | .refused s => some (some s)
  | .lost s => some (some s)
  | .ended => some none

/-- What holds of a transcript, the subscription and its answers. -/
structure Kept (limit : Nat) (T : Transcript) (t : Subscription κ) (as : Answered) : Prop where
  requests : T.heard ++ t.queue = acceptedRequests as
  calls : T.calls = t.phase.outcome?.toList
  silent : t.phase.outcome? ≠ some none → T.heard = [] ∧ T.said = []
  refused : ∀ s, t.phase.outcome? = some (some s) →
    ∀ a, (.recv, a) ∈ as → a = .received (.failed s)
  inStep : Framable T.said → ¬Overrun limit T.said as → InStep T.said as t.inbox
  ended : Framable T.said → ¬Overrun limit T.said as → t.phase = .ended →
    T.said = returnedResponses as

/-- Whether the call was made, and whether more may be sent, is told from the calls. -/
structure Told (t : Subscription κ) (as : Answered) : Prop where
  started : t.phase.outcome?.isSome = true ↔ .recv ∈ as.map Prod.fst
  halfClosed : t.halfClosed = true ↔ .closeSend ∈ as.map Prod.fst

section Steps

variable {limit : Nat} {T T' : Transcript} {t t' : Subscription κ} {as : Answered}

/-- A call that takes no response in keeps what there is, but for the queue. -/
theorem Kept.idle (h : Kept limit T t as) {x : StreamCall} {a : Gnmi.StreamAnswer}
    (hresponse : response? (x, a) = none) (hphase : t'.phase = t.phase)
    (hinbox : t'.inbox = t.inbox)
    (hrequests : T.heard ++ t'.queue = acceptedRequests (as ++ [(x, a)]))
    (hrefused : ∀ s, t.phase.outcome? = some (some s) → x = .recv → a = .received (.failed s)) :
    Kept limit T t' (as ++ [(x, a)]) := by
  have hreturned : returnedResponses (as ++ [(x, a)]) = returnedResponses as :=
    returnedResponses_of_none hresponse
  have hover (hnot : ¬Overrun limit T.said (as ++ [(x, a)])) : ¬Overrun limit T.said as :=
    fun h => hnot (h.mono (List.Subset.refl _) (List.subset_append_left _ _))
  refine ⟨hrequests, hphase ▸ h.calls, hphase ▸ h.silent, ?_, ?_, ?_⟩
  · intro s hs b hb
    rw [hphase] at hs
    rcases List.mem_append.mp hb with hb | hb
    · exact h.refused s hs b hb
    · obtain ⟨rfl, rfl⟩ := Prod.mk.inj (List.mem_singleton.mp hb)
      exact hrefused s hs rfl
  · intro hframable hnot
    rw [InStep, hreturned, hinbox]
    exact h.inStep hframable (hover hnot)
  · intro hframable hnot hended
    rw [hreturned]
    exact h.ended hframable (hover hnot) (hphase ▸ hended)

theorem Kept.send {peer : Peer ω κ} {w : ω × Transcript} (h : Kept limit w.2 t as)
    {r : Gnmi.SubscribeRequest} {answer : ((ω × Transcript) × Subscription κ) × Except Status Unit}
    (hsent : Subscription.Sent peer.transcribed r w t answer) :
    Kept limit answer.1.1.2 answer.1.2 (as ++ [(.send r, .sent answer.2)]) := by
  have hrefused {a : Gnmi.StreamAnswer} (s : Status) (_ : t.phase.outcome? = some (some s))
      (hx : StreamCall.send r = .recv) : a = .received (.failed s) := by cases hx
  rw [hsent.state_eq (f := Prod.snd) fun _ _ => rfl]
  cases hsent with
  | accepted _ _ =>
    refine h.idle rfl rfl rfl ?_ hrefused
    rw [acceptedRequests_of_some rfl, ← h.requests, List.append_assoc]
  | late _ | letGo _ _ =>
    refine h.idle rfl rfl rfl ?_ hrefused
    rw [acceptedRequests_of_none rfl, h.requests]

theorem Kept.closeSend (h : Kept limit T t as) :
    Kept limit T { t with halfClosed := true } (as ++ [(.closeSend, .closed (.ok ()))]) := by
  refine h.idle rfl rfl rfl ?_ fun _ _ hx => by cases hx
  rw [acceptedRequests_of_none rfl, h.requests]

/-- An answer without a response changes nothing, and tells how the call was refused if it was. -/
theorem Kept.unanswered (h : Kept limit T t as)
    {a : Gnmi.Reception} (hnothing : ∀ r, a ≠ .response r)
    (hrefused : ∀ s, t.phase.outcome? = some (some s) → a = .failed s) :
    Kept limit T t (as ++ [(.recv, .received a)]) := by
  refine h.idle (response?_of_nothing hnothing) rfl rfl ?_ fun s hs _ => ?_
  · rw [acceptedRequests_of_none rfl, h.requests]
  · rw [hrefused s hs]

/-- The first call takes up the subscription. -/
theorem Kept.called (h : Kept limit T t as) {head : Head} (hpending : t.phase = .pending head)
    (hfirst : .recv ∉ as.map Prod.fst) {phase : Phase κ} {refusal : Option Status}
    (hphase : phase.outcome? = some refusal) :
    Kept limit (T.called refusal) { t with phase } as := by
  have hnone : t.phase.outcome? = none := by rw [hpending]; rfl
  obtain ⟨hheard, hsaid⟩ := h.silent (by rw [hnone]; exact (Option.some_ne_none _).symm)
  refine ⟨h.requests, ?_, fun _ => ⟨hheard, hsaid⟩, ?_, h.inStep, ?_⟩
  · rw [hphase, Transcript.called, h.calls, hnone]
    rfl
  · intro s _ a ha
    exact absurd (List.mem_map_of_mem ha) hfirst
  · intro hframable hnot _
    obtain ⟨left, hleft, -⟩ := h.inStep hframable hnot
    have hempty : returnedResponses as ++ left = [] := hleft.symm.trans hsaid
    rw [(List.append_eq_nil_iff.mp hempty).1]
    exact hsaid

theorem take_outcome {k : κ} (h : t.phase = .running k) :
    (t.take limit).1.phase.outcome? = some none := by
  rcases t.take_phase limit with hphase | hphase <;> rw [hphase]
  · rw [h]
    rfl
  · rfl

theorem Kept.inStep_talk (h : Kept limit T t as) {said : List Gnmi.SubscribeResponse}
    (hinbox : t'.inbox = t.inbox.add (said.flatMap framed)) (hframable : Framable (T.said ++ said))
    (hnot : ¬Overrun limit (T.said ++ said) as) : InStep (T.said ++ said) as t'.inbox := by
  have hbefore : ¬Overrun limit T.said as := fun hover =>
    hnot (hover.mono (List.subset_append_left _ _) (List.Subset.refl _))
  rw [hinbox]
  exact (h.inStep (fun r hr => hframable r (List.mem_append_left _ hr)) hbefore).add

/-- What is sent goes out, and what is said comes in. -/
theorem Kept.talked (h : Kept limit T t as) (haccepted : t.phase.outcome? = some none)
    {k : κ} {said : List Gnmi.SubscribeResponse} {trailers : Option Trailers}
    (ht' : t' = { t with
      queue := [], inbox := t.inbox.add (said.flatMap framed), trailers, phase := .running k }) :
    Kept limit (T.exchange t.queue said) (t'.take limit).1
      (as ++ [(.recv, .received (t'.take limit).2)]) := by
  have hrunning : t'.phase = .running k := by rw [ht']
  have houtcome : (t'.take limit).1.phase.outcome? = some none := take_outcome hrunning
  have hadded : t'.inbox = t.inbox.add (said.flatMap framed) := by rw [ht']
  have hread (hframable : Framable (T.said ++ said))
      (hnot : ¬Overrun limit (T.said ++ said) (as ++ [(.recv, .received (t'.take limit).2)])) :
      InStep (T.said ++ said) (as ++ [(.recv, .received (t'.take limit).2)])
          (t'.take limit).1.inbox ∧
        ((t'.take limit).1.phase = t'.phase ∨ T.said ++ said =
          returnedResponses (as ++ [(.recv, .received (t'.take limit).2)])) := by
    have hbefore : ¬Overrun limit (T.said ++ said) as := fun hover =>
      hnot (hover.mono (List.Subset.refl _) (List.subset_append_left _ _))
    exact (Subscription.take_inStep hframable (h.inStep_talk hadded hframable hbefore)).2 hnot
  refine ⟨?_, ?_, fun hsilent => absurd houtcome hsilent, ?_,
    fun hframable hnot => (hread hframable hnot).1, ?_⟩
  · have hqueue : (t'.take limit).1.queue = [] := by rw [t'.take_queue limit, ht']
    rw [hqueue, List.append_nil, acceptedRequests_of_none rfl]
    exact h.requests
  · rw [houtcome, Transcript.exchange, h.calls, haccepted]
  · intro s hs
    rw [houtcome] at hs
    cases hs
  · intro hframable hnot hended
    refine (hread hframable hnot).2.resolve_left fun hsame => ?_
    rw [hended, hrunning] at hsame
    cases hsame

theorem Told.not_mem_of_pending (h : Told t as) {head : Head} (hpending : t.phase = .pending head) :
    .recv ∉ as.map Prod.fst := by
  rw [← h.started, hpending]
  exact Bool.false_ne_true

theorem Kept.accepted (h : Kept limit T t as) (htold : Told t as) {head : Head}
    (hpending : t.phase = .pending head) (k : κ) :
    Kept limit (T.called none) { t with phase := .running k } as :=
  h.called hpending (htold.not_mem_of_pending hpending) rfl

/-- **One `recv` keeps it.** -/
theorem Kept.recv {a : Gnmi.Reception} (h : Kept limit T t as)
    (htold : Told t as) (hr : Receipt limit T t T' t' a) :
    Kept limit T' t' (as ++ [(.recv, .received a)]) := by
  cases hr with
  | @refused head s phase hpending hphase =>
    have houtcome : phase.outcome? = some (some s) := by rcases hphase with rfl | rfl <;> rfl
    refine (h.called hpending (htold.not_mem_of_pending hpending) houtcome).unanswered ?_ ?_
    · intro r hr
      cases hr
    · intro s' hs'
      rw [houtcome] at hs'
      cases hs'
      rfl
  | closed hpending =>
    have hcalled : Kept limit (T.called none) { t with phase := .ended } as :=
      h.called hpending (htold.not_mem_of_pending hpending) rfl
    refine hcalled.unanswered ?_ ?_
    · intro r hr
      cases hr
    · intro s hs
      cases hs
  | @accepted head k said trailers t' hpending ht' =>
    exact (h.accepted htold hpending k).talked rfl ht'
  | continued hrunning ht' => exact h.talked (by rw [hrunning]; rfl) ht'
  | @failed s hfailed =>
    have houtcome : t.phase.outcome? = some (some s) := by
      rcases hfailed with hphase | hphase <;> rw [hphase] <;> rfl
    refine h.unanswered ?_ ?_
    · intro r hr
      cases hr
    · intro s' hs'
      rw [houtcome] at hs'
      cases hs'
      rfl
  | ended hended =>
    refine h.unanswered ?_ ?_
    · intro r hr
      cases hr
    · intro s hs
      rw [hended] at hs
      cases hs

/-! ## What a `recv` brings -/

theorem Told.aside (h : Told t as) {x : StreamCall} {a : Gnmi.StreamAnswer} (hrecv : x ≠ .recv)
    (hclose : x ≠ .closeSend) (hphase : t'.phase = t.phase) (hhalf : t'.halfClosed = t.halfClosed) :
    Told t' (as ++ [(x, a)]) where
  started := by
    rw [mem_calls_concat, hphase, h.started]
    exact (or_iff_left hrecv.symm).symm
  halfClosed := by
    rw [mem_calls_concat, hhalf, h.halfClosed]
    exact (or_iff_left hclose.symm).symm

theorem Told.closeSend (h : Told t as) {a : Gnmi.StreamAnswer} :
    Told { t with halfClosed := true } (as ++ [(.closeSend, a)]) where
  started := by
    rw [mem_calls_concat]
    exact h.started.trans (or_iff_left (by simp)).symm
  halfClosed := by simp

theorem Told.recv (h : Told t as) {a : Gnmi.StreamAnswer}
    (hstarted : t'.phase.outcome?.isSome = true) (hhalf : t'.halfClosed = t.halfClosed) :
    Told t' (as ++ [(.recv, a)]) where
  started := by simp [hstarted]
  halfClosed := by
    rw [mem_calls_concat, hhalf, h.halfClosed]
    exact (or_iff_left (by simp)).symm

end Steps

/-! ## Every run -/

section Runs

variable (c : Channel) (peer : Peer ω κ)

end Runs

/-! ## Main result -/

end Remote

end SwitchTestbed
