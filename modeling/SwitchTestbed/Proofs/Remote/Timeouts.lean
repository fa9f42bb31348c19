import SwitchTestbed.Proofs.Remote.Clients

/-!
# Timeouts of the calls over a dialed connection

* `CarriesTimeout` : a call arrives once and tells its timeout
  (`Remote.Channel.calls_carryTimeout`);
* `Gnmi.Client.SubscriptionsCarryTimeout` : so does a subscription, when it is started
  (`Remote.Channel.subscriptions_carryTimeout`);
* `dialed_calls_carry_timeout` : the clients of every dial make such calls;
* `connection_line_drops_timeout` : a call can take its timeout from the peer by naming it.
-/

namespace SwitchTestbed

open Remote Rpc

variable {ω κ τ : Type}

/-- A call that can tell its timeout arrives once, and what it carries tells it. -/
def CarriesTimeout (given : StringMap String) (bound : CallKind → Duration) :
    CallProperty (Stock (Observed ω)) := fun kind m received _ call =>
  Sendable given (bound kind) m → ∀ s, ∃ head,
    Carried given (bound kind) m (head.metadata.values timeoutHeader) ∧
      (call s).1.arrived = s.arrived ++ [⟨some head, received⟩]

/-- A subscription that can tell its timeout opens without a call. The first `recv` on it makes one
call, which tells the timeout, and nothing else that is done to it makes any. -/
structure Gnmi.Client.SubscriptionsCarryTimeout
    (client : Gnmi.Client (Stock (Observed ω)) τ) (given : StringMap String)
    (bound : CallKind → Duration) : Prop where
  opens : ∀ q, Sendable given (bound .streaming) q.metadata →
    ∀ s, ∃ t, client.subscribe q s = (s, .ok t)
  arrives : ∀ q, Sendable given (bound .streaming) q.metadata →
    ∀ started t, client.Subscribed q started t → ∃ head,
      Carried given (bound .streaming) q.metadata (head.metadata.values timeoutHeader) ∧
        ∀ x s, (client.stream.after x (s, t)).1.arrived =
          s.arrived ++ if x.starts && !started then [⟨some head, .gnmiSubscribe⟩] else []

/-! ## Channels -/

namespace Remote.Channel

variable {c : Channel} {peer : Peer ω κ} {given : StringMap String} {bound : CallKind → Duration}

/-- **Every call of the clients of a channel carries its timeout.** -/
theorem calls_carryTimeout (h : Preset c.defaults given bound) :
    (c.gnmiClient peer.observed).Calls (CarriesTimeout given bound) ∧
      (c.gnoiClient peer.observed).Calls (CarriesTimeout given bound) ∧
      (c.p4rtClient peer.observed).Calls (CarriesTimeout given bound) := by
  refine calls ?_ ?_
  · intro α β u q hs s
    obtain ⟨head, hcarried, harrived, -⟩ := call_arrives peer (u := u) h hs s.clients
    exact ⟨head, hcarried, harrived⟩
  · intro q hs s
    obtain ⟨head, hcarried, harrived, -⟩ := read_arrives peer h hs s.clients
    exact ⟨head, hcarried, harrived⟩

/-- Shielded or not, a step of a subscription is a call exactly if it starts it. -/
theorem stands_gnmiClient_after {head : Head} {t : Subscription κ} {started : Bool}
    (h : t.Stands head started) (x : StreamCall) (s : Stock (Observed ω)) :
    ((c.gnmiClient peer.observed).stream.after x (s, t)).1.arrived =
        s.arrived ++ (if x.starts && !started then [⟨some head, .gnmiSubscribe⟩] else []) ∧
      ((c.gnmiClient peer.observed).stream.after x (s, t)).2.Stands head (started || x.starts) := by
  cases x with
  | send r => exact Subscription.stands_after (c := c) peer h (.send r) s.clients
  | recv => exact Subscription.stands_after (c := c) peer h .recv s.clients
  | closeSend =>
    -- the shield keeps it from the channel
    refine ⟨(List.append_nil _).symm, ?_⟩
    cases started with
    | false => exact h
    | true => exact h

/-- **A subscription stands as what was done to it says**, and all that time with the head that it
was opened with. -/
theorem stands_of_subscribed {q q' : Request Unit} (h : c.defaults.begun .streaming q = .ok q')
    {started : Bool} {t : Subscription κ}
    (ht : (c.gnmiClient peer.observed).Subscribed q started t) :
    t.Stands (c.head q'.metadata) started := by
  induction ht with
  | opened hopen =>
    rw [subscribe_gnmiClient h] at hopen
    cases hopen
    exact rfl
  | used _ x s ih => exact (stands_gnmiClient_after ih x s).2

/-- **Every subscription over a channel carries its timeout.** -/
theorem subscriptions_carryTimeout (h : Preset c.defaults given bound) :
    (c.gnmiClient peer.observed).SubscriptionsCarryTimeout given bound where
  opens q hs s := by
    obtain ⟨m, hbegun, -, -⟩ := h.sendable hs
    exact ⟨_, subscribe_gnmiClient hbegun s⟩
  arrives q hs started t ht := by
    obtain ⟨m, hbegun, htimeout, hothers⟩ := h.sendable hs
    have hstands := stands_of_subscribed hbegun ht
    exact ⟨c.head m, c.carried_head htimeout hothers,
      fun x s => (stands_gnmiClient_after hstands x s).1⟩

end Remote.Channel

/-! ## Main result -/

/-- **Every call over a dialed connection carries its timeout.** Whatever is at the other side,
unary calls and streams of the clients that a dial gives arrive with the timeout of their own
request, or else that of the dial's metadata, or else the bound of their kind, which is that of the
dial or else that of the service. Up to 99999999 whole hours a bound can be written, in the finest
unit that eight digits allow. -/
theorem dialed_calls_carry_timeout (peer : Peer ω κ)
    (connect : String → Work (Except String Console)) (d : Dut) (c : Context) (now : Instant)
    (o : DialOptions) (s : Stock (Observed ω)) :
    let B := inventoryBackend peer.observed.stubs connect
    (∀ client, (d.dialGnmi B c now o s).2.2 = .ok client → ∃ e, d.grpc.get? .gnmi = some e ∧
      client.Calls (CarriesTimeout o.metadata (callBound o e)) ∧
      client.SubscriptionsCarryTimeout o.metadata (callBound o e)) ∧
    (∀ client conn, (d.dialGnoi B c now o s).2.2 = .ok (client, conn) →
      ∃ e, d.grpc.get? .gnoi = some e ∧
        client.Calls (CarriesTimeout o.metadata (callBound o e))) ∧
    (∀ client, (d.dialP4rt B c now o s).2.2 = .ok client → ∃ e, d.grpc.get? .p4rt = some e ∧
      client.Calls (CarriesTimeout o.metadata (callBound o e))) ∧
    ∀ bound : Duration, bound / Duration.hour ≤ 99999999 →
      ∃ text, timeoutText? bound = some text ∧ Encodes bound text := by
  intro B
  refine ⟨?_, ?_, ?_, ?_⟩
  · intro client h
    obtain ⟨e, ch, he, hpreset, rfl⟩ := Dut.of_dialGnmi h
    exact ⟨e, he, (Channel.calls_carryTimeout hpreset).1,
      Channel.subscriptions_carryTimeout hpreset⟩
  · intro client conn h
    obtain ⟨e, ch, he, hpreset, rfl⟩ := Dut.of_dialGnoi h
    exact ⟨e, he, (Channel.calls_carryTimeout hpreset).2.1⟩
  · intro client h
    obtain ⟨e, ch, he, hpreset, rfl⟩ := Dut.of_dialP4rt h
    exact ⟨e, he, (Channel.calls_carryTimeout hpreset).2.2⟩
  · intro bound hbound
    obtain ⟨text, htext⟩ := exists_timeoutText? hbound
    exact ⟨text, htext, encodes_of_timeoutText? htext⟩

theorem dialed_calls_carry_timeout_leaf :
    ∃ client conn, (leaf.dialGnoi switchBackend {} 0 {} freshStock).2.2 = .ok (client, conn) ∧
      Sendable ∅ (Duration.ofSeconds 30) [] ∧
      timeoutText? (Duration.ofSeconds 30) = some "30000000u" ∧
      ∃ head, Carried ∅ (Duration.ofSeconds 30) [] (head.metadata.values timeoutHeader) ∧
        (client.time ⟨{}, []⟩ freshStock).1.arrived = [⟨some head, .gnoiTime⟩] := by
  have hsendable : Sendable ∅ (Duration.ofSeconds 30) [] := Or.inr (by decide)
  obtain ⟨-, hgnoi, -, -⟩ := dialed_calls_carry_timeout SimulatedSwitch.peer
    noConsoles leaf {} 0 {} freshStock
  obtain ⟨e, he, hcalls⟩ := hgnoi _ _ rfl
  cases he
  exact ⟨_, _, rfl, hsendable, by decide, hcalls.time ⟨{}, []⟩ hsendable freshStock⟩

/-- A call that names the line of its timeout as one of the connection arrives without it. -/
theorem connection_line_drops_timeout :
    let m : Metadata := [("connection", "grpc-timeout")]
    ∃ client conn, (leaf.dialGnoi switchBackend {} 0 {} freshStock).2.2 = .ok (client, conn) ∧
      m.values timeoutHeader = [] ∧ dialLine? ∅ timeoutHeader = none ∧
      timeoutText? (Duration.ofSeconds 30) = some "30000000u" ∧
      ∃ head, (client.time ⟨{}, m⟩ freshStock).1.arrived = [⟨some head, .gnoiTime⟩] ∧
        head.metadata.values timeoutHeader = [] := by
  intro m
  have hdial : ∃ client conn,
      (leaf.dialGnoi switchBackend {} 0 {} freshStock).2.2 = .ok (client, conn) := ⟨_, _, rfl⟩
  obtain ⟨client, conn, hdial⟩ := hdial
  obtain ⟨e, ch, he, hpreset, rfl⟩ := Dut.of_dialGnoi hdial
  cases he
  have hsendable : Sendable ∅ (Duration.ofSeconds 30) m := Or.inr (by decide)
  obtain ⟨head, hcarried, harrived⟩ :=
    (Channel.calls_carryTimeout hpreset).2.1.time ⟨{}, m⟩ hsendable freshStock
  exact ⟨_, conn, hdial, rfl, rfl, by decide, head, harrived, hcarried.dropped (by decide)⟩

end SwitchTestbed
