import SwitchTestbed.Proofs.Remote.Channel
import SwitchTestbed.Simulated.Switch

/-!
# Reads

A read brings a stream of responses as a whole, or fails and brings none of them.

* `Served`, `Reply.served` : what a peer makes of a call that a stream answers;
* `Fails` : the status of a call that is not brought as a whole: that of the peer, or the length of
  the first response that is longer than the limit;
* `Channel.collect_cons`, `Channel.collect_append` : what one response adds to what is collected
  behind it, and so what all do that fit;
* `Channel.settle` : what a reply comes to, by what the peer made of the call
  (`Channel.settle_eq_ok_iff`, `Channel.settle_eq_error_iff`);
* `Channel.Reads` : a read that is made, and what the peer makes of it;
* `read_whole_or_failed` : the main result.
-/

namespace SwitchTestbed.Remote

open Rpc

variable {ω κ β : Type}

/-! ## Served calls -/

/-- What a peer makes of a call that a stream answers. -/
inductive Served (β : Type) where
  | refused (s : Status)
  /-- The responses, and the status with which the stream fails behind them, if it does. -/
  | streamed (responses : List β) (failure : Option Status)
  deriving DecidableEq

/-- A call that ends well before any response has been answered by a stream of none. -/
def Reply.served : Reply (Answers β) → Served β
  | .answered a => .streamed a.responses a.trailers.status?
  | .closed t =>
    match t.status? with
    | some s => .refused s
    | none => .streamed [] none
  | .lost s => .refused s

/-- No response is longer than the limit. -/
def Fit (limit : Nat) (size : β → Nat) (bs : List β) : Prop := ∀ b ∈ bs, size b ≤ limit

/-- The status with which a served call fails. A response that is too long hides how the stream
ends. -/
inductive Fails (limit : Nat) (size : β → Nat) : Served β → Status → Prop where
  | refused (s : Status) : Fails limit size (.refused s) s
  | streamed {bs : List β} (s : Status) (hfit : Fit limit size bs) :
      Fails limit size (.streamed bs (some s)) s
  | tooLarge {bs rest : List β} {b : β} (failure : Option Status) (hfit : Fit limit size bs)
      (hlong : limit < size b) :
      Fails limit size (.streamed (bs ++ b :: rest) failure) (tooLarge limit (size b))

section Fit

variable {limit : Nat} {size : β → Nat} {b : β} {bs : List β}

theorem fit_cons : Fit limit size (b :: bs) ↔ size b ≤ limit ∧ Fit limit size bs :=
  List.forall_mem_cons

theorem fit_or_first_long (limit : Nat) (size : β → Nat) (bs : List β) :
    Fit limit size bs ∨
      ∃ before b rest, bs = before ++ b :: rest ∧ Fit limit size before ∧ limit < size b := by
  cases hfind : bs.find? fun b => decide (limit < size b) with
  | none =>
    refine .inl fun b hb => ?_
    have hshort := List.find?_eq_none.mp hfind b hb
    exact Nat.not_lt.mp (of_decide_eq_false (Bool.eq_false_iff.mpr hshort))
  | some b =>
    obtain ⟨hlong, before, rest, hbs, hbefore⟩ := List.find?_eq_some_iff_append.mp hfind
    refine .inr ⟨before, b, rest, hbs, fun a ha => ?_, of_decide_eq_true hlong⟩
    have hshort := hbefore a ha
    exact Nat.not_lt.mp (of_decide_eq_false ((Bool.not_eq_true' _).mp hshort))

end Fit

/-! ## Collecting -/

namespace Channel

variable (c : Channel) (size : β → Nat)

theorem accept_of_lt {b : β} (h : c.limit < size b) :
    c.accept size b = .error (tooLarge c.limit (size b)) := if_pos h

theorem accept_of_le {b : β} (h : size b ≤ c.limit) : c.accept size b = .ok b :=
  if_neg (Nat.not_lt.mpr h)

/-- Nothing is collected once a response is too long. -/
theorem collect_cons_of_lt {b : β} (h : c.limit < size b) (bs : List β) (t : Trailers) :
    c.collect size ⟨b :: bs, t⟩ = .error (tooLarge c.limit (size b)) := by
  rw [collect, List.mapM_cons, c.accept_of_lt size h]
  rfl

/-- **One response** that fits stands before what is collected behind it. -/
theorem collect_cons_of_le {b : β} (h : size b ≤ c.limit) (bs : List β) (t : Trailers) :
    c.collect size ⟨b :: bs, t⟩ = (c.collect size ⟨bs, t⟩).map (b :: ·) := by
  rw [collect, collect, List.mapM_cons, c.accept_of_le size h]
  cases bs.mapM (c.accept size) with
  | error s => rfl
  | ok bs =>
    show endOf t (.ok (b :: bs)) = (endOf t (.ok bs)).map (b :: ·)
    unfold endOf
    cases t.status? <;> rfl

/-- **All responses** that fit stand, in order, before what is collected behind them. -/
theorem collect_append {bs : List β} (h : Fit c.limit size bs) (rest : List β) (t : Trailers) :
    c.collect size ⟨bs ++ rest, t⟩ = (c.collect size ⟨rest, t⟩).map (bs ++ ·) := by
  induction bs with
  | nil =>
    show c.collect size ⟨rest, t⟩ = (c.collect size ⟨rest, t⟩).map id
    rw [Except.map_id, id_eq]
  | cons b bs ih =>
    obtain ⟨hb, hbs⟩ := fit_cons.mp h
    show c.collect size ⟨b :: (bs ++ rest), t⟩ = _
    rw [c.collect_cons_of_le size hb, ih hbs]
    cases c.collect size ⟨rest, t⟩ <;> rfl

/-- What a reply comes to. -/
def settle : Reply (Answers β) → Except Status (List β)
  | .answered a => c.collect size a
  | .closed t => endOf t (.ok [])
  | .lost s => .error s

variable {c size} {reply : Reply (Answers β)}

theorem settle_of_refused {s : Status} (h : reply.served = .refused s) :
    c.settle size reply = .error s := by
  cases reply with
  | answered a => cases h
  | closed t =>
    cases hstatus : t.status? with
    | none => simp [Reply.served, hstatus] at h
    | some s' =>
      obtain rfl : s' = s := by simpa [Reply.served, hstatus] using h
      simp [settle, endOf, hstatus]
  | lost s' =>
    cases h
    rfl

theorem settle_of_streamed (c : Channel) (size : β → Nat) {bs : List β} {failure : Option Status}
    (h : reply.served = .streamed bs failure) :
    ∃ t : Trailers, t.status? = failure ∧ c.settle size reply = c.collect size ⟨bs, t⟩ := by
  cases reply with
  | answered a =>
    cases h
    exact ⟨a.trailers, rfl, rfl⟩
  | closed t =>
    cases hstatus : t.status? with
    | none =>
      obtain ⟨rfl, rfl⟩ : [] = bs ∧ none = failure := by simpa [Reply.served, hstatus] using h
      exact ⟨t, hstatus, rfl⟩
    | some s => simp [Reply.served, hstatus] at h
  | lost s => cases h

theorem settle_of_fit {bs : List β} {failure : Option Status}
    (h : reply.served = .streamed bs failure) (hfit : Fit c.limit size bs) :
    c.settle size reply = failure.elim (.ok bs) .error := by
  obtain ⟨t, ht, hsettle⟩ := settle_of_streamed c size h
  have hall := c.collect_append size hfit [] t
  rw [List.append_nil] at hall
  rw [hsettle, hall, ← ht]
  show (endOf t (.ok [])).map (bs ++ ·) = _
  unfold endOf
  cases t.status? with
  | none => exact congrArg Except.ok (List.append_nil bs)
  | some s => rfl

theorem settle_of_long {bs rest : List β} {b : β} {failure : Option Status}
    (h : reply.served = .streamed (bs ++ b :: rest) failure) (hfit : Fit c.limit size bs)
    (hlong : c.limit < size b) :
    c.settle size reply = .error (tooLarge c.limit (size b)) := by
  obtain ⟨t, -, hsettle⟩ := settle_of_streamed c size h
  rw [hsettle, c.collect_append size hfit, c.collect_cons_of_lt size hlong]
  rfl

/-- A reply comes to all responses of a stream that ends well, or to the status of its failure. -/
theorem settle_cases (c : Channel) (size : β → Nat) (reply : Reply (Answers β)) :
    (∃ bs, reply.served = .streamed bs none ∧ Fit c.limit size bs ∧ c.settle size reply = .ok bs) ∨
      ∃ s, Fails c.limit size reply.served s ∧ c.settle size reply = .error s := by
  cases hserved : reply.served with
  | refused s => exact .inr ⟨s, .refused s, settle_of_refused hserved⟩
  | streamed bs failure =>
    -- how the stream ends is seen only if all its responses fit
    rcases fit_or_first_long c.limit size bs with hfit | ⟨before, b, rest, rfl, hfit, hlong⟩
    · have hsettle := settle_of_fit hserved hfit
      cases failure with
      | none => exact .inl ⟨bs, rfl, hfit, hsettle⟩
      | some s => exact .inr ⟨s, .streamed s hfit, hsettle⟩
    · exact .inr ⟨_, .tooLarge failure hfit hlong, settle_of_long hserved hfit hlong⟩

theorem settle_eq_ok_iff {bs : List β} :
    c.settle size reply = .ok bs ↔ reply.served = .streamed bs none ∧ Fit c.limit size bs := by
  constructor
  · intro h
    rcases settle_cases c size reply with ⟨bs', hserved, hfit, hsettle⟩ | ⟨s, -, hsettle⟩
    · cases hsettle.symm.trans h
      exact ⟨hserved, hfit⟩
    · cases hsettle.symm.trans h
  · rintro ⟨hserved, hfit⟩
    exact settle_of_fit hserved hfit

theorem settle_eq_error_iff {s : Status} :
    c.settle size reply = .error s ↔ Fails c.limit size reply.served s := by
  constructor
  · intro h
    rcases settle_cases c size reply with ⟨bs, -, -, hsettle⟩ | ⟨s', hfails, hsettle⟩
    · cases hsettle.symm.trans h
    · cases hsettle.symm.trans h
      exact hfails
  · -- what the peer made of the call has to be a variable to tell the cases apart
    generalize hserved : reply.served = served
    intro h
    cases h with
    | refused s => exact settle_of_refused hserved
    | streamed s hfit => exact settle_of_fit hserved hfit
    | tooLarge failure hfit hlong => exact settle_of_long hserved hfit hlong

/-! ## Reads -/

variable {peer : Peer ω κ} {q : Request P4Runtime.ReadRequest} {w w' : ω}

/-- A read is made and the peer, which is left in another state, serves it so. -/
def Reads (c : Channel) (peer : Peer ω κ) (q : Request P4Runtime.ReadRequest) (w w' : ω)
    (served : Served P4Runtime.ReadResponse) : Prop :=
  ∃ m reply, c.defaults.begun .streaming q = .ok { q with metadata := m } ∧
    peer.read (c.head m) q.message w = (w', reply) ∧ reply.served = served

theorem ofExcept_inj {ε α : Type} {r r' : Except ε α}
    (h : Outcome.ofExcept r = Outcome.ofExcept r') : r = r' := by
  cases r <;> cases r' <;> cases h <;> rfl

theorem read_made {m : Metadata}
    (h : c.defaults.begun .streaming q = .ok { q with metadata := m }) :
    c.read peer q w = ((peer.read (c.head m) q.message w).1,
      .ofExcept (c.settle Wire.encodedSize (peer.read (c.head m) q.message w).2)) := by
  have hstreaming : c.defaults.streaming q = .ok { q with metadata := m } := h
  unfold read
  rw [hstreaming]
  show ((peer.read (c.head m) q.message w).1, _) = _
  cases (peer.read (c.head m) q.message w).2 <;> rfl

/-- A read comes to what the reply does, once it is made, and to no result before. -/
theorem read_eq_ofExcept_iff {r : Except Status (List P4Runtime.ReadResponse)} :
    c.read peer q w = (w', .ofExcept r) ↔
      ∃ m reply, c.defaults.begun .streaming q = .ok { q with metadata := m } ∧
        peer.read (c.head m) q.message w = (w', reply) ∧
        c.settle Wire.encodedSize reply = r := by
  constructor
  · intro h
    rcases c.defaults.begun_cases .streaming q with ⟨m, hmade⟩ | haborted
    · rw [read_made hmade] at h
      obtain ⟨rfl, hresult⟩ := Prod.mk.inj h
      exact ⟨m, _, hmade, rfl, ofExcept_inj hresult⟩
    · -- without a call there is no result
      rw [read_aborted peer haborted] at h
      exact absurd (Prod.mk.inj h).2.symm (ofExcept_ne_aborted r)
  · rintro ⟨m, reply, hmade, hread, rfl⟩
    rw [read_made hmade, hread]

theorem read_eq_ok_iff {bs : List P4Runtime.ReadResponse} :
    c.read peer q w = (w', .ok bs) ↔
      c.Reads peer q w w' (.streamed bs none) ∧ Fit c.limit Wire.encodedSize bs := by
  rw [show (Outcome.ok bs : Outcome Status _) = .ofExcept (.ok bs) from rfl, read_eq_ofExcept_iff]
  constructor
  · rintro ⟨m, reply, hmade, hread, hsettle⟩
    obtain ⟨hserved, hfit⟩ := settle_eq_ok_iff.mp hsettle
    exact ⟨⟨m, reply, hmade, hread, hserved⟩, hfit⟩
  · rintro ⟨⟨m, reply, hmade, hread, hserved⟩, hfit⟩
    exact ⟨m, reply, hmade, hread, settle_eq_ok_iff.mpr ⟨hserved, hfit⟩⟩

theorem read_eq_error_iff {s : Status} :
    c.read peer q w = (w', .error s) ↔
      ∃ served, c.Reads peer q w w' served ∧ Fails c.limit Wire.encodedSize served s := by
  rw [show (Outcome.error s : Outcome Status _) = .ofExcept (.error s) from rfl,
    read_eq_ofExcept_iff]
  constructor
  · rintro ⟨m, reply, hmade, hread, hsettle⟩
    exact ⟨reply.served, ⟨m, reply, hmade, hread, rfl⟩, settle_eq_error_iff.mp hsettle⟩
  · rintro ⟨served, ⟨m, reply, hmade, hread, rfl⟩, hfails⟩
    exact ⟨m, reply, hmade, hread, settle_eq_error_iff.mpr hfails⟩

theorem exists_read {served : Served P4Runtime.ReadResponse} (h : c.Reads peer q w w' served) :
    ∃ r, c.read peer q w = (w', .ofExcept r) := by
  obtain ⟨m, reply, hmade, hread, -⟩ := h
  exact ⟨c.settle Wire.encodedSize reply,
    read_eq_ofExcept_iff.mpr ⟨m, reply, hmade, hread, rfl⟩⟩

end Channel

/-! ## Main result -/

/-- **A read brings a stream as a whole or fails.** One that is made has a result: the responses, in
order, if the stream ends well and each of them fits; else a status and no response. -/
theorem read_whole_or_failed (c : Channel) (peer : Peer ω κ) (q : Request P4Runtime.ReadRequest)
    (w w' : ω) :
    (∀ bs, (c.p4rt peer).read q w = (w', .ok bs) ↔
      c.Reads peer q w w' (.streamed bs none) ∧ Fit c.limit Wire.encodedSize bs) ∧
    (∀ s, (c.p4rt peer).read q w = (w', .error s) ↔
      ∃ served, c.Reads peer q w w' served ∧ Fails c.limit Wire.encodedSize served s) ∧
    ∀ served, c.Reads peer q w w' served → ∃ r, (c.p4rt peer).read q w = (w', .ofExcept r) :=
  ⟨fun _ => Channel.read_eq_ok_iff, fun _ => Channel.read_eq_error_iff,
    fun _ => Channel.exists_read⟩

/-- A request for one entry of a table. -/
def oneEntry : Request P4Runtime.ReadRequest :=
  ⟨{ entities := [{ tableEntry := some { tableId := 1 } }] }, []⟩

/-- The stream ends well, and its response is not brought. -/
theorem overlong_response_fails_read :
    let c : Channel := ⟨{ maxReceive := some 1 }, none⟩
    ∃ w', c.Reads SimulatedSwitch.peer oneEntry {} w'
        (.streamed [⟨oneEntry.message.entities⟩] none) ∧
      (c.p4rt SimulatedSwitch.peer).read oneEntry {} = (w', .error (tooLarge 1 6)) :=
  ⟨_, ⟨[], _, rfl, rfl, by decide +kernel⟩, Prod.ext rfl (by decide +kernel)⟩

end SwitchTestbed.Remote
