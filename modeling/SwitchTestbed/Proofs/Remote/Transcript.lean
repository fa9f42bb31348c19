import SwitchTestbed.Proofs.Gnmi.HalfClose
import SwitchTestbed.Proofs.Wire.Schemas

/-!
# What passes between a subscription and its peer

* `lengthOf_lengthBytes` : a length is read back from its four bytes; `Inbox.take_frame` : what is
  taken out of an inbox that begins with a message;
* `Transcript`, `Peer.transcribed` : a peer whose state keeps what passes between it and a
  subscription;
* `Framable` : responses that can be sent; `Subscription.take_nothing`, `Subscription.take_next`,
  `Subscription.take_tooLarge` : what is taken out of an inbox that holds them;
* `Receipt` : all that a `recv` can do (`Subscription.receipt_recv`).
-/

namespace SwitchTestbed.Remote

open Rpc

/-! ## Messages in an inbox -/

/-- The most bytes that four bytes can count. -/
def maxBody : Nat := 4294967295

theorem lengthOf_lengthBytes {n : Nat} (h : n ≤ maxBody) :
    ∃ a b c d, lengthBytes n = [a, b, c, d] ∧ lengthOf a b c d = n := by
  refine ⟨_, _, _, _, rfl, ?_⟩
  have hbyte (m : Nat) : (m % 256).toUInt8.toNat = m % 256 :=
    UInt8.toNat_ofNat_of_lt' (Nat.mod_lt m (by decide))
  unfold lengthOf maxBody at *
  simp only [hbyte]
  omega

namespace Inbox

theorem take_empty (limit : Nat) : take limit {} = ({}, .incomplete) := rfl

theorem takeBody_append (body rest : List UInt8) :
    takeBody body.length (body ++ rest) = (⟨rest, none⟩, .message body) := by
  have henough : body.length ≤ (body ++ rest).length := by simp
  rw [takeBody, if_pos henough, List.drop_left, List.take_left]

/-- **A message is taken out whole, or not at all** if it is too long. -/
theorem take_frame {body : List UInt8} (h : body.length ≤ maxBody) (limit : Nat)
    (rest : List UInt8) : take limit ⟨frame body ++ rest, none⟩ =
      if limit < body.length then
        (⟨body ++ rest, none⟩, .refused (tooLarge limit body.length))
      else (⟨rest, none⟩, .message body) := by
  obtain ⟨a, b, c, d, hbytes, hlength⟩ := lengthOf_lengthBytes h
  have hframe : frame body ++ rest = 0 :: a :: b :: c :: d :: (body ++ rest) := by
    rw [frame, hbytes]
    rfl
  rw [hframe, take]
  simp only [hlength, takeBody_append, ne_eq, not_true_eq_false, if_false]

end Inbox

variable {ω κ : Type}

/-! ## Transcripts -/

/-- What has passed between a subscription and its peer. -/
structure Transcript where
  /-- How the call was taken each time it was made: with a status if it was refused. -/
  calls : List (Option Status) := []
  heard : List Gnmi.SubscribeRequest := []
  said : List Gnmi.SubscribeResponse := []

def Transcript.called (T : Transcript) (refusal : Option Status) : Transcript :=
  { T with calls := T.calls ++ [refusal] }

def Transcript.exchange (T : Transcript) (heard : List Gnmi.SubscribeRequest)
    (said : List Gnmi.SubscribeResponse) : Transcript :=
  { T with heard := T.heard ++ heard, said := T.said ++ said }

/-- The status of a call that was not accepted. -/
def Reply.refusal? : Reply κ → Option Status
  | .answered _ => none
  | .closed trailers => trailers.status?
  | .lost s => some s

/-- A peer that keeps what passes between it and a subscription. -/
def Peer.transcribed (peer : Peer ω κ) : Peer (ω × Transcript) κ where
  unary u head r w :=
    let (s, reply) := peer.unary u head r w.1
    ((s, w.2), reply)
  read head r w :=
    let (s, reply) := peer.read head r w.1
    ((s, w.2), reply)
  subscribe head w :=
    let (s, reply) := peer.subscribe head w.1
    ((s, w.2.called reply.refusal?), reply)
  next rs last w :=
    let ((s, k), said) := peer.next rs last (w.1.1, w.2)
    (((s, w.1.2.exchange rs said.responses), k), said)
  holds k w :=
    let (s, held) := peer.holds k w.1
    ((s, w.2), held)

/-! ## Responses in an inbox -/

/-- The bytes of a response in a stream. -/
def framed (r : Gnmi.SubscribeResponse) : List UInt8 := frame (Wire.encode r)

/-- Responses whose lengths can stand in four bytes. -/
def Framable (said : List Gnmi.SubscribeResponse) : Prop :=
  ∀ r ∈ said, Wire.encodedSize r ≤ maxBody

theorem take_framed {r : Gnmi.SubscribeResponse} (h : Wire.encodedSize r ≤ maxBody) (limit : Nat)
    (rest : List UInt8) : Inbox.take limit ⟨framed r ++ rest, none⟩ =
      if limit < Wire.encodedSize r then
        (⟨Wire.encode r ++ rest, none⟩, .refused (tooLarge limit (Wire.encodedSize r)))
      else (⟨rest, none⟩, .message (Wire.encode r)) := by
  have hlength : (Wire.encode r).length = Wire.encodedSize r := Wire.length_encodeFields _
  rw [← hlength] at h ⊢
  exact Inbox.take_frame h limit rest

theorem decode_encode_response {r : Gnmi.SubscribeResponse} (h : Wire.encodedSize r ≤ maxBody) :
    Wire.decode (Wire.encode r) = some r := by
  have hlength : (Wire.encode r).length = Wire.encodedSize r := Wire.length_encodeFields _
  refine Wire.decode_of_encodes (Wire.encodes_encode r) ?_ (by decide)
  rw [hlength]
  exact Nat.lt_of_le_of_lt h (by decide)

namespace Subscription

variable {t : Subscription κ}

theorem take_queue (limit : Nat) (t : Subscription κ) : (t.take limit).1.queue = t.queue := by
  rw [take_kept]

theorem take_nothing (h : t.inbox = {}) (limit : Nat) :
    (∀ r, (t.take limit).2 ≠ .response r) ∧ (t.take limit).1.inbox = {} := by
  have htake : t.inbox.take limit = ({}, .incomplete) := by
    rw [h]
    exact Inbox.take_empty limit
  unfold take
  rw [htake]
  cases htrailers : t.trailers with
  | none => simp
  | some trailers =>
    cases hstatus : trailers.status? <;> simp [finish, hstatus]

theorem take_next {r : Gnmi.SubscribeResponse} {rest : List UInt8}
    (h : t.inbox = ⟨framed r ++ rest, none⟩) (hsize : Wire.encodedSize r ≤ maxBody) {limit : Nat}
    (hfits : Wire.encodedSize r ≤ limit) :
    t.take limit = ({ t with inbox := ⟨rest, none⟩ }, .response r) := by
  unfold take
  rw [h, take_framed hsize, if_neg (Nat.not_lt.mpr hfits)]
  simp only [decode_encode_response hsize]

theorem take_tooLarge {r : Gnmi.SubscribeResponse} {rest : List UInt8}
    (h : t.inbox = ⟨framed r ++ rest, none⟩) (hsize : Wire.encodedSize r ≤ maxBody) {limit : Nat}
    (hlong : limit < Wire.encodedSize r) :
    (t.take limit).2 = .failed (tooLarge limit (Wire.encodedSize r)) := by
  unfold take
  rw [h, take_framed hsize, if_pos hlong]

end Subscription

/-! ## Receipts -/

/-- All that a `recv` can do: make the call, unless it was made, and go on with it or not. -/
inductive Receipt (limit : Nat) (T : Transcript) (t : Subscription κ) :
    Transcript → Subscription κ → Gnmi.Reception → Prop where
  | refused {head : Head} {s : Status} {phase : Phase κ} (h : t.phase = .pending head)
      (hphase : phase = .refused s ∨ phase = .lost s) :
      Receipt limit T t (T.called (some s)) { t with phase } (.failed s)
  | closed {head : Head} (h : t.phase = .pending head) :
      Receipt limit T t (T.called none) { t with phase := .ended } .ended
  | accepted {head : Head} {k : κ} {said : List Gnmi.SubscribeResponse}
      {trailers : Option Trailers} {t' : Subscription κ} (h : t.phase = .pending head)
      (ht' : t' = { t with
        queue := [], inbox := t.inbox.add (said.flatMap framed), trailers, phase := .running k }) :
      Receipt limit T t ((T.called none).exchange t.queue said) (t'.take limit).1 (t'.take limit).2
  | continued {k k' : κ} {said : List Gnmi.SubscribeResponse}
      {trailers : Option Trailers} {t' : Subscription κ} (h : t.phase = .running k)
      (ht' : t' = { t with
        queue := [], inbox := t.inbox.add (said.flatMap framed), trailers, phase := .running k' }) :
      Receipt limit T t (T.exchange t.queue said) (t'.take limit).1 (t'.take limit).2
  | failed {s : Status} (h : t.phase = .refused s ∨ t.phase = .lost s) :
      Receipt limit T t T t (.failed s)
  | ended (h : t.phase = .ended) : Receipt limit T t T t .ended

end SwitchTestbed.Remote
