import SwitchTestbed.Rpc.Status

/-!
# Messages in a stream of bytes

Each message stands behind a flag and its length.

* `frame` : the bytes of a message in a stream;
* `Inbox` : what has arrived and has not been taken out;
* `Inbox.take` : takes the next message out. After a refusal the inbox goes on with the bytes behind
  what it has looked at, whether or not a message begins there.
-/

namespace SwitchTestbed.Remote

open Rpc

/-- A length in four bytes, highest first. -/
def lengthBytes (n : Nat) : List UInt8 :=
  [(n / 0x1000000 % 256).toUInt8, (n / 0x10000 % 256).toUInt8, (n / 0x100 % 256).toUInt8,
    (n % 256).toUInt8]

/-- The length in four bytes. -/
def lengthOf (a b c d : UInt8) : Nat :=
  ((a.toNat * 256 + b.toNat) * 256 + c.toNat) * 256 + d.toNat

/-- Bytes before a message. -/
def headerSize : Nat := 5

/-- A message in a stream; the flag says that it is not compressed. -/
def frame (body : List UInt8) : List UInt8 := 0 :: (lengthBytes body.length ++ body)

/-! ## Refusals -/

/-- The status for a message that is too long. -/
def tooLarge (limit size : Nat) : Status :=
  ⟨.outOfRange, "Error, message length too large: found " ++ toString size
    ++ " bytes, the limit is: " ++ toString limit ++ " bytes"⟩

/-- The status for a flag that is not zero. -/
def refusedFlag (flag : UInt8) : Status :=
  if flag = 1 then
    ⟨.internal,
      "protocol error: received message with compressed-flag but no grpc-encoding was specified"⟩
  else
    ⟨.internal, "protocol error: received message with invalid compression flag: "
      ++ toString flag.toNat
      ++ " (valid flags are 0 and 1) while receiving response with status: 200 OK"⟩

/-! ## Inboxes -/

/-- What has arrived and has not been taken out. -/
structure Inbox where
  bytes : List UInt8 := []
  /-- The length of a message whose header has been taken out. -/
  awaited : Option Nat := none
  deriving DecidableEq, Repr, Inhabited

/-- What is taken out of an inbox. -/
inductive Delivery where
  | message (body : List UInt8)
  | refused (s : Status)
  /-- More has to arrive. -/
  | incomplete
  deriving DecidableEq, Repr

namespace Inbox

/-- An inbox into which more has arrived. -/
def add (b : Inbox) (more : List UInt8) : Inbox := { b with bytes := b.bytes ++ more }

/-- Takes out the message of a length whose header stood before the bytes. -/
def takeBody (n : Nat) (bytes : List UInt8) : Inbox × Delivery :=
  if n ≤ bytes.length then (⟨bytes.drop n, none⟩, .message (bytes.take n))
  else (⟨bytes, some n⟩, .incomplete)

/-- Takes out the next message. Of a header with a wrong flag only the flag is used up. -/
def take (limit : Nat) (b : Inbox) : Inbox × Delivery :=
  match b.awaited, b.bytes with
  | some n, bytes => takeBody n bytes
  | none, flag :: x :: y :: z :: w :: rest =>
    if flag ≠ 0 then (⟨x :: y :: z :: w :: rest, none⟩, .refused (refusedFlag flag))
    else
      let n := lengthOf x y z w
      if limit < n then (⟨rest, none⟩, .refused (tooLarge limit n)) else takeBody n rest
  | none, _ => (b, .incomplete)

end Inbox

end SwitchTestbed.Remote
