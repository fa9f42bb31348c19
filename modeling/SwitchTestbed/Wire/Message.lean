import SwitchTestbed.Binary64
import SwitchTestbed.Data.StringMap
import SwitchTestbed.Wire.Value

/-!
# Messages on the wire

* `Codec β` : a scalar as the payload of a field;
* `Field α` : one field of an `α`: how it is written, and what a payload adds to it;
* `Message α` : the message without fields, and its fields by increasing number;
* `encode`, `encodedSize`, `decode` : a whole message. The last value of a scalar counts, messages
  are merged, repeated fields grow, and fields of other numbers are passed over;
* `Encodes` : the bytes of a message with the entries of its maps in any order. `encode` writes them
  by increasing key.
-/

namespace SwitchTestbed.Wire

/-! ## Scalars -/

/-- A scalar as the payload of a field. -/
structure Codec (β : Type) where
  /-- The value that need not be written. -/
  default : β
  write : β → Value
  read : Payload → Option β

namespace Codec

/-- A scalar that is a word on the wire. -/
def ofWord {β : Type} (default : β) (toWord : β → UInt64) (ofWord : UInt64 → β) : Codec β :=
  { default
    write := fun b => .varint (toWord b)
    read := fun p =>
      match p with
      | .varint n => some (ofWord n)
      | _ => none }

/-- A natural of 64 bits. -/
def uint64 : Codec UInt64 := ofWord 0 id id

/-- A natural of 32 bits; higher bits are dropped. -/
def uint32 : Codec UInt32 := ofWord 0 UInt32.toUInt64 UInt64.toUInt32

/-- An integer of 64 bits. -/
def int64 : Codec Int64 := ofWord 0 Int64.toUInt64 UInt64.toInt64

/-- An integer of 32 bits, written as one of 64; higher bits are dropped. -/
def int32 : Codec Int32 :=
  ofWord 0 (fun i => i.toInt64.toUInt64) (fun n => n.toUInt32.toInt32)

/-- A truth value; every word but zero is true. -/
def bool : Codec Bool := ofWord false (fun b => if b then 1 else 0) (fun n => n ≠ 0)

/-- Bytes. -/
def bytes : Codec ByteArray :=
  { default := ByteArray.empty
    write := .bytes
    read := fun p =>
      match p with
      | .bytes b => some b.toByteArray
      | _ => none }

/-- Text, in UTF-8. -/
def string : Codec String :=
  { default := ""
    write := fun s => .bytes s.toUTF8
    read := fun p =>
      match p with
      | .bytes b => String.fromUTF8? b.toByteArray
      | _ => none }

/-- A floating-point number; only positive zero need not be written. -/
def double : Codec Binary64 :=
  { default := ⟨0⟩
    write := fun x => .fixed64 x.bits
    read := fun p =>
      match p with
      | .fixed64 n => some ⟨n⟩
      | _ => none }

end Codec

/-! ## Fields and messages -/

/-- One field of an `α`. -/
structure Field (α : Type) where
  number : Nat
  write : α → List Value
  /-- What a payload adds, given how many messages may still be opened. -/
  merge : Nat → Payload → α → Option α
  /-- The payload is delimited, whatever the key of a record says. -/
  delimited : Bool := false
  /-- Whether values are those of an `α`, the entries of a map in whichever order. -/
  Writes : α → List Value → Prop := fun a vs => vs = write a

/-- A message by its fields. -/
class Message (α : Type) where
  empty : α
  fields : List (Field α)

/-- The fields of a message as they are written. -/
def valuesOf {α : Type} [Message α] (a : α) : List (Nat × Value) :=
  (Message.fields (α := α)).flatMap fun f => (f.write a).map (f.number, ·)

/-- Whether fields of a message are written as values with their numbers. -/
inductive WritesAll {α : Type} (a : α) : List (Field α) → List (Nat × Value) → Prop where
  | nil : WritesAll a [] []
  | cons {f : Field α} {fs : List (Field α)} {vs : List Value} {rest : List (Nat × Value)} :
    f.Writes a vs → WritesAll a fs rest → WritesAll a (f :: fs) (vs.map (f.number, ·) ++ rest)

/-- Whether a message is written as values with the numbers of their fields. -/
def Written {α : Type} [Message α] (a : α) (vs : List (Nat × Value)) : Prop :=
  WritesAll a (Message.fields (α := α)) vs

/-- What a record adds to a message; one of an unknown number adds nothing. -/
def mergeRecord {α : Type} [Message α] (depth : Nat) (r : Record) (a : α) : Option α :=
  match (Message.fields (α := α)).find? fun f => f.number = r.number with
  | some f => f.merge depth r.payload a
  | none => some a

/-- Whether the records of a number are delimited, whatever their keys say. -/
def isDelimited (α : Type) [Message α] (number : Nat) : Bool :=
  (Message.fields (α := α)).any fun f => f.number = number && f.delimited

/-- What a text adds to a message; each record takes at least one of the steps. -/
def mergeText {α : Type} [Message α] (depth : Nat) : Nat → List UInt8 → α → Option α
  | _, [], a => some a
  | 0, _ :: _, _ => none
  | steps + 1, b :: s, a => do
    let (r, s) ← readRecord (isDelimited α) depth (b :: s)
    let a ← mergeRecord depth r a
    mergeText depth steps s a

/-- What the payload of a message adds to one. -/
def mergeNested {β : Type} [Message β] (depth : Nat) (p : Payload) (b : β) : Option β :=
  match depth, p with
  | inner + 1, .bytes s => mergeText inner s.length s b
  | _, _ => none

/-- How many messages may be opened one inside the other. -/
def maxNesting : Nat := 100

/-- The bytes of a message. -/
def encode {α : Type} [Message α] (a : α) : List UInt8 := encodeFields (valuesOf a)

/-- Whether a text is that of a message, the entries of maps in whichever order. -/
def Encodes {α : Type} [Message α] (a : α) (s : List UInt8) : Prop :=
  ∃ vs, Written a vs ∧ s = encodeFields vs

/-- The number of bytes of a message. -/
def encodedSize {α : Type} [Message α] (a : α) : Nat := sizeFields (valuesOf a)

/-- The message of a text. -/
def decode {α : Type} [Message α] (s : List UInt8) : Option α :=
  mergeText maxNesting s.length s Message.empty

/-! ## Kinds of fields -/

/-- Whether messages are written one after the other. -/
inductive WritesEach {β : Type} [Message β] : List β → List Value → Prop where
  | nil : WritesEach [] []
  | cons {b : β} {bs : List β} {ws : List (Nat × Value)} {vs : List Value} :
    Written b ws → WritesEach bs vs → WritesEach (b :: bs) (.message ws :: vs)

namespace Field

variable {α β : Type}

/-- A scalar that is written unless it has its default. -/
def scalar [DecidableEq β] (number : Nat) (c : Codec β) (get : α → β) (set : β → α → α) :
    Field α :=
  { number
    write := fun a => if get a = c.default then [] else [c.write (get a)]
    merge := fun _ p a => (c.read p).map (set · a) }

/-- A scalar that is one of several alternatives, written whenever it is the one. -/
def alternative (number : Nat) (c : Codec β) (get : α → Option β) (set : β → α → α) : Field α :=
  { number
    write := fun a => ((get a).map c.write).toList
    merge := fun _ p a => (c.read p).map (set · a) }

/-- A message that may be missing. -/
def nested [Message β] (number : Nat) (get : α → Option β) (set : Option β → α → α) : Field α :=
  { number
    write := fun a => ((get a).map fun b => .message (valuesOf b)).toList
    merge := fun depth p a =>
      (mergeNested depth p ((get a).getD Message.empty)).map fun b => set (some b) a
    Writes := fun a vs => WritesEach (get a).toList vs }

/-- Any number of messages. -/
def repeated [Message β] (number : Nat) (get : α → List β) (set : List β → α → α) : Field α :=
  { number
    write := fun a => (get a).map fun b => .message (valuesOf b)
    merge := fun depth p a =>
      (mergeNested depth p Message.empty).map fun b => set (get a ++ [b]) a
    Writes := fun a vs => WritesEach (get a) vs }

/-- The words of packed integers. -/
def packedWords : Nat → List UInt8 → Option (List UInt64)
  | _, [] => some []
  | 0, _ :: _ => none
  | steps + 1, b :: s => do
    let (n, s) ← readVarint (b :: s)
    let ns ← packedWords steps s
    some (n :: ns)

/-- Any number of integers, written in one text and read from one or several. -/
def packed (number : Nat) (get : α → List Int32) (set : List Int32 → α → α) : Field α :=
  { number
    write := fun a =>
      if (get a).isEmpty then []
      else [.bytes ((get a).flatMap fun i => varint i.toInt64.toUInt64.toNat).toByteArray]
    merge := fun _ p a =>
      match p with
      | .varint n => some (set (get a ++ [n.toUInt32.toInt32]) a)
      | .bytes s =>
        (packedWords s.length s).map fun ns => set (get a ++ ns.map fun n => n.toUInt32.toInt32) a
      | _ => none }

end Field

/-! ## Maps -/

/-- An entry of a map from text to text. -/
structure MapEntry where
  key : String := ""
  value : String := ""

instance : Message MapEntry where
  empty := {}
  fields :=
    [.scalar 1 .string MapEntry.key fun k e => { e with key := k },
      .scalar 2 .string MapEntry.value fun v e => { e with value := v }]

/-- A map from text to text: a message for each entry. How an entry is delimited is not looked
at. -/
def Field.map {α : Type} (number : Nat) (get : α → StringMap String)
    (set : StringMap String → α → α) : Field α :=
  { number
    write := fun a => (get a).entries.map fun e => .message (valuesOf (⟨e.1, e.2⟩ : MapEntry))
    merge := fun depth p a =>
      (mergeNested depth p (Message.empty : MapEntry)).map fun e =>
        set ((get a).insert e.key e.value) a
    delimited := true
    Writes := fun a vs =>
      ∃ es : List (String × String), es.Perm (get a).entries ∧
        vs = es.map fun e => .message (valuesOf (⟨e.1, e.2⟩ : MapEntry)) }

end SwitchTestbed.Wire
