/-!
# Encoded fields

* `varint` : a natural in groups of seven bits, lowest first, each but the last marked by the top
  bit of its byte;
* `readVarint` : takes one of at most 64 bits from the front of a text. It may be longer than it
  has to be, up to ten bytes;
* `Value` : what a field of a message holds on the wire; `encodeFields` writes fields with their
  numbers, `sizeFields` counts their bytes without writing them;
* `Record` : a field as it is read; `readRecord` takes one from the front of a text. Of a group it
  only finds the end.
-/

namespace SwitchTestbed.Wire

/-! ## Varints -/

/-- A natural in groups of seven bits. -/
def varint (n : Nat) : List UInt8 :=
  if n < 128 then [n.toUInt8] else (n % 128 + 128).toUInt8 :: varint (n / 128)
termination_by n

/-- Number of bytes of a varint. -/
def varintSize (n : Nat) : Nat := if n < 128 then 1 else 1 + varintSize (n / 128)
termination_by n

/-- The rest of a varint whose groups below the given place are summed up already. The tenth
byte has room for one bit. -/
def readVarintFrom (place sum : Nat) : List UInt8 → Option (UInt64 × List UInt8)
  | [] => none
  | b :: rest =>
    let sum := sum + b.toNat % 128 * Nat.pow 128 place
    if b < 0x80 then if place = 9 ∧ 2 ≤ b then none else some (sum.toUInt64, rest)
    else if place = 9 then none
    else readVarintFrom (place + 1) sum rest

/-- A varint from the front of a text. -/
def readVarint (s : List UInt8) : Option (UInt64 × List UInt8) := readVarintFrom 0 0 s

/-! ## Writing -/

/-- What a field holds on the wire. -/
inductive Value where
  | varint (n : UInt64)
  | fixed64 (bits : UInt64)
  | bytes (b : ByteArray)
  | message (fields : List (Nat × Value))

/-- The ways in which fields are delimited. -/
def wireVarint : Nat := 0

@[inherit_doc wireVarint] def wireFixed64 : Nat := 1

@[inherit_doc wireVarint] def wireBytes : Nat := 2

@[inherit_doc wireVarint] def wireGroupStart : Nat := 3

@[inherit_doc wireVarint] def wireGroupEnd : Nat := 4

@[inherit_doc wireVarint] def wireFixed32 : Nat := 5

/-- The number of a field together with the way it is delimited. -/
def fieldKey (number wireType : Nat) : Nat := number * 8 + wireType

mutual

/-- Bytes of the field of a number. -/
def sizeField (number : Nat) : Value → Nat
  | .varint n => varintSize (fieldKey number wireVarint) + varintSize n.toNat
  | .fixed64 _ => varintSize (fieldKey number wireFixed64) + 8
  | .bytes b => varintSize (fieldKey number wireBytes) + (varintSize b.size + b.size)
  | .message fs =>
    let n := sizeFields fs
    varintSize (fieldKey number wireBytes) + (varintSize n + n)

/-- Bytes of the fields of a message. -/
def sizeFields : List (Nat × Value) → Nat
  | [] => 0
  | (number, v) :: rest => sizeField number v + sizeFields rest

end

/-- The bytes of a word, lowest first. -/
def littleEndian (n : UInt64) : List UInt8 :=
  (List.range 8).map fun i => (n.toNat / Nat.pow 256 i % 256).toUInt8

mutual

/-- The field of a number. -/
def encodeField (number : Nat) : Value → List UInt8
  | .varint n => varint (fieldKey number wireVarint) ++ varint n.toNat
  | .fixed64 n => varint (fieldKey number wireFixed64) ++ littleEndian n
  | .bytes b => varint (fieldKey number wireBytes) ++ varint b.size ++ b.toList
  | .message fs =>
    let body := encodeFields fs
    varint (fieldKey number wireBytes) ++ varint body.length ++ body

/-- The fields of a message. -/
def encodeFields : List (Nat × Value) → List UInt8
  | [] => []
  | (number, v) :: rest => encodeField number v ++ encodeFields rest

end

/-! ## Reading -/

/-- What a field holds as it is read. -/
inductive Payload where
  | varint (n : UInt64)
  | fixed64 (bits : UInt64)
  | fixed32
  | bytes (b : List UInt8)
  | group

/-- A field as it is read. -/
structure Record where
  number : Nat
  payload : Payload

/-- The key of a field: its number, which is not zero, and how it is delimited. A key has at most
32 bits. -/
def readKey (s : List UInt8) : Option (Nat × Nat × List UInt8) := do
  let (k, rest) ← readVarint s
  let k := k.toNat
  if k < 0x100000000 ∧ k / 8 ≠ 0 then some (k / 8, k % 8, rest) else none

/-- Bytes from the front of a text, if there are so many. -/
def takeBytes (n : Nat) (s : List UInt8) : Option (List UInt8 × List UInt8) :=
  if n ≤ s.length then some (s.splitAt n) else none

/-- Bytes behind their number. -/
def takeDelimited (s : List UInt8) : Option (List UInt8 × List UInt8) := do
  let (n, rest) ← readVarint s
  takeBytes n.toNat rest

/-- What follows the end of the group of a number, which stands `depth` levels above the lowest
one that may be looked into. -/
def skipGroup : Nat → Nat → Nat → List UInt8 → Option (List UInt8)
  | 0, _, _, _ => none
  | fuel + 1, depth, number, s => do
    let (n, wireType, s) ← readKey s
    if wireType = wireGroupEnd then
      if n = number then some s else none
    else
      match depth with
      | 0 => none
      | 1 => none
      | inner + 1 => do
        let s ←
          if wireType = wireVarint then Prod.snd <$> readVarint s
          else if wireType = wireFixed64 then Prod.snd <$> takeBytes 8 s
          else if wireType = wireBytes then Prod.snd <$> takeDelimited s
          else if wireType = wireGroupStart then skipGroup fuel inner n s
          else if wireType = wireFixed32 then Prod.snd <$> takeBytes 4 s
          else none
        skipGroup fuel depth number s

/-- The word of bytes, lowest first. -/
def wordOf (bytes : List UInt8) : UInt64 :=
  (bytes.foldr (fun (b : UInt8) n => b.toNat + 256 * n) 0).toUInt64

/-- A field from the front of a text. Those of which `delimited` holds are bytes behind their
number, whatever their key says. -/
def readRecord (delimited : Nat → Bool) (depth : Nat) (s : List UInt8) :
    Option (Record × List UInt8) := do
  let (number, wireType, s) ← readKey s
  if delimited number ∧ wireType ≤ wireFixed32 then
    let (b, s) ← takeDelimited s
    some (⟨number, .bytes b⟩, s)
  else if wireType = wireVarint then
    let (n, s) ← readVarint s
    some (⟨number, .varint n⟩, s)
  else if wireType = wireFixed64 then
    let (b, s) ← takeBytes 8 s
    some (⟨number, .fixed64 (wordOf b)⟩, s)
  else if wireType = wireBytes then
    let (b, s) ← takeDelimited s
    some (⟨number, .bytes b⟩, s)
  else if wireType = wireGroupStart then
    match depth with
    | 0 => none
    | _ => do some (⟨number, .group⟩, ← skipGroup (s.length + 1) depth number s)
  else if wireType = wireFixed32 then
    let (_, s) ← takeBytes 4 s
    some (⟨number, .fixed32⟩, s)
  else none

end SwitchTestbed.Wire
