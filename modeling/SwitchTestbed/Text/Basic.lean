/-!
# Texts

* `digit?`, `natOfDigits` : the value of a digit in a base of at most sixteen, and of a row of them;
* `lower`, `equalUpToCase` : ASCII letters in lower case, and equality up to their case;
* `firstLine` : a text up to its first line break, which is a line feed, alone or behind a carriage
  return;
* `skipMark` : a text without the byte order mark that may stand at its front;
* `encodeChar`, `percentDecode` : a percent sign and two hexadecimal digits stand for a byte. A
  percent sign without two digits behind it stands for itself;
* `utf8Fault?`, `utf8Text` : where bytes stop being UTF-8, and their text if they do not.
-/

namespace SwitchTestbed

/-! ## Digits -/

/-- The value of a digit in a base of at most sixteen. -/
def digit? (base : Nat) (c : Char) : Option Nat :=
  let n :=
    if '0' ≤ c ∧ c ≤ '9' then c.toNat - '0'.toNat
    else if 'a' ≤ c ∧ c ≤ 'f' then c.toNat - 'a'.toNat + 10
    else if 'A' ≤ c ∧ c ≤ 'F' then c.toNat - 'A'.toNat + 10
    else base
  if n < base then some n else none

/-- The value of a row of digits, the first one counting most. -/
def natOfDigits (base : Nat) (ds : List Nat) : Nat := ds.foldl (fun n d => n * base + d) 0

@[simp] theorem natOfDigits_concat (base : Nat) (ds : List Nat) (d : Nat) :
    natOfDigits base (ds ++ [d]) = natOfDigits base ds * base + d := by
  simp [natOfDigits]

end SwitchTestbed

namespace SwitchTestbed.Text

/-! ## ASCII case -/

/-- A text with its ASCII letters in lower case; other letters keep their case. -/
def lower (s : String) : String := String.ofList (s.toList.map Char.toLower)

/-- Equality up to the case of ASCII letters. -/
def equalUpToCase (s t : String) : Bool := lower s = lower t

/-! ## Lines and marks -/

/-- The characters before the first line break. A carriage return alone breaks no line. -/
def firstLine : List Char → List Char
  | [] => []
  | '\n' :: _ => []
  | '\r' :: '\n' :: _ => []
  | c :: rest => c :: firstLine rest

/-- A byte order mark at the front counts for nothing; a second one is part of the text. -/
def skipMark : List Char → List Char
  | '\ufeff' :: rest => rest
  | s => s

/-! ## Bytes behind percent signs -/

/-- Upper-case digits. -/
def upperHexDigit (n : Nat) : Char := if n < 10 then Char.ofNat (48 + n) else Char.ofNat (55 + n)

/-- A byte behind a percent sign. -/
def percentByte (b : UInt8) : List Char :=
  ['%', upperHexDigit (b.toNat / 16), upperHexDigit (b.toNat % 16)]

/-- A character, with a percent sign before each of its bytes if it may not stand as it is. -/
def encodeChar (refused : Char → Bool) (c : Char) : List Char :=
  if c.toNat < 0x20 || 0x7e < c.toNat || refused c then (String.utf8EncodeChar c).flatMap percentByte
  else [c]

/-- The value of a byte as a hexadecimal digit. -/
def hexValue? (b : UInt8) : Option Nat := digit? 16 (Char.ofNat b.toNat)

/-- The bytes of a text in which percent signs introduce bytes. -/
def percentDecode : List UInt8 → List UInt8
  | 0x25 :: a :: b :: rest =>
    match hexValue? a, hexValue? b with
    | some high, some low => (high * 16 + low).toUInt8 :: percentDecode rest
    | _, _ => 0x25 :: percentDecode (a :: b :: rest)
  | b :: rest => b :: percentDecode rest
  | [] => []

/-! ## Faults in UTF-8 -/

/-- What the first byte of a character asks of those behind it: how many there are, and the bounds
of the next one. -/
structure Utf8Lead where
  more : Nat
  low : UInt8 := 0x80
  high : UInt8 := 0xbf
  deriving DecidableEq, Repr

/-- What a byte asks for if it may be the first one of a character. Bytes that could only begin a
form longer than needed, a surrogate or a number beyond the last character are refused, or narrow
the next byte. -/
def utf8Lead? (b : UInt8) : Option Utf8Lead :=
  if b < 0x80 then some { more := 0 }
  else if b < 0xc2 then none
  else if b < 0xe0 then some { more := 1 }
  else if b = 0xe0 then some { more := 2, low := 0xa0 }
  else if b = 0xed then some { more := 2, high := 0x9f }
  else if b < 0xf0 then some { more := 2 }
  else if b = 0xf0 then some { more := 3, low := 0x90 }
  else if b < 0xf4 then some { more := 3 }
  else if b = 0xf4 then some { more := 3, high := 0x8f }
  else none

/-- Where bytes stop being UTF-8. -/
structure Utf8Fault where
  /-- Bytes before the faulty character. -/
  index : Nat
  /-- Bytes that cannot begin a character, unless the bytes end too early. -/
  size : Option Nat
  deriving DecidableEq, Repr

namespace Utf8Fault

/-- The text of a fault. -/
def message (f : Utf8Fault) : String :=
  match f.size with
  | some n => "invalid utf-8 sequence of " ++ toString n ++ " bytes from index " ++ toString f.index
  | none => "incomplete utf-8 byte sequence from index " ++ toString f.index

end Utf8Fault

/-- The first fault of bytes, given how many precede the current character, how many of it have
been read, and what it still asks for. -/
def utf8FaultFrom (index read : Nat) (asked : Utf8Lead) : List UInt8 → Option Utf8Fault
  | [] => if asked.more = 0 then none else some ⟨index, none⟩
  | b :: rest =>
    match asked.more with
    | 0 =>
      match utf8Lead? b with
      | some asked => utf8FaultFrom (index + read) 1 asked rest
      | none => some ⟨index + read, some 1⟩
    | more + 1 =>
      if asked.low ≤ b ∧ b ≤ asked.high then utf8FaultFrom index (read + 1) { more } rest
      else some ⟨index, some read⟩

/-- The first fault of bytes. -/
def utf8Fault? (s : List UInt8) : Option Utf8Fault := utf8FaultFrom 0 0 { more := 0 } s

/-- The text of bytes, or their first fault. -/
def utf8Text (s : List UInt8) : Except Utf8Fault String :=
  match utf8Fault? s with
  | some f => .error f
  | none => .ok ((String.fromUTF8? s.toByteArray).getD "")

end SwitchTestbed.Text
