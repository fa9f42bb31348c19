import SwitchTestbed.Json.Number

/-!
# Reading JSON

The reader works on bytes and takes what it reads from the front of what is left.

* `readText` : the bytes of a string up to its closing quote, escapes resolved; `text` checks
  that they are UTF-8;
* `readValue`, `readElements`, `readMembers` : one value, the rest of an array, the rest of an
  object. The fuel is a bound on the steps, the depth counts the arrays and objects that may
  still be opened;
* `parse` : a whole text. Of two members with one name the later stays, and members are ordered
  by name.
-/

namespace SwitchTestbed.Json

/-! ## White space and words -/

/-- Space, tab, line feed and carriage return. -/
def isBlank (b : UInt8) : Bool := b = 0x20 || b = 0x09 || b = 0x0a || b = 0x0d

/-- What follows the white space at the front. -/
def skipBlank (s : List UInt8) : List UInt8 := s.dropWhile isBlank

/-- The given letters from the front of a text. -/
def readLetters : List UInt8 → List UInt8 → Except JsonError (List UInt8)
  | [], s => .ok s
  | _ :: _, [] => .error .endInValue
  | l :: ls, b :: s => if b = l then readLetters ls s else .error .expectedIdent

/-! ## Strings -/

/-- The value of a hexadecimal digit. -/
def hexDigit? (b : UInt8) : Option Nat :=
  if 0x30 ≤ b && b ≤ 0x39 then some (b.toNat - 0x30)
  else if 0x61 ≤ b && b ≤ 0x66 then some (b.toNat - 0x61 + 10)
  else if 0x41 ≤ b && b ≤ 0x46 then some (b.toNat - 0x41 + 10)
  else none

/-- The value of four hexadecimal digits. -/
def hex4? (a b c d : UInt8) : Option Nat := do
  let a ← hexDigit? a
  let b ← hexDigit? b
  let c ← hexDigit? c
  let d ← hexDigit? d
  some (((a * 16 + b) * 16 + c) * 16 + d)

/-- The byte that a letter behind a backslash stands for. -/
def simpleEscape? (b : UInt8) : Option UInt8 :=
  if b = 0x22 then some 0x22
  else if b = 0x5c then some 0x5c
  else if b = 0x2f then some 0x2f
  else if b = 0x62 then some 0x08
  else if b = 0x66 then some 0x0c
  else if b = 0x6e then some 0x0a
  else if b = 0x72 then some 0x0d
  else if b = 0x74 then some 0x09
  else none

/-- The bytes of the code point of a number, in reverse. -/
def encodedRev (n : Nat) : List UInt8 := (String.utf8EncodeChar (Char.ofNat n)).reverse

/-- A high surrogate is at least this. -/
def isHighSurrogate (n : Nat) : Bool := 0xd800 ≤ n && n ≤ 0xdbff

/-- A low surrogate. -/
def isLowSurrogate (n : Nat) : Bool := 0xdc00 ≤ n && n ≤ 0xdfff

/-- The code point of a pair of surrogates. -/
def pairedSurrogates (high low : Nat) : Nat := (high - 0xd800) * 0x400 + (low - 0xdc00) + 0x10000

/-- The bytes of a string up to its closing quote, in front of which those of `acc` stand in
reverse, and what follows the quote. -/
def readText (acc : List UInt8) : List UInt8 → Except JsonError (List UInt8 × List UInt8)
  | [] => .error .endInString
  | b :: rest =>
    if b = 0x22 then .ok (acc.reverse, rest)
    else if b = 0x5c then
      match rest with
      | [] => .error .endInString
      | e :: rest =>
        if e = 0x75 then
          match rest with
          | h₁ :: h₂ :: h₃ :: h₄ :: rest =>
            match hex4? h₁ h₂ h₃ h₄ with
            | none => .error .invalidEscape
            | some n =>
              if isLowSurrogate n then .error .loneSurrogate
              else if isHighSurrogate n then
                match rest with
                | [] => .error .endInString
                | b₁ :: rest =>
                  if b₁ ≠ 0x5c then .error .endInHexEscape
                  else
                    match rest with
                    | [] => .error .endInString
                    | b₂ :: rest =>
                      if b₂ ≠ 0x75 then .error .endInHexEscape
                      else
                        match rest with
                        | l₁ :: l₂ :: l₃ :: l₄ :: rest =>
                          match hex4? l₁ l₂ l₃ l₄ with
                          | none => .error .invalidEscape
                          | some low =>
                            if isLowSurrogate low then
                              readText (encodedRev (pairedSurrogates n low) ++ acc) rest
                            else .error .loneSurrogate
                        | _ => .error .endInString
              else readText (encodedRev n ++ acc) rest
          | _ => .error .endInString
        else
          match simpleEscape? e with
          | some c => readText (c :: acc) rest
          | none => .error .invalidEscape
    else if b < 0x20 then .error .controlCharacter
    else readText (b :: acc) rest

/-- Bytes as text. -/
def text (bytes : List UInt8) : Except JsonError String :=
  match String.fromUTF8? bytes.toByteArray with
  | some s => .ok s
  | none => .error .invalidCodePoint

/-- A string behind its opening quote. -/
def readString (s : List UInt8) : Except JsonError (String × List UInt8) := do
  let (bytes, rest) ← readText [] s
  .ok (← text bytes, rest)

/-! ## Values -/

/-- The colon behind the name of a member. -/
def readColon (s : List UInt8) : Except JsonError (List UInt8) :=
  match skipBlank s with
  | [] => .error .endInObject
  | b :: rest => if b = 0x3a then .ok rest else .error .expectedColon

mutual

/-- One value; `depth` more arrays and objects may be opened. -/
def readValue : Nat → Nat → List UInt8 → Except JsonError (Doc × List UInt8)
  | 0, _, _ => .error .endInValue
  | fuel + 1, depth, s =>
    match skipBlank s with
    | [] => .error .endInValue
    | b :: rest =>
      if b = 0x6e then do .ok (.null, ← readLetters [0x75, 0x6c, 0x6c] rest)
      else if b = 0x74 then do .ok (.bool true, ← readLetters [0x72, 0x75, 0x65] rest)
      else if b = 0x66 then do .ok (.bool false, ← readLetters [0x61, 0x6c, 0x73, 0x65] rest)
      else if b = 0x2d then do
        let (n, rest) ← Numeral.scan true rest
        .ok (← n.value, rest)
      else if (byteDigit? b).isSome then do
        let (n, rest) ← Numeral.scan false (b :: rest)
        .ok (← n.value, rest)
      else if b = 0x22 then do
        let (t, rest) ← readString rest
        .ok (.text t, rest)
      else if b = 0x5b then
        match depth with
        | 0 => .error .tooDeep
        | depth + 1 => do
          let (es, rest) ← readElements fuel depth true [] rest
          .ok (.seq es, rest)
      else if b = 0x7b then
        match depth with
        | 0 => .error .tooDeep
        | depth + 1 => do
          let (ms, rest) ← readMembers fuel depth true [] rest
          .ok (.map ms, rest)
      else .error .expectedValue

/-- The rest of an array whose elements so far are those of `acc` in reverse. -/
def readElements : Nat → Nat → Bool → List Doc → List UInt8 →
    Except JsonError (List Doc × List UInt8)
  | 0, _, _, _, _ => .error .endInList
  | fuel + 1, depth, first, acc, s =>
    match skipBlank s with
    | [] => .error .endInList
    | b :: rest =>
      if b = 0x5d then .ok (acc.reverse, rest)
      else if first then do
        let (d, rest) ← readValue fuel depth (b :: rest)
        readElements fuel depth false (d :: acc) rest
      else if b = 0x2c then
        match skipBlank rest with
        | [] => .error .endInValue
        | 0x5d :: _ => .error .trailingComma
        | rest => do
          let (d, rest) ← readValue fuel depth rest
          readElements fuel depth false (d :: acc) rest
      else .error .expectedListCommaOrEnd

/-- The rest of an object whose members so far are those of `acc`. -/
def readMembers : Nat → Nat → Bool → List (String × Doc) → List UInt8 →
    Except JsonError (List (String × Doc) × List UInt8)
  | 0, _, _, _, _ => .error .endInObject
  | fuel + 1, depth, first, acc, s =>
    match skipBlank s with
    | [] => .error .endInObject
    | b :: rest =>
      if b = 0x7d then .ok (acc, rest)
      else if first then
        if b = 0x22 then readMember fuel depth acc rest else .error .keyNotString
      else if b = 0x2c then
        match skipBlank rest with
        | [] => .error .endInValue
        | c :: rest =>
          if c = 0x22 then readMember fuel depth acc rest
          else if c = 0x7d then .error .trailingComma
          else .error .keyNotString
      else .error .expectedObjectCommaOrEnd

/-- One member behind the opening quote of its name, and the members after it. -/
def readMember : Nat → Nat → List (String × Doc) → List UInt8 →
    Except JsonError (List (String × Doc) × List UInt8)
  | 0, _, _, _ => .error .endInObject
  | fuel + 1, depth, acc, s => do
    let (k, rest) ← readString s
    let rest ← readColon rest
    let (d, rest) ← readValue fuel depth rest
    readMembers fuel depth false (insertEntry k d acc) rest

end

/-- How many arrays and objects may stand inside one another. -/
def maxDepth : Nat := 127

/-- A bound on the steps in which a text of the given length is read: each byte opens at most a
member, its value and what follows it. -/
def stepBound (length : Nat) : Nat := 3 * length + 3

/-- The document that a whole text stands for. -/
def parse (s : List UInt8) : Except JsonError Doc := do
  let (d, rest) ← readValue (stepBound s.length) maxDepth s
  if (skipBlank rest).isEmpty then .ok d else .error .trailingCharacters

end SwitchTestbed.Json
