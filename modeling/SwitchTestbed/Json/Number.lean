import SwitchTestbed.Document.Basic
import SwitchTestbed.Json.Error
import SwitchTestbed.Text.Basic

/-!
# JSON numbers

* `Numeral` : a number as it is written; `Numeral.scan` takes one from the front of a text;
* `Numeral.value` : the integer it stands for, if it has neither fraction nor exponent and fits
  64 bits, and else a binary floating-point number;
* `scaled` : a significand times a power of ten by one rounded product or quotient, not by the
  nearest number to the whole.
-/

namespace SwitchTestbed.Json

/-! ## Numbers as they are written -/

/-- A number as it is written, each digit by its value. -/
structure Numeral where
  negative : Bool
  integer : List Nat
  fraction : List Nat
  exponent : Option (Bool × List Nat)
  deriving DecidableEq, Repr

/-- The value of an ASCII digit. -/
def byteDigit? (b : UInt8) : Option Nat :=
  if 0x30 ≤ b && b ≤ 0x39 then some (b.toNat - 0x30) else none

/-- The digits at the front of a text, and what follows them. -/
def scanDigits : List UInt8 → List Nat × List UInt8
  | [] => ([], [])
  | b :: rest =>
    match byteDigit? b with
    | some d => let (ds, after) := scanDigits rest; (d :: ds, after)
    | none => ([], b :: rest)

/-- The digits at the front of a text, of which there has to be one. -/
def scanDigits1 (s : List UInt8) : Except JsonError (List Nat × List UInt8) :=
  match scanDigits s with
  | ([], []) => .error .endInValue
  | ([], _) => .error .invalidNumber
  | found => .ok found

/-- The digits before the point: a leading zero stands alone. -/
def scanInteger (s : List UInt8) : Except JsonError (List Nat × List UInt8) := do
  let (ds, rest) ← scanDigits1 s
  match ds with
  | 0 :: _ :: _ => .error .invalidNumber
  | _ => .ok (ds, rest)

/-- A point and the digits behind it, if a point follows. -/
def scanFraction : List UInt8 → Except JsonError (List Nat × List UInt8)
  | 0x2e :: rest => scanDigits1 rest
  | s => .ok ([], s)

/-- The digits of an exponent behind its sign. -/
def scanExponentDigits (negative : Bool) (s : List UInt8) :
    Except JsonError (Option (Bool × List Nat) × List UInt8) := do
  let (ds, rest) ← scanDigits1 s
  .ok (some (negative, ds), rest)

/-- An exponent, if one follows. -/
def scanExponent : List UInt8 → Except JsonError (Option (Bool × List Nat) × List UInt8)
  | b :: rest =>
    if b = 0x65 ∨ b = 0x45 then
      match rest with
      | 0x2b :: ds => scanExponentDigits false ds
      | 0x2d :: ds => scanExponentDigits true ds
      | ds => scanExponentDigits false ds
    else .ok (none, b :: rest)
  | [] => .ok (none, [])

/-- A number behind its sign. -/
def Numeral.scan (negative : Bool) (s : List UInt8) :
    Except JsonError (Numeral × List UInt8) := do
  let (integer, s) ← scanInteger s
  let (fraction, s) ← scanFraction s
  let (exponent, s) ← scanExponent s
  .ok (⟨negative, integer, fraction, exponent⟩, s)

/-! ## Their values -/

/-- Largest natural of 64 bits. -/
def maxUInt64 : Nat := 0xffffffffffffffff

/-- Digits appended to a significand while it fits 64 bits, and the digits that are left. -/
def absorb (significand : Nat) : List Nat → Nat × List Nat
  | [] => (significand, [])
  | d :: ds =>
    let next := significand * 10 + d
    if next ≤ maxUInt64 then absorb next ds else (significand, d :: ds)

/-- Quotients by `10 ^ 308` until the remaining exponent is at least `-308`. -/
def scaleDownFar : Nat → Binary64 → Nat → Binary64 × Nat
  | 0, f, e => (f, e)
  | fuel + 1, f, e =>
    if e ≤ 308 ∨ f.isZero then (f, e)
    else scaleDownFar fuel (f.div (Binary64.pow10 308)) (e - 308)

/-- A significand times a power of ten. Three far quotients bring every significand of 64 bits
to zero. -/
def scaled (significand : Nat) (exponent : Int) : Except JsonError Binary64 :=
  let f := Binary64.ofNat significand
  match exponent with
  | .ofNat e =>
    if 308 < e then if f.isZero then .ok f else .error .numberOutOfRange
    else
      let product := f.mul (Binary64.pow10 e)
      if product.isInfinite then .error .numberOutOfRange else .ok product
  | .negSucc n =>
    let (g, e) := scaleDownFar 4 f (n + 1)
    if g.isZero then .ok g else .ok (g.div (Binary64.pow10 e))

/-- The exponent behind the digits; one beyond 31 bits takes a significand other than zero out of
range, or down to zero. -/
def withExponent (significand : Nat) (base : Int) (exponent : Option (Bool × List Nat)) :
    Except JsonError Binary64 :=
  match exponent with
  | none => scaled significand base
  | some (negative, ds) =>
    let e := natOfDigits 10 ds
    if 0x80000000 ≤ e then
      if significand ≠ 0 ∧ !negative then .error .numberOutOfRange else .ok (Binary64.zero false)
    else scaled significand (if negative then base - e else base + e)

/-- The floating-point number that a numeral stands for. Digits that no longer fit 64 bits count
as zeros before the point, and not at all behind it. -/
def Numeral.toBinary64 (n : Numeral) : Except JsonError Binary64 := do
  let (whole, left) := absorb 0 n.integer
  let (significand, dropped) := absorb whole n.fraction
  let places : Int := (left.length : Int) - (n.fraction.length - dropped.length : Nat)
  let magnitude ← withExponent significand places n.exponent
  .ok (if n.negative then magnitude.neg else magnitude)

/-- What a numeral stands for. Negative zero is no integer. -/
def Numeral.value (n : Numeral) : Except JsonError Doc := do
  let whole := natOfDigits 10 n.integer
  if n.fraction.isEmpty && n.exponent.isNone then
    if !n.negative && whole ≤ maxUInt64 then return .int whole
    if n.negative && whole ≠ 0 && whole ≤ 0x8000000000000000 then return .int (-(whole : Int))
  return .float (← n.toBinary64)

end SwitchTestbed.Json
