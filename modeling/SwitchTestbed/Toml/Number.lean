import SwitchTestbed.Decimal
import SwitchTestbed.Document.Basic
import SwitchTestbed.Text.Basic
import SwitchTestbed.Toml.Blank

/-!
# Numbers

* `readDigits` : digits of a base, single underscores between them;
* `readNumber` : an integer of 64 bits in base ten, or without a sign in base sixteen, eight or two,
  or else the floating-point number nearest to what is written. It must not be so large that this
  is infinity.
-/

namespace SwitchTestbed.Toml

/-- The digits that go on behind a first one; `acc` holds those so far in reverse. An underscore
stands between two digits. -/
def moreDigits (base : Nat) (acc : List Nat) : Reader (List Nat)
  | '_' :: c :: rest =>
    match digit? base c with
    | some d => moreDigits base (d :: acc) rest
    | none => none
  | c :: rest =>
    match digit? base c with
    | some d => moreDigits base (d :: acc) rest
    | none => some (acc.reverse, c :: rest)
  | [] => some (acc.reverse, [])

/-- One digit or several ones. -/
def readDigits (base : Nat) : Reader (List Nat)
  | [] => none
  | c :: rest => do moreDigits base [← digit? base c] rest

/-- The digits before the point: a zero stands alone. -/
def readWhole : Reader (List Nat)
  | '0' :: rest => some ([0], rest)
  | s => readDigits 10 s

/-- An integer, if it fits 64 bits. -/
def integer? (negative : Bool) (n : Nat) : Option Doc :=
  if negative then if n ≤ 0x8000000000000000 then some (.int (-(n : Int))) else none
  else if n < 0x8000000000000000 then some (.int n) else none

/-- An integer behind the mark of its base. -/
def readInBase (base : Nat) : Reader Doc := fun s => do
  let (ds, rest) ← readDigits base s
  some (← integer? false (natOfDigits base ds), rest)

/-- An exponent, if one follows. -/
def readExponent : Reader (Option Int)
  | [] => some (none, [])
  | c :: rest =>
    if c = 'e' ∨ c = 'E' then do
      let (negative, rest) := match rest with
        | '+' :: rest => (false, rest)
        | '-' :: rest => (true, rest)
        | rest => (false, rest)
      let (ds, rest) ← readDigits 10 rest
      let n : Int := natOfDigits 10 ds
      some (some (if negative then -n else n), rest)
    else some (none, c :: rest)

/-- The floating-point number that digits before and behind the point and an exponent stand for. -/
def float? (negative : Bool) (whole fraction : List Nat) (exponent : Int) : Option Doc :=
  let x := Decimal.nearest negative
    ⟨natOfDigits 10 (whole ++ fraction), exponent - fraction.length⟩
  if x = .infinity false then none else some (.float x)

/-- A number in base ten behind its sign. -/
def readDecimal (negative : Bool) : Reader Doc := fun s => do
  let (whole, rest) ← readWhole s
  match rest with
  | '.' :: rest => do
    let (fraction, rest) ← readDigits 10 rest
    let (exponent, rest) ← readExponent rest
    some (← float? negative whole fraction (exponent.getD 0), rest)
  | rest => do
    let (exponent, rest) ← readExponent rest
    match exponent with
    | some e => some (← float? negative whole [] e, rest)
    | none => some (← integer? negative (natOfDigits 10 whole), rest)

/-- Infinity or no number at all, or a number in base ten, behind its sign. -/
def readUnsigned (negative : Bool) : Reader Doc
  | 'i' :: 'n' :: 'f' :: rest => some (.float (.infinity negative), rest)
  | 'n' :: 'a' :: 'n' :: rest => some (.float .nan, rest)
  | s => readDecimal negative s

/-- A number. -/
def readNumber : Reader Doc
  | '+' :: rest => readUnsigned false rest
  | '-' :: rest => readUnsigned true rest
  | '0' :: 'x' :: rest => readInBase 16 rest
  | '0' :: 'o' :: rest => readInBase 8 rest
  | '0' :: 'b' :: rest => readInBase 2 rest
  | s => readUnsigned false s

end SwitchTestbed.Toml
