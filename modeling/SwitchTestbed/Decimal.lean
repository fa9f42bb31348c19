import SwitchTestbed.Binary64

/-!
# Decimal texts of binary numbers

* `Decimal` : `digits * 10 ^ exponent`;
* `Decimal.shortest` : of the decimals that round to a given binary number one with the fewest
  digits, and of those the nearest to it;
* `Decimal.Tie` : which one it is if two of them are equally near;
* `Decimal.positional` : the decimal written without an exponent;
* `Decimal.scientific` : the decimal written with one digit before the point and an exponent;
* `Decimal.nearest` : the binary number nearest to a decimal.
-/

namespace SwitchTestbed

/-- The number `digits * 10 ^ exponent`. -/
structure Decimal where
  digits : Nat
  exponent : Int
  deriving DecidableEq, Repr, Inhabited

namespace Decimal

/-- Which of two equally near decimals is taken. -/
inductive Tie where
  /-- The one with an even last digit. -/
  | toEven
  /-- The larger one. -/
  | up
  deriving DecidableEq, Repr, Inhabited

/-- Whether the larger one of two equally near decimals is taken, given the digits of the smaller
one. -/
def Tie.takesAbove (t : Tie) (below : Nat) : Bool :=
  match t with
  | toEven => below % 2 = 1
  | up => true

/-- Trailing zeros of the digits moved into the exponent, at most `fuel` of them. -/
def strip : Nat → Decimal → Decimal
  | 0, d => d
  | fuel + 1, d =>
    if d.digits ≠ 0 ∧ d.digits % 10 = 0 then strip fuel ⟨d.digits / 10, d.exponent + 1⟩ else d

/-- `num / (den * 10 ^ k)` as a quotient of naturals. -/
def scaleDown10 (num den : Nat) (k : Int) : Nat × Nat :=
  match k with
  | .ofNat n => (num, den * Nat.pow 10 n)
  | .negSucc n => (num * Nat.pow 10 (n + 1), den)

/-- The largest `k ≤ start` with `10 ^ k ≤ num / den`, searched at most `fuel` steps down. -/
def floorLog10 (num den : Nat) : Nat → Int → Int
  | 0, k => k
  | fuel + 1, k =>
    let (n, d) := scaleDown10 num den k
    if n < d then floorLog10 num den fuel (k - 1) else k

/-- The interval of the numbers that round to `m * 2 ^ q`, in units of `2 ^ (q - 2)`, and whether
its ends belong to it. Below a power of two the neighbours stand half as far apart. -/
structure Interval where
  low : Nat
  value : Nat
  high : Nat
  closed : Bool

/-- The numbers that round to `m * 2 ^ q`. -/
def interval (m : Nat) (q : Int) : Interval :=
  { low := if m = 0x10000000000000 ∧ -1074 < q then 4 * m - 1 else 4 * m - 2
    value := 4 * m
    high := 4 * m + 2
    closed := m % 2 = 0 }

/-- Whether `num / den` lies in an interval whose unit is `unitNum / unitDen`. -/
def Interval.contains (i : Interval) (unitNum unitDen num den : Nat) : Bool :=
  let x := num * unitDen
  let low := i.low * unitNum * den
  let high := i.high * unitNum * den
  if i.closed then low ≤ x && x ≤ high else low < x && x < high

/-- The better of the two neighbours of a value on the grid of the multiples of `10 ^ k`, if one
of them lies in the interval: the nearer one, and of two equally near the one that `tie` takes. -/
def onGrid (tie : Tie) (i : Interval) (unitNum unitDen : Nat) (k : Int) : Option Nat :=
  let (n, d) := scaleDown10 (i.value * unitNum) unitDen k
  let below := n / d
  let inside := fun (c : Nat) =>
    match k with
    | .ofNat e => i.contains unitNum unitDen (c * Nat.pow 10 e) 1
    | .negSucc e => i.contains unitNum unitDen c (Nat.pow 10 (e + 1))
  match inside below, inside (below + 1) with
  | true, true =>
    let rest := n % d
    if 2 * rest < d then some below
    else if d < 2 * rest then some (below + 1)
    else if tie.takesAbove below then some (below + 1)
    else some below
  | true, false => some below
  | false, true => some (below + 1)
  | false, false => none

/-- The first grid of at most `fuel` ever finer ones, from `10 ^ k` down, that has a point in the
interval. -/
def firstGrid (tie : Tie) (i : Interval) (unitNum unitDen : Nat) : Nat → Int → Decimal
  | 0, k => ⟨0, k⟩
  | fuel + 1, k =>
    match onGrid tie i unitNum unitDen k with
    | some c => ⟨c, k⟩
    | none => firstGrid tie i unitNum unitDen fuel (k - 1)

/-- The shortest decimal that rounds to the positive number `m * 2 ^ q`. Seventeen digits always
suffice. -/
def shortest (tie : Tie) (m : Nat) (q : Int) : Decimal :=
  let (num, den) := Binary64.ratio m q
  let (unitNum, unitDen) := Binary64.ratio 1 (q - 2)
  let top := floorLog10 num den 700 (((Nat.log2 m : Int) + q) * 30103 / 100000 + 1)
  strip 20 (firstGrid tie (interval m q) unitNum unitDen 18 top)

/-! ## Writing -/

/-- The decimal digits of a natural. -/
def natDigits (n : Nat) : List Char := Nat.toDigits 10 n

/-- The exponent of the first digit. -/
def leadingExponent (d : Decimal) : Int := d.exponent + ((natDigits d.digits).length - 1 : Nat)

/-- Without an exponent, always with a point and a digit on both sides of it. -/
def positional (d : Decimal) : List Char :=
  let ds := natDigits d.digits
  match d.exponent with
  | .ofNat e => ds ++ List.replicate e '0' ++ ['.', '0']
  | .negSucc e =>
    let places := e + 1
    if ds.length ≤ places then ['0', '.'] ++ List.replicate (places - ds.length) '0' ++ ds
    else ds.take (ds.length - places) ++ ['.'] ++ ds.drop (ds.length - places)

/-- An exponent with its sign. -/
def signedExponent : Int → List Char
  | .ofNat e => '+' :: natDigits e
  | .negSucc e => '-' :: natDigits (e + 1)

/-- One digit before the point, the others after it, and an exponent. -/
def scientific (d : Decimal) : List Char :=
  let mantissa :=
    match natDigits d.digits with
    | [] => []
    | [c] => [c]
    | c :: rest => c :: '.' :: rest
  mantissa ++ 'e' :: signedExponent d.leadingExponent

/-! ## The nearest binary number -/

/-- The binary number nearest to a decimal, with the given sign. Decimals of more than three
hundred and ten places before the point are beyond every finite number, and those whose first digit
stands more than three hundred and thirty places behind it are nearest to zero; neither is worked
out. -/
def nearest (negative : Bool) (d : Decimal) : Binary64 :=
  let top := d.exponent + (natDigits d.digits).length
  if d.digits = 0 ∨ top < -330 then .zero negative
  else if 310 < top then .infinity negative
  else
    let (num, den) := scaleDown10 d.digits 1 (-d.exponent)
    .ofRatio negative num den

end Decimal

namespace Binary64

/-- The text of a finite number, written by `write`, with its sign. Ties are broken on the
magnitude. -/
def finiteText (tie : Decimal.Tie) (write : Decimal → List Char) (negative : Bool) (m : Nat)
    (q : Int) : List Char :=
  let magnitude := if m = 0 then ['0', '.', '0'] else write (Decimal.shortest tie m q)
  if negative then '-' :: magnitude else magnitude

/-- The text of a number without any exponent; of two equally near texts it is the larger one. -/
def plainText (x : Binary64) : List Char :=
  match x.view with
  | .finite negative m q => finiteText .up Decimal.positional negative m q
  | .infinite negative => (if negative then "-inf" else "inf").toList
  | .nan => "NaN".toList

/-- The text of a finite number in which an exponent stands for the zeros where the first digit
is left of the sixteenth place before the point or right of the fifth one behind it; of two texts
that would do the one with an even last digit. -/
def compactText (x : Binary64) : List Char :=
  match x.view with
  | .finite negative m q =>
    finiteText .toEven (fun d =>
      if -5 ≤ d.leadingExponent ∧ d.leadingExponent ≤ 15 then d.positional else d.scientific)
      negative m q
  | _ => "null".toList

end Binary64

end SwitchTestbed
