/-!
# Binary floating-point numbers of 64 bits

* `Binary64` : a number by its bits; `Binary64.view` takes them apart;
* `Binary64.roundHalfEven` : a quotient of naturals to the nearest natural, ties to the even one;
* `Binary64.ofRatio` : the number nearest to a quotient of naturals, infinite from half a unit
  above the largest finite number on;
* `Binary64.mul`, `Binary64.div` : product and quotient of magnitudes, rounded once.
-/

namespace SwitchTestbed

/-- A binary floating-point number, held as its bits. -/
structure Binary64 where
  bits : UInt64
  deriving DecidableEq, Repr, Inhabited

namespace Binary64

/-- What the bits stand for: a magnitude `significand * 2 ^ exponent` with a sign, an infinity,
or no number at all. -/
inductive View where
  | finite (negative : Bool) (significand : Nat) (exponent : Int)
  | infinite (negative : Bool)
  | nan
  deriving DecidableEq, Repr

/-- Take the bits apart. -/
def view (x : Binary64) : View :=
  let n := x.bits.toNat
  let negative : Bool := 0x8000000000000000 ≤ n
  let biased : Nat := n / 0x10000000000000 % 0x800
  let fraction : Nat := n % 0x10000000000000
  if biased = 2047 then if fraction = 0 then .infinite negative else .nan
  else if biased = 0 then .finite negative fraction (-1074)
  else .finite negative (0x10000000000000 + fraction) (biased - 1075 : Int)

/-- The sign bit. -/
def signBit (negative : Bool) : Nat := if negative then 0x8000000000000000 else 0

/-- An infinity. -/
def infinity (negative : Bool) : Binary64 := ⟨UInt64.ofNat (signBit negative + 0x7ff0000000000000)⟩

/-- The number whose bits are those of the quiet not-a-number. -/
def nan : Binary64 := ⟨0x7ff8000000000000⟩

/-- A zero. -/
def zero (negative : Bool) : Binary64 := ⟨UInt64.ofNat (signBit negative)⟩

/-- The same magnitude with the other sign. -/
def neg (x : Binary64) : Binary64 := ⟨x.bits ^^^ 0x8000000000000000⟩

/-- Whether the number is an infinity. -/
def isInfinite (x : Binary64) : Bool :=
  match x.view with
  | .infinite _ => true
  | _ => false

/-- Whether the number is a zero of either sign. -/
def isZero (x : Binary64) : Bool := x.bits.toNat % 0x8000000000000000 = 0

/-! ## Rounding -/

/-- The natural nearest to `num / den`; of two the even one. -/
def roundHalfEven (num den : Nat) : Nat :=
  let q := num / den
  let r := num % den
  if 2 * r < den then q
  else if den < 2 * r then q + 1
  else if q % 2 = 0 then q else q + 1

/-- `num / (den * 2 ^ k)` as a quotient of naturals. -/
def scaleDown (num den : Nat) (k : Int) : Nat × Nat :=
  match k with
  | .ofNat n => (num, den * Nat.pow 2 n)
  | .negSucc n => (num * Nat.pow 2 (n + 1), den)

/-- The largest `k` with `2 ^ k ≤ num / den`, for positive naturals. -/
def floorLog2 (num den : Nat) : Int :=
  let k : Int := (Nat.log2 num : Int) - Nat.log2 den
  let (n, d) := scaleDown num den k
  if n < d then k - 1 else k

/-- The number nearest to `num / den`, with the given sign. The bits of a finite magnitude
`m * 2 ^ q` are `(q + 1074) * 2 ^ 52 + m`, also where rounding carries `m` to `2 ^ 53`. -/
def ofRatio (negative : Bool) (num den : Nat) : Binary64 :=
  if num = 0 then zero negative
  else
    let q := max (floorLog2 num den - 52) (-1074)
    let (n, d) := scaleDown num den q
    let magnitude := (q + 1074).toNat * 0x10000000000000 + roundHalfEven n d
    if 0x7ff0000000000000 ≤ magnitude then infinity negative
    else ⟨UInt64.ofNat (signBit negative + magnitude)⟩

/-- The number nearest to a natural. -/
def ofNat (n : Nat) : Binary64 := ofRatio false n 1

/-- The number nearest to a power of ten. -/
def pow10 (k : Nat) : Binary64 := ofNat (Nat.pow 10 k)

/-- `(m * 2 ^ q)` as a quotient of naturals. -/
def ratio (m : Nat) (q : Int) : Nat × Nat := scaleDown m 1 (-q)

/-- The product of two finite magnitudes, rounded once. -/
def mul (x y : Binary64) : Binary64 :=
  match x.view, y.view with
  | .finite _ m q, .finite _ n r =>
    let (num, den) := ratio (m * n) (q + r)
    ofRatio false num den
  | _, _ => infinity false

/-- The quotient of a finite magnitude by a positive finite one, rounded once. -/
def div (x y : Binary64) : Binary64 :=
  match x.view, y.view with
  | .finite _ m q, .finite _ n r =>
    let (num, den) := ratio m (q - r)
    ofRatio false num (den * n)
  | _, _ => infinity false

end Binary64

end SwitchTestbed
