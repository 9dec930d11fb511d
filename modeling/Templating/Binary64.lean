/-!
# Binary floating point

The 64-bit binary floating-point numbers as exact data: a sign, a significand and a power of two.
Nothing here computes with machine floats, so each value can be compared, printed and reasoned
about exactly. The only arithmetic is rounding a quotient to the nearest number.
-/

namespace Templating

/-- A floating-point number. A finite one is `± significand · 2 ^ exponent`, in the form that has
the exponent `-1074` or a significand of 53 bits. -/
inductive Binary64 where
  | nan
  | infinity (negative : Bool)
  | finite (negative : Bool) (significand : Nat) (exponent : Int)
deriving DecidableEq, Repr

namespace Binary64

/-- The exponent of the smallest numbers. -/
def minExponent : Int := -1074

/-- The exponent of the largest numbers. -/
def maxExponent : Int := 971

/-- A zero of either sign. -/
def zero (negative : Bool) : Binary64 :=
  .finite negative 0 minExponent

/-- The nearest whole number to `n / d`, a half going to the even neighbour. -/
def roundHalfEven (n d : Nat) : Nat :=
  let q := n / d
  let r := 2 * (n % d)
  if r < d then q else if d < r then q + 1 else if q % 2 = 0 then q else q + 1

/-- The quotient `n / d` divided by `2 ^ e`, as numerator and denominator. -/
def scale (n d : Nat) (e : Int) : Nat × Nat :=
  if 0 ≤ e then (n, d * Nat.pow 2 e.toNat) else (n * Nat.pow 2 (-e).toNat, d)

/-- The exponent with which `n / d` has a significand of 53 bits, or the smallest one. -/
def exponentOf (n d : Nat) : Int :=
  let e := (n.log2 : Int) - d.log2 - 52
  let (a, b) := scale n d e
  max minExponent (if a / b < Nat.pow 2 52 then e - 1 else e)

/-- The number nearest to `± n / d`. -/
def ofRatio (negative : Bool) (n d : Nat) : Binary64 :=
  if n = 0 then zero negative
  else
    let e := exponentOf n d
    let (a, b) := scale n d e
    let m := roundHalfEven a b
    let (m, e) := if m = Nat.pow 2 53 then (Nat.pow 2 52, e + 1) else (m, e)
    if maxExponent < e then .infinity negative else .finite negative m e

/-- The number nearest to `± n · 10 ^ e`. Exponents far outside the range are answered at once, so
that a short text never asks for a huge power. -/
def ofDecimal (negative : Bool) (n : Nat) (e : Int) : Binary64 :=
  let magnitude := (Nat.toDigits 10 n).length + e
  if n = 0 ∨ magnitude < -400 then zero negative
  else if 400 < magnitude then .infinity negative
  else if 0 ≤ e then ofRatio negative (n * Nat.pow 10 e.toNat) 1
  else ofRatio negative n (Nat.pow 10 (-e).toNat)

/-- The sign changed. -/
def neg : Binary64 → Binary64
  | nan => nan
  | infinity s => .infinity (!s)
  | finite s m e => .finite (!s) m e

@[simp] theorem neg_neg (x : Binary64) : x.neg.neg = x := by
  cases x <;> simp [neg]

/-- Whether the number is a zero. -/
def isZero : Binary64 → Bool
  | finite _ m _ => m == 0
  | _ => false

/-- The number as a reduced fraction, if it is finite: numerator and positive denominator. -/
def toRatio? : Binary64 → Option (Int × Nat)
  | finite s m e =>
    let (n, d) := if 0 ≤ e then (m * Nat.pow 2 e.toNat, 1) else (m, Nat.pow 2 (-e).toNat)
    let g := Nat.gcd n d
    some (if s then -((n / g : Nat) : Int) else ((n / g : Nat) : Int), d / g)
  | _ => none

/-- The whole number that the number is equal to, if there is one. -/
def toInt? (x : Binary64) : Option Int :=
  match x.toRatio? with
  | some (n, 1) => some n
  | _ => none

/-- Equality of numbers: the zeros are equal, and what is no number differs from all. -/
def eqv : Binary64 → Binary64 → Bool
  | nan, _ | _, nan => false
  | x, y => (x.isZero && y.isZero) || x == y

example : ofDecimal false 5 (-1) = .finite false (2 ^ 52) (-53) := by decide +kernel

example : (ofDecimal true 30 (-1)).toInt? = some (-3) := by decide +kernel

end Binary64

end Templating
