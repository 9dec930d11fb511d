import Templating.Binary64

/-!
# Shortest decimal digits

The fewest decimal digits that read back as a given floating-point number. All numbers between the
midpoints to the two neighbours round to it, the midpoints themselves just when the significand is
even. For one digit, two digits, and so on, the two points of that decimal grid around the number
are tried; the first grid with a point inside wins, and of two points the nearer.
-/

namespace Templating.Binary64

/-- Digits `0.d₁d₂… · 10 ^ point`. -/
structure Decimal where
  digits : List Char
  point : Int
deriving DecidableEq, Repr

/-- A positive quotient `num / den` and the interval `low / den` to `high / den` that rounds to it;
`closed` says whether its ends do. -/
structure Target where
  num : Nat
  den : Nat
  low : Nat
  high : Nat
  closed : Bool

/-- The target of `m · 2 ^ e`, over the common denominator of the number and its midpoints. Below a
power of two the neighbour is only half as far away. -/
def target (m : Nat) (e : Int) : Target :=
  let lowGap := if m = Nat.pow 2 52 ∧ minExponent < e then 1 else 2
  let up := if 2 ≤ e then Nat.pow 2 (e - 2).toNat else 1
  let den := if 2 ≤ e then 1 else Nat.pow 2 (2 - e).toNat
  { num := 4 * m * up, den := den, low := (4 * m - lowGap) * up, high := (4 * m + 2) * up,
    closed := m % 2 == 0 }

/-- Whether the fraction `n / d` rounds to the target. -/
def Target.accepts (t : Target) (n d : Nat) : Bool :=
  if t.closed then t.low * d ≤ n * t.den && n * t.den ≤ t.high * d
  else t.low * d < n * t.den && n * t.den < t.high * d

/-- The power of ten just above a positive quotient: `10 ^ (p - 1) ≤ num / den < 10 ^ p`. -/
def pointOf (num den : Nat) : Int :=
  if den ≤ num then (Nat.toDigits 10 (num / den)).length
  else
    let size := (Nat.toDigits 10 (den / num)).length
    if den ≤ num * Nat.pow 10 (size - 1) then 2 - size else 1 - size

/-- The best point with `size` digits: the acceptable neighbour on the grid, the nearer one of two,
the even one of two as near. -/
def Target.onGrid? (t : Target) (size : Nat) : Option Nat :=
  let e := pointOf t.num t.den - size
  let (up, down) := if 0 ≤ e then (Nat.pow 10 e.toNat, 1) else (1, Nat.pow 10 (-e).toNat)
  let below := t.num * down / (t.den * up)
  let above := below + 1
  let rest := 2 * (t.num * down % (t.den * up))
  let belowFits := t.accepts (below * up) down
  let aboveFits := t.accepts (above * up) down
  let preferBelow := rest < t.den * up || (rest == t.den * up && below % 2 == 0)
  if belowFits && (preferBelow || !aboveFits) then some below
  else if aboveFits then some above
  else none

/-- The digits of `n` without the zeros at the end. -/
def significantDigits (n : Nat) : List Char :=
  ((Nat.toDigits 10 n).reverse.dropWhile (· == '0')).reverse

/-- The shortest digits of `m · 2 ^ e` for a positive `m`. Seventeen digits always suffice. -/
def shortest (m : Nat) (e : Int) : Decimal :=
  let t := target m e
  let point := pointOf t.num t.den
  match (List.range' 1 17).findSome? fun size => (t.onGrid? size).map (size, ·) with
  | some (size, n) =>
    { digits := significantDigits n
      point := point + ((Nat.toDigits 10 n).length - size) }
  | none => { digits := ['0'], point := 1 }

end Templating.Binary64
