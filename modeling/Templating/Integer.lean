import Templating.Failure
import Templating.Text.Blank
import Templating.Text.Digit

/-!
# Integers as text

Integers are written in base ten and read in any base up to sixteen. Base ten takes the decimal
digits of every script. Both ways the number of decimal digits is limited; the bases that are
powers of two are not.
-/

namespace Templating.Integer

/-- The decimal text of an integer of at most `digitLimit` digits. -/
def toText (n : Int) : Except Failure String :=
  let digits := Nat.toDigits 10 n.natAbs
  if digitLimit < digits.length then .error (.digitLimit none)
  else .ok (String.ofList (if n < 0 then '-' :: digits else digits))

/-- The value of a character as a digit in the base. -/
def digitValue? (base : Nat) (c : Char) : Option Nat :=
  let value := match Text.decimalValue? c with
    | some n => some n
    | none =>
      if 'a' ≤ c ∧ c ≤ 'f' then some (c.toNat - 0x57)
      else if 'A' ≤ c ∧ c ≤ 'F' then some (c.toNat - 0x37)
      else none
  value.filter (· < base)

/-- The integer that a row of digits denotes. A row that begins with too many decimal digits is
refused for that, whatever follows them. -/
def ofDigits (base : Nat) (cs : List Char) : Except Failure Nat :=
  let run := cs.takeWhile fun c => (digitValue? base c).isSome
  if base = 10 ∧ digitLimit < run.length then .error (.digitLimit (some run.length))
  else if cs.isEmpty ∨ run.length < cs.length then .error (.invalidInteger base (String.ofList cs))
  else .ok (cs.foldl (fun n c => n * base + (digitValue? base c).getD 0) 0)

/-- The integer that a text denotes: digits, perhaps after a sign and between blanks. A refusal
names the whole text. -/
def ofText (base : Nat) (cs : List Char) : Except Failure Int :=
  let trimmed := ((cs.dropWhile Text.isBlank).reverse.dropWhile Text.isBlank).reverse
  let read (digits : List Char) : Except Failure Nat :=
    (ofDigits base digits).mapError fun
      | .invalidInteger base _ => .invalidInteger base (String.ofList cs)
      | f => f
  match trimmed with
  | '-' :: digits => (read digits).map fun n => -n
  | '+' :: digits => (read digits).map (↑·)
  | digits => (read digits).map (↑·)

example : ofText 10 [' ', '-', '7', ' '] = .ok (-7) := by cbv

example : ofDigits 16 ['1', 'F'] = .ok 31 := by cbv

end Templating.Integer
