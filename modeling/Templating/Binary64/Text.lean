import Templating.Binary64.Shortest
import Templating.Text.Quoted

/-!
# Text of floating-point numbers

How a floating-point number is written and read. Writing uses the shortest digits that read back,
positionally for numbers of ordinary size and with a power of ten beyond; the limits are one record.
Reading takes the decimal forms and rounds to the nearest number.
-/

namespace Templating.Binary64

/-- The choices that fix a decimal text once the digits are known. -/
structure Layout where
  /-- The least position of the point that is written positionally. -/
  leastPoint : Int
  /-- The greatest position of the point that is written positionally. -/
  greatestPoint : Int
  /-- The least number of digits of a power of ten. -/
  exponentWidth : Nat

/-- Numbers from `0.0001` to below `10 ^ 16` are positional, and powers of ten have two digits. -/
def layout : Layout where
  leastPoint := -3
  greatestPoint := 16
  exponentWidth := 2

/-- A power of ten after the letter `e`: always signed. -/
def Layout.power (l : Layout) (e : Int) : List Char :=
  let digits := Nat.toDigits 10 e.natAbs
  'e' :: (if e < 0 then '-' else '+') ::
    (List.replicate (l.exponentWidth - digits.length) '0' ++ digits)

/-- Digits laid out: there is always a digit on both sides of a point, and a power of ten stands
after one digit, with a point only if more digits follow. -/
def Layout.write (l : Layout) (d : Decimal) : List Char :=
  let size : Int := d.digits.length
  if l.leastPoint ≤ d.point ∧ d.point ≤ l.greatestPoint then
    if d.point ≤ 0 then
      ['0', '.'] ++ List.replicate (-d.point).toNat '0' ++ d.digits
    else if size ≤ d.point then
      d.digits ++ List.replicate (d.point - size).toNat '0' ++ ['.', '0']
    else
      d.digits.take d.point.toNat ++ '.' :: d.digits.drop d.point.toNat
  else
    let tail := d.digits.drop 1
    d.digits.take 1 ++ (if tail.isEmpty then [] else '.' :: tail) ++ l.power (d.point - 1)

/-- The sign of a negative number. -/
def signText (negative : Bool) : List Char :=
  if negative then ['-'] else []

/-- The shortest text that reads back as the number. -/
def toText : Binary64 → String
  | nan => "nan"
  | infinity s => String.ofList (signText s ++ ['i', 'n', 'f'])
  | finite s m e =>
    let d := if m = 0 then { digits := ['0'], point := 1 } else shortest m e
    String.ofList (signText s ++ layout.write d)

/-- The number in base 16: one digit before the point, thirteen after it, and a power of two. -/
def toHexText : Binary64 → String
  | nan => "nan"
  | infinity s => String.ofList (signText s ++ ['i', 'n', 'f'])
  | finite s m e =>
    let body :=
      if m = 0 then ['0', '.', '0', 'p', '+', '0']
      else
        let lead := if m < Nat.pow 2 52 then '0' else '1'
        let power := e + 52
        lead :: '.' :: Text.hex 13 (m % Nat.pow 2 52) ++ 'p' :: (if power < 0 then '-' else '+') ::
          Nat.toDigits 10 power.natAbs
    String.ofList (signText s ++ '0' :: 'x' :: body)

/-- The value of a text of ASCII digits. -/
def digitsValue (ds : List Char) : Nat :=
  ds.foldl (fun n d => 10 * n + (d.toNat - 0x30)) 0

/-- The power of ten at the end of a number, if the text has just that form. -/
def readPower? : List Char → Option Int
  | [] => some 0
  | e :: rest =>
    if e ≠ 'e' ∧ e ≠ 'E' then none
    else
      let (negative, digits) := match rest with
        | '-' :: ds => (true, ds)
        | '+' :: ds => (false, ds)
        | ds => (false, ds)
      if digits.isEmpty ∨ !digits.all Char.isDigit then none
      else some (if negative then -digitsValue digits else digitsValue digits)

/-- A number without a sign: digits with at most one point among or beside them and then perhaps a
power of ten, or one of the words `inf`, `infinity` and `nan`. -/
def readUnsigned? (cs : List Char) : Option Binary64 :=
  let word := String.ofList (cs.map Char.toLower)
  if word = "inf" ∨ word = "infinity" then some (.infinity false)
  else if word = "nan" then some .nan
  else
    let whole := cs.takeWhile Char.isDigit
    let (fraction, rest) := match cs.dropWhile Char.isDigit with
      | '.' :: more => (more.takeWhile Char.isDigit, more.dropWhile Char.isDigit)
      | more => ([], more)
    if whole.isEmpty ∧ fraction.isEmpty then none
    else (readPower? rest).map fun power =>
      ofDecimal false (digitsValue (whole ++ fraction)) (power - fraction.length)

/-- The number nearest to a decimal text. -/
def ofText? (s : String) : Option Binary64 :=
  match s.toList with
  | '-' :: cs => (readUnsigned? cs).map neg
  | '+' :: cs => readUnsigned? cs
  | cs => readUnsigned? cs

example : (ofDecimal false 1 16).toText = "1e+16" ∧ (ofDecimal false 1 15).toText =
    "1000000000000000.0" := by decide +kernel

example : (ofText? "0.30000000000000004").map toText = some "0.30000000000000004" := by
  decide +kernel

end Templating.Binary64
