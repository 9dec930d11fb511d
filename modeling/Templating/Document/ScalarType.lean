import Templating.Binary64.Text
import Templating.Document.Tree
import Templating.Integer
import Templating.Text.Case
import Templating.Value

/-!
# Types of scalars

A scalar has a type, given by its tag or, for a plain one, by its look, and the type gives it a
value. What looks like no other type is a text.
-/

namespace Templating.Document

/-- The types of scalars. -/
inductive ScalarType where
  | boolean
  | float
  | integer
  /-- The key under which other mappings are merged. -/
  | merge
  | null
  /-- A date, with a time or without. -/
  | date
  /-- The key that stands for the value of a mapping; it is read as a text. -/
  | standIn
  | text
deriving DecidableEq, Repr

/-! ### Looks -/

/-- The plain scalars that are truth values. -/
def booleans : List String := ["true", "True", "TRUE", "false", "False", "FALSE"]

/-- The plain scalars that are no value. -/
def nulls : List String := ["", "~", "null", "Null", "NULL"]

/-- The characters after a sign, if there is one. -/
def unsigned : List Char → List Char
  | '+' :: cs => cs
  | '-' :: cs => cs
  | cs => cs

/-- Whether `c` is an ASCII digit or an underscore, which may stand among digits. -/
def isDigitOrGap (c : Char) : Bool :=
  c.isDigit || c == '_'

/-- Whether the text is a power of ten, with or without a sign. -/
def isPower (signed : Bool) : List Char → Bool
  | e :: cs =>
    let digits := unsigned cs
    (e == 'e' || e == 'E') && !digits.isEmpty && digits.all Char.isDigit &&
      (!signed || digits.length < cs.length)
  | [] => false

/-- Whether a plain scalar looks like a floating-point number. A power of ten after a number that
begins with a point has to have a sign. -/
def isFloat (cs : List Char) : Bool :=
  let number := unsigned cs
  let fraction := (number.drop 1).dropWhile isDigitOrGap
  match number with
  | '.' :: more =>
    [".inf", ".Inf", ".INF"].contains (String.ofList number) ||
      [".nan", ".NaN", ".NAN"].contains (String.ofList cs) ||
      ((more.head?.any isDigitOrGap) && (fraction.isEmpty || isPower true fraction))
  | c :: _ =>
    c.isDigit &&
      match fraction with
      | '.' :: more =>
        let power := more.dropWhile isDigitOrGap
        power.isEmpty || isPower false power
      | power => isPower false power
  | [] => false

/-- Whether there are characters, all of the given kind or underscores. -/
def isRow (isDigit : Char → Bool) (cs : List Char) : Bool :=
  !cs.isEmpty && cs.all fun c => isDigit c || c == '_'

/-- Whether a plain scalar looks like an integer in base 2, 8, 10 or 16. -/
def isInteger (cs : List Char) : Bool :=
  (cs.head?.any fun c => c.isDigit || c == '+' || c == '-') &&
    (isRow Char.isDigit (unsigned cs) ||
      match unsigned cs with
      | '0' :: 'b' :: digits => isRow (fun c => c == '0' || c == '1') digits
      | '0' :: 'o' :: digits => isRow (fun c => '0' ≤ c ∧ c ≤ '7') digits
      | '0' :: 'x' :: digits => isRow (fun c => (hexValue? c).isSome) digits
      | _ => false)

/-- Three numbers between separators, each with its number of digits. -/
def threeNumbers? (separator : Char) (cs : List Char) : Option (List (Nat × Nat)) :=
  let rest := cs.dropWhile (· != separator)
  let parts := [cs.takeWhile (· != separator), (rest.drop 1).takeWhile (· != separator),
    ((rest.drop 1).dropWhile (· != separator)).drop 1]
  if parts.all fun digits => !digits.isEmpty && digits.all Char.isDigit then
    some (parts.map fun digits => (digits.length, Binary64.digitsValue digits))
  else none

/-- Whether a plain scalar looks like a date. -/
def isDate (cs : List Char) : Bool :=
  match threeNumbers? '-' cs with
  | some [(4, _), (2, _), (2, _)] => true
  | _ => false

/-- Whether `c` may stand between a date, a time and a zone. -/
def isSpace (c : Char) : Bool :=
  c == ' ' || c == '\t'

/-- The numbers of a date, those of the time behind it, and what is left: the letter T or blanks
stand between the two. -/
def momentParts? (cs : List Char) : Option (List (Nat × Nat) × List (Nat × Nat) × List Char) := do
  let day := cs.takeWhile fun c => c.isDigit || c == '-'
  let time ← match cs.drop day.length with
    | c :: rest =>
      if c == 'T' || c == 't' then some rest
      else if isSpace c then some (rest.dropWhile isSpace)
      else none
    | [] => none
  let clock := time.takeWhile fun c => c.isDigit || c == ':'
  return (← threeNumbers? '-' day, ← threeNumbers? ':' clock, time.drop clock.length)

/-- Whether a text is the zone of a time: the letter Z, or hours and perhaps minutes with a sign. -/
def isZone : List Char → Bool
  | ['Z'] => true
  | sign :: cs =>
    let hours := cs.takeWhile (· != ':')
    let minutes := cs.drop hours.length
    (sign == '+' || sign == '-') && hours.all Char.isDigit &&
      (hours.length == 1 || hours.length == 2) &&
      (minutes.isEmpty || (minutes.length == 3 && (minutes.drop 1).all Char.isDigit))
  | [] => false

/-- Whether a text may follow the seconds of a time: a fraction, a zone, or nothing. -/
def endsMoment (cs : List Char) : Bool :=
  let rest := if cs.head? = some '.' then (cs.drop 1).dropWhile Char.isDigit else cs
  rest.isEmpty || isZone (rest.dropWhile isSpace)

/-- Whether a plain scalar looks like a date with a time. -/
def isMoment (cs : List Char) : Bool :=
  match momentParts? cs with
  | some ([(4, _), (m, _), (d, _)], [(h, _), (2, _), (2, _)], rest) =>
    decide (m ≤ 2 ∧ d ≤ 2 ∧ h ≤ 2) && endsMoment rest
  | _ => false

/-- The type that a plain scalar has by its look. -/
def ScalarType.ofPlain (s : String) : ScalarType :=
  if booleans.contains s then .boolean
  else if isFloat s.toList then .float
  else if isInteger s.toList then .integer
  else if s == "<<" then .merge
  else if nulls.contains s then .null
  else if isDate s.toList || isMoment s.toList then .date
  else if s == "=" then .standIn
  else .text

/-- The types by their tags, without what these begin with. -/
def ScalarType.tags : List (String × ScalarType) :=
  [("bool", .boolean), ("float", .float), ("int", .integer), ("merge", .merge), ("null", .null),
    ("timestamp", .date), ("value", .standIn), ("str", .text)]

/-- The type of a scalar, if its tag has one. A bare exclamation mark makes a scalar count as
plain. -/
def ScalarType.of? (tag : Option String) (plain : Bool) (s : String) : Option ScalarType :=
  match tag with
  | none => some (if plain then ofPlain s else .text)
  | some name =>
    if name == "!" then some (ofPlain s)
    else (tags.find? fun entry => commonTag ++ entry.1 == name).map (·.2)

/-! ### Values -/

/-- Reads a number by its magnitude, whose sign goes before it. Underscores do not count. -/
def readSigned {α : Type} (negate : α → α) (magnitude : List Char → Except Failure α)
    (s : String) : Except Failure α :=
  match s.toList.filter (· != '_') with
  | [] => .error .emptyNumber
  | '-' :: cs => (magnitude cs).map negate
  | '+' :: cs => magnitude cs
  | cs => magnitude cs

/-- The integer that a scalar denotes. -/
def readInteger : String → Except Failure Int :=
  readSigned (- ·) fun
    | '0' :: 'b' :: digits => Integer.ofText 2 digits
    | '0' :: 'o' :: digits => Integer.ofText 8 digits
    | '0' :: 'x' :: digits => Integer.ofText 16 digits
    | digits => Integer.ofText 10 digits

/-- The floating-point number that a scalar denotes. -/
def readFloat : String → Except Failure Binary64 :=
  readSigned Binary64.neg fun cs =>
    let written := String.ofList (Text.lower cs)
    if written == ".inf" then .ok (.infinity false)
    else if written == ".nan" then .ok .nan
    else match Binary64.ofText? written with
      | some x => .ok x
      | none => .error (.invalidFloat written)

/-- The words for truth values where a tag asks for one. -/
def truthWords : List (String × Bool) :=
  [("yes", true), ("no", false), ("y", true), ("n", false), ("true", true), ("false", false),
    ("on", true), ("off", false)]

/-- The truth value that a scalar denotes. -/
def readBoolean (s : String) : Except Failure Bool :=
  let word := String.ofList (Text.lower s.toList)
  match truthWords.lookup word with
  | some b => .ok b
  | none => .error (.missingKey word)

/-- The date with the given parts, which must exist. -/
def dateOf (year month day : Nat) : Except DateProblem Value :=
  if year = 0 then .error (.year year)
  else if month = 0 ∨ 12 < month then .error .month
  else if day = 0 ∨ daysIn year month < day then .error .day
  else .ok (.date year month day)

/-- The date with a time whose parts are given, which must exist. -/
def momentOf (m : Moment) : Except DateProblem Value := do
  let _ ← dateOf m.year m.month m.day
  if 23 < m.hour then .error .hour
  else if 59 < m.minute then .error .minute
  else if 59 < m.second then .error .second
  else .ok (.dateTime m)

/-- The millionth parts of a second that a fraction denotes, if it has no more digits than these. -/
def microseconds? : List Char → Option Nat
  | [] => some 0
  | '.' :: digits =>
    if digits.all Char.isDigit ∧ digits.length ≤ 6 then
      some (Binary64.digitsValue digits * Nat.pow 10 (6 - digits.length))
    else none
  | _ => none

/-- The date that a scalar denotes. Months, days and hours may have a single digit. Times with a
zone, or with a finer fraction than the millionth part of a second, are not read. -/
def readDate (s : String) : Except Fault Value :=
  match threeNumbers? '-' s.toList, momentParts? s.toList with
  | some [(4, year), (m, month), (d, day)], _ =>
    if m ≤ 2 ∧ d ≤ 2 then (dateOf year month day).mapError fun p => .failure (.invalidDate p)
    else .error .malformed
  | _, some ([(4, year), (m, month), (d, day)], [(h, hour), (2, minute), (2, second)], rest) =>
    match microseconds? rest with
    | some micros =>
      if m ≤ 2 ∧ d ≤ 2 ∧ h ≤ 2 then
        (momentOf { year, month, day, hour, minute, second, microsecond := micros }).mapError
          fun p => .failure (.invalidDate p)
      else .error .malformed
    | none => .error .malformed
  | _, _ => .error .malformed

/-- The value of a scalar of the type. The keys with a meaning are no values. -/
def ScalarType.read (s : String) : ScalarType → Except Fault Value
  | .boolean => ((readBoolean s).map .bool).mapError .failure
  | .float => ((readFloat s).map .float).mapError .failure
  | .integer => ((readInteger s).map .int).mapError .failure
  | .null => .ok .none
  | .date => readDate s
  | .text => .ok (.text s)
  | .merge | .standIn => .error .malformed

example : ScalarType.ofPlain "017" = .integer ∧ ScalarType.ofPlain "1_0.5e3" = .float ∧
    ScalarType.ofPlain "1e3" = .float ∧ ScalarType.ofPlain ".5e3" = .text ∧
    ScalarType.ofPlain "yes" = .text ∧ ScalarType.ofPlain "2001-12-14" = .date ∧
    ScalarType.ofPlain "2001-12-14t21:59:43.10-05:00" = .date := by
  decide +kernel

end Templating.Document
