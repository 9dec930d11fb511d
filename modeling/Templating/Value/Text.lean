import Templating.Value
import Templating.Integer
import Templating.Binary64.Text

/-!
# Text of values

How values are printed. Output shows a text as it is and nothing for no value; every other value
has one text, and inside collections texts stand between quotes. Printing fails only at an integer
with too many digits.
-/

namespace Templating.Value

/-- A number with at least `width` digits. -/
def padded (width n : Nat) : String :=
  let digits := Nat.toDigits 10 n
  String.ofList (List.replicate (width - digits.length) '0' ++ digits)

/-- A day as years, months and days. -/
def dayText (year month day : Nat) : String :=
  padded 4 year ++ "-" ++ padded 2 month ++ "-" ++ padded 2 day

/-- How far a clock is ahead of universal time, in hours and minutes. -/
def zoneText (ahead : Int) : String :=
  (if ahead < 0 then "-" else "+") ++ padded 2 (ahead.natAbs / 60) ++ ":" ++
    padded 2 (ahead.natAbs % 60)

/-- A moment as a day and a time. A part of a second has six digits. -/
def momentText (m : Moment) : String :=
  let fraction := if m.microsecond = 0 then "" else "." ++ padded 6 m.microsecond
  dayText m.year m.month m.day ++ " " ++ padded 2 m.hour ++ ":" ++ padded 2 m.minute ++ ":" ++
    padded 2 m.second ++ fraction ++ (m.zone.map zoneText).getD ""

/-- The zone of a moment inside a collection, in seconds. One behind universal time is a day less
and the rest of that day. -/
def quoteZone (ahead : Int) : String :=
  let zone := "datetime.timezone"
  if ahead = 0 then ", tzinfo=" ++ zone ++ ".utc"
  else
    let seconds := if ahead < 0 then s!"days=-1, seconds={86400 + ahead * 60}"
      else s!"seconds={ahead * 60}"
    ", tzinfo=" ++ zone ++ "(datetime.timedelta(" ++ seconds ++ "))"

/-- A moment inside a collection. Seconds and parts of a second are left out from the end if there
are none. -/
def quoteMoment (m : Moment) : String :=
  let parts := [m.year, m.month, m.day, m.hour, m.minute] ++
    (if m.second = 0 ∧ m.microsecond = 0 then [] else [m.second]) ++
    (if m.microsecond = 0 then [] else [m.microsecond])
  "datetime.datetime(" ++ ", ".intercalate (parts.map toString) ++
    (m.zone.map quoteZone).getD "" ++ ")"

/-- A range by its bounds, and by its step if that is not one. -/
def quoteRange (r : IntRange) : Except Failure String := do
  let bounds := (← Integer.toText r.start) ++ ", " ++ (← Integer.toText r.stop)
  if r.step = 1 then return "range(" ++ bounds ++ ")"
  else return "range(" ++ bounds ++ ", " ++ (← Integer.toText r.step) ++ ")"

mutual

/-- The text of a value inside a collection. -/
def quote : Value → Except Failure String
  | .none => .ok "None"
  | .bool b => .ok (if b then "True" else "False")
  | .int n => Integer.toText n
  | .float x => .ok x.toText
  | .text s => .ok (Text.quotedString s)
  | .bytes bs => .ok (Text.quotedBytes bs)
  | .buffer bs => .ok ("bytearray(" ++ Text.quotedBytes bs ++ ")")
  | .list items => do return "[" ++ ", ".intercalate (← quoteAll items) ++ "]"
  | .callableList items _ => do return "[" ++ ", ".intercalate (← quoteAll items) ++ "]"
  | .tuple items => do
    match ← quoteAll items with
    | [only] => return "(" ++ only ++ ",)"
    | parts => return "(" ++ ", ".intercalate parts ++ ")"
  | .mapping entries => do
    return "\x7b" ++ ", ".intercalate (← quoteEntries entries) ++ "\x7d"
  | .range r => quoteRange r
  | .date y m d => .ok s!"datetime.date({y}, {m}, {d})"
  | .dateTime m => .ok (quoteMoment m)
  | .object name attributes => do
    return name ++ "(" ++ ", ".intercalate (← quoteAttributes attributes) ++ ")"
  | .function _ | .failing _ => .ok "<fn>"
  | .method receiver _ => .ok ("<built-in method of " ++ receiver.typeName ++ " object>")

/-- The texts of values inside a collection. -/
def quoteAll : List Value → Except Failure (List String)
  | [] => .ok []
  | v :: vs => do
    let first ← v.quote
    return first :: (← quoteAll vs)

/-- The texts of the entries of a mapping. -/
def quoteEntries : List (Value × Value) → Except Failure (List String)
  | [] => .ok []
  | (k, v) :: entries => do
    let key ← k.quote
    let value ← v.quote
    return (key ++ ": " ++ value) :: (← quoteEntries entries)

/-- The texts of attributes. -/
def quoteAttributes : List (String × Value) → Except Failure (List String)
  | [] => .ok []
  | (name, v) :: attributes => do
    let value ← v.quote
    return (name ++ "=" ++ value) :: (← quoteAttributes attributes)

end

/-- The text of a value by itself: a text as it is, a date and a moment without their types. -/
def toText : Value → Except Failure String
  | .text s => .ok s
  | .date y m d => .ok (dayText y m d)
  | .dateTime m => .ok (momentText m)
  | v => v.quote

/-- The text of a value in the output of a template. -/
def output : Value → Except Failure String
  | .none => .ok ""
  | v => v.toText

@[simp] theorem output_none : output .none = .ok "" := rfl

@[simp] theorem output_text (s : String) : output (.text s) = .ok s := rfl

end Templating.Value
