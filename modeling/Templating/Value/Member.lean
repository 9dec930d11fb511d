import Templating.Value.Key
import Templating.Integer
import Templating.Binary64.Text
import Templating.Text.Utf8
import Templating.Text.Word
import Templating.Text.Case

/-!
# Members and calls

What a name finds in a value: the entry of a mapping, the element of a sequence under its number, an
attribute of any other value unless its name is private. What is not found is no value, and not an
error. Only a name of digits can fail, if it is no readable number or if it is looked up in a range
whose length is beyond that of all others. Methods found this way are called without arguments.
-/

namespace Templating.Value

/-- The elements of a value whose elements have numbers. -/
def elements? : Value → Option (List Value)
  | .list items | .tuple items | .callableList items _ => some items
  | .range r => some (ofRange r)
  | .buffer bs => some (bs.map fun b => .int b.toNat)
  | _ => Option.none

/-- The element with a number, without listing the others. -/
def elementAt? : Value → Nat → Option Value
  | .range r, i => if i < r.length then some (.int (r.number i)) else Option.none
  | v, i => v.elements?.bind (·[i]?)

/-- Whether a value has numbered elements. -/
def isIndexed : Value → Bool
  | .list _ | .tuple _ | .callableList _ _ | .range _ | .buffer _ => true
  | _ => false

/-- The least length that is too great to be asked for. Only a range can have it, which takes no
room for its elements. -/
def lengthLimit : Nat := Nat.pow 2 63

/-- The length of a value. -/
def length : Value → Except Failure Nat
  | .text s => .ok s.length
  | .bytes bs | .buffer bs => .ok bs.length
  | .list items | .tuple items | .callableList items _ => .ok items.length
  | .mapping entries => .ok entries.length
  | .range r => if r.length < lengthLimit then .ok r.length else .error .lengthLimit
  | v => .error (.noLength v.typeName)

/-- The attributes of an integer of the given value, which may be a truth value. -/
def integerAttributes (v : Value) (n : Int) : List (String × Value) :=
  [("real", .int n), ("imag", .int 0), ("numerator", .int n), ("denominator", .int 1),
    ("bit_length", .method v .bitLength)]

/-- The attributes of a value, its methods among them. Of texts, numbers, byte strings, dates and
moments these are not all: the list has those that data are commonly asked for, and what else such
a value may have is not found. -/
def attributes (v : Value) : List (String × Value) :=
  match v with
  | .bool b => integerAttributes v (if b then 1 else 0)
  | .int n => integerAttributes v n
  | .float _ =>
    [("real", v), ("imag", .float (.zero false)), ("is_integer", .method v .isInteger),
      ("as_integer_ratio", .method v .asFraction), ("hex", .method v .floatHex)]
  | .text _ =>
    [("upper", .method v .upper), ("lower", .method v .lower), ("split", .method v .split),
      ("isdigit", .method v .isDigits), ("isalpha", .method v .isLetters),
      ("join", .method v .join)]
  | .bytes _ => [("hex", .method v .bytesHex), ("decode", .method v .decode)]
  | .date year month day => [("year", .int year), ("month", .int month), ("day", .int day)]
  | .dateTime m =>
    [("year", .int m.year), ("month", .int m.month), ("day", .int m.day), ("hour", .int m.hour),
      ("minute", .int m.minute), ("second", .int m.second), ("microsecond", .int m.microsecond)]
  | .object _ attributes => attributes
  | _ => []

/-- Whether a name consists of digits of any kind. -/
def isIndexName (name : String) : Bool :=
  name != "" && name.toList.all Text.isDigit

/-- The member of a value with a name, or no value. -/
def member (v : Value) (name : String) : Except Failure Value :=
  match v with
  | .none => .ok .none
  | .mapping entries => .ok ((atText? entries name).getD .none)
  | v =>
    if v.isIndexed then
      if isIndexName name then do
        let i ← Integer.ofDigits 10 name.toList
        let count ← v.length
        .ok (if i < count then (v.elementAt? i).getD .none else .none)
      else .ok .none
    else if name.toList.head? = some '_' then .ok .none
    else .ok ((v.attributes.lookup name).getD .none)

/-- The value reached by following names from member to member. -/
def follow (v : Value) : List String → Except Failure Value
  | [] => .ok v
  | name :: names => do
    let next ← v.member name
    next.follow names

@[simp] theorem follow_none (names : List String) : follow .none names = .ok .none := by
  induction names with
  | nil => rfl
  | cons name names ih => exact ih

/-- Whether a value can be called. -/
def isCallable : Value → Bool
  | .function _ | .failing _ | .callableList _ _ | .method _ _ => true
  | _ => false

/-- The result of a method of a value, without arguments. -/
def callMethod (receiver : Value) (called : Method) : Except Failure Value :=
  match called, receiver with
  | .upper, .text s => .ok (.text (String.ofList (Text.upper s.toList)))
  | .lower, .text s => .ok (.text (String.ofList (Text.lower s.toList)))
  | .split, .text s => .ok (.list ((Text.words s.toList).map fun w => .text (String.ofList w)))
  | .isDigits, .text s => .ok (.bool (isIndexName s))
  | .isLetters, .text s => .ok (.bool (s != "" && s.toList.all Text.isLetter))
  | .join, _ => .error .joinOfNothing
  | .bitLength, v => .ok (.int (match v.wholeNumber? with
    | some n => if n = 0 then 0 else n.natAbs.log2 + 1
    | Option.none => 0))
  | .isInteger, .float x => .ok (.bool x.toInt?.isSome)
  | .asFraction, .float x => match x, x.toRatio? with
    | _, some (n, d) => .ok (.tuple [.int n, .int d])
    | .nan, Option.none => .error .ratioOfNan
    | _, Option.none => .error .ratioOfInfinity
  | .floatHex, .float x => .ok (.text x.toHexText)
  | .bytesHex, .bytes bs => .ok (.text (String.ofList (bs.flatMap fun b => Text.hex 2 b.toNat)))
  | .decode, .bytes bs => do
    let cs ← Text.Utf8.decode bs
    .ok (.text (String.ofList cs))
  | _, v => .error (.notCallable v.typeName)

/-- The result of calling a value. -/
def call : Value → Except Failure Value
  | .function result | .callableList _ result => .ok result
  | .failing message => .error (.raised message)
  | .method receiver called => callMethod receiver called
  | v => .error (.notCallable v.typeName)

/-- The elements that iteration over a value gives. -/
def iterate : Value → Except Failure (List Value)
  | .text s => .ok (s.toList.map fun c => .text (String.ofList [c]))
  | .bytes bs => .ok (bs.map fun b => .int b.toNat)
  | .mapping entries => .ok (entries.map (·.1))
  | v => match v.elements? with
    | some items => .ok items
    | Option.none => .error (.notIterable v.typeName)

end Templating.Value
