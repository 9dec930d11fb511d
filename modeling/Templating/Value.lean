import Templating.Binary64
import Templating.IntRange
import Templating.Moment

/-!
# Values

The data that templates are rendered with: the scalars and collections of data files, and beside
them what a calling program may pass: byte strings, ranges, objects with attributes, and values
that can be called. Mappings keep the order of their entries and may have keys of several types.
-/

namespace Templating

/-- The methods of scalars that a template can reach. Each is called without arguments. -/
inductive Method where
  /-- A text in upper case. -/
  | upper
  /-- A text in lower case. -/
  | lower
  /-- The words of a text. -/
  | split
  /-- Whether a text consists of digits. -/
  | isDigits
  /-- Whether a text consists of letters. -/
  | isLetters
  /-- The method that joins texts with a separator, which needs an argument. -/
  | join
  /-- The number of binary digits of an integer. -/
  | bitLength
  /-- Whether a floating-point number is whole. -/
  | isInteger
  /-- A floating-point number as a fraction. -/
  | asFraction
  /-- A floating-point number in base sixteen. -/
  | floatHex
  /-- A byte string in base sixteen. -/
  | bytesHex
  /-- The text that a byte string encodes. -/
  | decode
deriving DecidableEq, Repr

/-- A value. -/
inductive Value where
  | none
  | bool (b : Bool)
  | int (n : Int)
  | float (x : Binary64)
  | text (s : String)
  /-- A byte string, which is no sequence. -/
  | bytes (bs : List UInt8)
  /-- A changeable byte string: its elements can be looked up, but blocks do not iterate it. -/
  | buffer (bs : List UInt8)
  | list (items : List Value)
  | tuple (items : List Value)
  /-- A mapping, with its entries in order. -/
  | mapping (entries : List (Value × Value))
  | range (r : IntRange)
  | date (year month day : Nat)
  | dateTime (m : Moment)
  /-- A value of another type, with attributes. -/
  | object (typeName : String) (attributes : List (String × Value))
  /-- A function that gives the same result for all arguments. -/
  | function (result : Value)
  /-- A function that always fails. -/
  | failing (message : String)
  /-- A list that is a function too. -/
  | callableList (items : List Value) (result : Value)
  /-- A method together with the value that it belongs to. -/
  | method (receiver : Value) (method : Method)
deriving Repr, Inhabited

namespace Value

/-- The name of the type of a value. -/
def typeName : Value → String
  | none => "NoneType"
  | bool _ => "bool"
  | int _ => "int"
  | float _ => "float"
  | text _ => "str"
  | bytes _ => "bytes"
  | buffer _ => "bytearray"
  | list _ | callableList _ _ => "list"
  | tuple _ => "tuple"
  | mapping _ => "dict"
  | range _ => "range"
  | date _ _ _ => "date"
  | dateTime _ => "datetime"
  | object name _ => name
  | function _ | failing _ => "function"
  | method _ _ => "builtin_function_or_method"

/-- The numbers of a range, as values. -/
def ofRange (r : IntRange) : List Value :=
  r.numbers.map .int

@[simp] theorem length_ofRange (r : IntRange) : (ofRange r).length = r.length := by
  simp [ofRange]

/-- The truth of a value: nothing, zero and what is empty are false. -/
def isTruthy : Value → Bool
  | none => false
  | bool b => b
  | int n => n != 0
  | float x => !x.isZero
  | text s => s != ""
  | bytes bs | buffer bs => !bs.isEmpty
  | list items | tuple items | callableList items _ => !items.isEmpty
  | mapping entries => !entries.isEmpty
  | range r => r.length != 0
  | date _ _ _ | dateTime _ | object _ _ | function _ | failing _ | method _ _ => true

end Value

end Templating
