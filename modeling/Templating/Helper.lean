import Templating.Script

/-!
# Helpers

A helper is called with arguments and answers with a script for a value. In an insertion its
arguments are the data of the frame and the parameters; in a block they are the data, a value, the
two bodies and further parameters; an inverse form gets the data, a value and the body of the
inverted section.
-/

namespace Templating

/-- An argument of a helper. -/
inductive Argument where
  | value (v : Value)
  | body (slot : Slot)

namespace Argument

/-- The data that an argument is. A body is no data and counts as no value. -/
def data : Argument → Value
  | value v => v
  | body _ => .none

/-- Whether an argument is a body or a true value. -/
def isTruthy : Argument → Bool
  | value v => v.isTruthy
  | body _ => true

/-- Calls an argument with data: a body is rendered with it, a function ignores it. -/
def apply (a : Argument) (data : Value) : Script Value :=
  match a with
  | value v => .ofExcept v.call
  | body slot => Value.text <$> Script.body slot data

end Argument

/-- A helper, with an inverse form for inverted sections or without. -/
structure Helper where
  run : List Argument → Script Value
  inverse : Option (List Argument → Script Value) := none

/-- A value that can be called, as a helper. -/
def Helper.ofValue (v : Value) : Except Failure Helper :=
  if v.isCallable then .ok { run := fun _ => .ofExcept v.call }
  else .error (.helperNotCallable v.typeName)

end Templating
