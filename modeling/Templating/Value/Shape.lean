import Templating.Value.Member

/-!
# Shapes of values

Blocks tell five shapes of values apart. Sequences are lists, tuples and ranges, also those that
can be called; texts and byte strings are none.
-/

namespace Templating

/-- What a value is to a block. -/
inductive Shape where
  /-- The value true. -/
  | truth
  /-- The value false, and no value. -/
  | falsy
  /-- A row of elements. -/
  | sequence
  /-- What can be called and is no sequence. -/
  | callable
  /-- Every other value. -/
  | record
deriving DecidableEq, Repr

namespace Value

/-- Whether a block iterates over the value. -/
def isSequence : Value → Bool
  | .list _ | .tuple _ | .range _ | .callableList _ _ => true
  | _ => false

/-- The shape of a value. -/
def shape (v : Value) : Shape :=
  match v with
  | .bool true => .truth
  | .bool false | .none => .falsy
  | v => if v.isSequence then .sequence else if v.isCallable then .callable else .record

/-- The elements of a sequence. -/
def items (v : Value) : List Value :=
  if v.isSequence then v.elements?.getD [] else []

/-- Whether the inverted section of a value is rendered: for false, for no value and for an empty
sequence. A callable value is called first, once. -/
def isEmpty (v : Value) : Except Failure Bool := do
  let v ← if v.shape = .callable then v.call else .ok v
  match v.shape with
  | .falsy => return true
  | .sequence => return (← v.length) = 0
  | .truth | .callable | .record => return false

end Value

end Templating
