import Templating.Helper

/-!
# Builtin helpers

Three helpers are always at hand: `if`, `each`, and the one that serves the blocks without a helper
of their own, which decides by the shape of its value. Each takes the data of the frame, a value, a
body and perhaps an inverse body; anything that can be called does as a body.
-/

namespace Templating.Helper

/-- The name of the helper for blocks without one. -/
def missingName : String := "blockHelperMissing"

/-- The parameters that a builtin helper cannot do without. -/
def required : List String := ["this", "context", "fn"]

/-- The failure of a builtin helper for too few arguments, or for more than it takes. -/
def wrongCount (function : String) (most given : Nat) : Failure :=
  if given < required.length then .missingArguments function (required.drop given)
  else .excessArguments function required.length most given

/-- The arguments of a builtin helper. -/
structure BlockCall where
  this : Value
  context : Value
  body : Argument
  inverse : Option Argument

namespace BlockCall

/-- Takes three or four arguments apart. -/
def ofArguments (function : String) : List Argument → Script BlockCall
  | [this, context, body] => .done ⟨this.data, context.data, body, none⟩
  | [this, context, body, inverse] => .done ⟨this.data, context.data, body, some inverse⟩
  | args => .fail (wrongCount function 4 args.length)

/-- Calls the inverse body; an absent or false one gives the empty text. -/
def callInverse (c : BlockCall) (data : Value) : Script Value :=
  match c.inverse with
  | none => pure (.text "")
  | some inverse => if inverse.isTruthy then inverse.apply data else pure (.text "")

/-- Calls the body once for each element, in order. -/
def callEach (c : BlockCall) : List Value → Script (List Value)
  | [] => pure []
  | item :: items => do
    let first ← c.body.apply item
    let rest ← c.callEach items
    pure (first :: rest)

end BlockCall

/-- Joins texts; `index` counts the pieces before. The first piece that is no text is at fault. -/
def joinFrom (index : Nat) : List Value → Except Failure String
  | [] => .ok ""
  | .text s :: rest => do
    let more ← joinFrom (index + 1) rest
    .ok (s ++ more)
  | v :: _ => .error (.joinOfOther index v.typeName)

/-- The body for each element of a sequence, or the inverse body for an empty one. Its length is
asked for first. -/
def overItems (c : BlockCall) (sequence : Value) : Script Value := do
  let count ← Script.ofExcept sequence.length
  if count = 0 then c.callInverse c.this
  else do
    let pieces ← c.callEach sequence.items
    Value.text <$> Script.ofExcept (joinFrom 0 pieces)

/-- The block by the shape of its value: the body in the outer frame for true, the inverse body for
false and for no value, the body for each element of a sequence, and the body with the value as
its data for all else. A callable value is called first, once. -/
def missing (args : List Argument) : Script Value := do
  let c ← BlockCall.ofArguments "block_helper_missing" args
  let context ← if c.context.shape = .callable then Script.ofExcept c.context.call
    else pure c.context
  match context.shape with
  | .truth => c.body.apply c.this
  | .falsy => c.callInverse c.this
  | .sequence => overItems c context
  | .callable | .record => c.body.apply context

/-- The inverted section without a helper: its body with the given data. -/
def missingInverse : List Argument → Script Value
  | [_, context, body] => body.apply context.data
  | args => .fail (wrongCount "block_helper_missing_inverse" 3 args.length)

/-- The body for each element of a sequence, and the inverse body for all else. -/
def each (args : List Argument) : Script Value := do
  let c ← BlockCall.ofArguments "each_helper" args
  if c.context.isSequence then overItems c c.context else c.callInverse c.this

/-- The inverse body for false and for no value, and the body for all else. -/
def ifTrue (args : List Argument) : Script Value := do
  let c ← BlockCall.ofArguments "if_helper" args
  if c.context.shape = .falsy then c.callInverse c.this else c.body.apply c.this

/-- The helper for blocks without one, where no table has another. -/
def builtinMissing : Helper where
  run := missing
  inverse := some missingInverse

/-- The builtin helpers under their names. -/
def builtins : List (String × Helper) :=
  [(missingName, builtinMissing), ("each", { run := each }), ("if", { run := ifTrue })]

end Templating.Helper
