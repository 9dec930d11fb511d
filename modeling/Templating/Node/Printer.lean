import Templating.Node
import Templating.Failure

/-!
# Printing template trees

A tree as template text. Tags hold no blanks but one before each parameter, so a parsed template
comes back with its tags tidied and all else unchanged. Every node has a text; printing refuses the
trees with a foreign node, and names the first one in reading order.
-/

namespace Templating.Node

/-- The text of a string literal with its quotes protected. -/
def escape : List Char → List Char
  | [] => []
  | c :: cs => if c = '"' then '\\' :: '"' :: escape cs else c :: escape cs

@[simp] theorem escape_append (cs ds : List Char) : escape (cs ++ ds) = escape cs ++ escape ds := by
  induction cs with
  | nil => rfl
  | cons c cs ih => simp only [List.cons_append, escape, ih]; split <;> rfl

/-- A tag with the given marker and inside. -/
def tag (marker inside : List Char) : List Char :=
  ['\x7b', '\x7b'] ++ marker ++ inside ++ ['\x7d', '\x7d']

mutual

/-- The text of a node. -/
def source : Node → List Char
  | .program statements => sources statements
  | .content text => text.toList
  | .comment text => tag ['!'] text.toList
  | .insertion p params => tag [] (p.written.toList ++ paramSources params)
  | .block p params body inverse closing inverted =>
    tag [if inverted then '^' else '#'] (p.written.toList ++ paramSources params) ++
      body.source ++
      (match inverse with
        | none => []
        | some inverse => tag ['^'] [] ++ inverse.source) ++
      tag ['/'] (match closing with
        | none => p.written.toList
        | some closing => closing.source)
  | .inclusion name context =>
    tag ['>'] (name.toList ++ (match context with
      | none => []
      | some context => ' ' :: context.source))
  | .path p => p.written.toList
  | .literal value => '"' :: escape value.toList ++ ['"']
  | .foreign _ => []

/-- The text of nodes in a row. -/
def sources : List Node → List Char
  | [] => []
  | n :: ns => n.source ++ sources ns

/-- The text of parameters, each after a blank. -/
def paramSources : List Node → List Char
  | [] => []
  | n :: ns => ' ' :: n.source ++ paramSources ns

end

mutual

/-- The kind of the first foreign node, if there is one. -/
def foreign? : Node → Option String
  | .program statements => foreignIn? statements
  | .insertion _ params => foreignIn? params
  | .block _ params body inverse closing _ =>
    foreignIn? params <|> body.foreign? <|>
      (match inverse with
        | none => none
        | some inverse => inverse.foreign?) <|>
      (match closing with
        | none => none
        | some closing => closing.foreign?)
  | .inclusion _ context => match context with
    | none => none
    | some context => context.foreign?
  | .foreign kind => some kind
  | .content _ | .comment _ | .path _ | .literal _ => none

/-- The kind of the first foreign node in a list. -/
def foreignIn? : List Node → Option String
  | [] => none
  | n :: ns => n.foreign? <|> foreignIn? ns

end

/-- The text of a tree without foreign nodes. -/
def print (n : Node) : Except Failure String :=
  match n.foreign? with
  | some kind => .error (.unknownNode kind)
  | none => .ok (String.ofList n.source)

@[simp] theorem sources_append (ms ns : List Node) :
    sources (ms ++ ns) = sources ms ++ sources ns := by
  induction ms with
  | nil => rfl
  | cons m ms ih => simp [sources, ih]

end Templating.Node
