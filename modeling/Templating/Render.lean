import Templating.Frame
import Templating.Registry
import Templating.Node.Parser
import Templating.Value.Text

/-!
# Rendering

A tree is rendered in a frame and a scope, from left to right. Statements add to the output;
expressions have a value. The body of a block is rendered by the helper that serves the block, as
often as it likes, each time in a frame inside that of the block. A partial is parsed when it is
met and rendered as a template of its own.

Rendering recurses on the tree. Only partials lead from a tree to a larger one, so their nesting is
limited: the limit decides nothing but whether a rendering is given up.
-/

namespace Templating

/-- What comes of a node: the output it adds, and its value if it is an expression. -/
structure Visit where
  text : String := ""
  value : Value := .none

/-- Reads the tokens of a template. A scan that halts is reported. -/
def scanTemplate (source : String) : Run (List Token) :=
  let scan := Scan.ofTemplate source
  { events :=
      if scan.halted then
        [.scanHalted scan.finish.line scan.finish.column scan.tokens.length]
      else []
    outcome := .ok scan.tokens }

/-- Parses a template. -/
def parseTemplate (source : String) : Run Node := do
  let tokens ← scanTemplate source
  Run.ofExcept ((Node.ofTokens tokens).mapError .grammar)

/-- The template that the entry of a partial stands for. Only the length of an entry that is no text
is looked at before it shows: what has length zero counts as the empty template. -/
def Value.template : Value → Except Failure String
  | .text source => .ok source
  | v => do
    if (← v.length) = 0 then return ""
    match v with
    | .bytes _ | .buffer _ => throw .bytesPartial
    | v => throw (.noPartial v.typeName)

namespace Scope

variable (s : Scope)

/-- The tree of a partial. -/
def parsePartial (name : String) : Run Node :=
  match s.source? name with
  | none => .fail (.unknownPartial name)
  | some entry => do parseTemplate (← Run.ofExcept entry.template)

/-- The helper that a path names: only a plain name can. -/
def helperAt? (p : Path) : Except Failure (Option Helper) :=
  if p.isSimple then s.helper? p.written else .ok none

end Scope

namespace Block

/-- What a block hands to the helper that serves it: the data of its frame, a value and further
parameters. -/
structure Input where
  this : Value
  value : Value
  more : List Value

/-- The arguments of a helper for a block. -/
def Input.arguments (i : Input) : List Argument :=
  .value i.this :: .value i.value :: .body .primary :: .body .inverse :: i.more.map .value

/-- The arguments of the inverse form of a helper: a value, and the body of the section. -/
def Input.inverseArguments (i : Input) (value : Value) : List Argument :=
  [.value i.this, .value value, .body .primary]

/-- An ordinary block: its helper, or the one for blocks without, gets both bodies. -/
def ordinary (s : Scope) (name : String) (helper : Option Helper) (i : Input)
    (primary inverse : Value → Run String) : Run Value := do
  let serving ← match helper with
    | some h => pure h
    | none => do
      Run.report (.helperMissing name)
      Run.ofExcept s.missingHelper
  (serving.run i.arguments).run fun
    | .primary => primary
    | .inverse => inverse

/-- A helper without an inverse form serves an inverted section as a block with an empty body and
the section as its inverse part. -/
def asInversePart (h : Helper) (i : Input) (body : Value → Run String) : Run Value :=
  (h.run i.arguments).run fun
    | .primary => fun _ => pure ""
    | .inverse => body

/-- An inverted section. A helper with an inverse form decides by itself. Without a helper the
section is rendered for an empty value only, in the frame around it. -/
def inverted (s : Scope) (helper : Option Helper) (i : Input) (body : Value → Run String) :
    Run Value := do
  match helper with
  | some h =>
    match h.inverse with
    | some form => (form (i.inverseArguments i.value)).run fun _ => body
    | none => asInversePart h i body
  | none =>
    let h ← Run.ofExcept s.missingHelper
    match h.inverse with
    | some form =>
      if ← Run.ofExcept i.value.isEmpty then
        (form (i.inverseArguments i.this)).run fun _ => body
      else
        pure (.text "")
    | none => asInversePart h i body

end Block

namespace Node

variable (s : Scope) (included : Node → Frame → Run String)

mutual

/-- Visits a node in a frame. `included` renders the tree of a partial. -/
def visit : Node → Frame → Run Visit
  | .program statements, f => do
    let visits ← visitAll statements f
    return { text := String.join (visits.map (·.text)) }
  | .content text, _ => return { text := text }
  | .comment _, _ => return {}
  | .insertion p params, f => do
    let helper ← Run.ofExcept (s.helperAt? p)
    match helper with
    | some h =>
      let visits ← visitAll params f
      let arguments := f.data :: visits.map (·.value)
      let result ← (h.run (arguments.map .value)).run fun _ _ => pure ""
      let text ← Run.ofExcept result.output
      return { text := String.join (visits.map (·.text)) ++ text }
    | none =>
      let value ← Run.ofExcept (f.resolve p)
      let text ← Run.ofExcept value.output
      return { text := text }
  | .block p params body inverse _ inverted, f => do
    let helper ← Run.ofExcept (s.helperAt? p)
    let visits ← visitAll params f
    let input : Block.Input ← match visits.map (·.value), helper with
      | value :: more, _ => pure ⟨f.data, value, more⟩
      | [], some _ => pure ⟨f.data, f.data, []⟩
      | [], none => do
        let value ← Run.ofExcept (f.resolve p)
        pure ⟨f.data, value, []⟩
    let primary := fun data => (·.text) <$> body.visit (f.child data)
    let result ←
      if inverted then Block.inverted s helper input primary
      else Block.ordinary s p.written helper input primary fun data =>
        match inverse with
        | none => pure ""
        | some inverse => (·.text) <$> inverse.visit (f.child data)
    let text ← Run.ofExcept result.output
    return { text := String.join (visits.map (·.text)) ++ text }
  | .inclusion name context, f => do
    let tree ← s.parsePartial name
    match context with
    | none =>
      let text ← included tree f
      return { text := text }
    | some context =>
      let visit ← context.visit f
      let text ← included tree (f.child visit.value)
      return { text := visit.text ++ text }
  | .path p, f => do
    let value ← Run.ofExcept (f.resolve p)
    return { value := value }
  | .literal value, _ => return { value := .text value }
  | .foreign kind, _ => .fail (.unknownNode kind)

/-- Visits nodes one after the other. -/
def visitAll : List Node → Frame → Run (List Visit)
  | [], _ => return []
  | n :: ns, f => do
    let first ← n.visit f
    return first :: (← visitAll ns f)

end

/-- Renders a tree, with partials nested less than `limit` deep. -/
def renderWithin : (limit : Nat) → Node → Frame → Run String
  | 0, _, _ => .fail .nestingLimit
  | limit + 1, n, f => (·.text) <$> n.visit s (renderWithin limit) f

end Node

/-- How deep partials may be nested. -/
def nestingLimit : Nat := 5000

namespace Node

/-- Renders a tree in a frame. -/
def render (n : Node) (s : Scope) (f : Frame) : Run String :=
  n.renderWithin s nestingLimit f

/-- The value of a tree as an expression in a frame. -/
def eval (n : Node) (s : Scope) (f : Frame) : Run Value :=
  (·.value) <$> n.visit s (renderWithin s nestingLimit) f

end Node

end Templating
