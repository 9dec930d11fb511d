import Templating.Node.Parser

/-!
# Parsing by position

A parser may keep the whole row of tokens and the position at which it reads, where the other one
hands on the tokens left. It has then to say what it reads beyond the end of the row: the same token
at each position there, say the last one again, or nothing, in which case it may not even come to
the end (`Row.beyond`). Loops and programs are given a number of rounds.
-/

namespace Templating

/-- A row of tokens, and the token that is read at every position beyond it, if there is one. -/
structure Row where
  tokens : List Token
  beyond : Option Token

/-- Why the parsing of a row ends without a tree. -/
inductive Halt where
  | refused (e : GrammarError)
  /-- The parser came to a position beyond the row, and nothing is there. -/
  | astray
  /-- A loop was not done after as many rounds as it was given. -/
  | unfinished

/-- A part of the parser, which moves the position. -/
abbrev Reading (α : Type) := StateT Nat (Except Halt) α

namespace Row

/-- An error at a token. -/
def refuse {α : Type} (t : Token) (problem : GrammarProblem) : Reading α :=
  throw (.refused ⟨problem, some t⟩)

variable (row : Row)

/-- As many rounds as a loop can need: each but the last takes a token. -/
def rounds : Nat := row.tokens.length + 1

/-- The token at a position. -/
def tokenAt (i : Nat) : Reading Token :=
  match row.tokens[i]?.or row.beyond with
  | some t => pure t
  | none => throw .astray

/-- The token at the position. -/
def current : Reading Token := do
  row.tokenAt (← get)

/-- The token after the one at the position. -/
def peek : Reading Token := do
  row.tokenAt ((← get) + 1)

/-- The position after another one. It is never further than the end of the row, and not even there
if nothing is read beyond the row. -/
def next (i : Nat) : Except Halt Nat :=
  if i + 1 < row.tokens.length then .ok (i + 1)
  else if row.beyond.isNone then .error .astray
  else if i < row.tokens.length then .ok (i + 1)
  else .ok i

/-- Takes the token at the position and moves on. -/
def advance : Reading Token := do
  let t ← row.current
  set (← row.next (← get))
  return t

/-- Takes a token of the given kind. -/
def expect (kind : TokenKind) (problem : TokenKind → GrammarProblem) : Reading Token := do
  let t ← row.current
  if t.kind = kind then row.advance else refuse t (problem t.kind)

/-- Takes the delimiter that ends a tag. -/
def close : Reading Token :=
  row.expect .close (.expectedKind .close)

/-- The further segments of a path, each with the separator before it. -/
def segments : Nat → Reading (List (Token × Token))
  | 0 => throw .unfinished
  | rounds + 1 => do
    let t ← row.current
    if t.kind = .separator then
      let separator ← row.advance
      let segment ← row.expect .word fun _ => .expectedNameAfterSeparator
      let more ← segments rounds
      return (separator, segment) :: more
    else
      return []

/-- A path. -/
def path : Reading Path := do
  let first ← row.expect .word fun _ => .expectedName
  let more ← row.segments row.rounds
  match Path.ofSegments first more with
  | .ok p => return p
  | .error e => throw (.refused e)

/-- Parameters, as many as there are. -/
def params : Nat → Reading (List Node)
  | 0 => throw .unfinished
  | rounds + 1 => do
    let t ← row.current
    if t.kind = .literal then
      let _ ← row.advance
      let more ← params rounds
      return .literal t.text :: more
    else if t.kind = .word then
      let first ← row.path
      let more ← params rounds
      return .path first :: more
    else
      return []

/-- The path and the parameters of a tag, with its closing delimiter. -/
def head : Reading (Path × List Node) := do
  let p ← row.path
  let params ← row.params row.rounds
  let _ ← row.close
  return (p, params)

/-- Whether a bare inverse tag stands at the position. -/
def atBareInverse : Reading Bool := do
  let t ← row.current
  if t.kind = .openInverse then
    let next ← row.peek
    return next.kind = .close
  else
    return false

/-- An insertion. -/
def insertion : Reading Node := do
  let _ ← row.expect .openValue (.expectedKind .openValue)
  let (p, params) ← row.head
  return .insertion p params

/-- An inclusion. -/
def inclusion : Reading Node := do
  let _ ← row.expect .openPartial (.expectedKind .openPartial)
  let name ← row.expect .word fun _ => .expectedPartialName
  let t ← row.current
  if t.kind = .word then
    let context ← row.path
    let _ ← row.close
    return .inclusion name.text (some (.path context))
  else
    let _ ← row.close
    return .inclusion name.text none

/-- The closing tag of a block that `opener` opened with the given path. -/
def closing (opener : Token) (opened : Path) : Reading Path := do
  let t ← row.current
  if t.kind = .openEnd then
    let _ ← row.advance
    let closed ← row.path
    if closed.written = opened.written then
      let _ ← row.close
      return closed
    else
      refuse t (.mismatchedClosing opened.written closed.written)
  else
    refuse opener (.unclosedBlock opened.written)

section Nested

variable (program : Bool → Reading (List Node))

/-- A block, given how to read the programs inside it. -/
def block : Reading Node := do
  let opener ← row.expect .openBlock (.expectedKind .openBlock)
  let (p, params) ← row.head
  let body ← program true
  if ← row.atBareInverse then
    let _ ← row.advance
    let _ ← row.advance
    let inverse ← program false
    let closed ← row.closing opener p
    return .block p params (.program body) (some (.program inverse)) (some (.path closed)) false
  else
    let closed ← row.closing opener p
    return .block p params (.program body) none (some (.path closed)) false

/-- An inverted section, given how to read the program inside it. -/
def inverted : Reading Node := do
  let opener ← row.expect .openInverse (.expectedKind .openInverse)
  let (p, params) ← row.head
  let body ← program false
  let closed ← row.closing opener p
  return .block p params (.program body) none (some (.path closed)) true

/-- A statement, given how to read the programs inside it. -/
def statement : Reading Node := do
  let t ← row.current
  match t.kind with
  | .content =>
    let _ ← row.advance
    return .content t.text
  | .comment =>
    let _ ← row.advance
    return .comment t.text
  | .openValue => row.insertion
  | .openBlock => row.block program
  | .openInverse => row.inverted program
  | .openPartial => row.inclusion
  | kind => refuse t (.unexpectedToken kind)

end Nested

/-- Statements up to an end token or a closing tag, and in the primary body of a block also up to a
bare inverse tag. -/
def program : Nat → Bool → Reading (List Node)
  | 0, _ => throw .unfinished
  | rounds + 1, inBody => do
    let t ← row.current
    if t.kind = .eof ∨ t.kind = .openEnd then
      return []
    if ← row.atBareInverse then
      if inBody then return [] else refuse t .inverseOutsideBlock
    else
      let first ← row.statement (program rounds)
      let more ← program rounds inBody
      return first :: more

/-- The program of the given statements, if an end token stands at the position. -/
def finish (ns : List Node) : Reading Node := do
  let t ← row.current
  if t.kind = .openEnd then
    refuse t .closingWithoutBlock
  else if t.kind = .eof then
    return .program ns
  else
    refuse t (.unexpectedToken t.kind)

/-- A whole template. -/
def template : Reading Node := do
  let ns ← row.program row.rounds false
  row.finish ns

/-- The tree of a row of tokens, read from its start. -/
def parse : Except Halt Node :=
  match row.tokens.getLast? with
  | none => .error (.refused ⟨.unexpectedEnd, none⟩)
  | some last =>
    if last.kind = .eof then row.template.run' 0
    else .error (.refused ⟨.unexpectedEnd, some last⟩)

end Row

end Templating
