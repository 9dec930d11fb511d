import Templating.Token

/-!
# Grammar errors

What can be wrong with a sequence of tokens, and at which token. The wording is in one place,
`GrammarError.message`.
-/

namespace Templating

/-- What a sequence of tokens does wrong. -/
inductive GrammarProblem where
  /-- The tokens do not finish with the end of the template. -/
  | unexpectedEnd
  /-- A closing tag stands where no block is open. -/
  | closingWithoutBlock
  /-- A token stands where only a statement can. -/
  | unexpectedToken (kind : TokenKind)
  /-- An inverse part begins where no block can have one. -/
  | inverseOutsideBlock
  /-- The template ends inside the block. -/
  | unclosedBlock (opened : String)
  /-- A closing tag names another block than the one it closes. -/
  | mismatchedClosing (opened closed : String)
  /-- A path has no first name. -/
  | expectedName
  /-- A path goes on after a separator, but not with a name. -/
  | expectedNameAfterSeparator
  /-- A partial has no name. -/
  | expectedPartialName
  /-- A tag goes on with a token of another kind than it must. -/
  | expectedKind (wanted found : TokenKind)
  /-- A step to the parent follows a name. -/
  | parentAfterName
deriving DecidableEq, Repr

/-- The problem in words. -/
def GrammarProblem.message : GrammarProblem → String
  | unexpectedEnd => "Unexpected end of template"
  | closingWithoutBlock => "Closing tag without matching block"
  | unexpectedToken kind => s!"Unexpected token {kind.name}"
  | inverseOutsideBlock => "Inverse section '\x7b\x7b^\x7d\x7d' outside of a block"
  | unclosedBlock opened => s!"Unclosed block '{opened}'"
  | mismatchedClosing opened closed => s!"'{opened}' doesn't match '{closed}'"
  | expectedName => "Expected identifier"
  | expectedNameAfterSeparator => "Expected identifier after separator"
  | expectedPartialName => "Expected partial name"
  | expectedKind wanted found => s!"Expected {wanted.name}, got {found.name}"
  | parentAfterName => "'..' must precede named path segments"

/-- A problem, with the token at which it shows. Only an empty sequence has no token to blame. -/
structure GrammarError where
  problem : GrammarProblem
  token : Option Token
deriving DecidableEq, Repr

/-- The problem in words, with its place. -/
def GrammarError.message (e : GrammarError) : String :=
  match e.token with
  | none => e.problem.message
  | some t =>
    let line := t.start.line
    let column := t.start.column
    s!"{e.problem.message} at {line}:{column} (token: {t.kind.name})"

end Templating
