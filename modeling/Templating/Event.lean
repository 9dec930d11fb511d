/-!
# Events

What the library reports to developers while it works: registrations, scans that halt, and blocks
that no helper serves. Events never influence a result.
-/

namespace Templating

/-- Something worth a record. -/
inductive Event where
  /-- A registry was made, with so many helpers. -/
  | registryMade (helpers : Nat)
  /-- A helper takes the place of another one. -/
  | helperReplaced (name : String)
  | helperRegistered (name : String)
  /-- A partial takes the place of another one. -/
  | partialReplaced (name : String)
  | partialRegistered (name : String)
  /-- A scan halted at a line and a column, after so many tokens. -/
  | scanHalted (line column : Int) (tokens : Nat)
  /-- A block is not served by a helper of its own. -/
  | helperMissing (name : String)
deriving DecidableEq, Repr

namespace Event

/-- The part of the program that reports the event. -/
def source : Event → String
  | registryMade _ | helperReplaced _ | helperRegistered _ | partialReplaced _
  | partialRegistered _ => "stache.registry"
  | scanHalted _ _ _ => "stache.lexer"
  | helperMissing _ => "stache.runtime"

/-- The event in words. -/
def message : Event → String
  | registryMade helpers => s!"TemplateRegistry initialized with {helpers} helpers"
  | helperReplaced name => s!"Helper '{name}' overwrites existing registration"
  | helperRegistered name => s!"Registered helper: {name}"
  | partialReplaced name => s!"Partial '{name}' overwrites existing registration"
  | partialRegistered name => s!"Registered partial: {name}"
  | scanHalted line column tokens =>
    s!"Tokenization halted at {line}:{column} after {tokens} tokens"
  | helperMissing name => s!"No helper '{name}', falling back to blockHelperMissing"

end Event

end Templating
