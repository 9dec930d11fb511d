import Templating.Failure
import Templating.Value

/-!
# Readers of documents

Data files are documents, and whatever reads documents gives the text of one a value or says why it
has none. The files that feed templates are loaded with any reader (`DataFile`); the one that comes
with this library is `Document.value`.
-/

namespace Templating.Document

/-- Why a document is refused. -/
inductive Fault where
  /-- The text is no document, or one that the reader does not know how to read. -/
  | malformed
  /-- A scalar or a key cannot be made a value. -/
  | failure (f : Failure)
deriving DecidableEq, Repr

/-- What gives the text of a document its value. -/
abbrev Reader := List Char → Except Fault Value

end Templating.Document
