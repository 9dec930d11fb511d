import Templating.Document.Reader
import Templating.Table
import Templating.Text.Lines
import Templating.Value.Text

/-!
# Data files

Files that feed templates: data of any shape, and tables of partials, which map names to texts. An
empty file is an empty mapping. Names that are not texts count as what they print as, so that two
of them may fall together; the later one wins. Documents are read by any reader.
-/

namespace Templating

namespace DataFile

/-- The value of the document that the file at `path` holds. -/
def document (reader : Document.Reader) (path : String) (bytes : List UInt8) :
    Except Failure Value := do
  let text ← Text.ofBytes bytes
  (reader text.toList).mapError fun
    | .malformed => .file path .invalidDocument
    | .failure f => f

/-- The data in the file at `path`. -/
def data (reader : Document.Reader) (path : String) (bytes : List UInt8) :
    Except Failure Value := do
  match ← document reader path bytes with
  | .none => return .mapping []
  | v => return v

/-- Enters an entry of a mapping into a table of partials. -/
def addPartial (path : String) (table : Table String) (entry : Value × Value) :
    Except Failure (Table String) := do
  let name ← entry.1.toText
  match entry.2 with
  | .text source => return table.set name source
  | _ => throw (.file path (.partialNotText name))

/-- The table of partials that the entries of a mapping make. -/
def tableOf (path : String) (entries : List (Value × Value)) : Except Failure (Table String) :=
  entries.foldlM (addPartial path) []

/-- The table of partials in the file at `path`. -/
def partials (reader : Document.Reader) (path : String) (bytes : List UInt8) :
    Except Failure (Table String) := do
  match ← document reader path bytes with
  | .none => return []
  | .mapping entries => tableOf path entries
  | v => throw (.file path (.noMapping v.typeName))

end DataFile

end Templating
