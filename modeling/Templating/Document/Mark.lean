import Templating.Document.Reader

/-!
# Marks of a document

A data file is read in three steps: its characters become marks, the marks become a tree, and the
tree becomes a value. Marks are the scalars of a document and the signs of its structure, those
that stand in the text (brackets, dashes, colons) and those that only its layout gives (the starts
and ends of indented collections).
-/

namespace Templating.Document

/-- A mark of a document. -/
inductive Mark where
  | directive
  | documentStart
  | documentEnd
  /-- The start of an indented sequence. -/
  | blockSequence
  /-- The start of an indented mapping. -/
  | blockMapping
  /-- The end of an indented collection. -/
  | blockEnd
  | flowSequence
  | flowSequenceEnd
  | flowMapping
  | flowMappingEnd
  /-- A comma between brackets. -/
  | flowEntry
  /-- A dash before an entry. -/
  | entry
  /-- What follows is a key. -/
  | key
  /-- What follows is the value of a key. -/
  | value
  | alias (name : String)
  | anchor (name : String)
  /-- A tag, in full. -/
  | tag (name : String)
  /-- A scalar, plain if it stands without quotes on the line. -/
  | scalar (plain : Bool) (text : String)
  /-- The document cannot be read on from here. -/
  | unreadable (fault : Fault)
deriving DecidableEq, Repr

/-- What begins the tags of the types that every document has. -/
def commonTag : String := "tag:yaml.org,2002:"

/-- Whether `c` ends a line. -/
def isBreak (c : Char) : Bool :=
  c == '\n' || c == '\r' || c.toNat == 0x85 || c.toNat == 0x2028 || c.toNat == 0x2029

/-- Whether a line ends before the given text. -/
def atEnd : List Char → Bool
  | [] => true
  | c :: _ => isBreak c

/-- Whether the text is at the end of a line or at a blank. -/
def atGap : List Char → Bool
  | [] => true
  | c :: cs => c == ' ' || c == '\t' || atEnd (c :: cs)

/-- Whether a document may hold `c`. -/
def isAllowed (c : Char) : Bool :=
  let n := c.toNat
  n == 0x09 || n == 0x0A || n == 0x0D || (0x20 ≤ n && n ≤ 0x7E) || n == 0x85 ||
    (0xA0 ≤ n && n ≤ 0xD7FF) || (0xE000 ≤ n && n ≤ 0xFFFD) || 0x10000 ≤ n

end Templating.Document
