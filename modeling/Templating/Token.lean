import Templating.Position
import Templating.Text.Quoted

/-!
# Tokens

The lexical units of a template: text outside tags, whole comments, the delimiters of tags, and
words, separators and string literals inside them. A token remembers where it starts.
-/

namespace Templating

/-- The kinds of tokens. -/
inductive TokenKind where
  /-- Text outside tags. -/
  | content
  /-- A whole comment; the text is what stands between its delimiters. -/
  | comment
  /-- The start of an insertion. -/
  | openValue
  /-- The start of a tag that opens a block. -/
  | openBlock
  /-- The start of a tag that closes a block. -/
  | openEnd
  /-- The start of a tag that opens an inverted section or an inverse part. -/
  | openInverse
  /-- The start of a tag that includes a partial. -/
  | openPartial
  /-- The end of a tag. -/
  | close
  /-- A name, or the two dots that stand for the parent. -/
  | word
  /-- A slash or a dot between names. -/
  | separator
  /-- A string literal; the text has its quotes unescaped. -/
  | literal
  /-- The end of the template. -/
  | eof
deriving DecidableEq, Repr

namespace TokenKind

/-- The name of a kind in messages and reports. -/
def name : TokenKind → String
  | content => "CONTENT"
  | comment => "COMMENT"
  | openValue => "OPEN"
  | openBlock => "OPEN_BLOCK"
  | openEnd => "OPEN_ENDBLOCK"
  | openInverse => "OPEN_INVERSE"
  | openPartial => "OPEN_PARTIAL"
  | close => "CLOSE"
  | word => "ID"
  | separator => "SEP"
  | literal => "STRING"
  | eof => "EOF"

/-- All kinds. -/
def all : List TokenKind :=
  [content, comment, openValue, openBlock, openEnd, openInverse, openPartial, close, word,
    separator, literal, eof]

/-- The kind with a given name. -/
def ofName? (s : String) : Option TokenKind :=
  all.find? (·.name = s)

theorem ofName?_name (k : TokenKind) : ofName? k.name = some k := by
  cases k <;> decide

/-- Whether a token of this kind begins a tag. -/
def isOpener : TokenKind → Bool
  | openValue | openBlock | openEnd | openInverse | openPartial => true
  | _ => false

end TokenKind

/-- A token with its text and the place where it starts. -/
structure Token where
  kind : TokenKind
  text : String
  start : Position := {}
deriving DecidableEq, Repr

/-- A token as messages for developers show it. -/
def Token.describe (t : Token) : String :=
  let text := Text.quotedString t.text
  let line := t.start.line
  let column := t.start.column
  s!"Token({t.kind.name}, {text}, {line}:{column})"

end Templating
