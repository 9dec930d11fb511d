import Templating.Document.Mark

/-!
# Places in a document

Five characters break a line, but only a line feed and a carriage return begin a new line to the
layout: behind the other three the columns are counted on. So a collection that begins behind such
a break is deeper than one that stands at the start of the line, and a key may reach over it.
-/

namespace Templating.Document

/-- A place in a document: the characters and the lines before it, and its column. -/
structure Place where
  index : Nat := 0
  line : Nat := 0
  column : Nat := 0

namespace Place

/-- Whether the layout begins a new line after `c` when `cs` follows. A carriage return before a
line feed ends no line by itself. -/
def beginsLine (c : Char) (cs : List Char) : Bool :=
  c == '\n' || (c == '\r' && cs.head? != some '\n')

/-- The place after the character `c` when `cs` follows. A byte order mark has no width. -/
def after (p : Place) (c : Char) (cs : List Char) : Place :=
  if beginsLine c cs then ⟨p.index + 1, p.line + 1, 0⟩
  else if c == '\ufeff' then { p with index := p.index + 1 }
  else { p with index := p.index + 1, column := p.column + 1 }

/-- The place after the first `n` characters of the text. -/
def past (p : Place) : (n : Nat) → List Char → Place
  | 0, _ => p
  | _, [] => p
  | n + 1, c :: cs => (p.after c cs).past n cs

/-- The place after the line break that begins the text. -/
def afterBreak (p : Place) (cs : List Char) : Place :=
  p.past (if cs.take 2 = ['\r', '\n'] then 2 else 1) cs

end Place

end Templating.Document
