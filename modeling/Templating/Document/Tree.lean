import Templating.Document.Reading

/-!
# Trees of documents

Marks become a tree by recursive descent. A document is a single node, perhaps between separators.
An alias stands for the tree of its anchor and is replaced by it, so a tree has neither. Nodes that
are left out, as in `a:` with nothing after it, are plain scalars without text.
-/

namespace Templating.Document

/-- A node of a document with all that is below it. A tag is given in full. -/
inductive Tree where
  | scalar (tag : Option String) (plain : Bool) (text : String)
  | sequence (tag : Option String) (items : List Tree)
  /-- A mapping: what was merged into it, and what it holds itself. -/
  | mapping (tag : Option String) (merged own : List (Tree × Tree))
  /-- A mapping into which something is merged that cannot be. -/
  | wrongMerge
deriving Repr, Inhabited

namespace Tree

/-- A node that is left out. -/
def empty : Tree := .scalar none true ""

/-- What is left to be parsed, and the trees with an anchor so far. -/
structure Parse where
  marks : List Mark
  anchors : List (String × Tree) := []

/-- A step of the parser. -/
abbrev Parser := StateT Parse (Except Fault)

namespace Parser

/-- Refuses the document. -/
def refuse {α : Type} : Parser α :=
  throw .malformed

/-- The next mark, which stays. -/
def peek : Parser (Option Mark) := do
  match (← get).marks.head? with
  | some (.unreadable fault) => throw fault
  | m? => return m?

/-- Takes the next mark. -/
def skip : Parser Unit :=
  modify fun s => { s with marks := s.marks.drop 1 }

/-- Takes the mark if it is the next one. -/
def take? (m : Mark) : Parser Bool := do
  if (← peek) == some m then
    skip
    return true
  else
    return false

/-- Takes the mark, which has to be the next one. -/
def expect (m : Mark) : Parser Unit := do
  unless ← take? m do refuse

/-- An anchor and a tag, in either order, as far as they are there. -/
def properties : Parser (Option String × Option String) := do
  match ← peek with
  | some (.anchor a) =>
    skip
    match ← peek with
    | some (.tag t) =>
      skip
      return (some a, some t)
    | _ => return (some a, none)
  | some (.tag t) =>
    skip
    match ← peek with
    | some (.anchor a) =>
      skip
      return (some a, some t)
    | _ => return (none, some t)
  | _ => return (none, none)

/-- Remembers the tree of an anchor. -/
def remember (anchor : Option String) (t : Tree) : Parser Tree := do
  if let some a := anchor then modify fun s => { s with anchors := (a, t) :: s.anchors }
  return t

/-- The tree of an alias. -/
def anchored (name : String) : Parser Tree := do
  match (← get).anchors.lookup name with
  | some t => return t
  | none => refuse

/-- Where a node stands, which decides what collections it can be. -/
inductive Role where
  /-- Between brackets. -/
  | flow
  /-- In an indented collection. -/
  | block
  /-- After the sign of a key or of a value, where the entries of a sequence need not be indented
  further. -/
  | afterSign
deriving DecidableEq

mutual

/-- A node. -/
def node : (fuel : Nat) → Role → Parser Tree
  | 0, _ => refuse
  | fuel + 1, role => do
    if let some (.alias name) ← peek then
      skip
      return ← anchored name
    let (anchor, tag) ← properties
    let next ← peek
    let tree ← match next with
      | some (.scalar plain text) => do
        skip
        pure (.scalar tag plain text)
      | some .flowSequence => do
        skip
        pure (.sequence tag (← flowItems fuel true []))
      | some .flowMapping => do
        skip
        pure (.mapping tag [] (← flowPairs fuel true []))
      | _ =>
        if next == some .entry && role == .afterSign then
          pure (.sequence tag (← looseEntries fuel []))
        else if next == some .blockSequence && role != .flow then do
          skip
          pure (.sequence tag (← entries fuel []))
        else if next == some .blockMapping && role != .flow then do
          skip
          pure (.mapping tag [] (← pairs fuel []))
        else if anchor.isSome || tag.isSome then
          pure (.scalar tag true "")
        else refuse
    remember anchor tree

/-- A node, which is left out if one of the given marks comes next. -/
def nodeBefore : (fuel : Nat) → Role → (ends : List Mark) → Parser Tree
  | 0, _, _ => refuse
  | fuel + 1, role, ends => do
    match ← peek with
    | some m => if ends.contains m then return empty else node fuel role
    | none => refuse

/-- The entries of an indented sequence, after those that are given from the last to the first. -/
def entries : (fuel : Nat) → List Tree → Parser (List Tree)
  | 0, _ => refuse
  | fuel + 1, done => do
    if ← take? .entry then
      let t ← nodeBefore fuel .block [.entry, .blockEnd]
      entries fuel (t :: done)
    else
      expect .blockEnd
      return done.reverse

/-- The entries of a sequence that ends with the collection around it. -/
def looseEntries : (fuel : Nat) → List Tree → Parser (List Tree)
  | 0, _ => refuse
  | fuel + 1, done => do
    if ← take? .entry then
      let t ← nodeBefore fuel .block [.entry, .key, .value, .blockEnd]
      looseEntries fuel (t :: done)
    else
      return done.reverse

/-- The pairs of an indented mapping. -/
def pairs : (fuel : Nat) → List (Tree × Tree) → Parser (List (Tree × Tree))
  | 0, _ => refuse
  | fuel + 1, done => do
    let ends := [.key, .value, .blockEnd]
    if ← take? .key then
      let key ← nodeBefore fuel .afterSign ends
      let value ← value fuel .afterSign ends
      pairs fuel ((key, value) :: done)
    else if (← peek) == some .value then
      let value ← value fuel .afterSign ends
      pairs fuel ((empty, value) :: done)
    else
      expect .blockEnd
      return done.reverse

/-- The value after a key, if its sign is there. -/
def value : (fuel : Nat) → Role → (ends : List Mark) → Parser Tree
  | 0, _, _ => refuse
  | fuel + 1, role, ends => do
    if ← take? .value then nodeBefore fuel role ends else return empty

/-- The items of a sequence between brackets. A pair without brackets is a mapping of its own. -/
def flowItems : (fuel : Nat) → (first : Bool) → List Tree → Parser (List Tree)
  | 0, _, _ => refuse
  | fuel + 1, first, done => do
    if ← take? .flowSequenceEnd then return done.reverse
    unless first do expect .flowEntry
    if ← take? .key then
      let key ← nodeBefore fuel .flow [.value, .flowEntry, .flowSequenceEnd]
      let value ← value fuel .flow [.flowEntry, .flowSequenceEnd]
      flowItems fuel false (.mapping none [] [(key, value)] :: done)
    else if ← take? .flowSequenceEnd then
      return done.reverse
    else
      let t ← node fuel .flow
      flowItems fuel false (t :: done)

/-- The pairs of a mapping between brackets. A single node is a key. -/
def flowPairs : (fuel : Nat) → (first : Bool) → List (Tree × Tree) → Parser (List (Tree × Tree))
  | 0, _, _ => refuse
  | fuel + 1, first, done => do
    if ← take? .flowMappingEnd then return done.reverse
    unless first do expect .flowEntry
    let ends := [.flowEntry, .flowMappingEnd]
    if ← take? .key then
      let key ← nodeBefore fuel .flow (.value :: ends)
      let value ← value fuel .flow ends
      flowPairs fuel false ((key, value) :: done)
    else if (← peek) == some .value then
      let value ← value fuel .flow ends
      flowPairs fuel false ((empty, value) :: done)
    else if ← take? .flowMappingEnd then
      return done.reverse
    else
      let key ← node fuel .flow
      flowPairs fuel false ((key, empty) :: done)

end

/-- The tree of the document after its opening separator. It may be left out. -/
def content (fuel : Nat) : Parser Tree := do
  match ← peek with
  | none | some .directive | some .documentStart | some .documentEnd => return empty
  | some _ => node fuel .block

/-- The only document of the marks. Without any marks it is left out. -/
def document (fuel : Nat) : Parser Tree := do
  let tree ← match ← peek with
    | none => pure empty
    | some .directive => do
      skip
      expect .documentStart
      content fuel
    | some .documentStart => do
      skip
      content fuel
    | some _ => node fuel .block
  let _ ← take? .documentEnd
  match ← peek with
  | none => return tree
  | some _ => refuse

end Parser

/-- The tree of the document that has the marks. -/
def ofMarks (marks : List Mark) : Except Fault Tree :=
  -- Of three nested calls at least one takes a mark.
  (Parser.document (3 * marks.length + 3)).run' { marks := marks }

/-- The tree of a document. -/
def ofText (text : List Char) : Except Fault Tree :=
  ofMarks (Mark.ofText text).toList

end Tree

end Templating.Document
