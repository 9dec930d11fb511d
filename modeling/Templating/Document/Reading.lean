import Templating.Document.Scalar
import Templating.Text.Utf8

/-!
# Reading marks

The characters of a document become marks from left to right. A key is known as one only by the
colon behind it: wherever a key may begin, the place is kept as a candidate, and at the colon the
mark of a key is put in there. A candidate lapses at the end of its line and after 1024 characters.
Outside brackets the layout counts: a deeper column opens a collection, and a shallower one closes
the collections that are deeper.
-/

namespace Templating.Document

/-- A place where a key may have begun. -/
structure Candidate where
  /-- How many marks stand before it. -/
  before : Nat
  place : Place
  /-- Whether it must be a key, as it stands in the column of the collection around it. -/
  required : Bool

/-- How far a key may reach. -/
def keyLimit : Nat := 1024

/-- Whether a candidate has lapsed at the place. -/
def Candidate.isStale (c : Candidate) (p : Place) : Bool :=
  c.place.line != p.line || keyLimit < p.index - c.place.index

/-- The kinds of brackets. -/
inductive Bracket where
  | square
  | curly
deriving DecidableEq, Repr

/-- An open bracket, and the candidate outside of it. -/
structure Enclosure where
  bracket : Bracket
  candidate : Option Candidate

/-- A document that is being read. -/
structure Reading where
  rest : List Char
  place : Place := {}
  /-- The open brackets, from the inside. -/
  enclosures : List Enclosure := []
  /-- The candidate inside the innermost bracket. -/
  candidate : Option Candidate := none
  /-- The columns of the open indented collections, from the inside. -/
  indents : List Nat := []
  /-- Whether a key may begin here. -/
  allowKey : Bool := true
  marks : Array Mark := #[]

namespace Reading

/-- Whether the reading is between brackets. -/
def inFlow (r : Reading) : Bool :=
  !r.enclosures.isEmpty

/-- The column of the innermost indented collection. -/
def indent (r : Reading) : Int :=
  match r.indents with
  | [] => -1
  | column :: _ => column

/-- All candidates. -/
def candidates (r : Reading) : List Candidate :=
  r.candidate.toList ++ r.enclosures.filterMap (·.candidate)

/-- Moves over `n` characters. -/
def advance (r : Reading) (n : Nat) : Reading :=
  { r with rest := r.rest.drop n, place := r.place.past n r.rest }

/-- Moves to where only `rest` is left. -/
def advanceTo (r : Reading) (rest : List Char) : Reading :=
  r.advance (r.rest.length - rest.length)

/-- Adds a mark. -/
def push (r : Reading) (m : Mark) : Reading :=
  { r with marks := r.marks.push m }

/-- Puts a mark in front of those that came after the first `n`. -/
def insert (r : Reading) (n : Nat) (m : Mark) : Reading :=
  { r with marks := r.marks.insertIdxIfInBounds n m }

/-- Says whether a key may begin from here on. -/
def allowing (r : Reading) (key : Bool) : Reading :=
  { r with allowKey := key }

/-! ### Candidates -/

/-- Gives up the candidate inside the innermost bracket. -/
def dropCandidate (r : Reading) : Except Fault Reading :=
  if r.candidate.any (·.required) then .error .malformed else .ok { r with candidate := none }

/-- Gives up the candidates that have lapsed. -/
def dropStale (r : Reading) : Except Fault Reading :=
  let keep (c? : Option Candidate) : Option Candidate := c?.filter fun c => !c.isStale r.place
  if r.candidates.any fun c => c.required && c.isStale r.place then .error .malformed
  else .ok { r with
    candidate := keep r.candidate
    enclosures := r.enclosures.map fun e => { e with candidate := keep e.candidate } }

/-- Makes this place the candidate, if a key may begin here. -/
def addCandidate (r : Reading) : Except Fault Reading := do
  if !r.allowKey then return r
  let required := !r.inFlow && r.indent == r.place.column
  let r ← r.dropCandidate
  return { r with candidate := some ⟨r.marks.size, r.place, required⟩ }

/-! ### Layout -/

/-- Closes the indented collections that are deeper than the column. -/
def closeDeeper (r : Reading) (column : Int) : Reading :=
  if r.inFlow then r
  else
    let deeper := r.indents.takeWhile fun (indent : Nat) => column < indent
    { r with
      indents := r.indents.drop deeper.length
      marks := r.marks ++ Array.replicate deeper.length .blockEnd }

/-- Whether a collection begins in the column; one that does is opened. -/
def opening (r : Reading) (column : Nat) : Bool × Reading :=
  if !r.inFlow && r.indent < column then (true, { r with indents := column :: r.indents })
  else (false, r)

/-- Skips blanks, line breaks and remarks, and says whether a line ended. Tabs are blanks only
between brackets. -/
def gap (inFlow : Bool) : (inRemark brokeLine : Bool) → Place → List Char → Bool × Place × List Char
  | _, brokeLine, p, [] => (brokeLine, p, [])
  | inRemark, brokeLine, p, c :: cs =>
    if inRemark && !isBreak c then gap inFlow true brokeLine (p.after c cs) cs
    else if isBreak c then gap inFlow false true (p.after c cs) cs
    else if c == ' ' || (inFlow && c == '\t') then gap inFlow false brokeLine (p.after c cs) cs
    else if c == '#' then gap inFlow true brokeLine (p.after c cs) cs
    else (brokeLine, p, c :: cs)

/-- Moves to the next sign. Outside brackets a key may begin on a new line. -/
def skipGap (r : Reading) : Reading :=
  let (brokeLine, place, rest) := gap r.inFlow false false r.place r.rest
  { r with rest := rest, place := place, allowKey := r.allowKey || (brokeLine && !r.inFlow) }

/-! ### Signs -/

/-- Whether a line names the version of the language of documents, and one that can be read. -/
def isVersionLine (line : List Char) : Bool :=
  let isBlank (c : Char) : Bool := c == ' '
  let number := (line.drop 5).dropWhile isBlank
  let major := number.takeWhile Char.isDigit
  let minor := (number.drop (major.length + 1)).takeWhile Char.isDigit
  let tail := number.drop (major.length + 1 + minor.length)
  let remark := tail.dropWhile isBlank
  line.take 6 == "%YAML ".toList && major == ['1'] && number[1]? == some '.' && !minor.isEmpty &&
    (tail.isEmpty || tail.head? == some ' ') && (remark.isEmpty || remark.head? == some '#')

/-- A directive. Only that for the version is known. -/
def directive (r : Reading) : Except Fault Reading := do
  let line := r.rest.takeWhile fun c => !isBreak c
  if !isVersionLine line then throw .malformed
  let r ← (r.closeDeeper (-1)).dropCandidate
  return ((r.allowing false).push .directive).advance line.length

/-- A separator of documents. -/
def separator (r : Reading) : Except Fault Reading := do
  let m : Mark := if r.rest.head? = some '-' then .documentStart else .documentEnd
  let r ← (r.closeDeeper (-1)).dropCandidate
  return ((r.allowing false).push m).advance 3

/-- An opening bracket, which may begin a key. -/
def openBracket (r : Reading) (b : Bracket) (m : Mark) : Except Fault Reading := do
  let r ← r.addCandidate
  return (({ r with
    enclosures := ⟨b, r.candidate⟩ :: r.enclosures
    candidate := none }.allowing true).push m).advance 1

/-- A closing bracket. That it fits the opening one shows later. -/
def closeBracket (r : Reading) (m : Mark) : Except Fault Reading := do
  let r ← r.dropCandidate
  let r := match r.enclosures with
    | [] => r
    | e :: es => { r with enclosures := es, candidate := e.candidate }
  return ((r.allowing false).push m).advance 1

/-- A comma. -/
def comma (r : Reading) : Except Fault Reading := do
  let r ← r.dropCandidate
  return ((r.allowing true).push .flowEntry).advance 1

/-- The start of a collection of the kind, if the column is a deeper one. Outside brackets it must
be at a place where a key may begin. -/
def begin (r : Reading) (m : Mark) : Except Fault Reading :=
  if !r.inFlow && !r.allowKey then .error .malformed
  else
    let (opened, r) := r.opening r.place.column
    .ok (if opened then r.push m else r)

/-- The dash of an entry. -/
def dash (r : Reading) : Except Fault Reading := do
  let r ← r.begin .blockSequence
  let r ← r.dropCandidate
  return ((r.allowing true).push .entry).advance 1

/-- The sign of a key. -/
def keySign (r : Reading) : Except Fault Reading := do
  let r ← r.begin .blockMapping
  let r ← r.dropCandidate
  return ((r.allowing !r.inFlow).push .key).advance 1

/-- The colon before a value. It makes the candidate a key. -/
def colon (r : Reading) : Except Fault Reading := do
  let r ← match r.candidate with
    | some c =>
      let (opened, r) := { r with candidate := none }.opening c.place.column
      let r := r.insert c.before .key
      pure ((if opened then r.insert c.before .blockMapping else r).allowing false)
    | none => do
      let r ← r.begin .blockMapping
      pure (r.allowing !r.inFlow)
  return (r.push .value).advance 1

/-- Whether the colon before `cs` stands before a value. Between curly brackets it does even if no
gap follows, unless it comes right after another one. -/
def isValueSign (r : Reading) (afterValue : Bool) (cs : List Char) : Bool :=
  atGap cs || (!afterValue && (r.enclosures.head?.map (·.bracket)) == some .curly)

/-- Whether a name of an anchor may have `c`. -/
def isNameChar (c : Char) : Bool :=
  let n := c.toNat
  !(",[]\x7b\x7d".toList.contains c) &&
    ((0x21 ≤ n && n ≤ 0x7E) || (0xA0 ≤ n && n ≤ 0xD7FF) ||
      (0xE000 ≤ n && n ≤ 0xFFFD && n != 0xFEFF) || 0x10000 ≤ n)

/-- An anchor, or an alias for one. -/
def anchor (r : Reading) (mark : String → Mark) : Except Fault Reading := do
  let r ← r.addCandidate
  let name := (r.rest.drop 1).takeWhile isNameChar
  let follows (c : Char) : Bool :=
    c == ' ' || c == '\t' || isBreak c || "?:,[]\x7b\x7d%@`".toList.contains c
  if name.isEmpty || !((r.rest.drop (1 + name.length)).head?.all follows) then throw .malformed
  return ((r.allowing false).push (mark (String.ofList name))).advance (1 + name.length)

/-- The bytes of a tag, in which a percent sign stands before two digits in base 16. -/
def tagBytes? : List Char → Option (List UInt8)
  | [] => some []
  | '%' :: cs => do
    let n ← hexNumber? 2 cs
    let more ← tagBytes? (cs.drop 2)
    return n.toUInt8 :: more
  | c :: cs => (c.toNat.toUInt8 :: ·) <$> tagBytes? cs
termination_by cs => cs.length
decreasing_by all_goals simp only [List.length_drop, List.length_cons]; omega

/-- The written part of a tag, and what is left. -/
def tagSuffix (cs : List Char) : Except Fault (String × List Char) :=
  let written := cs.takeWhile fun c =>
    c.isAlphanum || "-;/?:@&=+$,_.!~*'()[]%#".toList.contains c
  match tagBytes? written with
  | none | some [] => .error .malformed
  | some bytes =>
    match Text.Utf8.decode bytes with
    | .error _ => .error .malformed
    | .ok text => .ok (String.ofList text, cs.drop written.length)

/-- A tag in full after its exclamation mark, and what is left. -/
def tagName (cs : List Char) : Except Fault (String × List Char) :=
  if cs.head? = some '<' then do
    let (name, rest) ← tagSuffix (cs.drop 1)
    if rest.head? = some '>' then return (name, rest.drop 1) else throw .malformed
  else if atGap cs then .ok ("!", cs)
  else if (cs.takeWhile fun c => c != ' ' && !isBreak c).contains '!' then
    -- A handle stands between two exclamation marks. Only the empty one is known.
    if cs.head? = some '!' then do
      let (suffix, rest) ← tagSuffix (cs.drop 1)
      return (commonTag ++ suffix, rest)
    else .error .malformed
  else do
    let (suffix, rest) ← tagSuffix cs
    return ("!" ++ suffix, rest)

/-- A tag. -/
def tag (r : Reading) : Except Fault Reading := do
  let r ← r.addCandidate
  let (name, rest) ← tagName (r.rest.drop 1)
  if !rest.head?.all (fun c => c == ' ' || isBreak c) then throw .malformed
  return ((r.allowing false).push (.tag name)).advanceTo rest

/-- An indented block of text. -/
def blockText (r : Reading) (folded : Bool) : Except Fault Reading := do
  let r ← (r.allowing true).dropCandidate
  let r := r.advance 1
  let (text, place, rest) ← blockScalar folded r.indent r.place r.rest
  return { r with rest := rest, place := place }.push (.scalar false (String.ofList text))

/-- A quoted scalar. -/
def quoted (r : Reading) (double : Bool) : Except Fault Reading := do
  let r ← r.addCandidate
  let (text, rest) ← quotedScalar double (r.rest.drop 1)
  return ((r.allowing false).push (.scalar false (String.ofList text))).advanceTo rest

/-- The content of a plain scalar whose further lines begin at `margin` or later, after the given
space. -/
def plainFrom (margin : Nat) : (fuel : Nat) → (space : List Char) → Reading → List Char × Reading
  | 0, _, r => ([], r)
  | fuel + 1, space, r =>
    let (part, rest) := plainPart r.inFlow r.rest
    if part.isEmpty || part.head? == some '#' then ([], r)
    else
      let gap := plainGap rest
      let r := (r.advanceTo gap.rest).allowing gap.brokeLine
      let ends := gap.space.isEmpty || gap.rest.head? == some '#' ||
        (!r.inFlow && r.place.column < margin)
      let (more, r) := if ends then ([], r) else plainFrom margin fuel gap.space r
      (space ++ part ++ more, r)

/-- The characters that, apart from line breaks, no plain scalar may begin with, unless some
special rule allows it. -/
def indicators : List Char :=
  " \t-?:,[]\x7b\x7d#&*!|>'\"%@`".toList

/-- Whether a plain scalar begins before `c :: cs`. A dash, and outside brackets the signs of a key
and of a value, may begin one if no gap follows. -/
def isPlainStart (inFlow : Bool) (c : Char) (cs : List Char) : Bool :=
  if !indicators.contains c && !isBreak c then true
  else if c == ':' && inFlow then !(cs.head? == some ' ' || cs.head? == some '\t')
  else !atGap cs && (c == '-' || (!inFlow && (c == '?' || c == ':')))

/-- A plain scalar. -/
def plain (r : Reading) : Except Fault Reading := do
  let r ← r.addCandidate
  let margin := (r.indent + 1).toNat
  let (text, r) := plainFrom margin (r.rest.length + 1) [] (r.allowing false)
  return r.push (.scalar true (String.ofList text))

/-- Reads the sign or scalar that begins with `c`. -/
def next (r : Reading) (afterValue : Bool) (c : Char) (cs : List Char) : Except Fault Reading :=
  if c == '%' && r.place.column == 0 then r.directive
  else if r.place.column == 0 && atSeparator (c :: cs) then r.separator
  else if c == '[' then r.openBracket .square .flowSequence
  else if c == '\x7b' then r.openBracket .curly .flowMapping
  else if c == ']' then r.closeBracket .flowSequenceEnd
  else if c == '\x7d' then r.closeBracket .flowMappingEnd
  else if c == ',' then r.comma
  else if c == '-' && atGap cs then r.dash
  else if c == '?' && (r.inFlow || atGap cs) then r.keySign
  else if c == ':' && r.isValueSign afterValue cs then r.colon
  else if c == '*' then r.anchor .alias
  else if c == '&' then r.anchor .anchor
  else if c == '!' then r.tag
  else if (c == '|' || c == '>') && !r.inFlow then r.blockText (c == '>')
  else if c == '\'' || c == '"' then r.quoted (c == '"')
  else if isPlainStart r.inFlow c cs then r.plain
  else .error .malformed

/-! ### The whole document -/

/-- Moves to the next sign and closes what ends before it. Says, too, whether the last mark was a
colon that another one must not follow closely. -/
def prepare (r : Reading) : Except Fault (Bool × Reading) := do
  let r ← r.dropStale
  let afterValue := !r.candidates.isEmpty && r.marks.back? == some .value
  let r ← r.skipGap.dropStale
  return (afterValue, r.closeDeeper r.place.column)

/-- The marks of a document that breaks off: those that no later colon could precede with a key. -/
def breakOff (r : Reading) (f : Fault) : Array Mark :=
  let certain := r.candidates.foldl (fun n c => min n c.before) r.marks.size
  (r.marks.take certain).push (.unreadable f)

/-- The marks of a document that is being read. -/
def toMarks : (fuel : Nat) → Reading → Array Mark
  | 0, r => r.breakOff .malformed
  | fuel + 1, r =>
    match r.prepare with
    | .error f => r.breakOff f
    | .ok (afterValue, r) =>
      match r.rest with
      | [] =>
        match (r.closeDeeper (-1)).dropCandidate with
        | .error f => r.breakOff f
        | .ok r => r.marks
      | c :: cs =>
        match r.next afterValue c cs with
        | .error f => r.breakOff f
        | .ok r => toMarks fuel r

end Reading

/-- The marks of a document. A byte order mark at its start is no part of it. -/
def Mark.ofText (text : List Char) : Array Mark :=
  if !text.all isAllowed then #[.unreadable .malformed]
  else
    let r : Reading := { rest := text }
    Reading.toMarks (text.length + 1) (if text.head? = some '\ufeff' then r.advance 1 else r)

end Templating.Document
