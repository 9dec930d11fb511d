import Templating.Document.Place

/-!
# Scalars in a document

The texts of scalars: plain ones, quoted ones and indented blocks. Each function takes the text
from a place inside the scalar and gives the content, together with what is left. Single line breaks
inside a scalar are folded to a blank, further ones stay; where a scalar is folded, a document
separator at the start of a line breaks it off.
-/

namespace Templating.Document

/-- Takes a line break, if the text begins with one: what it stands for and what is left. A line
feed stands for every break but the separators of lines and of paragraphs. -/
def takeBreak : List Char → Option (List Char × List Char)
  | '\r' :: '\n' :: cs => some (['\n'], cs)
  | c :: cs =>
    if c == '\n' || c == '\r' || c.toNat == 0x85 then some (['\n'], cs)
    else if isBreak c then some ([c], cs)
    else none
  | [] => none

/-- Whether a line begins with a document separator. -/
def atSeparator (cs : List Char) : Bool :=
  (cs.take 3 == ['-', '-', '-'] || cs.take 3 == ['.', '.', '.']) && atGap (cs.drop 3)

/-- What the break `first` followed by the breaks `more` folds to. -/
def fold (first more : List Char) : List Char :=
  if first != ['\n'] then first ++ more else if more.isEmpty then [' '] else more

/-! ### Quoted scalars -/

/-- The characters that a letter after a backslash stands for. -/
def escapes : List (Char × Nat) :=
  [('0', 0x00), ('a', 0x07), ('b', 0x08), ('t', 0x09), ('\t', 0x09), ('n', 0x0A), ('v', 0x0B),
    ('f', 0x0C), ('r', 0x0D), ('e', 0x1B), (' ', 0x20), ('"', 0x22), ('/', 0x2F), ('\\', 0x5C),
    ('N', 0x85), ('_', 0xA0), ('L', 0x2028), ('P', 0x2029)]

/-- How many digits follow a letter after a backslash. -/
def escapeWidth? (c : Char) : Option Nat :=
  if c = 'x' then some 2 else if c = 'u' then some 4 else if c = 'U' then some 8 else none

/-- The value of a digit in base 16, in ASCII. -/
def hexValue? (c : Char) : Option Nat :=
  if '0' ≤ c ∧ c ≤ '9' then some (c.toNat - 0x30)
  else if 'a' ≤ c ∧ c ≤ 'f' then some (c.toNat - 0x57)
  else if 'A' ≤ c ∧ c ≤ 'F' then some (c.toNat - 0x37)
  else none

/-- The number that begins the text with `width` digits in base 16. -/
def hexNumber? (width : Nat) (cs : List Char) : Option Nat :=
  if cs.length < width then none
  else (cs.take width).foldl (fun n? c => n?.bind fun n => (hexValue? c).map (16 * n + ·)) (some 0)

/-- The second half of a surrogate pair, if one is escaped here. -/
def lowSurrogate? : List Char → Option Nat
  | '\\' :: 'u' :: cs => (hexNumber? 4 cs).filter fun n => 0xDC00 ≤ n && n < 0xE000
  | _ => none

/-- The character of an escape with digits, after the letter, and what is left. Two halves of a
surrogate pair make one character. -/
def numericEscape (width : Nat) (cs : List Char) : Except Fault (Char × List Char) :=
  match hexNumber? width cs with
  | none => .error .malformed
  | some n =>
    let rest := cs.drop width
    if 0x110000 ≤ n then .error (.failure .codePointRange)
    else if 0xD800 ≤ n ∧ n < 0xDC00 then
      match lowSurrogate? rest with
      | some low => .ok (Char.ofNat (0x10000 + (n - 0xD800) * 0x400 + (low - 0xDC00)), rest.drop 6)
      | none => .ok (Char.ofNat 0xFFFD, rest)
    else if 0xDC00 ≤ n ∧ n < 0xE000 then .ok (Char.ofNat 0xFFFD, rest)
    else .ok (Char.ofNat n, rest)

/-- Breaks and blanks before the next line of a quoted scalar with content: the breaks, and the
text of that line. -/
def quotedBreaks : (fuel : Nat) → List Char → Except Fault (List Char × List Char)
  | 0, _ => .error .malformed
  | fuel + 1, cs => do
    if atSeparator cs then throw .malformed
    let here := cs.dropWhile fun c => c = ' ' ∨ c = '\t'
    match takeBreak here with
    | some (b, rest) =>
      let (more, rest) ← quotedBreaks fuel rest
      return (b ++ more, rest)
    | none => return ([], here)

/-- The content of a quoted scalar from inside it, and what follows its closing quote. -/
def quotedFrom (double : Bool) : (fuel : Nat) → List Char → Except Fault (List Char × List Char)
  | 0, _ => .error .malformed
  | fuel + 1, cs => do
    let more (content rest : List Char) : Except Fault (List Char × List Char) := do
      let (content', rest) ← quotedFrom double fuel rest
      return (content ++ content', rest)
    match cs with
    | [] => throw .malformed
    | c :: rest =>
      if c = ' ' ∨ c = '\t' ∨ isBreak c then
        let blanks := cs.takeWhile fun c => c = ' ' ∨ c = '\t'
        let after := cs.drop blanks.length
        match takeBreak after with
        | some (b, after) =>
          let (breaks, after) ← quotedBreaks fuel after
          more (fold b breaks) after
        | none => if after.isEmpty then throw .malformed else more blanks after
      else if double then
        if c = '"' then return ([], rest)
        else if c = '\\' then
          match rest with
          | [] => throw .malformed
          | e :: after =>
            match escapes.lookup e, escapeWidth? e, takeBreak rest with
            | some n, _, _ => more [Char.ofNat n] after
            | none, some width, _ =>
              let (c, after) ← numericEscape width after
              more [c] after
            | none, none, some (_, after) =>
              let (breaks, after) ← quotedBreaks fuel after
              more breaks after
            | none, none, none => throw .malformed
        else more [c] rest
      else if c = '\'' then
        match rest with
        | '\'' :: after => more ['\''] after
        | _ => return ([], rest)
      else more [c] rest

/-- The content of a quoted scalar after its opening quote, and what follows the closing one. -/
def quotedScalar (double : Bool) (cs : List Char) : Except Fault (List Char × List Char) :=
  quotedFrom double (cs.length + 1) cs

/-! ### Plain scalars -/

/-- The part of a plain scalar up to the next blank, and what is left. A colon ends it if a gap
follows; between brackets the signs of a collection end it too. -/
def plainPart (inFlow : Bool) : List Char → List Char × List Char
  | [] => ([], [])
  | c :: cs =>
    let colon := c = ':'
    let stops :=
      if colon && !atGap cs then false
      else atGap (c :: cs) || colon || (inFlow && [',', '[', ']', '\x7b', '\x7d'].contains c)
    if stops then ([], c :: cs)
    else
      let (part, rest) := plainPart inFlow cs
      (c :: part, rest)

/-- Breaks and blanks before the next line of a plain scalar: the breaks and the rest, or nothing
at a document separator. -/
def plainBreaks : (fuel : Nat) → List Char → Option (List Char) × List Char
  | 0, cs => (none, cs)
  | fuel + 1, cs =>
    match cs with
    | ' ' :: rest => plainBreaks fuel rest
    | cs =>
      match takeBreak cs with
      | none => (some [], cs)
      | some (b, rest) =>
        if atSeparator rest then (none, rest)
        else
          let (more, rest) := plainBreaks fuel rest
          (more.map (b ++ ·), rest)

/-- What separates two parts of a plain scalar, with the rest; and whether a line ended. -/
structure PlainGap where
  space : List Char
  rest : List Char
  brokeLine : Bool

/-- The gap after a part of a plain scalar. An empty space ends the scalar. -/
def plainGap (cs : List Char) : PlainGap :=
  let blanks := cs.takeWhile (· = ' ')
  let after := cs.drop blanks.length
  match takeBreak after with
  | none => ⟨blanks, after, false⟩
  | some (b, rest) =>
    if atSeparator rest then ⟨[], rest, true⟩
    else
      match plainBreaks (rest.length + 1) rest with
      | (some more, rest) => ⟨fold b more, rest, true⟩
      | (none, rest) => ⟨[], rest, true⟩

/-! ### Block scalars -/

/-- What a block scalar does with the breaks at its end. -/
inductive Chomping where
  | clip
  | strip
  | keep
deriving DecidableEq, Repr

/-- The header of a block scalar. -/
structure BlockHeader where
  chomping : Chomping := .clip
  indentation : Option Nat := none

/-- The sign for chomping, if one stands here. -/
def chomping? : List Char → Option Chomping
  | '+' :: _ => some .keep
  | '-' :: _ => some .strip
  | _ => none

/-- The digit for the indentation, if one stands here. -/
def indentation? : List Char → Option Nat
  | c :: _ => if c.isDigit then some (c.toNat - 0x30) else none
  | [] => none

/-- The signs after that of a block scalar, in either order, and what follows them. -/
def blockSigns (cs : List Char) : BlockHeader × List Char :=
  match chomping? cs, indentation? cs with
  | some chomping, _ =>
    match indentation? (cs.drop 1) with
    | some n => (⟨chomping, some n⟩, cs.drop 2)
    | none => (⟨chomping, none⟩, cs.drop 1)
  | none, some n =>
    match chomping? (cs.drop 1) with
    | some chomping => (⟨chomping, some n⟩, cs.drop 2)
    | none => (⟨.clip, some n⟩, cs.drop 1)
  | none, none => ({}, cs)

/-- The header after the sign of a block scalar, and the text from the next line on. A remark may
stand after a blank. -/
def blockHeader (p : Place) (cs : List Char) : Except Fault (BlockHeader × Place × List Char) :=
  let (header, rest) := blockSigns cs
  let separated := match rest with
    | [] => true
    | c :: _ => c == ' ' || isBreak c
  let rest := rest.dropWhile (· = ' ')
  let rest := if rest.head? = some '#' then rest.dropWhile fun c => !isBreak c else rest
  let p := p.past (cs.length - rest.length) cs
  if header.indentation = some 0 ∨ !separated ∨ !atEnd rest then .error .malformed
  else
    match takeBreak rest with
    | some (_, after) => .ok (header, p.afterBreak rest, after)
    | none => .ok (header, p, [])

/-- The breaks of the blank lines at the start of a text, the widest of their indentations, and the
text from the first other line's content on, with the place of that content. -/
def leadingLines : (fuel : Nat) → (widest : Nat) → Place → List Char →
    List Char × Nat × Place × List Char
  | 0, widest, p, cs => ([], widest, p, cs)
  | fuel + 1, widest, p, cs =>
    match cs with
    | ' ' :: rest =>
      let p := p.after ' ' rest
      leadingLines fuel (max widest p.column) p rest
    | cs =>
      match takeBreak cs with
      | some (b, rest) =>
        let (breaks, more) := leadingLines fuel widest (p.afterBreak cs) rest
        (b ++ breaks, more)
      | none => ([], widest, p, cs)

/-- The breaks before the next line of a block scalar, where blanks are skipped up to the column
`indent`, and the text from there with its place. -/
def blockBreaks (indent : Nat) : (fuel : Nat) → Place → List Char → List Char × Place × List Char
  | 0, p, cs => ([], p, cs)
  | fuel + 1, p, cs =>
    let skipped := ((cs.take (indent - p.column)).takeWhile (· = ' ')).length
    let here := cs.drop skipped
    let p := p.past skipped cs
    match takeBreak here with
    | some (b, rest) =>
      let (more, p, rest) := blockBreaks indent fuel (p.afterBreak here) rest
      (b ++ more, p, rest)
    | none => ([], p, here)

/-- What the lines of a block scalar leave: the content, the last break and the breaks after it,
and the rest of the text with its place. -/
structure BlockLines where
  content : List Char
  lastBreak : List Char
  breaks : List Char
  place : Place
  rest : List Char

/-- The lines of a block scalar. `atMargin` says that the scalar is not indented, so that a document
separator ends it. -/
def blockLines (folded atMargin : Bool) (indent : Nat) :
    (fuel : Nat) → (breaks : List Char) → Place → List Char → BlockLines
  | 0, breaks, p, cs => ⟨[], [], breaks, p, cs⟩
  | fuel + 1, breaks, p, cs =>
    if p.column ≠ indent ∨ cs.isEmpty then ⟨[], [], breaks, p, cs⟩
    else
      let isText (cs : List Char) : Bool := cs.head? != some ' ' && cs.head? != some '\t'
      let line := cs.takeWhile fun c => !isBreak c
      let after := cs.drop line.length
      let p := p.past line.length cs
      let (b, p, after) := match takeBreak after with
        | some (b, rest) => (b, p.afterBreak after, rest)
        | none => ([], p, after)
      let (more, p, rest) := blockBreaks indent (after.length + 1) p after
      let ends := (atMargin && p.column == 0 && atSeparator rest) || p.column != indent ||
        rest.isEmpty
      if ends then ⟨breaks ++ line, b, more, p, rest⟩
      else
        let join :=
          if folded && b == ['\n'] && isText cs && isText rest then
            (if more.isEmpty then [' '] else [])
          else b
        let lines := blockLines folded atMargin indent fuel more p rest
        { lines with content := breaks ++ line ++ join ++ lines.content }

/-- The content of a block scalar after its sign, in a collection indented by `outer`, and the rest
of the text with its place. Without a digit in its header, the first line gives the indentation. -/
def blockScalar (folded : Bool) (outer : Int) (p : Place) (cs : List Char) :
    Except Fault (List Char × Place × List Char) := do
  let (header, p, rest) ← blockHeader p cs
  let least := (outer + 1).toNat
  let fuel := rest.length + 1
  let lines := match header.indentation with
    | none =>
      let (breaks, widest, p, rest) := leadingLines fuel 0 p rest
      blockLines folded (least == 0) (max least widest) fuel breaks p rest
    | some n =>
      let indent := max least 1 + n - 1
      let (breaks, p, rest) := blockBreaks indent fuel p rest
      blockLines folded false indent fuel breaks p rest
  let tail := match header.chomping with
    | .clip => lines.lastBreak
    | .strip => []
    | .keep => lines.lastBreak ++ lines.breaks
  return (lines.content ++ tail, lines.place, lines.rest)

end Templating.Document
