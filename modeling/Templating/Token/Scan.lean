import Templating.Token
import Templating.Text.Word

/-!
# Scanning a template

A template is scanned in two modes. Outside tags, text runs up to the next pair of braces and a
comment is taken whole; inside a tag, blanks separate words, separators and string literals until
the closing braces. Scanning never fails: at the first character that starts no token it halts and
keeps the tokens found so far, without an end token.

Each lexeme is a nonempty piece of the text, so scanning ends (`Scan.raw_ne_nil`).
-/

namespace Templating

/-- Where the scanner stands. -/
inductive Mode where
  /-- Outside tags. -/
  | text
  /-- Between the delimiters of a tag. -/
  | tag
deriving DecidableEq, Repr

/-- What stands at the start of a text: the characters taken and the token they make. -/
structure Lexeme where
  kind : TokenKind
  text : List Char
  raw : List Char
deriving DecidableEq, Repr

namespace Scan

variable (d : Char) (cs : List Char)

/-- The text before the first place where `d` stands twice in a row, and the text from there. -/
def beforeTwice (d : Char) : List Char → List Char × List Char
  | [] => ([], [])
  | c :: cs =>
    if c = d ∧ cs.head? = some d then ([], c :: cs)
    else ((c :: (beforeTwice d cs).1), (beforeTwice d cs).2)

theorem beforeTwice_append : (beforeTwice d cs).1 ++ (beforeTwice d cs).2 = cs := by
  induction cs with
  | nil => rfl
  | cons c cs ih => unfold beforeTwice; split <;> simp [ih]

/-- The inside of a string literal, if the text continues with one after its opening quote: up to
the first quote that no backslash protects. -/
def literalBody? : List Char → Option (List Char)
  | [] => none
  | ['\\'] => none
  | '\\' :: c :: cs => (literalBody? cs).map fun body => '\\' :: c :: body
  | c :: cs => if c = '"' then some [] else (literalBody? cs).map (c :: ·)

/-- The text of a literal: a protected quote loses its backslash, every other backslash stays. -/
def unescape : List Char → List Char
  | '\\' :: '"' :: cs => '"' :: unescape cs
  | c :: cs => c :: unescape cs
  | [] => []

/-- The token outside tags. The text may not be empty. -/
def lexemeInText : List Char → Option Lexeme
  | '\x7b' :: '\x7b' :: '!' :: cs =>
    let (body, rest) := beforeTwice '\x7d' cs
    if rest.isEmpty then none
    else some ⟨.comment, body, ['\x7b', '\x7b', '!'] ++ body ++ ['\x7d', '\x7d']⟩
  | '\x7b' :: '\x7b' :: '#' :: _ => some ⟨.openBlock, ['\x7b', '\x7b', '#'], ['\x7b', '\x7b', '#']⟩
  | '\x7b' :: '\x7b' :: '/' :: _ => some ⟨.openEnd, ['\x7b', '\x7b', '/'], ['\x7b', '\x7b', '/']⟩
  | '\x7b' :: '\x7b' :: '^' :: _ =>
    some ⟨.openInverse, ['\x7b', '\x7b', '^'], ['\x7b', '\x7b', '^']⟩
  | '\x7b' :: '\x7b' :: '>' :: _ =>
    some ⟨.openPartial, ['\x7b', '\x7b', '>'], ['\x7b', '\x7b', '>']⟩
  | '\x7b' :: '\x7b' :: _ => some ⟨.openValue, ['\x7b', '\x7b'], ['\x7b', '\x7b']⟩
  | c :: cs =>
    let body := (beforeTwice '\x7b' (c :: cs)).1
    if body.isEmpty then none else some ⟨.content, body, body⟩
  | [] => none

/-- The token inside a tag, after any blanks. -/
def lexemeInTag : List Char → Option Lexeme
  | '\x7d' :: '\x7d' :: _ => some ⟨.close, ['\x7d', '\x7d'], ['\x7d', '\x7d']⟩
  | '.' :: '.' :: _ => some ⟨.word, ['.', '.'], ['.', '.']⟩
  | '"' :: cs =>
    (literalBody? cs).map fun body => ⟨.literal, unescape body, '"' :: body ++ ['"']⟩
  | c :: cs =>
    if c = '/' ∨ c = '.' then some ⟨.separator, [c], [c]⟩
    else if Text.isWordChar c then
      let word := c :: cs.takeWhile Text.isWordChar
      some ⟨.word, word, word⟩
    else none
  | [] => none

/-- The token at the start of a text. -/
def lexeme? : Mode → List Char → Option Lexeme
  | .text, cs => lexemeInText cs
  | .tag, cs => lexemeInTag cs

/-- The blanks to skip before a token. Outside tags every character counts. -/
def blanks : Mode → List Char → List Char
  | .text, _ => []
  | .tag, cs => cs.takeWhile Text.isBlank

/-- The mode after a token. -/
def modeAfter (mode : Mode) (kind : TokenKind) : Mode :=
  if kind.isOpener then .tag else if kind = .close then .text else mode

theorem raw_lexemeInText_ne_nil {cs : List Char} {l : Lexeme} (h : lexemeInText cs = some l) :
    l.raw ≠ [] := by
  fun_cases lexemeInText cs <;> simp_all only [lexemeInText] <;> grind

theorem raw_lexemeInTag_ne_nil {cs : List Char} {l : Lexeme} (h : lexemeInTag cs = some l) :
    l.raw ≠ [] := by
  fun_cases lexemeInTag cs <;> simp_all only [lexemeInTag] <;> grind [Option.map_eq_some_iff]

theorem raw_ne_nil {mode : Mode} {cs : List Char} {l : Lexeme} (h : lexeme? mode cs = some l) :
    l.raw ≠ [] := by
  cases mode with
  | text => exact raw_lexemeInText_ne_nil h
  | tag => exact raw_lexemeInTag_ne_nil h

theorem length_after_lt {mode : Mode} {cs : List Char} {l : Lexeme} (hcs : cs ≠ [])
    (h : lexeme? mode (cs.drop (blanks mode cs).length) = some l) :
    ((cs.drop (blanks mode cs).length).drop l.raw.length).length < cs.length := by
  have := List.length_pos_iff.2 (raw_ne_nil h)
  have := List.length_pos_iff.2 hcs
  simp only [List.length_drop]
  omega

end Scan

/-- What a scan yields: the tokens, and the mode and the position in which it came to rest. -/
structure Scan where
  tokens : List Token
  halted : Bool
  mode : Mode
  finish : Position
deriving DecidableEq, Repr

namespace Scan

/-- Scans a text that begins at `p` in the given mode. -/
def run (mode : Mode) (p : Position) (cs : List Char) : Scan :=
  if hcs : cs = [] then
    match mode with
    | .text => { tokens := [⟨.eof, "", p⟩], halted := false, mode := mode, finish := p }
    | .tag => { tokens := [], halted := true, mode := mode, finish := p }
  else
    let skipped := blanks mode cs
    let here := cs.drop skipped.length
    let start := p.advance skipped
    match h : lexeme? mode here with
    | none => { tokens := [], halted := true, mode := mode, finish := start }
    | some l =>
      have := length_after_lt hcs h
      let after := Scan.run (modeAfter mode l.kind) (start.advance l.raw) (here.drop l.raw.length)
      { after with tokens := ⟨l.kind, String.ofList l.text, start⟩ :: after.tokens }
termination_by cs.length
decreasing_by assumption

/-- Scans a template. -/
def ofTemplate (template : String) : Scan :=
  Scan.run .text {} template.toList

end Scan

/-- The tokens of a template, with an end token just when all of it could be read. -/
def Token.ofTemplate (template : String) : List Token :=
  (Scan.ofTemplate template).tokens

end Templating
