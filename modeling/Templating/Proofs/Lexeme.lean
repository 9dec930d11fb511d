import Mathlib.Data.List.TakeWhile
import Templating.Node.Printer
import Templating.Proofs.Grammar
import Templating.Token.Scan

/-!
# How a token is spelled

A scan takes one lexeme after another. Here a step of the scan is described without the scanner:
`Token.Fits` says which texts a token of each kind can have, `Token.raw` which characters make it,
and `Token.Before` what may come after it so that the token ends where it does. Together they are
exactly what one step finds (`Scan.lexeme_eq_some_iff`).
-/

namespace Templating

namespace Text

/-- The code points of the blanks. -/
def blankCodes : List Nat :=
  List.range' 0x09 5 ++ List.range' 0x1C 5 ++ List.range' 0x2000 11 ++
    [0x85, 0xA0, 0x1680, 0x2028, 0x2029, 0x202F, 0x205F, 0x3000]

theorem toNat_mem_blankCodes {c : Char} (h : isBlank c = true) : c.toNat ∈ blankCodes := by
  simp only [isBlank, Bool.or_eq_true, Bool.and_eq_true, decide_eq_true_eq, beq_iff_eq] at h
  simp only [blankCodes, List.mem_append, List.mem_range'_1, List.mem_cons, List.not_mem_nil]
  omega

/-- A blank stands in no word. -/
theorem isWordChar_of_isBlank {c : Char} (h : isBlank c = true) : isWordChar c = false := by
  have hall : ∀ n ∈ blankCodes, isWordChar (Char.ofNat n) = false := by decide +kernel
  simpa using hall c.toNat (toNat_mem_blankCodes h)

end Text

namespace Scan

/-! ## Text up to two equal characters -/

section BeforeTwice

variable {d : Char} {cs ds : List Char}

@[simp] theorem beforeTwice_nil : beforeTwice d [] = ([], []) := rfl

@[simp] theorem beforeTwice_twice : beforeTwice d (d :: d :: cs) = ([], d :: d :: cs) := by
  simp [beforeTwice]

/-- What is left begins with the two characters, if anything is left. -/
theorem beforeTwice_rest (d : Char) (cs : List Char) :
    (beforeTwice d cs).2 = [] ∨ ∃ es, (beforeTwice d cs).2 = d :: d :: es := by
  induction cs with
  | nil => exact .inl rfl
  | cons c cs ih =>
      unfold beforeTwice
      split
      · rename_i h
        obtain ⟨rfl, hhead⟩ := h
        cases cs with
        | nil => simp at hhead
        | cons c' cs =>
            rw [List.head?_cons, Option.some.injEq] at hhead
            exact .inr ⟨cs, by rw [hhead]⟩
      · exact ih

theorem beforeTwice_cons {c : Char} (h : ¬ (c = d ∧ cs.head? = some d)) :
    beforeTwice d (c :: cs) = (c :: (beforeTwice d cs).1, (beforeTwice d cs).2) := by
  rw [beforeTwice, if_neg h]

/-- Where the two characters have not been found, the search goes on in what stands behind, unless
one of the two stands on each side. -/
theorem beforeTwice_append_of_notFound (h : beforeTwice d cs = (cs, []))
    (hseam : cs.getLast? = some d → ds.head? ≠ some d) :
    beforeTwice d (cs ++ ds) = (cs ++ (beforeTwice d ds).1, (beforeTwice d ds).2) := by
  induction cs with
  | nil => simp
  | cons c cs ih =>
      have htwice : ¬ (c = d ∧ cs.head? = some d) := by
        intro htwice
        rw [beforeTwice, if_pos htwice] at h
        simp at h
      rw [beforeTwice_cons htwice, Prod.mk.injEq, List.cons.injEq] at h
      have hcs : beforeTwice d cs = (cs, []) := Prod.ext h.1.2 h.2
      have htwice' : ¬ (c = d ∧ (cs ++ ds).head? = some d) := by
        cases cs with
        | nil =>
            rintro ⟨rfl, hhead⟩
            exact hseam rfl hhead
        | cons c' cs => simpa using htwice
      rw [List.cons_append, beforeTwice_cons htwice', ih hcs ?_]
      · rfl
      · intro hlast
        apply hseam
        rw [List.getLast?_cons, hlast, Option.getD_some]

/-- Text that stands before the first two equal characters has no two of them itself, and does not
end in one. -/
theorem beforeTwice_found_iff {es : List Char} :
    beforeTwice d (cs ++ d :: d :: es) = (cs, d :: d :: es) ↔
      beforeTwice d cs = (cs, []) ∧ cs.getLast? ≠ some d := by
  constructor
  · intro h
    induction cs with
    | nil => simp
    | cons c cs ih =>
        have htwice : ¬ (c = d ∧ (cs ++ d :: d :: es).head? = some d) := by
          intro htwice
          rw [List.cons_append, beforeTwice, if_pos htwice] at h
          simp at h
        rw [List.cons_append, beforeTwice_cons htwice, Prod.mk.injEq, List.cons.injEq] at h
        obtain ⟨hcs, hlast⟩ := ih (Prod.ext h.1.2 h.2)
        have htwice' : ¬ (c = d ∧ cs.head? = some d) := by
          rintro ⟨hc, hhead⟩
          exact htwice ⟨hc, by simp [hhead]⟩
        refine ⟨by rw [beforeTwice_cons htwice', hcs], ?_⟩
        cases cs with
        | nil =>
            intro hc
            exact htwice ⟨by simpa using hc, rfl⟩
        | cons c' cs =>
            rw [List.getLast?_cons_cons]
            exact hlast
  · rintro ⟨hcs, hlast⟩
    rw [beforeTwice_append_of_notFound hcs fun h => absurd h hlast]
    simp

/-- Nothing is left just when the two characters stand together nowhere. -/
theorem beforeTwice_eq_self_iff : beforeTwice d cs = (cs, []) ↔ ¬ [d, d] <:+: cs := by
  induction cs with
  | nil => simp
  | cons c cs ih =>
      have hprefix : [d, d] <+: c :: cs ↔ c = d ∧ cs.head? = some d := by
        cases cs with
        | nil => simp
        | cons c' cs => simp [List.cons_prefix_cons, eq_comm]
      rw [List.infix_cons_iff, hprefix]
      by_cases htwice : c = d ∧ cs.head? = some d
      · rw [beforeTwice, if_pos htwice]
        simp [htwice]
      · rw [beforeTwice_cons htwice]
        simpa [Prod.ext_iff, htwice] using ih

end BeforeTwice

/-! ## String literals -/

section Literal

open Node (escape)

variable {c : Char} {cs body : List Char}

theorem literalBody_escaped :
    literalBody? ('\\' :: c :: cs) = (literalBody? cs).map fun body => '\\' :: c :: body := by
  rw [literalBody?]

/-- The last case of the scan of a literal. -/
theorem ne_backslash (hlone : c = '\\' → cs = [] → False)
    (hpair : ∀ c' cs', c = '\\' → cs = c' :: cs' → False) : c ≠ '\\' := by
  intro hc
  cases cs with
  | nil => exact hlone hc rfl
  | cons c' cs => exact hpair c' cs hc rfl

theorem literalBody_quote : literalBody? ('"' :: cs) = some [] := by
  simp [literalBody?]

theorem literalBody_plain (hslash : c ≠ '\\') (hquote : c ≠ '"') :
    literalBody? (c :: cs) = (literalBody? cs).map (c :: ·) := by
  rw [literalBody?.eq_4 _ _ (by simp [hslash]) (by simp [hslash]), if_neg hquote]

theorem unescape_quote : unescape ('\\' :: '"' :: cs) = '"' :: unescape cs := by
  rw [unescape]

theorem unescape_cons (h : ¬ (c = '\\' ∧ cs.head? = some '"')) :
    unescape (c :: cs) = c :: unescape cs := by
  refine unescape.eq_2 c cs fun rest hc hcs => h ⟨hc, ?_⟩
  rw [hcs, List.head?_cons]

theorem escape_cons (h : c ≠ '"') : escape (c :: cs) = c :: escape cs := by
  rw [escape, if_neg h]

theorem escape_quote : escape ('"' :: cs) = '\\' :: '"' :: escape cs := by
  simp [escape]

theorem head_escape_ne_quote : (escape cs).head? ≠ some '"' := by
  cases cs with
  | nil => simp [escape]
  | cons c cs =>
      by_cases h : c = '"'
      · simp [h, escape_quote]
      · simp [escape_cons h, h]

/-- Protecting the quotes of a text can be undone. -/
theorem unescape_escape (cs : List Char) : unescape (escape cs) = cs := by
  induction cs with
  | nil => rfl
  | cons c cs ih =>
      by_cases h : c = '"'
      · rw [h, escape_quote, unescape_quote, ih]
      · rw [escape_cons h, unescape_cons fun h' => head_escape_ne_quote h'.2, ih]

/-- The inside of a literal stands before a quote, and it is found before any other quote too. It
does not begin with a quote itself. -/
theorem literalBody_sound (h : literalBody? cs = some body) :
    (∃ rest, cs = body ++ '"' :: rest) ∧ body.head? ≠ some '"' ∧
      ∀ rest, literalBody? (body ++ '"' :: rest) = some body := by
  induction cs using literalBody?.induct generalizing body with
  | case1 => simp [literalBody?] at h
  | case2 => simp [literalBody?] at h
  | case3 c cs ih =>
      rw [literalBody_escaped] at h
      obtain ⟨body, hbody, rfl⟩ := Option.map_eq_some_iff.1 h
      obtain ⟨⟨rest, rfl⟩, -, hall⟩ := ih hbody
      refine ⟨⟨rest, rfl⟩, by simp, fun rest' => ?_⟩
      rw [List.cons_append, List.cons_append, literalBody_escaped, hall, Option.map_some]
  | case4 cs _ _ =>
      rw [literalBody_quote, Option.some.injEq] at h
      subst h
      exact ⟨⟨cs, rfl⟩, by simp, fun rest => literalBody_quote⟩
  | case5 c cs hlone hpair hquote ih =>
      have hslash := ne_backslash hlone hpair
      rw [literalBody_plain hslash hquote] at h
      obtain ⟨body, hbody, rfl⟩ := Option.map_eq_some_iff.1 h
      obtain ⟨⟨rest, rfl⟩, -, hall⟩ := ih hbody
      refine ⟨⟨rest, rfl⟩, by simpa using hquote, fun rest' => ?_⟩
      rw [List.cons_append, literalBody_plain hslash hquote, hall, Option.map_some]

/-- In the inside of a literal every quote is protected, so protecting the quotes of its text
gives it back. -/
theorem escape_unescape (h : literalBody? cs = some body) : escape (unescape body) = body := by
  induction cs using literalBody?.induct generalizing body with
  | case1 => simp [literalBody?] at h
  | case2 => simp [literalBody?] at h
  | case3 c cs ih =>
      rw [literalBody_escaped] at h
      obtain ⟨body, hbody, rfl⟩ := Option.map_eq_some_iff.1 h
      by_cases hquote : c = '"'
      · rw [hquote, unescape_quote, escape_quote, ih hbody]
      · have hhead := (literalBody_sound hbody).2.1
        rw [unescape_cons (by simpa using hquote), unescape_cons fun h' => hhead h'.2,
          escape_cons (by decide), escape_cons hquote, ih hbody]
  | case4 cs _ _ =>
      rw [literalBody_quote, Option.some.injEq] at h
      subst h
      rfl
  | case5 c cs hlone hpair hquote ih =>
      have hslash := ne_backslash hlone hpair
      rw [literalBody_plain hslash hquote] at h
      obtain ⟨body, hbody, rfl⟩ := Option.map_eq_some_iff.1 h
      rw [unescape_cons fun h' => hslash h'.1, escape_cons hquote, ih hbody]

end Literal

end Scan

/-! ## One token -/

/-- The mode in which a scan finds tokens of a kind. -/
def TokenKind.mode : TokenKind → Mode
  | .close | .word | .separator | .literal => .tag
  | _ => .text

namespace Token

open Scan

/-- The characters that make a token. -/
def raw (t : Token) : List Char :=
  match t.kind with
  | .comment => Node.tag ['!'] t.text.toList
  | .literal => '"' :: Node.escape t.text.toList ++ ['"']
  | _ => t.text.toList

theorem raw_congr {t u : Token} (hsymbol : t.symbol = u.symbol) : t.raw = u.raw := by
  unfold raw
  rw [kind_eq_of_symbol hsymbol, text_eq_of_symbol hsymbol]

/-- What a scan finds where a token stands. -/
def lexeme (t : Token) : Lexeme :=
  ⟨t.kind, t.text.toList, t.raw⟩

/-- Whether a token has a text that tokens of its kind can have. -/
def Fits (t : Token) : Prop :=
  match t.kind with
  | .content => t.text.toList ≠ [] ∧ beforeTwice '\x7b' t.text.toList = (t.text.toList, [])
  | .comment =>
    beforeTwice '\x7d' t.text.toList = (t.text.toList, []) ∧ t.text.toList.getLast? ≠ some '\x7d'
  | .openValue => t.text = "\x7b\x7b"
  | .openBlock => t.text = "\x7b\x7b#"
  | .openEnd => t.text = "\x7b\x7b/"
  | .openInverse => t.text = "\x7b\x7b^"
  | .openPartial => t.text = "\x7b\x7b>"
  | .close => t.text = "\x7d\x7d"
  | .word =>
    t.text = Path.parentSegment ∨ t.text.toList ≠ [] ∧ ∀ c ∈ t.text.toList, Text.isWordChar c
  | .separator => t.text = "/" ∨ t.text = "."
  | .literal =>
    literalBody? (Node.escape t.text.toList ++ ['"']) = some (Node.escape t.text.toList)
  | .eof => False

theorem Fits.congr {t u : Token} (h : t.Fits) (hsymbol : t.symbol = u.symbol) : u.Fits := by
  unfold Fits at *
  rwa [← kind_eq_of_symbol hsymbol, ← text_eq_of_symbol hsymbol]

/-- The marks that tell the other openings from that of an insertion. -/
def marks : List Char := ['!', '#', '/', '^', '>']

/-- Whether a token ends where it does when the given text comes after it. -/
def Before (t : Token) (rest : List Char) : Prop :=
  match t.kind with
  | .content =>
    rest = [] ∨ ∃ cs, rest = '\x7b' :: '\x7b' :: cs ∧ t.text.toList.getLast? ≠ some '\x7b'
  | .openValue => ∀ c ∈ rest.head?, c ∉ marks
  | .word => t.text = Path.parentSegment ∨ ∀ c ∈ rest.head?, Text.isWordChar c = false
  | .separator => t.text = "/" ∨ rest.head? ≠ some '.'
  | _ => True

end Token

namespace Scan

open Token

theorem lexemeInText_comment {body : List Char} (rest : List Char)
    (h : beforeTwice '\x7d' (body ++ '\x7d' :: '\x7d' :: rest) = (body, '\x7d' :: '\x7d' :: rest)) :
    lexemeInText ('\x7b' :: '\x7b' :: '!' :: (body ++ '\x7d' :: '\x7d' :: rest)) =
      some ⟨.comment, body, Node.tag ['!'] body⟩ := by
  simp [lexemeInText, h, Node.tag]

theorem lexemeInText_openValue {rest : List Char} (h : ∀ c ∈ rest.head?, c ∉ marks) :
    lexemeInText ('\x7b' :: '\x7b' :: rest) =
      some ⟨.openValue, ['\x7b', '\x7b'], ['\x7b', '\x7b']⟩ := by
  cases rest with
  | nil => rfl
  | cons c rest =>
      have hc : c ∉ marks := h c rfl
      simp only [marks, List.mem_cons, List.not_mem_nil, or_false, not_or] at hc
      simp [lexemeInText, hc]

theorem lexemeInText_content {c : Char} {cs : List Char}
    (h : ¬ (c = '\x7b' ∧ cs.head? = some '\x7b')) :
    lexemeInText (c :: cs) = some ⟨.content, (beforeTwice '\x7b' (c :: cs)).1,
      (beforeTwice '\x7b' (c :: cs)).1⟩ := by
  have hopen : ∀ ds, c = '\x7b' → cs = '\x7b' :: ds → False := by
    intro ds hc hcs
    exact h ⟨hc, by rw [hcs, List.head?_cons]⟩
  rw [lexemeInText.eq_7 _ _ (fun _ => hopen _) (fun _ => hopen _) (fun _ => hopen _)
    (fun _ => hopen _) (fun _ => hopen _) hopen]
  simp [beforeTwice_cons h]

theorem lexemeInTag_word {c : Char} {cs : List Char} (h : Text.isWordChar c = true) :
    lexemeInTag (c :: cs) = some ⟨.word, c :: cs.takeWhile Text.isWordChar,
      c :: cs.takeWhile Text.isWordChar⟩ := by
  have hne : ∀ d, Text.isWordChar d = false → c ≠ d := by
    rintro d hd rfl
    rw [h] at hd
    cases hd
  have hbrace := hne '\x7d' (by decide)
  have hdot := hne '.' (by decide)
  have hquote := hne '"' (by decide)
  have hslash := hne '/' (by decide)
  rw [lexemeInTag.eq_4 _ _ (by simp [hbrace]) (by simp [hdot]) (by simp [hquote]),
    if_neg (by simp [hslash, hdot]), if_pos h]

theorem lexemeInTag_dot {rest : List Char} (h : rest.head? ≠ some '.') :
    lexemeInTag ('.' :: rest) = some ⟨.separator, ['.'], ['.']⟩ := by
  rw [lexemeInTag.eq_4 _ _ (by simp) ?_ (by simp), if_pos (.inr rfl)]
  rintro rest' - rfl
  exact h rfl

/-- A scan finds the tokens that fit. -/
theorem lexeme_of_fits {t : Token} {rest : List Char} (hfits : t.Fits) (hbefore : t.Before rest) :
    lexeme? t.kind.mode (t.raw ++ rest) = some t.lexeme := by
  rcases t with ⟨kind, text, p⟩
  cases kind with
  | content =>
      obtain ⟨hne, hlacks⟩ := hfits
      have hbody : beforeTwice '\x7b' (text.toList ++ rest) = (text.toList, rest) := by
        rcases hbefore with rfl | ⟨rest, rfl, hlast⟩
        · rw [List.append_nil, hlacks]
        · exact beforeTwice_found_iff.2 ⟨hlacks, hlast⟩
      obtain ⟨c, cs, hcs⟩ := List.exists_cons_of_ne_nil hne
      have hopen : ¬ (c = '\x7b' ∧ (cs ++ rest).head? = some '\x7b') := by
        intro hopen
        rw [hcs, List.cons_append, beforeTwice, if_pos hopen] at hbody
        simp at hbody
      show lexemeInText (text.toList ++ rest) = some ⟨.content, text.toList, text.toList⟩
      rw [hcs] at hbody ⊢
      rw [List.cons_append, lexemeInText_content hopen, ← List.cons_append, hbody]
  | comment =>
      show lexemeInText (Node.tag ['!'] text.toList ++ rest) = _
      simpa [Token.raw, Token.lexeme, Node.tag] using
        lexemeInText_comment rest (beforeTwice_found_iff.2 hfits)
  | openValue =>
      cases (show text = _ from hfits)
      simpa [Token.raw, Token.lexeme, TokenKind.mode, lexeme?] using lexemeInText_openValue hbefore
  | openBlock | openEnd | openInverse | openPartial | close =>
      cases (show text = _ from hfits)
      simp [Token.raw, Token.lexeme, TokenKind.mode, lexeme?, lexemeInText, lexemeInTag]
  | word =>
      show lexemeInTag (text.toList ++ rest) = some ⟨.word, text.toList, text.toList⟩
      rcases hfits with rfl | ⟨hne, hall⟩
      · simp [Path.parentSegment, lexemeInTag]
      · have htake : text.toList.takeWhile Text.isWordChar = text.toList :=
          List.takeWhile_eq_self_iff.2 hall
        have hend : rest.takeWhile Text.isWordChar = [] := by
          rcases hbefore with rfl | hbefore
          · exact absurd (hall '.' (by simp [Path.parentSegment])) (by decide)
          · cases rest with
            | nil => rfl
            | cons c rest => rw [List.takeWhile_cons_of_neg (by simp [hbefore c rfl])]
        obtain ⟨c, cs, hcs⟩ := List.exists_cons_of_ne_nil hne
        rw [hcs] at hall htake ⊢
        rw [List.takeWhile_cons_of_pos (hall c (by simp)), List.cons.injEq] at htake
        rw [List.cons_append, lexemeInTag_word (hall c (by simp)), List.takeWhile_append,
          htake.2, hend]
        simp
  | separator =>
      rcases hfits with rfl | rfl
      · simp [Token.raw, Token.lexeme, TokenKind.mode, lexeme?, lexemeInTag]
      · rcases hbefore with hbefore | hbefore
        · exact absurd hbefore (show ¬ "." = "/" by decide)
        · simpa [Token.raw, Token.lexeme, TokenKind.mode, lexeme?] using lexemeInTag_dot hbefore
  | literal =>
      obtain ⟨-, -, hall⟩ := literalBody_sound hfits
      show lexemeInTag ('"' :: Node.escape text.toList ++ ['"'] ++ rest) = _
      simp [lexemeInTag, hall, Token.lexeme, Token.raw, unescape_escape]
  | eof => exact hfits.elim

/-- Whether a lexeme is that of a token that fits, stands at the start of the text, and ends where
it does. -/
def Found (mode : Mode) (cs : List Char) (l : Lexeme) : Prop :=
  ∃ (t : Token) (rest : List Char), l = t.lexeme ∧ cs = t.raw ++ rest ∧ t.kind.mode = mode ∧
    t.Fits ∧ t.Before rest

theorem found_comment {cs : List Char} {l : Lexeme}
    (h : (let (body, rest) := beforeTwice '\x7d' cs
      if rest.isEmpty then none
      else some ⟨.comment, body, ['\x7b', '\x7b', '!'] ++ body ++ ['\x7d', '\x7d']⟩) = some l) :
    Found .text ('\x7b' :: '\x7b' :: '!' :: cs) l := by
  rcases hbody : beforeTwice '\x7d' cs with ⟨body, rest⟩
  have hcs := beforeTwice_append '\x7d' cs
  have hrest := beforeTwice_rest '\x7d' cs
  simp only [hbody] at h hcs hrest
  subst hcs
  rcases hrest with rfl | ⟨rest, rfl⟩
  · simp at h
  · rw [List.isEmpty_cons, if_neg (by decide), Option.some.injEq] at h
    subst h
    refine ⟨⟨.comment, String.ofList body, {}⟩, rest, ?_, ?_, rfl, ?_, trivial⟩
    · simp [Token.lexeme, Token.raw, Node.tag]
    · simp [Token.raw, Node.tag]
    · simp only [Token.Fits, String.toList_ofList]
      exact beforeTwice_found_iff.1 hbody

theorem found_content {c : Char} {cs : List Char} {l : Lexeme}
    (hc : ¬ (c = '\x7b' ∧ cs.head? = some '\x7b'))
    (h : (let body := (beforeTwice '\x7b' (c :: cs)).1
      if body.isEmpty then none else some ⟨.content, body, body⟩) = some l) :
    Found .text (c :: cs) l := by
  rcases hbody : beforeTwice '\x7b' (c :: cs) with ⟨body, rest⟩
  have hcs := beforeTwice_append '\x7b' (c :: cs)
  have hrest := beforeTwice_rest '\x7b' (c :: cs)
  simp only [hbody] at h hcs hrest
  have hne : body ≠ [] := by
    rintro rfl
    rw [beforeTwice_cons hc] at hbody
    simp at hbody
  rw [if_neg (by simpa using hne), Option.some.injEq] at h
  subst h
  rw [← hcs] at hbody
  refine ⟨⟨.content, String.ofList body, {}⟩, rest, ?_, ?_, rfl, ?_, ?_⟩
  · simp [Token.lexeme, Token.raw]
  · simp [Token.raw, hcs]
  · simp only [Token.Fits, String.toList_ofList]
    rcases hrest with rfl | ⟨rest, rfl⟩
    · rw [List.append_nil] at hbody
      exact ⟨hne, hbody⟩
    · exact ⟨hne, (beforeTwice_found_iff.1 hbody).1⟩
  · simp only [Token.Before, String.toList_ofList]
    rcases hrest with rfl | ⟨rest, rfl⟩
    · exact .inl rfl
    · exact .inr ⟨rest, rfl, (beforeTwice_found_iff.1 hbody).2⟩

theorem lexemeInText_sound {cs : List Char} {l : Lexeme} (h : lexemeInText cs = some l) :
    Found .text cs l := by
  unfold lexemeInText at h
  split at h
  · exact found_comment h
  · cases h
    exact ⟨⟨.openBlock, "\x7b\x7b#", {}⟩, _, rfl, rfl, rfl, rfl, trivial⟩
  · cases h
    exact ⟨⟨.openEnd, "\x7b\x7b/", {}⟩, _, rfl, rfl, rfl, rfl, trivial⟩
  · cases h
    exact ⟨⟨.openInverse, "\x7b\x7b^", {}⟩, _, rfl, rfl, rfl, rfl, trivial⟩
  · cases h
    exact ⟨⟨.openPartial, "\x7b\x7b>", {}⟩, _, rfl, rfl, rfl, rfl, trivial⟩
  · rename_i cs _ _ _ _ _
    cases h
    refine ⟨⟨.openValue, "\x7b\x7b", {}⟩, cs, rfl, rfl, rfl, rfl, ?_⟩
    intro c hc
    obtain ⟨cs, rfl⟩ := List.head?_eq_some_iff.1 hc
    simp only [marks, List.mem_cons, List.not_mem_nil, or_false]
    rintro (rfl | rfl | rfl | rfl | rfl) <;> simp_all
  · rename_i c cs _ _ _ _ _ hopen
    have hc : ¬ (c = '\x7b' ∧ cs.head? = some '\x7b') := by
      rintro ⟨hc, hhead⟩
      obtain ⟨cs, rfl⟩ := List.head?_eq_some_iff.1 hhead
      exact hopen cs hc rfl
    exact found_content hc h
  · cases h

theorem lexemeInTag_sound {cs : List Char} {l : Lexeme} (h : lexemeInTag cs = some l) :
    Found .tag cs l := by
  unfold lexemeInTag at h
  split at h
  · cases h
    exact ⟨⟨.close, "\x7d\x7d", {}⟩, _, rfl, rfl, rfl, rfl, trivial⟩
  · cases h
    exact ⟨⟨.word, "..", {}⟩, _, rfl, rfl, rfl, .inl rfl, .inl rfl⟩
  · obtain ⟨body, hbody, rfl⟩ := Option.map_eq_some_iff.1 h
    obtain ⟨⟨rest, rfl⟩, -, hall⟩ := literalBody_sound hbody
    have hescape := escape_unescape hbody
    refine ⟨⟨.literal, String.ofList (unescape body), {}⟩, rest, ?_, ?_, rfl, ?_, trivial⟩
    · simp [Token.lexeme, Token.raw, hescape]
    · simp [Token.raw, hescape]
    · simp only [Token.Fits, String.toList_ofList, hescape]
      exact hall []
  · rename_i c cs _ hdots _
    by_cases hseparator : c = '/' ∨ c = '.'
    · rw [if_pos hseparator, Option.some.injEq] at h
      subst h
      refine ⟨⟨.separator, String.ofList [c], {}⟩, cs, ?_, ?_, rfl, ?_, ?_⟩
      · simp [Token.lexeme, Token.raw]
      · simp [Token.raw]
      · rcases hseparator with rfl | rfl
        · exact .inl rfl
        · exact .inr rfl
      · rcases hseparator with rfl | rfl
        · exact .inl rfl
        · refine .inr fun hhead => ?_
          obtain ⟨cs, rfl⟩ := List.head?_eq_some_iff.1 hhead
          exact hdots cs rfl rfl
    · rw [if_neg hseparator] at h
      by_cases hword : Text.isWordChar c = true
      · rw [if_pos hword, Option.some.injEq] at h
        subst h
        refine ⟨⟨.word, String.ofList (c :: cs.takeWhile Text.isWordChar), {}⟩,
          cs.dropWhile Text.isWordChar, ?_, ?_, rfl, .inr ?_, .inr ?_⟩
        · simp [Token.lexeme, Token.raw]
        · simp [Token.raw]
        · rw [String.toList_ofList]
          refine ⟨by simp, List.forall_mem_cons.2 ⟨hword, fun c' hc' => ?_⟩⟩
          exact List.mem_takeWhile_imp hc'
        · intro c' hc'
          have := List.head?_dropWhile_not Text.isWordChar cs
          rw [hc'] at this
          simpa using this
      · rw [if_neg hword] at h
        cases h
  · cases h

/-- What one step of a scan finds. -/
theorem lexeme_eq_some_iff {mode : Mode} {cs : List Char} {l : Lexeme} :
    lexeme? mode cs = some l ↔ Found mode cs l := by
  constructor
  · intro h
    cases mode with
    | text => exact lexemeInText_sound h
    | tag => exact lexemeInTag_sound h
  · rintro ⟨t, rest, rfl, rfl, rfl, hfits, hbefore⟩
    exact lexeme_of_fits hfits hbefore

/-- A scan goes on behind the lexeme that it finds. -/
theorem run_of_lexeme {mode : Mode} {cs : List Char} {l : Lexeme} (p : Position)
    (h : lexeme? mode (cs.drop (blanks mode cs).length) = some l) :
    run mode p cs =
      let start := p.advance (blanks mode cs)
      let after := run (modeAfter mode l.kind) (start.advance l.raw)
        ((cs.drop (blanks mode cs).length).drop l.raw.length)
      { after with tokens := ⟨l.kind, String.ofList l.text, start⟩ :: after.tokens } := by
  have hcs : cs ≠ [] := by
    rintro rfl
    cases mode with
    | text => cases h
    | tag => cases h
  rw [run.eq_def, dif_neg hcs]
  dsimp only
  split
  · rename_i h'
    rw [h] at h'
    cases h'
  · rename_i h'
    rw [h, Option.some.injEq] at h'
    subst h'
    rfl

/-- A scan that finds no lexeme has no tokens. -/
theorem tokens_of_no_lexeme {mode : Mode} {cs : List Char} (hcs : cs ≠ []) (p : Position)
    (h : lexeme? mode (cs.drop (blanks mode cs).length) = none) : (run mode p cs).tokens = [] := by
  rw [run.eq_def, dif_neg hcs]
  dsimp only
  split
  · rfl
  · rename_i h'
    rw [h] at h'
    cases h'

end Scan

end Templating
