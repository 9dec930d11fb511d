import Mathlib.Computability.RegularExpressions
import Templating.Proofs.Layout
import Templating.Token.Report

/-!
# The kinds of tokens in a row

The kinds of the tokens of a scan make a word of a regular language: texts, comments and whole tags
in any order, and an end token behind them if the scan came to the end of the template. A scan that
halts has found the beginning of such a word. The two modes of the scanner are the two states in
which a word can be broken off, and `TokenKind.completion` is what can still come in each of them:
every token that is taken leads from one state to the other (`TokenKind.cons_mem_completion`), so
that what completes the tokens of a scan makes whole tags of them (`Takes.append_mem_completion`).
-/

namespace Templating

open Token Scan

/-- One more word in front of words in a row. -/
theorem append_mem_star {α : Type} {r : RegularExpression α} {xs ys : List α}
    (hxs : xs ∈ r.matches') (hys : ys ∈ r.star.matches') : xs ++ ys ∈ r.star.matches' := by
  rw [RegularExpression.matches'_star, Language.mem_kstar] at hys ⊢
  obtain ⟨words, rfl, hwords⟩ := hys
  exact ⟨xs :: words, rfl, List.forall_mem_cons.2 ⟨hxs, hwords⟩⟩

/-! ## The language of kinds -/

namespace TokenKind

open RegularExpression (char)

/-- What begins a tag. -/
def opener : RegularExpression TokenKind :=
  char .openValue + char .openBlock + char .openEnd + char .openInverse + char .openPartial

/-- What stands inside a tag. -/
def part : RegularExpression TokenKind :=
  char .word + char .separator + char .literal

/-- A text, a comment or a whole tag. -/
def piece : RegularExpression TokenKind :=
  char .content + char .comment + opener * part.star * char .close

/-- What completes a row of pieces that is broken off outside or inside a tag. -/
def completion : Mode → RegularExpression TokenKind
  | .text => piece.star
  | .tag => part.star * char .close * piece.star

variable {k : TokenKind} {ks : List TokenKind}

theorem mem_char : ks ∈ (char k).matches' ↔ ks = [k] :=
  Iff.rfl

theorem mem_opener (h : k.isOpener = true) : [k] ∈ opener.matches' := by
  simp only [opener, RegularExpression.matches'_add, Language.mem_add, mem_char]
  cases k with
  | openValue | openBlock | openEnd | openInverse | openPartial => simp
  | _ => cases h

/-- Inside a tag stands what neither begins nor ends one. -/
theorem mem_part (hmode : k.mode = .tag) (hclose : k ≠ .close) : [k] ∈ part.matches' := by
  simp only [part, RegularExpression.matches'_add, Language.mem_add, mem_char]
  cases k with
  | word | separator | literal => simp
  | close => exact absurd rfl hclose
  | _ => cases hmode

/-- What completes a row inside a tag completes the rest of the tag, and then the row. -/
theorem mem_completion_tag :
    ks ∈ (completion .tag).matches' ↔
      ∃ parts ∈ part.star.matches', ∃ rest ∈ (completion .text).matches',
        ks = parts ++ .close :: rest := by
  simp only [completion, RegularExpression.matches'_mul, RegularExpression.matches'_char,
    Language.mem_mul]
  constructor
  · rintro ⟨_, ⟨parts, hparts, _, rfl, rfl⟩, rest, hrest, rfl⟩
    exact ⟨parts, hparts, rest, hrest, by simp⟩
  · rintro ⟨parts, hparts, rest, hrest, rfl⟩
    exact ⟨_, ⟨parts, hparts, _, rfl, rfl⟩, rest, hrest, by simp⟩

/-- A text and a comment are pieces. -/
theorem single_mem_piece (h : k = .content ∨ k = .comment) : [k] ∈ piece.matches' := by
  simp only [piece, RegularExpression.matches'_add, Language.mem_add, mem_char]
  rcases h with rfl | rfl
  · exact .inl (.inl rfl)
  · exact .inl (.inr rfl)

/-- A whole tag is a piece. -/
theorem tag_mem_piece {parts : List TokenKind} (hopener : k.isOpener = true)
    (hparts : parts ∈ part.star.matches') : k :: (parts ++ [close]) ∈ piece.matches' := by
  have htag : [k] ++ parts ++ [close] ∈ (opener * part.star * char close).matches' :=
    Language.append_mem_mul (Language.append_mem_mul (mem_opener hopener) hparts) rfl
  rw [piece, RegularExpression.matches'_add, Language.mem_add]
  exact .inr (by simpa using htag)

/-- A kind that a scan finds in a mode leads to what can come in the mode behind it. -/
theorem cons_mem_completion {mode : Mode} (hmode : k.mode = mode) (heof : k ≠ .eof)
    (h : ks ∈ (completion (modeAfter mode k)).matches') :
    k :: ks ∈ (completion mode).matches' := by
  cases mode with
  | text =>
      -- A delimiter joins the parts of its tag to a piece; a text or a comment is one by itself.
      by_cases hopener : k.isOpener = true
      · rw [modeAfter, if_pos hopener, mem_completion_tag] at h
        obtain ⟨parts, hparts, rest, hrest, rfl⟩ := h
        have := append_mem_star (tag_mem_piece hopener hparts) hrest
        simpa [completion] using this
      · cases k with
        | content => exact append_mem_star (single_mem_piece (.inl rfl)) h
        | comment => exact append_mem_star (single_mem_piece (.inr rfl)) h
        | eof => exact absurd rfl heof
        | openValue | openBlock | openEnd | openInverse | openPartial => exact absurd rfl hopener
        | close | word | separator | literal => cases hmode
  | tag =>
      -- The closing delimiter leaves nothing of the tag; other parts come before what is left.
      rw [mem_completion_tag]
      by_cases hclose : k = .close
      · subst hclose
        exact ⟨[], Language.nil_mem_kstar _, ks, h, rfl⟩
      · have hopener : k.isOpener = false := by
          cases k with
          | openValue | openBlock | openEnd | openInverse | openPartial => cases hmode
          | _ => rfl
        simp only [modeAfter, hopener, hclose, Bool.false_eq_true, if_false] at h
        obtain ⟨parts, hparts, rest, hrest, rfl⟩ := mem_completion_tag.1 h
        exact ⟨k :: parts, append_mem_star (mem_part hmode hclose) hparts, rest, hrest, rfl⟩

/-- A row that is broken off can always be completed, and is not complete by then. -/
theorem exists_completion (mode : Mode) : ∃ ks ≠ [], ks ∈ (completion mode).matches' := by
  have hnil : [] ∈ (completion .text).matches' := Language.nil_mem_kstar _
  cases mode with
  | text => exact ⟨[.comment], by simp, cons_mem_completion rfl (by simp) hnil⟩
  | tag => exact ⟨[.close], by simp, cons_mem_completion rfl (by simp) hnil⟩

end TokenKind

open TokenKind (piece completion)

/-! ## The tokens of a scan -/

namespace Takes

variable {mode final : Mode} {ts : List Token} {cs rest : List Char}

/-- What completes a row where a scan has come to rest completes it together with the tokens of the
scan where the scan began. -/
theorem append_mem_completion (h : Takes mode ts cs final rest) {ks : List TokenKind}
    (hks : ks ∈ (completion final).matches') :
    ts.map (·.kind) ++ ks ∈ (completion mode).matches' := by
  induction h with
  | nil => exact hks
  | @cons mode final t ts _ _ _ hmode _ hfits _ _ ih =>
      exact TokenKind.cons_mem_completion hmode (fun heof => not_fits_of_eof heof hfits) (ih hks)

/-- Every token takes a character. -/
theorem length_le (h : Takes mode ts cs final rest) : ts.length + rest.length ≤ cs.length := by
  induction h with
  | nil => simp
  | @cons _ _ t _ _ _ _ _ _ hfits hbefore _ ih =>
      have hraw : 0 < t.raw.length :=
        List.length_pos_iff.2 (raw_ne_nil (lexeme_of_fits hfits hbefore))
      simp only [List.length_append, List.length_cons]
      omega

end Takes

namespace Scan

/-- The shape of the tokens of a scan, whatever the text. -/
structure Shapely (s : Scan) : Prop where
  /-- A scan that does not halt has found pieces in a row, and one end token behind them. -/
  whole : s.halted = false → ∃ ks ∈ piece.star.matches', s.tokens.map (·.kind) = ks ++ [.eof]
  /-- A scan that halts has found a proper part of such a row from its start, without an end
  token. -/
  broken : s.halted = true → .eof ∉ s.tokens.map (·.kind) ∧
    ∃ ks ≠ [], s.tokens.map (·.kind) ++ ks ∈ piece.star.matches'
  /-- The last token tells whether the scan halted. -/
  getLast_iff : s.tokens.getLast?.map (·.kind) = some .eof ↔ s.halted = false
  /-- A report on the tokens tells so too. -/
  complete_iff : (Report.ofTokens s.tokens).complete = true ↔ s.halted = false
  /-- No text stands behind another one. -/
  apart : s.tokens.IsChain fun t u => ¬ (t.kind = .content ∧ u.kind = .content)
  /-- A text is not empty, and no tag begins in it. -/
  content : ∀ t ∈ s.tokens, t.kind = .content →
    t.text.toList ≠ [] ∧ ¬ ['\x7b', '\x7b'] <:+: t.text.toList
  /-- A word is the two dots, or made of word characters, one at least. -/
  word : ∀ t ∈ s.tokens, t.kind = .word →
    t.text = Path.parentSegment ∨ t.text.toList ≠ [] ∧ ∀ c ∈ t.text.toList, Text.isWordChar c
  /-- A separator is one character. -/
  separator : ∀ t ∈ s.tokens, t.kind = .separator → t.text.toList.length = 1

/-- The end token fits nothing, so a token of a scan that is of another kind fits. -/
theorem fits_of_mem_tokens {s : Scan} {ts : List Token} (hts : s.tokens = ts ++ s.ending)
    (hfits : ∀ t ∈ ts, t.Fits) {t : Token} (ht : t ∈ s.tokens) (heof : t.kind ≠ .eof) :
    t.Fits := by
  rw [hts, List.mem_append] at ht
  rcases ht with ht | ht
  · exact hfits t ht
  · rw [ending] at ht
    split at ht
    · cases ht
    · exact absurd (List.mem_singleton.1 ht ▸ rfl) heof

/-- The last token is the end token just when the scan did not halt. -/
theorem kind_getLast_iff {s : Scan} {ts : List Token} (hts : s.tokens = ts ++ s.ending)
    (hfits : ∀ t ∈ ts, t.Fits) :
    s.tokens.getLast?.map (·.kind) = some .eof ↔ s.halted = false := by
  cases hhalted : s.halted with
  | false => simp [hts, ending, hhalted]
  | true =>
      rw [ending, hhalted, if_pos rfl, List.append_nil] at hts
      constructor
      · intro hlast
        obtain ⟨last, hmem, heof⟩ := Option.map_eq_some_iff.1 hlast
        rw [hts] at hmem
        exact absurd (hfits last (List.mem_of_getLast? hmem)) (not_fits_of_eof heof)
      · intro h
        cases h

/-- No text stands behind another one, also where the end token follows. -/
theorem isChain_tokens {s : Scan} {ts : List Token} (hts : s.tokens = ts ++ s.ending)
    (hseams : ts.IsChain Seam) :
    s.tokens.IsChain fun t u => ¬ (t.kind = .content ∧ u.kind = .content) := by
  rw [hts, List.isChain_append]
  refine ⟨hseams.imp fun t u hseam h => (hseam h.1).1 h.2, ?_, ?_⟩
  · unfold ending
    split
    · exact .nil
    · exact List.isChain_singleton _
  · intro t _ u hu h
    rw [ending] at hu
    split at hu
    · cases hu
    · obtain rfl : _ = u := by simpa using hu
      cases h.2

/-- Tokens that are taken from a text, with the end token behind them if all of it is taken outside
tags. -/
theorem shapely_of_takes {s : Scan} {ts : List Token} {cs rest : List Char}
    (hts : s.tokens = ts ++ s.ending) (htakes : Takes .text ts cs s.mode rest)
    (hend : s.halted = false → s.mode = .text) : s.Shapely := by
  have hfits := htakes.fits
  have hmem : ∀ t ∈ s.tokens, t.kind ≠ .eof → t.Fits := fun t => fits_of_mem_tokens hts hfits
  have hlast := kind_getLast_iff hts hfits
  refine ⟨?whole, ?broken, hlast, ?complete, isChain_tokens hts htakes.seams, ?content, ?word,
    ?separator⟩
  case whole =>
    intro hhalted
    have hnil : [] ∈ (completion s.mode).matches' := by
      rw [hend hhalted]
      exact Language.nil_mem_kstar _
    refine ⟨ts.map (·.kind), ?_, ?_⟩
    · have := htakes.append_mem_completion hnil
      rwa [List.append_nil] at this
    · simp [hts, ending, hhalted]
  case broken =>
    intro hhalted
    rw [hts, ending, if_pos hhalted, List.append_nil]
    constructor
    · intro heof
      obtain ⟨t, ht, hkind⟩ := List.mem_map.1 heof
      exact not_fits_of_eof hkind (hfits t ht)
    · obtain ⟨ks, hne, hks⟩ := TokenKind.exists_completion s.mode
      exact ⟨ks, hne, htakes.append_mem_completion hks⟩
  case complete =>
    rw [← hlast]
    simp [Report.ofTokens]
  case content =>
    intro t ht hkind
    have := hmem t ht (by simp [hkind])
    simp only [Fits, hkind] at this
    exact ⟨this.1, beforeTwice_eq_self_iff.1 this.2⟩
  case word =>
    intro t ht hkind
    have := hmem t ht (by simp [hkind])
    simpa only [Fits, hkind] using this
  case separator =>
    intro t ht hkind
    have := hmem t ht (by simp [hkind])
    simp only [Fits, hkind] at this
    rcases this with htext | htext
    · rw [htext]; rfl
    · rw [htext]; rfl

/-- **The shape of a token row.** Whatever the text, the tokens of its scan are texts, comments and
whole tags in a row with an end token behind them, or a beginning of such a row if the scan halts;
and there is at most one token more than there are characters. -/
theorem shapely_ofTemplate (template : String) :
    (ofTemplate template).Shapely ∧
      (ofTemplate template).tokens.length ≤ template.length + 1 := by
  obtain ⟨ts, rest, hts, htakes, hend⟩ := takes_run .text {} template.toList
  constructor
  · exact shapely_of_takes hts htakes fun hhalted => (hend hhalted).1
  · have hle := htakes.length_le
    have hending : (run .text {} template.toList).ending.length ≤ 1 := by
      unfold ending
      split <;> simp
    rw [ofTemplate, hts, List.length_append]
    rw [String.length_toList] at hle
    omega

end Scan

end Templating
