import Templating.Proofs.Lexeme

/-!
# Backslashes in string literals

Printing a string protects its quotes with a backslash and leaves its backslashes as they are, while
the scan lets a backslash protect whatever comes after it. So a printed string is read up to its own
closing quote just when the backslashes before a quote and at the end come in pairs
(`Scan.literalBody_escape_iff`), and this alone decides whether a scan inside a tag finds the string
again and goes on right behind it (`Scan.run_print_literal_iff`).
-/

namespace Templating

namespace Text

/-- Whether every longest run of backslashes that stands before a quote or at the end has an even
length. -/
def BalancedBackslashes (cs : List Char) : Prop :=
  ∀ before n after, cs = before ++ (List.replicate n '\\' ++ after) → before.getLast? ≠ some '\\' →
    (∀ c ∈ after.head?, c = '"') → n % 2 = 0

namespace BalancedBackslashes

variable {c : Char} {cs : List Char}

theorem nil : BalancedBackslashes [] := by
  intro before n after h _ _
  simp only [List.nil_eq, List.append_eq_nil_iff, List.replicate_eq_nil_iff] at h
  rw [h.2.1]

/-- A single backslash before a quote or at the end is out of balance. -/
theorem not_single (hcs : ∀ c ∈ cs.head?, c = '"') : ¬ BalancedBackslashes ('\\' :: cs) := by
  intro h
  have : 1 % 2 = 0 := h [] 1 cs rfl (by simp) hcs
  cases this

/-- No run begins with another character. -/
theorem cons_iff (hc : c ≠ '\\') : BalancedBackslashes (c :: cs) ↔ BalancedBackslashes cs := by
  constructor
  · intro h before n after hcs hlast hafter
    refine h (c :: before) n after (by rw [hcs, List.cons_append]) ?_ hafter
    cases before with
    | nil => simpa using hc
    | cons b before => simpa using hlast
  · intro h before n after hcs hlast hafter
    match before, n with
    | [], 0 => rfl
    | [], n + 1 => simp [List.replicate_succ, hc] at hcs
    | b :: before, n =>
        rw [List.cons_append, List.cons.injEq] at hcs
        refine h before n after hcs.2 ?_ hafter
        cases before with
        | nil => simp
        | cons b' before => simpa using hlast

/-- A backslash and what it protects leave the balance as it is, unless that is a quote. -/
theorem pair_iff (hc : c ≠ '"') :
    BalancedBackslashes ('\\' :: c :: cs) ↔ BalancedBackslashes cs := by
  constructor
  · intro h before n after hcs hlast hafter
    by_cases hrun : before = [] ∧ c = '\\'
    · obtain ⟨rfl, rfl⟩ := hrun
      have := h [] (n + 2) after (by simp [List.replicate_succ, hcs]) (by simp) hafter
      omega
    · refine h ('\\' :: c :: before) n after (by simp [hcs]) ?_ hafter
      cases before with
      | nil => simpa using hrun
      | cons b before => simpa using hlast
  · intro h before n after hcs hlast hafter
    match before, n with
    | [], 0 => rfl
    | [], 1 =>
        obtain rfl : c :: cs = after := by simpa using hcs
        exact absurd (hafter c rfl) hc
    | [], n + 2 =>
        simp only [List.replicate_succ, List.nil_append, List.cons_append, List.cons.injEq] at hcs
        have := h [] n after hcs.2.2 (by simp) hafter
        omega
    | [b], n =>
        obtain ⟨rfl, -⟩ := List.cons.inj hcs
        exact absurd rfl hlast
    | b :: b' :: before, n =>
        simp only [List.cons_append, List.cons.injEq] at hcs
        refine h before n after hcs.2.2 ?_ hafter
        cases before with
        | nil => simp
        | cons b'' before => simpa using hlast

end BalancedBackslashes

end Text

namespace Scan

open Node (escape)
open Text (BalancedBackslashes)

/-- A string is read again from its printed form just when its backslashes are balanced. The
recursion takes a backslash and what it protects together, as the scan does. -/
theorem literalBody_escape_iff (rest : List Char) : (cs : List Char) →
    (literalBody? (escape cs ++ '"' :: rest) = some (escape cs) ↔ BalancedBackslashes cs)
  | [] => by simpa [escape, literalBody_quote] using BalancedBackslashes.nil
  | c :: cs => by
      by_cases hslash : c = '\\'
      · subst hslash
        rw [escape_cons (by decide), List.cons_append]
        match cs with
        | [] =>
            have hnot : ¬ BalancedBackslashes ['\\'] := BalancedBackslashes.not_single (by simp)
            simp [escape, literalBody_escaped, hnot]
        | c :: cs =>
            by_cases hquote : c = '"'
            · subst hquote
              have hnot : ¬ BalancedBackslashes ('\\' :: '"' :: cs) :=
                BalancedBackslashes.not_single (by simp)
              simp [escape_quote, literalBody_escaped, literalBody_quote, hnot]
            · rw [BalancedBackslashes.pair_iff hquote, ← literalBody_escape_iff rest cs,
                escape_cons hquote]
              simp [literalBody_escaped]
      · rw [BalancedBackslashes.cons_iff hslash, ← literalBody_escape_iff rest cs]
        by_cases hquote : c = '"'
        · rw [hquote, escape_quote]
          simp [literalBody_escaped]
        · rw [escape_cons hquote]
          simp [literalBody_plain hslash hquote]

/-- A literal fits just when its backslashes are balanced. -/
theorem fits_literal_iff {t : Token} (h : t.kind = .literal) :
    t.Fits ↔ BalancedBackslashes t.text.toList := by
  rw [Token.Fits, h]
  exact literalBody_escape_iff [] t.text.toList

/-- **A string survives printing just when its backslashes are balanced.** Every string can be
printed; and whatever follows its printed text, a scan inside a tag takes a literal with that string
from there and goes on right behind the printed text if and only if every longest run of backslashes
before a quote or at the end has an even length. -/
theorem run_print_literal_iff (value : String) :
    ∃ text, (Node.literal value).print = .ok text ∧ ∀ (p : Position) (rest : List Char),
      let after := run .tag (p.advance text.toList) rest
      run .tag p (text.toList ++ rest) =
          { after with tokens := ⟨.literal, value, p⟩ :: after.tokens } ↔
        BalancedBackslashes value.toList := by
  let t : Token := ⟨.literal, value, {}⟩
  refine ⟨String.ofList t.raw, rfl, fun p rest => ?_⟩
  rw [String.toList_ofList]
  -- The text begins with a quote, so that no blanks are skipped.
  have hblanks : blanks .tag (t.raw ++ rest) = [] := by
    have hquote : Text.isBlank '"' = false := by decide
    simp [blanks, Token.raw, t, hquote]
  have hhere : (t.raw ++ rest).drop (blanks .tag (t.raw ++ rest)).length = t.raw ++ rest := by
    rw [hblanks, List.length_nil, List.drop_zero]
  constructor
  · intro hrun
    have htokens := congrArg Scan.tokens hrun
    cases hlexeme : lexeme? .tag (t.raw ++ rest) with
    | none =>
        rw [tokens_of_no_lexeme (by simp [Token.raw, t]) p (hhere.symm ▸ hlexeme)] at htokens
        cases htokens
    | some l =>
        rw [run_of_lexeme p (hhere.symm ▸ hlexeme)] at htokens
        obtain ⟨u, left, rfl, -, -, hfits, -⟩ := lexeme_eq_some_iff.1 hlexeme
        have hfirst := (List.cons.inj htokens).1
        simp only [Token.lexeme, String.ofList_toList, Token.mk.injEq] at hfirst
        obtain ⟨hkind, rfl, -⟩ := hfirst
        exact (fits_literal_iff hkind).1 hfits
  · intro hbalanced
    have hfits : t.Fits := (fits_literal_iff rfl).2 hbalanced
    have hlexeme : lexeme? .tag (t.raw ++ rest) = some t.lexeme := lexeme_of_fits hfits trivial
    rw [run_of_lexeme p (hhere.symm ▸ hlexeme), hhere, hblanks]
    simp [Token.lexeme, t, modeAfter, TokenKind.isOpener]

end Scan

end Templating
