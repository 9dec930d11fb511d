import Templating.Proofs.Coverage
import Templating.Proofs.Layout
import Templating.Proofs.Places

/-!
# Blanks inside tags

How many blanks stand between the tokens of a tag, and which, says nothing. A template whose tokens
are written anew with any gap before each token inside a tag, and with nothing before the others, is
read into the same tokens (`Flows.spaced`): a gap ends every token that could have gone on, and is
passed over itself. So it is parsed into the same tree or refused for the same reason
(`Node.ofTemplate_respaced`), although no blank need have stood there before.
-/

namespace Templating

open Token Scan

/-- Blanks between two tokens, one at least. -/
structure Gap where
  blanks : List Char
  nonempty : blanks ≠ []
  areBlank : ∀ c ∈ blanks, Text.isBlank c = true

/-- What is written before a token: the gap inside a tag, and nothing outside. -/
def Gap.before (gap : Gap) (t : Token) : List Char :=
  match t.kind.mode with
  | .text => []
  | .tag => gap.blanks

/-- Tokens written in a row, with gaps before those inside tags. -/
def spaced (gaps : Nat → Gap) : List Token → List Char
  | [] => []
  | t :: ts => (gaps 0).before t ++ (t.raw ++ spaced (fun i => gaps (i + 1)) ts)

/-- A template written anew, token by token. -/
def respaced (gaps : Nat → Gap) (template : String) : String :=
  String.ofList (spaced gaps (Token.ofTemplate template))

namespace Gap

theorem skips_before (gap : Gap) (t : Token) : Skips t.kind.mode (gap.before t) := by
  unfold before
  cases t.kind.mode with
  | text => exact ⟨by simp, fun _ => rfl⟩
  | tag => exact ⟨gap.areBlank, nofun⟩

theorem exists_blank (gap : Gap) : ∃ c cs, gap.blanks = c :: cs ∧ Text.isBlank c = true := by
  obtain ⟨c, cs, hcs⟩ := List.exists_cons_of_ne_nil gap.nonempty
  exact ⟨c, cs, hcs, gap.areBlank c (by simp [hcs])⟩

end Gap

/-- Inside a tag, what is written begins with a blank. -/
theorem Flows.head_spaced {ts : List Token} (h : Flows .tag ts) (gaps : Nat → Gap) :
    ∃ c, (spaced gaps ts).head? = some c ∧ Text.isBlank c = true := by
  cases h with
  | @cons _ t ts hmode _ _ =>
      obtain ⟨c, cs, hcs, hc⟩ := (gaps 0).exists_blank
      refine ⟨c, ?_, hc⟩
      rw [spaced, Gap.before, hmode, hcs]
      rfl

/-- No mark is a blank. -/
theorem Token.isBlank_of_mark {c : Char} (h : c ∈ marks) : Text.isBlank c = false := by
  simp only [marks, List.mem_cons, List.not_mem_nil, or_false] at h
  rcases h with rfl | rfl | rfl | rfl | rfl <;> decide

/-- A token ends where it does before the tokens behind it when there are gaps between them. -/
theorem before_spaced {t : Token} {ts : List Token} (hfits : t.Fits)
    (tail : Flows (modeAfter t.kind.mode t.kind) ts) (hseam : ∀ u ∈ ts.head?, Seam t u)
    (gaps : Nat → Gap) : t.Before (spaced gaps ts) := by
  rcases t with ⟨kind, text, p⟩
  -- Only these four kinds look at what follows; inside a tag that is a blank.
  cases kind with
  | content =>
      cases tail with
      | nil => exact .inl rfl
      | @cons _ u ts hmode hfits' _ =>
          obtain ⟨hcontent, hlast⟩ := hseam u rfl rfl
          obtain ⟨cs, hraw⟩ := exists_raw_braces hmode hcontent hfits'
          refine .inr ⟨cs ++ spaced (fun i => gaps (i + 1)) ts, ?_, hlast⟩
          rw [spaced, Gap.before, hmode, hraw]
          rfl
  | openValue =>
      obtain ⟨c, hhead, hblank⟩ := Flows.head_spaced tail gaps
      show ∀ c ∈ (spaced gaps ts).head?, c ∉ marks
      intro c' hc' hmark
      obtain rfl : c = c' := Option.some.inj (hhead.symm.trans hc')
      rw [isBlank_of_mark hmark] at hblank
      cases hblank
  | word =>
      obtain ⟨c, hhead, hblank⟩ := Flows.head_spaced tail gaps
      refine .inr fun c' hc' => ?_
      obtain rfl : c = c' := Option.some.inj (hhead.symm.trans hc')
      exact Text.isWordChar_of_isBlank hblank
  | separator =>
      obtain ⟨c, hhead, hblank⟩ := Flows.head_spaced tail gaps
      refine .inr fun hdot => ?_
      obtain rfl : c = '.' := Option.some.inj (hhead.symm.trans hdot)
      exact absurd hblank (by decide)
  | _ => trivial

/-- Tokens with seams between them are read from their writing with gaps. -/
theorem Flows.spaced {mode : Mode} {ts : List Token} (h : Flows mode ts) (hseams : ts.IsChain Seam)
    (gaps : Nat → Gap) : Spells mode ts (spaced gaps ts) := by
  induction h generalizing gaps with
  | nil => exact .nil
  | @cons mode t ts hmode hfits tail ih =>
      obtain ⟨hseam, hseams⟩ := List.isChain_cons.1 hseams
      subst hmode
      exact .cons rfl ((gaps 0).skips_before t) hfits (before_spaced hfits tail hseam _)
        (ih hseams _)

/-- The end token writes nothing. -/
theorem spaced_concat_eof {ts : List Token} {last : Token} (hlast : last.kind = .eof)
    (hraw : last.raw = []) (gaps : Nat → Gap) : spaced gaps (ts ++ [last]) = spaced gaps ts := by
  induction ts generalizing gaps with
  | nil => simp [spaced, Gap.before, hlast, hraw, TokenKind.mode]
  | cons t ts ih => rw [List.cons_append, spaced, spaced, ih]

/-- A template that is made of tokens is read into them and an end token. -/
theorem Token.ofTemplate_alike {template : String} {ts : List Token}
    (h : Spells .text ts template.toList) :
    Alike (Token.ofTemplate template) (ts ++ [⟨.eof, "", {}⟩]) := by
  obtain ⟨us, last, hus, hlast, halike⟩ := run_of_spells h {}
  have hraw : last.raw = [] := raw_of_eof last (by rw [hus]; simp) hlast
  have htext : last.text = "" := by simpa [raw, hlast] using hraw
  have hsymbol : last.symbol = (.eof, "") := Prod.ext hlast htext
  rw [Token.ofTemplate, Scan.ofTemplate, hus]
  exact halike.append (.cons hsymbol (.refl []))

/-- A template that is made of tokens is read to its end. -/
theorem Scan.halted_of_spells {template : String} {ts : List Token}
    (h : Spells .text ts template.toList) : (Scan.ofTemplate template).halted = false := by
  obtain ⟨us, last, hus, hlast, -⟩ := run_of_spells h {}
  exact exists_eof_iff.1 ⟨last, by rw [hus]; simp, hlast⟩

namespace Node

/-- **Blanks inside tags say nothing.** A template that can be read to its end may be written anew
with any gaps between the tokens of its tags: it is read to its end again, into tokens that say the
same, and it is parsed into the same tree, or refused with the same error but for its place. -/
theorem ofTemplate_respaced {template : String} (h : (Scan.ofTemplate template).halted = false)
    (gaps : Nat → Gap) :
    (Scan.ofTemplate (respaced gaps template)).halted = false ∧
      Alike (Token.ofTemplate (respaced gaps template)) (Token.ofTemplate template) ∧
        ∀ p, (ofTemplate (respaced gaps template)).mapError (·.placed p) =
          (ofTemplate template).mapError (·.placed p) := by
  obtain ⟨ts, last, hts, hlast, hspells⟩ := spells_of_run h
  have hraw : last.raw = [] := raw_of_eof last (by rw [hts]; simp) hlast
  have hagain : Spells .text ts (respaced gaps template).toList := by
    rw [respaced, String.toList_ofList, Token.ofTemplate, Scan.ofTemplate, hts,
      spaced_concat_eof hlast hraw]
    exact hspells.flows.spaced hspells.seams gaps
  have halike : Alike (Token.ofTemplate (respaced gaps template)) (Token.ofTemplate template) :=
    (Token.ofTemplate_alike hagain).trans (Token.ofTemplate_alike hspells).symm
  exact ⟨halted_of_spells hagain, halike, (parallel_ofTokens halike).mapError_placed⟩

/-- One blank. -/
def oneBlank : Gap where
  blanks := [' ']
  nonempty := by simp
  areBlank := by simp [Text.isBlank]

/-- A line break and a wide blank. -/
def wideGap : Gap where
  blanks := ['\n', '\u3000']
  nonempty := by simp
  areBlank := by simp [Text.isBlank]

/-- An insertion without any blank but that of a literal. -/
def denseTemplate : String := "a\x7b\x7b../b\"c d\"\x7d\x7d"

/-- Gaps of one blank, but for the one before a separator. -/
def mixedGaps (i : Nat) : Gap :=
  if i = 3 then wideGap else oneBlank

theorem ofTemplate_respaced_dense :
    (Scan.ofTemplate denseTemplate).halted = false ∧
      respaced mixedGaps denseTemplate = "a\x7b\x7b ..\n\u3000/ b \"c d\" \x7d\x7d" ∧
      (Scan.ofTemplate (respaced mixedGaps denseTemplate)).halted = false ∧
      Alike (Token.ofTemplate (respaced mixedGaps denseTemplate)) (Token.ofTemplate denseTemplate) ∧
        ∀ p, (ofTemplate (respaced mixedGaps denseTemplate)).mapError (·.placed p) =
          (ofTemplate denseTemplate).mapError (·.placed p) := by
  have hdense : (Scan.ofTemplate denseTemplate).halted = false := by decide +kernel
  exact ⟨hdense, by decide +kernel, ofTemplate_respaced hdense mixedGaps⟩

end Node

end Templating
