import Templating.Proofs.Lexeme
import Templating.Proofs.Parsing

/-!
# How a template is spelled

`Spells mode ts cs` says that the text `cs`, begun in the given mode, is made of the tokens `ts` in
a row, with blanks between them inside tags. These are the tokens of a scan that does not halt
(`Scan.spells_of_run`, `Scan.run_of_spells`), so a template is accepted just when it is made of
tokens that write a program (`Node.ofTemplate_eq_ok_iff`).
-/

namespace Templating

open Token Scan

/-! ## All tokens of a text -/

/-- Characters that a scan passes over before a token. -/
def Skips (mode : Mode) (skipped : List Char) : Prop :=
  (∀ c ∈ skipped, Text.isBlank c = true) ∧ (mode = .text → skipped = [])

/-- Characters that are tokens in a row, for a scan that stands in a given mode and comes to the
end of the text outside tags. -/
inductive Spells : Mode → List Token → List Char → Prop where
  | nil : Spells .text [] []
  | cons {mode : Mode} {t : Token} {ts : List Token} {skipped rest : List Char}
      (hmode : t.kind.mode = mode) (hskip : Skips mode skipped) (hfits : t.Fits)
      (hbefore : t.Before rest) (tail : Spells (modeAfter mode t.kind) ts rest) :
      Spells mode (t :: ts) (skipped ++ (t.raw ++ rest))

/-- Tokens that a scan takes one after another from the start of a text, for a scan that stands in
the mode `mode`: it comes to stand in the mode `final`, with `rest` left of the text. -/
inductive Takes : Mode → List Token → List Char → Mode → List Char → Prop where
  | nil {mode : Mode} {rest : List Char} : Takes mode [] rest mode rest
  | cons {mode final : Mode} {t : Token} {ts : List Token} {skipped cs rest : List Char}
      (hmode : t.kind.mode = mode) (hskip : Skips mode skipped) (hfits : t.Fits)
      (hbefore : t.Before cs) (tail : Takes (modeAfter mode t.kind) ts cs final rest) :
      Takes mode (t :: ts) (skipped ++ (t.raw ++ cs)) final rest

/-- Tokens that are taken up to the end of the text, outside tags. -/
theorem Takes.spells {mode final : Mode} {ts : List Token} {cs rest : List Char}
    (h : Takes mode ts cs final rest) (hfinal : final = .text) (hrest : rest = []) :
    Spells mode ts cs := by
  induction h with
  | nil =>
      subst hfinal hrest
      exact .nil
  | cons hmode hskip hfits hbefore _ ih => exact .cons hmode hskip hfits hbefore (ih hfinal hrest)

theorem Spells.takes {mode : Mode} {ts : List Token} {cs : List Char} (h : Spells mode ts cs) :
    Takes mode ts cs .text [] := by
  induction h with
  | nil => exact .nil
  | cons hmode hskip hfits hbefore _ ih => exact .cons hmode hskip hfits hbefore ih

theorem Takes.fits {mode final : Mode} {ts : List Token} {cs rest : List Char}
    (h : Takes mode ts cs final rest) : ∀ t ∈ ts, t.Fits := by
  induction h with
  | nil => simp
  | cons _ _ hfits _ _ ih => exact List.forall_mem_cons.2 ⟨hfits, ih⟩

theorem skips_blanks (mode : Mode) (cs : List Char) : Skips mode (blanks mode cs) := by
  cases mode with
  | text => exact ⟨by simp [blanks], fun _ => rfl⟩
  | tag => exact ⟨fun c hc => List.mem_takeWhile_imp hc, nofun⟩

theorem blanks_append_drop (mode : Mode) (cs : List Char) :
    blanks mode cs ++ cs.drop (blanks mode cs).length = cs := by
  cases mode with
  | text => rfl
  | tag => exact List.prefix_iff_eq_append.1 (List.takeWhile_prefix _)

/-- No token inside a tag begins with a blank. -/
theorem Token.isBlank_head_raw {t : Token} (hmode : t.kind.mode = .tag) (hfits : t.Fits) :
    ∃ c cs, t.raw = c :: cs ∧ Text.isBlank c = false := by
  rcases t with ⟨kind, text, p⟩
  cases kind with
  | close =>
      cases (show text = _ from hfits)
      exact ⟨'\x7d', ['\x7d'], by simp [raw], by decide⟩
  | word =>
      rcases hfits with rfl | ⟨hne, hall⟩
      · exact ⟨'.', ['.'], by simp [raw, Path.parentSegment], by decide⟩
      · obtain ⟨c, cs, hcs⟩ := List.exists_cons_of_ne_nil hne
        refine ⟨c, cs, hcs, ?_⟩
        rw [Bool.eq_false_iff]
        intro hblank
        have hword := hall c (by simp [hcs])
        rw [Text.isWordChar_of_isBlank hblank] at hword
        cases hword
  | separator =>
      rcases hfits with rfl | rfl
      · exact ⟨'/', [], by simp [raw], by decide⟩
      · exact ⟨'.', [], by simp [raw], by decide⟩
  | literal => exact ⟨'"', _, List.cons_append .., by decide⟩
  | _ => cases hmode

theorem Token.not_fits_of_eof {t : Token} (h : t.kind = .eof) : ¬ t.Fits := by
  simp [Fits, h]

theorem blanks_of_skips {mode : Mode} {t : Token} {skipped : List Char}
    (hskip : Skips mode skipped) (hmode : t.kind.mode = mode) (hfits : t.Fits) (rest : List Char) :
    blanks mode (skipped ++ (t.raw ++ rest)) = skipped := by
  cases mode with
  | text => rw [hskip.2 rfl]; rfl
  | tag =>
      obtain ⟨c, cs, hraw, hc⟩ := isBlank_head_raw hmode hfits
      rw [blanks, List.takeWhile_append_of_pos hskip.1, hraw, List.cons_append,
        List.takeWhile_cons_of_neg (by simp [hc]), List.append_nil]

namespace Scan

theorem run_lexeme {mode : Mode} {cs : List Char} {l : Lexeme} (p : Position)
    (h : lexeme? mode (cs.drop (blanks mode cs).length) = some l) :
    ∃ q, (run mode p cs).tokens = ⟨l.kind, String.ofList l.text, p.advance (blanks mode cs)⟩ ::
      (run (modeAfter mode l.kind) q
        ((cs.drop (blanks mode cs).length).drop l.raw.length)).tokens := by
  refine ⟨(p.advance (blanks mode cs)).advance l.raw, ?_⟩
  rw [run_of_lexeme p h]

/-- What a scan puts behind the tokens that it has found. -/
def ending (s : Scan) : List Token :=
  if s.halted then [] else [⟨.eof, "", s.finish⟩]

/-- A scan takes tokens from the text, all of it if it does not halt. -/
theorem takes_run (mode : Mode) (p : Position) (cs : List Char) :
    ∃ ts rest, (run mode p cs).tokens = ts ++ (run mode p cs).ending ∧
      Takes mode ts cs (run mode p cs).mode rest ∧
        ((run mode p cs).halted = false → (run mode p cs).mode = .text ∧ rest = []) := by
  fun_induction run mode p cs with
  | case1 p => exact ⟨[], [], rfl, .nil, fun _ => ⟨rfl, rfl⟩⟩
  | case2 p => exact ⟨[], [], rfl, .nil, nofun⟩
  | case3 mode p cs => exact ⟨[], cs, rfl, .nil, nofun⟩
  | case4 mode p cs hcs skipped here start l hl _ after ih =>
      obtain ⟨t, left, rfl, hhere, hmode, hfits, hbefore⟩ := lexeme_eq_some_iff.1 hl
      obtain ⟨ts, rest, hts, htakes, hend⟩ := ih
      have hleft : here.drop t.lexeme.raw.length = left := by rw [hhere]; exact List.drop_left
      have htail : Takes (modeAfter mode t.kind) ts left after.mode rest := by
        rw [← hleft]
        exact htakes
      refine ⟨⟨t.kind, t.text, start⟩ :: ts, rest, ?_, ?_, hend⟩
      · show ⟨_, String.ofList t.text.toList, start⟩ :: after.tokens = _
        rw [String.ofList_toList, hts, List.cons_append]
        rfl
      · rw [← blanks_append_drop mode cs]
        show Takes mode _ (skipped ++ here) _ _
        rw [hhere]
        exact .cons (t := ⟨t.kind, t.text, start⟩) hmode (skips_blanks mode cs) hfits hbefore htail

/-- A scan that does not halt has found tokens and the end token after them. -/
theorem spells_of_run {mode : Mode} {p : Position} {cs : List Char}
    (h : (run mode p cs).halted = false) :
    ∃ ts last, (run mode p cs).tokens = ts ++ [last] ∧ last.kind = .eof ∧ Spells mode ts cs := by
  obtain ⟨ts, rest, hts, htakes, hend⟩ := takes_run mode p cs
  obtain ⟨htext, hrest⟩ := hend h
  rw [ending, h] at hts
  exact ⟨ts, _, hts, rfl, htakes.spells htext hrest⟩

/-- A scan that halts has found no end token. -/
theorem ne_eof_of_halted {mode : Mode} {p : Position} {cs : List Char}
    (h : (run mode p cs).halted = true) : ∀ t ∈ (run mode p cs).tokens, t.kind ≠ .eof := by
  obtain ⟨ts, rest, hts, htakes, -⟩ := takes_run mode p cs
  rw [ending, h, if_pos rfl, List.append_nil] at hts
  intro t ht heof
  rw [hts] at ht
  exact not_fits_of_eof heof (htakes.fits t ht)

/-- A scan of tokens in a row finds them, and the end token after them. -/
theorem run_of_spells {mode : Mode} {ts : List Token} {cs : List Char} (h : Spells mode ts cs)
    (p : Position) : ∃ us last, (run mode p cs).tokens = us ++ [last] ∧ last.kind = .eof ∧
      Alike us ts := by
  induction h generalizing p with
  | nil =>
      refine ⟨[], ⟨.eof, "", p⟩, ?_, rfl, rfl⟩
      rw [run]
      simp
  | @cons mode t ts skipped rest hmode hskip hfits hbefore _ ih =>
      have hblanks := blanks_of_skips hskip hmode hfits rest
      have hlexeme := lexeme_of_fits hfits hbefore
      rw [hmode] at hlexeme
      have hdrop : (skipped ++ (t.raw ++ rest)).drop skipped.length = t.raw ++ rest :=
        List.drop_left
      have hstep : lexeme? mode ((skipped ++ (t.raw ++ rest)).drop
          (blanks mode (skipped ++ (t.raw ++ rest))).length) = some t.lexeme := by
        rwa [hblanks, hdrop]
      obtain ⟨q, hq⟩ := run_lexeme p hstep
      rw [hblanks, hdrop] at hq
      obtain ⟨us, last, hus, hlast, halike⟩ := ih q
      refine ⟨⟨t.kind, String.ofList t.text.toList, p.advance skipped⟩ :: us, last, ?_, hlast,
        .cons ?_ halike⟩
      · rw [List.cons_append, ← hus, hq]
        simp [lexeme]
      · simp [symbol]

end Scan

/-- Tokens that fit, each in the mode to which the ones before it lead, up to the end outside
tags. -/
inductive Flows : Mode → List Token → Prop where
  | nil : Flows .text []
  | cons {mode : Mode} {t : Token} {ts : List Token} (hmode : t.kind.mode = mode) (hfits : t.Fits)
      (tail : Flows (modeAfter mode t.kind) ts) : Flows mode (t :: ts)

theorem Flows.fits {mode : Mode} {ts : List Token} (h : Flows mode ts) : ∀ t ∈ ts, t.Fits := by
  induction h with
  | nil => simp
  | cons _ hfits _ ih => exact List.forall_mem_cons.2 ⟨hfits, ih⟩

namespace Spells

variable {mode : Mode} {ts us : List Token} {cs : List Char}

/-- Outside tags nothing is passed over. -/
theorem cons_text {t : Token} (hmode : t.kind.mode = .text) (hfits : t.Fits)
    (hbefore : t.Before cs) (tail : Spells (modeAfter .text t.kind) ts cs) :
    Spells .text (t :: ts) (t.raw ++ cs) :=
  .cons hmode ⟨by simp, fun _ => rfl⟩ hfits hbefore tail

theorem flows (h : Spells mode ts cs) : Flows mode ts := by
  induction h with
  | nil => exact .nil
  | cons hmode _ hfits _ _ ih => exact .cons hmode hfits ih

theorem fits (h : Spells mode ts cs) : ∀ t ∈ ts, t.Fits :=
  h.flows.fits

/-- A text is made of one row of tokens only, up to their places. -/
theorem unique (h : Spells mode ts cs) (h' : Spells mode us cs) : Alike ts us := by
  obtain ⟨vs, last, hvs, -, halike⟩ := run_of_spells h {}
  obtain ⟨ws, last', hws, -, halike'⟩ := run_of_spells h' {}
  rw [hvs] at hws
  obtain ⟨rfl, -⟩ := List.append_inj' hws rfl
  exact halike.symm.trans halike'

end Spells

/-- The tokens before the end token of a row that fits. -/
theorem takeWhile_append_eof {ts : List Token} {last : Token} (hts : ∀ t ∈ ts, t.Fits)
    (hlast : last.kind = .eof) : (ts ++ [last]).takeWhile (·.kind ≠ .eof) = ts := by
  rw [List.takeWhile_append_of_pos, List.takeWhile_cons_of_neg (by simp [hlast]), List.append_nil]
  intro t ht
  exact decide_eq_true fun heof => not_fits_of_eof heof (hts t ht)

namespace Node

/-- The tokens of an accepted template are those that it is made of, and the end token. -/
theorem exists_tokens_of_ofTemplate {template : String} {n : Node}
    (h : ofTemplate template = .ok n) : ∃ ts last ns, Token.ofTemplate template = ts ++ [last] ∧
      n = .program ns ∧ Spells .text ts template.toList ∧ Grammar.Statements ts ns := by
  rw [ofTemplate, ofTokens_eq_ok_iff, Token.ofTemplate, Scan.ofTemplate] at h
  obtain ⟨⟨last, hlast, heof⟩, ns, rfl, hns⟩ := h
  cases hhalted : (run .text {} template.toList).halted with
  | true => exact absurd heof (ne_eof_of_halted hhalted last (List.mem_of_getLast? hlast))
  | false =>
      obtain ⟨ts, last', hts, heof', hspells⟩ := spells_of_run hhalted
      rw [hts, takeWhile_append_eof hspells.fits heof'] at hns
      exact ⟨ts, last', ns, hts, rfl, hspells, hns⟩

/-- A template is accepted just when it is made of tokens that write a program. -/
theorem ofTemplate_eq_ok_iff {template : String} {n : Node} :
    ofTemplate template = .ok n ↔ ∃ ts ns, n = .program ns ∧
      Spells .text ts template.toList ∧ Grammar.Statements ts ns := by
  constructor
  · intro h
    obtain ⟨ts, last, ns, -, hn, hspells, hns⟩ := exists_tokens_of_ofTemplate h
    exact ⟨ts, ns, hn, hspells, hns⟩
  · rintro ⟨ts, ns, rfl, hspells, hns⟩
    obtain ⟨us, last, hus, heof, halike⟩ := run_of_spells hspells {}
    have hfits : ∀ u ∈ us, u.Fits := by
      intro u hu
      obtain ⟨t, ht, hsymbol⟩ := halike.exists_mem hu
      exact (hspells.fits t ht).congr hsymbol
    rw [ofTemplate, ofTokens_eq_ok_iff, Token.ofTemplate, Scan.ofTemplate]
    refine ⟨⟨last, by rw [hus, List.getLast?_concat], heof⟩, ns, rfl, ?_⟩
    rw [hus, takeWhile_append_eof hfits heof]
    exact hns.congr halike

end Node

end Templating
