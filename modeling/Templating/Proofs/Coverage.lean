import Mathlib.Data.List.Induction
import Templating.Proofs.Spelling

/-!
# What a scan accounts for

A scan loses and invents nothing. `Covers` says that tokens stand one after another in a text, each
at the place it names, with nothing but blanks between them, and only inside tags; the tokens of a
scan cover its text up to the place where it comes to rest (`Scan.accounts_run`). There a scan that
does not halt has reached the end, and one that halts is `Stuck`: the text ends inside a tag, a
comment has no end, or no token begins with the next character. `Scan.Faithful` says the same by the
offsets that tokens carry.
-/

namespace Templating

/-! ## Places of tokens -/

namespace Token

/-- The place right behind a token. -/
def stop (t : Token) : Position :=
  t.start.advance t.raw

@[simp] theorem offset_stop (t : Token) : t.stop.offset = t.start.offset + t.raw.length := by
  simp [stop]

/-- The place right behind the last of some tokens, and `p` behind none. -/
def reach (p : Position) : List Token → Position
  | [] => p
  | t :: ts => reach t.stop ts

/-- Whether a text stands inside a tag after some tokens: behind an opening that has not been
closed. -/
def Inside (ts : List Token) : Prop :=
  ∃ us t vs, ts = us ++ t :: vs ∧ t.kind.isOpener = true ∧ ∀ v ∈ vs, v.kind ≠ .close

theorem inside_concat_iff {ts : List Token} {t : Token} :
    Inside (ts ++ [t]) ↔ t.kind.isOpener = true ∨ Inside ts ∧ t.kind ≠ .close := by
  constructor
  · rintro ⟨us, u, vs, hts, hopener, hvs⟩
    rcases List.eq_nil_or_concat vs with rfl | ⟨vs, v, rfl⟩
    · obtain ⟨-, hu⟩ := List.append_inj' hts rfl
      rw [List.cons.injEq] at hu
      exact .inl (hu.1 ▸ hopener)
    · rw [List.concat_eq_append, ← List.cons_append, ← List.append_assoc] at hts
      obtain ⟨rfl, hv⟩ := List.append_inj' hts rfl
      rw [List.cons.injEq] at hv
      refine .inr ⟨⟨us, u, vs, rfl, hopener, fun w hw => hvs w (by simp [hw])⟩, ?_⟩
      rw [hv.1]
      exact hvs v (by simp)
  · rintro (hopener | ⟨⟨us, u, vs, rfl, hopener, hvs⟩, hclose⟩)
    · exact ⟨ts, t, [], rfl, hopener, by simp⟩
    · refine ⟨us, u, vs ++ [t], by simp, hopener, fun v hv => ?_⟩
      rcases List.mem_append.1 hv with hv | hv
      · exact hvs v hv
      · rw [List.mem_singleton.1 hv]
        exact hclose

end Token

open Token Scan

/-- The mode after some tokens. -/
def Mode.after (mode : Mode) (ts : List Token) : Mode :=
  ts.foldl (fun mode t => modeAfter mode t.kind) mode

theorem Mode.after_concat (mode : Mode) (ts : List Token) (t : Token) :
    mode.after (ts ++ [t]) = modeAfter (mode.after ts) t.kind := by
  simp [after]

/-- The scanner's mode says whether an opening has not been closed. -/
theorem Mode.after_eq_tag_iff {ts : List Token} : Mode.after .text ts = .tag ↔ Inside ts := by
  induction ts using List.reverseRecOn with
  | nil => simp [after, Inside]
  | append_singleton ts t ih =>
      rw [inside_concat_iff, ← ih, after_concat, modeAfter]
      by_cases hopener : t.kind.isOpener = true
      · simp [hopener]
      · by_cases hclose : t.kind = .close
        · simp [hclose]
        · simp [hopener, hclose]

/-! ## Tokens in a text -/

/-- Tokens that stand in a text, which begins at `p` in the given mode, and what is left of it. -/
inductive Covers : Mode → Position → List Token → List Char → List Char → Prop where
  | nil {mode : Mode} {p : Position} {rest : List Char} : Covers mode p [] rest rest
  | cons {mode : Mode} {p : Position} {t : Token} {ts : List Token} {skipped cs rest : List Char}
      (hskip : Skips mode skipped) (hstart : t.start = p.advance skipped)
      (tail : Covers (modeAfter mode t.kind) t.stop ts cs rest) :
      Covers mode p (t :: ts) (skipped ++ (t.raw ++ cs)) rest

namespace Covers

variable {mode : Mode} {p : Position} {ts us : List Token} {cs rest : List Char}

/-- Tokens before others stand in the text before what is left for these. -/
theorem split (h : Covers mode p (us ++ ts) cs rest) :
    ∃ mid, Covers mode p us cs mid ∧ Covers (mode.after us) (reach p us) ts mid rest := by
  induction us generalizing mode p cs with
  | nil => exact ⟨cs, .nil, h⟩
  | cons u us ih =>
      cases h with
      | cons hskip hstart tail =>
          obtain ⟨mid, hus, hts⟩ := ih tail
          exact ⟨mid, .cons hskip hstart hus, hts⟩

/-- The last token ends where what is left begins. -/
theorem reach_eq (h : Covers mode p ts cs rest) :
    ∃ used, cs = used ++ rest ∧ reach p ts = p.advance used := by
  induction h with
  | nil => exact ⟨[], rfl, rfl⟩
  | @cons mode p t ts skipped cs rest hskip hstart tail ih =>
      obtain ⟨used, rfl, hreach⟩ := ih
      refine ⟨skipped ++ (t.raw ++ used), by simp, ?_⟩
      rw [reach, hreach, stop, hstart]
      simp

end Covers

/-! ## Where a scan comes to rest -/

/-- What a scan is left with when it halts. -/
inductive Stuck : Mode → List Char → Prop where
  /-- The text ends inside a tag. -/
  | ends : Stuck .tag []
  /-- A comment has no end. -/
  | comment {body : List Char} (h : ¬ ['\x7d', '\x7d'] <:+: body) :
      Stuck .text ('\x7b' :: '\x7b' :: '!' :: body)
  /-- No token that can stand inside a tag begins here. -/
  | character {c : Char} {cs : List Char} (hblank : Text.isBlank c = false)
      (h : ∀ t : Token, t.kind.mode = .tag → t.Fits → ¬ t.raw <+: c :: cs) : Stuck .tag (c :: cs)

/-- Where a token could stand inside a tag, a scan finds one, if not always the same. -/
theorem Scan.lexemeInTag_ne_none {t : Token} {cs : List Char} (hmode : t.kind.mode = .tag)
    (hfits : t.Fits) (h : t.raw <+: cs) : lexemeInTag cs ≠ none := by
  obtain ⟨rest, rfl⟩ := h
  rcases t with ⟨kind, text, p⟩
  cases kind with
  | close =>
      cases (show text = _ from hfits)
      simp [Token.raw, lexemeInTag]
  | word =>
      rcases hfits with rfl | ⟨hne, hall⟩
      · simp [Token.raw, Path.parentSegment, lexemeInTag]
      · obtain ⟨c, cs, hcs⟩ := List.exists_cons_of_ne_nil hne
        simp only [Token.raw, hcs, List.cons_append]
        rw [lexemeInTag_word (hall c (by simp [hcs]))]
        simp
  | separator =>
      rcases hfits with rfl | rfl
      · simp [Token.raw, lexemeInTag]
      · by_cases hdot : rest.head? = some '.'
        · obtain ⟨rest, rfl⟩ := List.head?_eq_some_iff.1 hdot
          simp [Token.raw, lexemeInTag]
        · simpa [Token.raw] using Option.ne_none_iff_exists'.2 ⟨_, lexemeInTag_dot hdot⟩
  | literal =>
      obtain ⟨-, -, hall⟩ := literalBody_sound hfits
      simp [Token.raw, lexemeInTag, hall]
  | _ => cases hmode

/-- Outside tags only a comment without an end starts no token. -/
theorem stuck_of_lexemeInText {cs : List Char} (hcs : cs ≠ []) (h : lexemeInText cs = none) :
    Stuck .text cs := by
  unfold lexemeInText at h
  split at h
  · rename_i body
    refine .comment (beforeTwice_eq_self_iff.1 ?_)
    have happend := beforeTwice_append '\x7d' body
    rcases hbody : beforeTwice '\x7d' body with ⟨taken, left⟩
    cases left with
    | nil => simpa [hbody] using happend
    | cons c left => simp [hbody] at h
  · cases h
  · cases h
  · cases h
  · cases h
  · cases h
  · rename_i c cs _ _ _ _ _ hopen
    have hc : ¬ (c = '\x7b' ∧ cs.head? = some '\x7b') := by
      rintro ⟨hc, hhead⟩
      obtain ⟨cs, rfl⟩ := List.head?_eq_some_iff.1 hhead
      exact hopen cs hc rfl
    simp [beforeTwice_cons hc] at h
  · exact absurd rfl hcs

/-- Inside a tag, after the blanks, a scan is stuck where it finds no token. -/
theorem stuck_of_lexemeInTag {cs : List Char} (hblank : ∀ c ∈ cs.head?, Text.isBlank c = false)
    (h : lexemeInTag cs = none) : Stuck .tag cs := by
  cases cs with
  | nil => exact .ends
  | cons c cs =>
      refine .character (hblank c rfl) fun t hmode hfits hraw => ?_
      exact lexemeInTag_ne_none hmode hfits hraw h

/-- A scan that finds no token where text is left is stuck there. -/
theorem stuck_of_lexeme {mode : Mode} {cs : List Char} (hcs : cs ≠ [])
    (h : lexeme? mode (cs.drop (blanks mode cs).length) = none) :
    Stuck mode (cs.drop (blanks mode cs).length) := by
  cases mode with
  | text => exact stuck_of_lexemeInText hcs h
  | tag =>
      refine stuck_of_lexemeInTag (fun c hc => ?_) h
      have hdrop : cs.drop (blanks .tag cs).length = cs.dropWhile Text.isBlank := by
        rw [← List.append_right_inj (blanks .tag cs), blanks_append_drop]
        exact List.takeWhile_append_dropWhile.symm
      have hhead := List.head?_dropWhile_not Text.isBlank cs
      rw [← hdrop, hc] at hhead
      simpa using hhead

namespace Scan

/-- What a scan of a text, begun at `p` in the given mode, accounts for: its tokens, then blanks,
and then what it is left with. -/
structure Accounts (s : Scan) (mode : Mode) (p : Position) (cs skipped left : List Char) :
    Prop where
  covers : Covers mode p s.tokens cs (skipped ++ left)
  mode_eq : s.mode = mode.after s.tokens
  skips : Skips s.mode skipped
  finish_eq : s.finish = (reach p s.tokens).advance skipped
  stuck : s.halted = true → Stuck s.mode left
  complete : s.halted = false → s.mode = .text ∧ left = []

/-- One more token in front. -/
theorem Accounts.cons {s : Scan} {mode : Mode} {p : Position} {t : Token}
    {passed cs skipped left : List Char}
    (h : s.Accounts (modeAfter mode t.kind) t.stop cs skipped left)
    (hpassed : Skips mode passed) (hstart : t.start = p.advance passed) :
    Accounts { s with tokens := t :: s.tokens } mode p (passed ++ (t.raw ++ cs)) skipped left where
  covers := .cons hpassed hstart h.covers
  mode_eq := h.mode_eq
  skips := h.skips
  finish_eq := h.finish_eq
  stuck := h.stuck
  complete := h.complete

/-- Every scan accounts for its text. The induction is on the scan, which ends at the end of the
text, outside or inside a tag, or where there is no token, and else goes on behind a token. -/
theorem accounts_run (mode : Mode) (p : Position) (cs : List Char) :
    ∃ skipped left, (run mode p cs).Accounts mode p cs skipped left := by
  have hnone : ∀ mode, Skips mode [] := fun mode => ⟨by simp, fun _ => rfl⟩
  fun_induction run mode p cs with
  | case1 p =>
      refine ⟨[], [], ?_, rfl, hnone _, rfl, by simp, by simp⟩
      show Covers .text p [⟨.eof, "", p⟩] ([] ++ (raw ⟨.eof, "", p⟩ ++ [])) []
      exact .cons (hnone _) rfl .nil
  | case2 p => exact ⟨[], [], .nil, rfl, hnone _, rfl, fun _ => .ends, by simp⟩
  | case3 mode p cs hcs skipped here start hl =>
      refine ⟨skipped, here, ?_, rfl, skips_blanks mode cs, rfl, fun _ => stuck_of_lexeme hcs hl,
        by simp⟩
      rw [blanks_append_drop]
      exact .nil
  | case4 mode p cs hcs skipped here start l hl _ after ih =>
      obtain ⟨t, rest, rfl, hhere, -, -, -⟩ := lexeme_eq_some_iff.1 hl
      have hrest : here.drop t.lexeme.raw.length = rest := by rw [hhere]; exact List.drop_left
      have hcs : cs = skipped ++ (t.raw ++ rest) := by
        rw [← hhere]
        exact (blanks_append_drop mode cs).symm
      obtain ⟨skipped', left, hafter⟩ := ih
      refine ⟨skipped', left, ?_⟩
      show Accounts { after with tokens := ⟨t.kind, String.ofList t.text.toList, start⟩ :: _ } _ _
        cs _ _
      rw [String.ofList_toList, hcs]
      have htail : after.Accounts (modeAfter mode t.kind) (start.advance t.raw) rest skipped'
          left := by
        rw [← hrest]
        exact hafter
      exact htail.cons (t := { t with start := start }) (skips_blanks mode cs) rfl

/-! ## In terms of offsets -/

/-- The characters of a text between two offsets are passed over after some tokens: they are blanks,
and there are none outside tags. -/
def Passes (cs : List Char) (before : List Token) (first last : Nat) : Prop :=
  first ≤ last ∧ ∀ c ∈ cs.extract first last, Text.isBlank c = true ∧ Inside before

section

variable {cs : List Char} {ts : List Token} {skipped rest : List Char}

theorem drop_of_covers (h : Covers .text {} ts cs (skipped ++ rest)) :
    cs.drop ((reach {} ts).advance skipped).offset = rest := by
  obtain ⟨used, rfl, hreach⟩ := h.reach_eq
  rw [hreach, ← Position.advance_append, Position.offset_advance, Nat.zero_add,
    ← List.append_assoc]
  exact List.drop_left

theorem passes_of_skips (h : Covers .text {} ts cs (skipped ++ rest))
    (hskips : Skips (Mode.after .text ts) skipped) :
    Passes cs ts (reach {} ts).offset ((reach {} ts).advance skipped).offset := by
  obtain ⟨used, rfl, hreach⟩ := h.reach_eq
  have hextract : (used ++ (skipped ++ rest)).extract (reach {} ts).offset
      ((reach {} ts).advance skipped).offset = skipped := by
    simp [hreach]
  refine ⟨by simp, ?_⟩
  rw [hextract]
  intro c hc
  refine ⟨hskips.1 c hc, Mode.after_eq_tag_iff.1 ?_⟩
  cases hmode : Mode.after .text ts with
  | text => simp [hskips.2 hmode] at hc
  | tag => rfl

end

/-- Only the end token takes no characters. -/
theorem raw_of_eof {mode : Mode} {p : Position} {cs : List Char} :
    ∀ t ∈ (run mode p cs).tokens, t.kind = .eof → t.raw = [] := by
  fun_induction run mode p cs with
  | case1 => simp [raw]
  | case2 => simp
  | case3 => simp
  | case4 mode p cs hcs skipped here start l hl _ after ih =>
      obtain ⟨t, rest, rfl, -, -, hfits, -⟩ := lexeme_eq_some_iff.1 hl
      refine List.forall_mem_cons.2 ⟨fun heof => ?_, ih⟩
      exact absurd hfits (not_fits_of_eof (t := t) heof)

theorem exists_eof_iff {mode : Mode} {p : Position} {cs : List Char} :
    (∃ t ∈ (run mode p cs).tokens, t.kind = .eof) ↔ (run mode p cs).halted = false := by
  constructor
  · rintro ⟨t, ht, heof⟩
    rw [Bool.eq_false_iff]
    exact fun hhalted => ne_eof_of_halted hhalted t ht heof
  · intro hhalted
    obtain ⟨ts, last, hts, heof, -⟩ := spells_of_run hhalted
    exact ⟨last, by simp [hts], heof⟩

/-- A scan of a template, its tokens placed by their offsets. -/
structure Faithful (cs : List Char) (s : Scan) : Prop where
  /-- Every token stands where it says, at or behind the end of the one before, with only blanks
  between. -/
  token : ∀ before t after, s.tokens = before ++ t :: after →
    t.raw <+: cs.drop t.start.offset ∧ Passes cs before (reach {} before).offset t.start.offset
  /-- The end token takes no characters. -/
  eof : ∀ t ∈ s.tokens, t.kind = .eof → t.raw = []
  /-- There is an end token just when the scan did not halt. -/
  exists_eof_iff : (∃ t ∈ s.tokens, t.kind = .eof) ↔ s.halted = false
  /-- With an end token, tokens and blanks are all of the text. -/
  complete : (∃ t ∈ s.tokens, t.kind = .eof) → (reach {} s.tokens).offset = cs.length
  /-- The scan is in the mode for tags just when a tag is open. -/
  mode_eq_tag_iff : s.mode = .tag ↔ Inside s.tokens
  /-- Behind the last token, a scan passes over blanks at most. -/
  passes : Passes cs s.tokens (reach {} s.tokens).offset s.finish.offset
  /-- A scan that halts is stuck. -/
  stuck : s.halted = true → Stuck s.mode (cs.drop s.finish.offset)

/-- A scan of a template loses and invents nothing. -/
theorem ofTemplate_faithful (template : String) :
    Faithful template.toList (ofTemplate template) := by
  obtain ⟨skipped, left, h⟩ := accounts_run .text {} template.toList
  refine ⟨?token, raw_of_eof, exists_eof_iff, ?complete, ?mode, ?passes, ?stuck⟩
  case token =>
    intro before t after hts
    have hcovers : Covers .text {} (before ++ t :: after) _ _ := hts ▸ h.covers
    obtain ⟨mid, hbefore, htail⟩ := hcovers.split
    cases htail with
    | cons hskip hstart _ =>
        rw [hstart, drop_of_covers hbefore]
        exact ⟨List.prefix_append .., passes_of_skips hbefore hskip⟩
  case complete =>
    intro heof
    obtain ⟨htext, rfl⟩ := h.complete (exists_eof_iff.1 heof)
    obtain ⟨used, hused, hreach⟩ := h.covers.reach_eq
    rw [h.skips.2 htext] at hused
    rw [ofTemplate, hreach, hused]
    simp
  case mode =>
    rw [ofTemplate, h.mode_eq]
    exact Mode.after_eq_tag_iff
  case passes =>
    rw [ofTemplate, h.finish_eq]
    exact passes_of_skips h.covers (h.mode_eq ▸ h.skips)
  case stuck =>
    intro hhalted
    rw [ofTemplate, h.finish_eq, drop_of_covers h.covers]
    exact h.stuck hhalted

end Scan

end Templating
