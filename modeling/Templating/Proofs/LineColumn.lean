import Mathlib.Data.List.DropRight
import Templating.Proofs.Coverage

/-!
# Lines and columns

A position is kept up to date one character at a time, while a scan goes over whole texts, comments,
literals and blanks at once. `Position.IsAt` says what the three numbers of a position mean without
any of that: the characters before it, the line feeds among them, and the characters behind the last
of these. All the positions that a scan reports have this meaning (`Scan.positions_ofTemplate`).
-/

namespace Templating

namespace Position

/-- Whether a position names a place in a text as a reader would count it: its line is one more than
the line feeds before it, its column one more than the characters since the last of them. -/
structure IsAt (p : Position) (cs : List Char) : Prop where
  offset_le : p.offset ≤ cs.length
  line_eq : p.line = 1 + (cs.take p.offset).count '\n'
  column_eq : p.column = 1 + ((cs.take p.offset).rtakeWhile (· ≠ '\n')).length

/-- The line after the characters of a text. -/
theorem line_advance (cs : List Char) :
    (({} : Position).advance cs).line = 1 + cs.count '\n' := by
  induction cs using List.reverseRecOn with
  | nil => rfl
  | append_singleton cs c ih =>
      rw [advance_append, advance_cons, advance_nil, next]
      by_cases hc : c = '\n'
      · simp [hc, ih]
        omega
      · simp [hc, ih]

/-- The column after the characters of a text. -/
theorem column_advance (cs : List Char) :
    (({} : Position).advance cs).column = 1 + (cs.rtakeWhile (· ≠ '\n')).length := by
  -- From the end of the text: its last character continues the line or begins a new one.
  induction cs using List.reverseRecOn with
  | nil => rfl
  | append_singleton cs c ih =>
      rw [advance_append, advance_cons, advance_nil, next]
      by_cases hc : c = '\n'
      · simp [hc]
      · simp [hc, ih]
        omega

/-- The position after the first characters of a text is the place behind them. -/
theorem isAt_advance (used rest : List Char) :
    (({} : Position).advance used).IsAt (used ++ rest) := by
  have htake : (used ++ rest).take (({} : Position).advance used).offset = used := by
    rw [offset_advance, Nat.zero_add]
    exact List.take_left
  constructor
  · simp
  · rw [htake, line_advance]
  · rw [htake, column_advance]

end Position

namespace Scan

open Token

/-- The tokens of a scan stand one behind the other, and none before the place where it began. Only
the end token takes no characters, and nothing comes after it. -/
theorem offsets_run (mode : Mode) (p : Position) (cs : List Char) :
    (∀ t ∈ (run mode p cs).tokens, p.offset ≤ t.start.offset) ∧
      ((run mode p cs).tokens.map (·.start.offset)).Pairwise (· < ·) := by
  fun_induction run mode p cs with
  | case1 => simp
  | case2 => simp
  | case3 => simp
  | case4 mode p cs hcs skipped here start l hl _ after ih =>
      obtain ⟨hafter, hsorted⟩ := ih
      have hstart : p.offset ≤ start.offset := by simp [start]
      have hraw : 0 < l.raw.length := List.length_pos_iff.2 (raw_ne_nil hl)
      have hlater : ∀ u ∈ after.tokens, start.offset < u.start.offset := by
        intro u hu
        have := hafter u hu
        rw [Position.offset_advance] at this
        omega
      constructor
      · intro t ht
        rcases List.mem_cons.1 ht with rfl | ht
        · exact hstart
        · exact hstart.trans (hlater t ht).le
      · rw [List.map_cons, List.pairwise_cons]
        refine ⟨?_, hsorted⟩
        intro offset hoffset
        obtain ⟨u, hu, rfl⟩ := List.mem_map.1 hoffset
        exact hlater u hu

/-- **The positions of a scan are truthful.** Each token, the end token included, names the line and
the column in which it stands, and so does the scan the place where it comes to rest, also when it
halts. Every token stands behind all the tokens before it. -/
theorem positions_ofTemplate (template : String) :
    (∀ t ∈ (ofTemplate template).tokens, t.start.IsAt template.toList) ∧
      ((ofTemplate template).tokens.map (·.start.offset)).Pairwise (· < ·) ∧
      (ofTemplate template).finish.IsAt template.toList := by
  obtain ⟨skipped, left, h⟩ := accounts_run .text {} template.toList
  refine ⟨?tokens, (offsets_run _ _ _).2, ?finish⟩
  case tokens =>
    intro t ht
    obtain ⟨before, after, hts⟩ := List.append_of_mem ht
    have hcovers : Covers .text {} (before ++ t :: after) _ _ := hts ▸ h.covers
    obtain ⟨mid, hbefore, htail⟩ := hcovers.split
    obtain ⟨used, hused, hreach⟩ := hbefore.reach_eq
    cases htail with
    | @cons _ _ _ _ passed cs _ _ hstart _ =>
        rw [hstart, hreach, ← Position.advance_append, hused, ← List.append_assoc]
        exact Position.isAt_advance _ _
  case finish =>
    obtain ⟨used, hused, hreach⟩ := h.covers.reach_eq
    rw [ofTemplate, h.finish_eq, hreach, ← Position.advance_append, hused, ← List.append_assoc]
    exact Position.isAt_advance _ _

end Scan

end Templating
