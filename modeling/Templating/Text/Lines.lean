import Templating.Text.Utf8

/-!
# Lines

Files may end their lines in three ways: with a line feed, with a carriage return, or with both in
this order. A text that is read from a file has a line feed for each of them
(`mem_unifyBreaks_ne`), and a text without carriage returns is left as it is
(`unifyBreaks_of_notMem`).
-/

namespace Templating.Text

/-- A text with a line feed for each of its line breaks. -/
def unifyBreaks : List Char → List Char
  | [] => []
  | '\r' :: '\n' :: cs => '\n' :: unifyBreaks cs
  | c :: cs => (if c = '\r' then '\n' else c) :: unifyBreaks cs

theorem mem_unifyBreaks_ne {cs : List Char} {c : Char} (h : c ∈ unifyBreaks cs) : c ≠ '\r' := by
  fun_induction unifyBreaks cs with
  | case1 => simp at h
  | case2 cs ih =>
    rcases List.mem_cons.1 h with rfl | h
    · decide
    · exact ih h
  | case3 d cs _ ih =>
    rcases List.mem_cons.1 h with rfl | h
    · by_cases hd : d = '\r'
      · rw [if_pos hd]
        decide
      · rw [if_neg hd]
        exact hd
    · exact ih h

theorem unifyBreaks_of_notMem {cs : List Char} (h : '\r' ∉ cs) : unifyBreaks cs = cs := by
  fun_induction unifyBreaks cs with
  | case1 => rfl
  | case2 cs ih => simp at h
  | case3 d cs _ ih =>
    rw [List.mem_cons, not_or] at h
    rw [ih h.2, if_neg (Ne.symm h.1)]

/-- The text of a file with the given bytes. -/
def ofBytes (bytes : List UInt8) : Except Failure String :=
  (Utf8.decode bytes).map fun cs => String.ofList (unifyBreaks cs)

example : unifyBreaks ['a', '\r', '\n', '\r', '\n', '\n', '\r'] =
    ['a', '\n', '\n', '\n', '\n'] := by
  decide +kernel

end Templating.Text
