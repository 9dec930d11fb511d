/-!
# Positions in a text

A position counts the characters before it and names a line and a column, both from one. Only the
line feed ends a line. Lines and columns are integers because a token may be made by hand with any.
-/

namespace Templating

/-- A place in a text. -/
structure Position where
  offset : Nat := 0
  line : Int := 1
  column : Int := 1
deriving DecidableEq, Repr

namespace Position

variable (p : Position) (c : Char) (cs ds : List Char)

/-- The position after one character. -/
def next : Position :=
  if c = '\n' then ⟨p.offset + 1, p.line + 1, 1⟩ else ⟨p.offset + 1, p.line, p.column + 1⟩

/-- The position after the given characters. -/
def advance : Position :=
  cs.foldl next p

@[simp] theorem advance_nil : p.advance [] = p := rfl

@[simp] theorem advance_cons : p.advance (c :: cs) = (p.next c).advance cs := rfl

@[simp] theorem advance_append : p.advance (cs ++ ds) = (p.advance cs).advance ds := by
  simp [advance]

@[simp] theorem offset_next : (p.next c).offset = p.offset + 1 := by
  unfold next; split <;> rfl

@[simp] theorem offset_advance : (p.advance cs).offset = p.offset + cs.length := by
  induction cs generalizing p with
  | nil => rfl
  | cons c cs ih => rw [advance_cons, ih, offset_next, List.length_cons]; omega

end Position

end Templating
