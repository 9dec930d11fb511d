import Templating.GrammarError

/-!
# Paths

A path names a value by steps to enclosing frames followed by names of members. Its segments are
words joined by separators; the two dots step to the parent, a leading `this` stands for the frame
itself and is dropped, and after the first name no step to a parent may follow.
-/

namespace Templating

/-- A path: how many frames to step out, the names to follow, and how it was written. -/
structure Path where
  parts : List String
  depth : Nat := 0
  written : String := ""
deriving DecidableEq, Repr

namespace Path

/-- The segment that steps to the enclosing frame. -/
def parentSegment : String := ".."

/-- The segment that stands for the current frame. -/
def thisSegment : String := "this"

/-- Whether the path is one plain name, which may be the name of a helper. -/
def isSimple (p : Path) : Bool :=
  p.depth == 0 && p.parts == [p.written]

theorem isSimple_iff {p : Path} : p.isSimple = true ↔ p.depth = 0 ∧ p.parts = [p.written] := by
  simp [isSimple]

/-- The names after the first `depth` steps; the first later step to a parent is at fault. -/
def names (ts : List Token) : Except GrammarError (List String) :=
  match ts.find? (·.text = parentSegment) with
  | some t => .error ⟨.parentAfterName, some t⟩
  | none => .ok (ts.map (·.text))

/-- The depth and the names given by segments. `first` says that only steps to parents came
before, so that `this` is still dropped. -/
def steps (first : Bool) (depth : Nat) : List Token → Except GrammarError (Nat × List String)
  | [] => .ok (depth, [])
  | t :: ts =>
    if t.text = parentSegment then steps first (depth + 1) ts
    else if t.text = thisSegment ∧ first then steps false depth ts
    else (names (t :: ts)).map (depth, ·)

/-- The text of segments with the separators before all but the first. -/
def writtenOf (first : Token) (more : List (Token × Token)) : String :=
  more.foldl (fun text (separator, segment) => text ++ separator.text ++ segment.text) first.text

/-- The path made of a first segment and further ones, each with the separator before it. -/
def ofSegments (first : Token) (more : List (Token × Token)) : Except GrammarError Path :=
  (steps true 0 (first :: more.map (·.2))).map fun (depth, parts) =>
    { parts := parts, depth := depth, written := writtenOf first more }

end Path

end Templating
