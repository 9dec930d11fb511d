/-!
# Sets of code points

A property of characters is given as a list of closed ranges of code points. Membership is the
only operation; ranges are kept in ascending order, which nothing here relies on.
-/

namespace Templating.Text

/-- A set of code points, as closed ranges. -/
abbrev Ranges := List (Nat × Nat)

/-- Whether the code point of `c` lies in one of the ranges. -/
def Ranges.has (r : Ranges) (c : Char) : Bool :=
  r.any fun range => range.1 ≤ c.toNat && c.toNat ≤ range.2

theorem Ranges.has_iff {r : Ranges} {c : Char} :
    r.has c = true ↔ ∃ range ∈ r, range.1 ≤ c.toNat ∧ c.toNat ≤ range.2 := by
  simp [Ranges.has]

end Templating.Text
