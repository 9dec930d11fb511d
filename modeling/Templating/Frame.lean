import Templating.Path
import Templating.Value.Member

/-!
# Frames

A template sees a chain of data: that of the frame in which it is rendered, that of the enclosing
frame, and so on out to the root. A path is resolved in the frame it steps out to; beyond the root
there is no value.
-/

namespace Templating

/-- The data of a frame and of the frames around it, from the nearest to the root. -/
structure Frame where
  data : Value
  outer : List Value := []

namespace Frame

/-- A frame inside this one. -/
def child (f : Frame) (data : Value) : Frame where
  data := data
  outer := f.data :: f.outer

/-- The data `depth` frames further out. -/
def dataAt? (f : Frame) (depth : Nat) : Option Value :=
  (f.data :: f.outer)[depth]?

/-- The value of a path: no value if it steps out too far or a name finds nothing. -/
def resolve (f : Frame) (p : Path) : Except Failure Value :=
  match f.dataAt? p.depth with
  | none => .ok .none
  | some data => data.follow p.parts

@[simp] theorem dataAt?_zero (f : Frame) : f.dataAt? 0 = some f.data := rfl

@[simp] theorem dataAt?_child_succ (f : Frame) (data : Value) (depth : Nat) :
    (f.child data).dataAt? (depth + 1) = f.dataAt? depth := rfl

end Frame

end Templating
