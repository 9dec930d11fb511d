import Templating.Document.ScalarType

/-!
# Merged mappings

Under the key `<<` a mapping names one mapping or a sequence of them whose pairs it takes over. The
pairs that are taken over come before its own; of several mappings the last one comes first. Such a
key may stand a second time only while nothing has been taken over.
-/

namespace Templating.Document.Tree

/-- The type of a node, if it is a scalar that has one. -/
def scalarType? : Tree → Option ScalarType
  | .scalar tag plain s => ScalarType.of? tag plain s
  | _ => none

/-- The pairs that a mapping gives to one into which it is merged. -/
def contribution? : Tree → Option (List (Tree × Tree))
  | .mapping _ merged own => some (merged ++ own)
  | _ => none

/-- The pairs that a node under the key of merges gives. -/
def contributions? : Tree → Option (List (Tree × Tree))
  | .sequence _ items => (items.mapM contribution?).map fun lists => lists.reverse.flatten
  | t => t.contribution?

/-- Takes the pair in: what has been merged, and the mapping's own pairs so far from the last to
the first. -/
def takePair? (state : List (Tree × Tree) × List (Tree × Tree)) (pair : Tree × Tree) :
    Option (List (Tree × Tree) × List (Tree × Tree)) :=
  let (merged, own) := state
  match pair.1.scalarType? with
  | some .merge =>
    if merged.isEmpty then pair.2.contributions?.map fun more => (more, own) else none
  | some .standIn =>
    let key : Tree := match pair.1 with
      | .scalar _ _ s => .scalar none false s
      | t => t
    some (merged, (key, pair.2) :: own)
  | _ => some (merged, pair :: own)

/-- The mapping with the pairs, after their merges. -/
def ofPairs (tag : Option String) (pairs : List (Tree × Tree)) : Tree :=
  match pairs.foldlM takePair? ([], []) with
  | some (merged, own) => .mapping tag merged own.reverse
  | none => .wrongMerge

mutual

/-- Carries out the merges everywhere in a tree. -/
def merge : Tree → Tree
  | .sequence tag items => .sequence tag (mergeAll items)
  | .mapping tag merged own => ofPairs tag (mergePairs merged ++ mergePairs own)
  | .scalar tag plain s => .scalar tag plain s
  | .wrongMerge => .wrongMerge

/-- Carries out the merges in trees. -/
def mergeAll : List Tree → List Tree
  | [] => []
  | t :: ts => t.merge :: mergeAll ts

/-- Carries out the merges in pairs. -/
def mergePairs : List (Tree × Tree) → List (Tree × Tree)
  | [] => []
  | (k, v) :: pairs => (k.merge, v.merge) :: mergePairs pairs

end

end Templating.Document.Tree
