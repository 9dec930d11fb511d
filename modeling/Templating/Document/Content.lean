import Templating.Document.Merge
import Templating.Value.Key

/-!
# The content of a document

A tree becomes a value: scalars by their types, sequences as lists and mappings as mappings. A key
that is a list becomes a tuple. Nothing may be twice among the keys of a mapping, unless something
is merged into it, where later pairs win.

Of several faults the one that is least deep is reported, and of these the first. What is inside a
key counts as deep as the mapping itself.

This reader knows no more than most data files need. Handles for tags, the types of sets, ordered
mappings and binary data, anchors inside of what they stand for, and times with a zone or with a
finer fraction than the millionth part of a second are taken as malformed. Nothing that is shown of
data files depends on that: they are loaded with any reader.
-/

namespace Templating.Document

/-- What comes of a node: its value, and the faults in it in the order of the document, each with
its depth below what holds the node. The value means something only without faults. -/
structure Built where
  value : Value := .none
  faults : List (Nat × Fault) := []

namespace Built

/-- A node that fails. -/
def fault (depth : Nat) (f : Fault) : Built :=
  { faults := [(depth, f)] }

/-- The faults of a node in a collection, seen from what holds the collection. -/
def below (b : Built) : List (Nat × Fault) :=
  b.faults.map fun (depth, f) => (depth + 1, f)

/-- The key that a value makes. -/
def key (b : Built) : Value :=
  match b.value with
  | .list items => .tuple items
  | v => v

/-- The faults of the pair of a mapping with the entries. A key is built with all that is in it
before its value, and refused after it if it is there already. -/
def pairFaults (refuseTwice : Bool) (entries : List (Value × Value)) (k v : Built) :
    List (Nat × Fault) :=
  let noKey : List (Nat × Fault) := match k.key with
    | .mapping _ => [(1, .malformed)]
    | _ => []
  let refused : List (Nat × Fault) := match k.key.unfitKey? with
    | some typeName => [(1, .failure (.unfitKey typeName))]
    | none => if refuseTwice && Value.hasKey entries k.key then [(1, .malformed)] else []
  k.faults.map (fun (_, f) => (1, f)) ++ noKey ++ v.below ++ refused

/-- Adds a pair to a mapping. -/
def addPair (refuseTwice : Bool) (entries : List (Value × Value)) (k v : Built) :
    List (Value × Value) × List (Nat × Fault) :=
  (Value.setKey entries k.key v.value, pairFaults refuseTwice entries k v)

/-- The mapping with the pairs. -/
def ofPairs (refuseTwice : Bool) (pairs : List (Built × Built)) : Built :=
  let (entries, faults) := pairs.foldl (fun (entries, faults) (k, v) =>
    let (entries, more) := addPair refuseTwice entries k v
    (entries, faults ++ more)) ([], [])
  { value := .mapping entries, faults := faults }

/-- The list with the items. -/
def ofItems (items : List Built) : Built :=
  { value := .list (items.map (·.value)), faults := items.flatMap below }

/-- The value, or the fault that is reported. -/
def toExcept (b : Built) : Except Fault Value :=
  let least := b.faults.foldl (fun (best? : Option (Nat × Fault)) f =>
    match best? with
    | some best => if f.1 < best.1 then some f else some best
    | none => some f) none
  match least with
  | some (_, f) => .error f
  | none => .ok b.value

end Built

namespace Tree

/-- Whether a collection may have the tag, where `name` is that of its type. -/
def fits (tag : Option String) (name : String) : Bool :=
  tag.all fun t => t == "!" || t == commonTag ++ name

/-- What becomes of a collection with a tag that does not fit it: the tag of another collection is
noticed only inside of it. -/
def misfit (tag : Option String) : Built :=
  .fault (if fits tag "seq" || fits tag "map" then 1 else 0) .malformed

mutual

/-- The value of a tree. -/
def build : Tree → Built
  | .scalar tag plain s =>
    match ScalarType.of? tag plain s with
    | none => misfit tag
    | some type =>
      match type.read s with
      | .ok v => { value := v }
      | .error f => .fault 0 f
  | .sequence tag items =>
    if fits tag "seq" then .ofItems (buildAll items) else misfit tag
  | .mapping tag merged own =>
    if fits tag "map" then .ofPairs merged.isEmpty (buildPairs merged ++ buildPairs own)
    else misfit tag
  | .wrongMerge => .fault 1 .malformed

/-- The values of trees. -/
def buildAll : List Tree → List Built
  | [] => []
  | t :: ts => t.build :: buildAll ts

/-- The values of pairs. -/
def buildPairs : List (Tree × Tree) → List (Built × Built)
  | [] => []
  | (k, v) :: pairs => (k.build, v.build) :: buildPairs pairs

end

end Tree

/-- The value of a document. Without a document it is no value. -/
def value (text : List Char) : Except Fault Value := do
  let tree ← Tree.ofText text
  tree.merge.build.toExcept

end Templating.Document
