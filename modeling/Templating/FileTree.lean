import Templating.Failure
import Templating.FileName

/-!
# Trees of files

A tree of files in memory, and how a name leads to a file. Names lead from the directory at the top
of the tree; what is around that directory is known only as directories without files.
-/

namespace Templating

/-- What stands at a place in a tree of files. -/
inductive FileEntry where
  | file (bytes : List UInt8)
  | directory
deriving DecidableEq, Repr

/-- The entries below a directory, by the parts of their names. A directory need not have an entry
of its own if something stands in it. -/
abbrev FileTree := List (List String × FileEntry)

namespace FileTree

/-- The entry at a place; the empty place is the top. -/
def entry? (t : FileTree) (place : List String) : Option FileEntry :=
  match t.lookup place with
  | some e => some e
  | none =>
    if place.isEmpty || t.any fun item => place.isPrefixOf item.1 then some .directory else none

/-- The most bytes that a part of a name may have, and those that a whole name may have. -/
def partLimit : Nat := 255

def nameLimit : Nat := 4095

/-- The error for a name that is too long or has a part that is. -/
def tooLong (name : String) : SystemError where
  number := 36
  reason := "File name too long"
  name := name

/-- The entry to which parts of a name lead from a place in the tree, or from outside. Every part
but the last one has to lead to a directory. -/
def follow (t : FileTree) (name : String) :
    (place : Option (List String)) → List String → Except SystemError (Option FileEntry)
  | none, [] => .ok (some .directory)
  | some place, [] => .ok (t.entry? place)
  | none, part :: parts =>
    if part = "" ∨ part = "." ∨ part = ".." then t.follow name none parts
    else if partLimit < part.utf8ByteSize then .error (tooLong name)
    else .ok none
  | some place, part :: parts =>
    match t.entry? place with
    | some .directory =>
      if part = "" ∨ part = "." then t.follow name (some place) parts
      else if part = ".." then
        t.follow name (if place.isEmpty then none else some place.dropLast) parts
      else if partLimit < part.utf8ByteSize then .error (tooLong name)
      else t.follow name (some (place ++ [part])) parts
    | _ => .ok none

/-- The entry under a name, if there is one. -/
def find (t : FileTree) (name : String) : Except SystemError (Option FileEntry) :=
  let start := if name.toList.head? = some '/' then none else some []
  if nameLimit < name.utf8ByteSize then .error (tooLong name)
  else t.follow name start ((FileName.parts name.toList).map String.ofList)

/-- The bytes of the file with a name. -/
def read (t : FileTree) (name : String) : Except SystemError (List UInt8) := do
  match ← t.find name with
  | some (.file bytes) => return bytes
  | some .directory => throw ⟨21, "Is a directory", name⟩
  | none => throw ⟨2, "No such file or directory", name⟩

end FileTree

end Templating
