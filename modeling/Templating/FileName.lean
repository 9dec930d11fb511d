/-!
# Names of files

The name of a file consists of parts between slashes. Empty parts and lone dots lead nowhere and are
left out of the canonical form of a name, which is the one that messages show; a pair of dots stays,
as it may lead out of a link.
-/

namespace Templating.FileName

/-- The parts of a name between its slashes. -/
def parts : List Char → List (List Char)
  | [] => [[]]
  | c :: cs =>
    if c = '/' then [] :: parts cs
    else match parts cs with
      | part :: more => (c :: part) :: more
      | [] => [[c]]

/-- The slashes at the start of a canonical name. Exactly two slashes stay two. -/
def root (cs : List Char) : List Char :=
  let slashes := cs.takeWhile (· = '/')
  if slashes.length = 2 then slashes else slashes.take 1

/-- A name in its canonical form. -/
def canonical (name : String) : String :=
  let cs := name.toList
  let kept := (parts cs).filter fun part => part ≠ [] ∧ part ≠ ['.']
  match root cs ++ (kept.intersperse ['/']).flatten with
  | [] => "."
  | whole => String.ofList whole

example : canonical "./a//b/" = "a/b" ∧ canonical "" = "." ∧ canonical "a/../b" = "a/../b" := by
  decide +kernel

end Templating.FileName
