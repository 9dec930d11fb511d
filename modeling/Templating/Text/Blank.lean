/-!
# Blank characters

Blanks separate the parts of a tag. The set is that of Unicode white space together with the four
ASCII separators U+001C to U+001F.
-/

namespace Templating.Text

/-- Whether `c` is a blank. -/
def isBlank (c : Char) : Bool :=
  let n := c.toNat
  (0x09 ≤ n && n ≤ 0x0D) || (0x1C ≤ n && n ≤ 0x20) || n == 0x85 || n == 0xA0 || n == 0x1680 ||
    (0x2000 ≤ n && n ≤ 0x200A) || n == 0x2028 || n == 0x2029 || n == 0x202F || n == 0x205F ||
    n == 0x3000

/-- The words of a text that begins inside a word, whose characters so far are given from the last
to the first. -/
def wordsFrom (current : List Char) : List Char → List (List Char)
  | [] => if current.isEmpty then [] else [current.reverse]
  | c :: cs =>
    if !isBlank c then wordsFrom (c :: current) cs
    else if current.isEmpty then wordsFrom [] cs
    else current.reverse :: wordsFrom [] cs

/-- The words of a text: its longest parts without blanks. -/
def words (cs : List Char) : List (List Char) :=
  wordsFrom [] cs

end Templating.Text
