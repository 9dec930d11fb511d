import Templating.Text.Letter
import Templating.Text.Digit
import Templating.Text.Blank

/-!
# Word characters

Names in a tag are words over the letters and numerals of all scripts, the underscore, the dollar
sign and the hyphen. No delimiter of a tag, no separator, no quote and no blank is among them.
-/

namespace Templating.Text

/-- Whether `c` is a letter or has a numeric value. -/
def isAlphanumeric (c : Char) : Bool :=
  isLetter c || isNumeral c

/-- Whether `c` may stand in a name. -/
def isWordChar (c : Char) : Bool :=
  isAlphanumeric c || c == '_' || c == '$' || c == '-'

example : ['\x7b', '\x7d', '.', '/', '"', '\\', '#', '^', '>', '!', '&'].all (!isWordChar ·) := by
  decide

end Templating.Text
