/-
# Blank characters

Two sets of blanks matter.  Names and keys are trimmed of every Unicode blank, the information
separators U+001C to U+001F included.  A written number may be surrounded by blanks too, but
there those four separators do not count.
-/
import CloudAccess.Text.Basic

namespace CloudAccess

namespace CodePoint

/-- `c` is a blank: a space, a line or paragraph break, or an information separator. -/
def isBlank (c : CodePoint) : Bool :=
  let n := c.val
  (0x09 ≤ n && n ≤ 0x0D) || (0x1C ≤ n && n ≤ 0x20) || n == 0x85 || n == 0xA0 || n == 0x1680 ||
    (0x2000 ≤ n && n ≤ 0x200A) || n == 0x2028 || n == 0x2029 || n == 0x202F || n == 0x205F ||
    n == 0x3000

/-- `c` may stand before or after a written number. -/
def isNumberBlank (c : CodePoint) : Bool :=
  c.isBlank && !(0x1C ≤ c.val && c.val ≤ 0x1F)

end CodePoint

namespace Text

/-- The text without the blanks at its ends. -/
def strip (t : Text) : Text := trim CodePoint.isBlank t

/-- The words of a text: what stands between blanks. -/
def words (t : Text) : List Text :=
  (splitWhere CodePoint.isBlank t).filter fun word => !word.isEmpty

end Text

end CloudAccess
