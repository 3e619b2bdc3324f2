/-
# Quoted texts

How a text is shown inside a message when it has to be told apart from the words around it:
between single quotes, or between double quotes when it holds a single quote and no double
one.  The quote in use, the backslash, line ends, tabs and everything without a visible form
are written as escapes.
-/
import CloudAccess.Text.Quoted.Table

namespace CloudAccess

namespace CodePoint

/-- `c` has a visible form of its own.  The space counts. -/
def isPrintable (c : CodePoint) : Bool :=
  if c.isAscii then 0x20 ≤ c.val && c.val < 0x7F else !Text.unprintableRanges.contains c.val

/-- The escape of a character by its number: two digits, four or eight. -/
def numericEscape (c : CodePoint) : Text :=
  if c.val ≤ 0xFF then "\\x" ++ Text.hex 2 c.val
  else if c.val ≤ 0xFFFF then "\\u" ++ Text.hex 4 c.val
  else "\\U" ++ Text.hex 8 c.val

end CodePoint

namespace Text

/-- One character between quotes. -/
def quotedChar (quote c : CodePoint) : Text :=
  if c = quote ∨ c = '\\' then ['\\', c]
  else if c = '\t' then "\\t"
  else if c = '\n' then "\\n"
  else if c = '\r' then "\\r"
  else if c.isPrintable then [c]
  else c.numericEscape

/-- The quote that a text is put between. -/
def quoteMark (t : Text) : CodePoint :=
  if (CodePoint.ofChar '\x27') ∈ t ∧ (CodePoint.ofChar '\x22') ∉ t then '\x22' else '\x27'

/-- The text between quotes. -/
def quoted (t : Text) : Text :=
  let quote := quoteMark t
  quote :: (t.flatMap (quotedChar quote) ++ [quote])

/-- A text that may be missing: `None` where it is. -/
def quoted? : Option Text → Text
  | none => "None"
  | some t => quoted t

end Text

end CloudAccess
