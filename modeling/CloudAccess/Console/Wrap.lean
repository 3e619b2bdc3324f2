/-
# Lines of a given width

A text is broken into lines between its words.  A word keeps the blanks after it, and the first word
of a line those before it; blanks that reach beyond the width are dropped.  A word that is wider
than a line is folded over several, or stays on one and is cut off there with an ellipsis.
-/
import CloudAccess.Console.Width
import CloudAccess.Text.Blank

namespace CloudAccess.Console

/-- What happens to a word that is wider than a line. -/
inductive Overflow where
  | fold
  | ellipsis
deriving DecidableEq

namespace Wrap

/-! ## 1. Words -/

/-- The words of what is left of a text, each with the blanks after it.  `word` is the word being
read, the last character first, and `ended` says that a blank has been seen after it. -/
def wordsFrom (word : Text) (ended : Bool) : Text → List Text
  | [] => [word.reverse]
  | c :: rest =>
    if c.isBlank then wordsFrom (c :: word) true rest
    else if ended then word.reverse :: wordsFrom [c] false rest
    else wordsFrom (c :: word) false rest

/-- The words of a text, each with the blanks after it; the first one with those before it too. -/
def words (t : Text) : List Text :=
  wordsFrom (t.takeWhile CodePoint.isBlank).reverse false (t.dropWhile CodePoint.isBlank)

/-! ## 2. Filling lines -/

/-- Lines being filled: those that are finished, the last first, the one being filled, and the cells
that it takes. -/
structure Filling where
  finished : List Text := []
  line : Text := []
  used : Nat := 0

namespace Filling

/-- The line is finished, and a new one begins; an empty one need not be. -/
def next (f : Filling) (line : Text) : Filling :=
  ⟨if f.line.isEmpty then f.finished else f.line :: f.finished, line, line.cells⟩

/-- Add a word. -/
def add (overflow : Overflow) (width : Nat) (f : Filling) (word : Text) : Filling :=
  let needed := (Text.trimEnd CodePoint.isBlank word).cells
  if f.used + needed ≤ width then ⟨f.finished, f.line ++ word, f.used + word.cells⟩
  else if width < needed && overflow = .fold then (word.fold width).foldl next f
  else f.next word

/-- All lines, in order. -/
def lines (f : Filling) : List Text := (f.line :: f.finished).reverse

end Filling

/-- The text in lines, broken between its words. -/
def breakLine (overflow : Overflow) (width : Nat) (t : Text) : List Text :=
  ((words t).foldl (Filling.add overflow width) {}).lines

/-! ## 3. Tabs and ends -/

/-- The distance between tab stops. -/
def tabSize : Nat := 8

/-- The parts of a line up to its tabs, set out to the tab stops from a column. -/
def expandFrom (column : Nat) : List Text → Text
  | [] => []
  | [final] => final
  | part :: rest =>
    let reached := column + (part ++ Text.spaces 1).cells
    let stop := (reached + tabSize - 1) / tabSize * tabSize
    part ++ Text.spaces (1 + (stop - reached)) ++ expandFrom stop rest

/-- The line with spaces in place of tabs. -/
def expandTabs (line : Text) : Text := expandFrom 0 (Text.splitOn (.ofNat 0x09) line)

/-- The line without the blanks at its end that lie beyond a number of characters. -/
def dropOverhang (width : Nat) (line : Text) : Text :=
  let blanks := (line.reverse.takeWhile CodePoint.isBlank).length
  line.take (line.length - min blanks (line.length - width))

/-- The line cut off at a width, which is not zero. -/
def cutOff (overflow : Overflow) (width : Nat) (line : Text) : Text :=
  if line.cells ≤ width then line
  else
    match overflow with
    | .fold => line.fit width
    | .ellipsis => line.fit (width - 1) ++ [.ofNat 0x2026]

/-! ## 4. Whole texts -/

/-- The lines of a text, broken to a width; line feeds break it too. -/
def lines (overflow : Overflow) (width : Nat) (t : Text) : List Text :=
  (Text.splitOn (.ofNat 0x0A) t).flatMap fun line =>
    (breakLine overflow width (expandTabs line)).map (dropOverhang width)

/-- A line at the left of its place, as wide as that.  A joiner at the end of the line swallows the
first blank after it, so the line is filled up a second time. -/
def leftAligned (overflow : Overflow) (width : Nat) (line : Text) : Text :=
  ((cutOff overflow width line).fit width).fit width

/-- A line in the middle of its place, as wide as that. -/
def centred (overflow : Overflow) (width : Nat) (line : Text) : Text :=
  let line := cutOff overflow width (Text.trimEnd CodePoint.isBlank line)
  (Text.spaces ((width - line.cells) / 2) ++ line).fit width

end Wrap

end CloudAccess.Console
