/-
# Sheets

A sheet shows fields and their values in two columns, with a title above and a rule below the
headings.  All of it is marked-up text.  A sheet takes as much room as its texts need; where that is
more than there is, the wider column gives way, down to the width of the other one, and then both.
-/
import CloudAccess.Console.Markup
import CloudAccess.Console.Wrap

namespace CloudAccess.Console

/-- A title, two headings, and rows of a field and its value. -/
structure Sheet where
  title : Text
  headings : Text × Text
  rows : List (Text × Text)
deriving DecidableEq

namespace Sheet

/-! ## 1. Widths -/

/-- The room beside and between the columns. -/
def frame : Nat := 3

/-- The blanks beside the text of a cell. -/
def padding : Nat := 2

/-- `c` ends a line when the width of a text is measured. -/
def endsLine (c : CodePoint) : Bool :=
  let n := c.val
  (0x0A ≤ n && n ≤ 0x0D) || (0x1C ≤ n && n ≤ 0x1E) || n == 0x85 || n == 0x2028 || n == 0x2029

/-- The width of the longest line of a text. -/
def naturalWidth (t : Text) : Nat :=
  ((Text.splitWhere endsLine t).map Text.cells).foldl max 0

/-- The width of a column with the given texts where `room` cells are there for all columns. -/
def columnWidth (room : Nat) (texts : List Text) : Nat :=
  if room = 0 then 1
  else if room ≤ padding then room
  else min room ((texts.map fun t => naturalWidth t + padding).foldl max 0)

/-- Half of a number, rounded to an even one. -/
def evenHalf (n : Nat) : Nat := if n % 4 = 3 then n / 2 + 1 else n / 2

/-- The widths of two columns that have to share some room. -/
def share (room : Nat) (widths : Nat × Nat) : Nat × Nat :=
  let (a, b) := widths
  let excess := a + b - room
  let level := min excess (max a b - min a b)
  let (a, b) := if a < b then (a, b - level) else (a - level, b)
  let rest := excess - level
  (a - evenHalf rest, b - (rest - evenHalf rest))

/-! ## 2. Cells and rows -/

/-- The lines of a cell, each as wide as the column.  A column without room for text has none. -/
def cellLines (width : Nat) (t : Text) : List Text :=
  if width ≤ padding then []
  else
    let inner := width - padding
    (Wrap.lines .ellipsis inner t).map fun line =>
      Text.spaces 1 ++ Wrap.leftAligned .ellipsis inner line ++ Text.spaces 1

/-- A line of the sheet, from the parts in its two columns. -/
def line (left right : Text) : Text :=
  Text.spaces 1 ++ left ++ Text.spaces 1 ++ right ++ Text.spaces 1

/-- The lines of two cells side by side; the shorter one is filled up with blanks. -/
def sideBySide (widths : Nat × Nat) (left right : List Text) : List Text :=
  let height := max 1 (max left.length right.length)
  (List.range height).map fun i =>
    line (left.getD i (Text.spaces widths.1)) (right.getD i (Text.spaces widths.2))

/-- The lines of a row. -/
def rowLines (widths : Nat × Nat) (row : Text × Text) : List Text :=
  sideBySide widths (cellLines widths.1 row.1) (cellLines widths.2 row.2)

/-- The line below the headings. -/
def rule (widths : Nat × Nat) : Text :=
  Text.spaces 1 ++ List.replicate (widths.1 + 1 + widths.2) (.ofNat 0x2500) ++ Text.spaces 1

/-! ## 3. The whole sheet -/

/-- What the cells of a column show, from the top; the first problem counts. -/
def shownCells (judge : Markup.Judge) : List Text → Except Markup.Problem (List Text)
  | [] => .ok []
  | t :: rest =>
    match Markup.shown judge t with
    | .error problem => .error problem
    | .ok shown => (shownCells judge rest).map (shown :: ·)

/-- The lines of the parts below the title. -/
def bodyLines (widths : Nat × Nat) (headings : Text × Text) (rows : List (Text × Text)) :
    List Text :=
  let blank := line (Text.spaces widths.1) (Text.spaces widths.2)
  [blank] ++ rowLines widths headings ++ [rule widths] ++ rows.flatMap (rowLines widths) ++ [blank]

/-- The lines of the title above a sheet of the given width. -/
def titleLines (width : Nat) (t : Text) : List Text :=
  (Wrap.lines .fold width t).map (Wrap.centred .fold width)

/-- The lines of a sheet on a screen of the given width.  Cells are looked at before the title, and
only where they have room. -/
def lines (s : Sheet) (width : Nat) (judge : Markup.Judge) :
    Except Markup.Problem (List Text) := do
  if width = 0 then return []
  let room := width - frame
  let fields := s.headings.1 :: s.rows.map Prod.fst
  let values := s.headings.2 :: s.rows.map Prod.snd
  let (fields, values) ←
    if room ≤ padding then pure (fields, values)
    else do
      let fields ← shownCells judge fields
      let values ← shownCells judge values
      pure (fields, values)
  let widths := share room (columnWidth room fields, columnWidth room values)
  let title ← Markup.shown judge s.title
  let all := titleLines (widths.1 + widths.2 + frame) title ++
    bodyLines widths (fields.headD [], values.headD []) (fields.tail.zip values.tail)
  return all.map fun line => if line.cells ≤ width then line else line.fit width

/-- A sheet as text, with a line feed after every line. -/
def render (s : Sheet) (width : Nat) (judge : Markup.Judge) : Except Markup.Problem Text :=
  (s.lines width judge).map fun lines => lines.flatMap fun line => line ++ [.ofNat 0x0A]

end Sheet

end CloudAccess.Console
