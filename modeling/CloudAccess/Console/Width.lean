/-
# Room on the screen

A screen is made of cells.  Most code points take one, some take two, and marks and controls take
none.  A joiner swallows what comes after it, and an emoji selector widens the character before it
where that one is narrow as text.

A text is cut for the screen between its clusters, each a code point with what is written on top
of it (`clusters`).  `fit` makes a text exactly as wide as asked, `fold` breaks one into lines.
-/
import CloudAccess.Console.Width.Table
import CloudAccess.Text.Basic

namespace CloudAccess

namespace CodePoint

/-! ## 1. Code points -/

/-- `c` is a printable ASCII character. -/
def isPrintableAscii (c : CodePoint) : Bool := 0x20 ≤ c.val && c.val ≤ 0x7E

/-- `c` is a control of the first or the second set. -/
def isControl (c : CodePoint) : Bool := c.val < 0x20 || (0x7F ≤ c.val && c.val < 0xA0)

/-- The number of cells that `c` takes by itself. -/
def cells (c : CodePoint) : Nat :=
  if c.isPrintableAscii then 1
  else if c.isControl || Console.zeroRanges.contains c.val then 0
  else if Console.wideRanges.contains c.val then 2
  else 1

/-- `c` joins the character after it to the one before. -/
def isJoiner (c : CodePoint) : Bool := c.val == 0x200D

/-- `c` asks for the emoji form of the character before it. -/
def isEmojiSelector (c : CodePoint) : Bool := c.val == 0xFE0F

/-- `c` takes a second cell before an emoji selector. -/
def isWidened (c : CodePoint) : Bool := Console.widenedRanges.contains c.val

theorem cells_eq_one {c : CodePoint} (h : c.isPrintableAscii = true) : c.cells = 1 := by
  simp [cells, h]

end CodePoint

namespace Text

/-! ## 2. The width of a text -/

/-- The width of what is left of a text.  `joined` says that a joiner comes before it, and `last?`
is the last character that took a cell, until an emoji selector has seen it. -/
def cellsFrom (joined : Bool) (last? : Option CodePoint) : Text → Nat
  | [] => 0
  | c :: rest =>
    if joined then cellsFrom false last? rest
    else if c.isJoiner then cellsFrom true last? rest
    else if c.isEmojiSelector then
      (if last?.any CodePoint.isWidened then 1 else 0) + cellsFrom false none rest
    else c.cells + cellsFrom false (if c.cells = 0 then last? else some c) rest

/-- The number of cells that a text takes. -/
def cells (t : Text) : Nat := cellsFrom false none t

/-- A space for each of `n` cells. -/
def spaces (n : Nat) : Text := List.replicate n ' '

/-! ## 3. Clusters -/

/-- A piece of text that is not cut, and its width. -/
structure Cluster where
  piece : Text
  width : Nat
deriving DecidableEq

/-- The clusters of what is left of a text.  `done` are the clusters before, the nearest first; the
other two arguments are those of `cellsFrom`. -/
def clustersFrom (done : List Cluster) (joined : Bool) (last? : Option CodePoint) :
    Text → List Cluster
  | [] => done.reverse
  | c :: rest =>
    match done with
    | [] =>
      if c.isJoiner || c.isEmojiSelector then clustersFrom [⟨[c], 0⟩] false last? rest
      else clustersFrom [⟨[c], c.cells⟩] false (if c.cells = 0 then last? else some c) rest
    | k :: before =>
      let grown (more : Nat) : List Cluster := ⟨k.piece ++ [c], k.width + more⟩ :: before
      if joined then clustersFrom (grown 0) false last? rest
      else if c.isJoiner then clustersFrom (grown 0) true last? rest
      else if c.isEmojiSelector then
        if last?.any CodePoint.isWidened then clustersFrom (grown 1) false none rest
        else clustersFrom (grown 0) false last? rest
      else if c.cells = 0 then clustersFrom (grown 0) false last? rest
      else clustersFrom (⟨[c], c.cells⟩ :: done) false (some c) rest

/-- The clusters of a text. -/
def clusters (t : Text) : List Cluster := clustersFrom [] false none t

/-! ## 4. Cutting to a width -/

/-- The clusters that fit into a number of cells; half of a cluster becomes a space. -/
def takeCells : Nat → List Cluster → Text
  | 0, _ => []
  | _ + 1, [] => []
  | n + 1, k :: rest =>
    if k.width ≤ n + 1 then k.piece ++ takeCells (n + 1 - k.width) rest else [' ']

/-- The text cut or filled up with spaces to a width. -/
def fit (t : Text) (width : Nat) : Text :=
  if t.cells ≤ width then t ++ spaces (width - t.cells) else takeCells width t.clusters

/-- Fill lines with clusters; `line` is the line being filled, which takes `used` cells. -/
def foldFrom (width : Nat) (line : Text) (used : Nat) : List Cluster → List Text
  | [] => [line]
  | k :: rest =>
    if width < used + k.width then line :: foldFrom width k.piece k.width rest
    else foldFrom width (line ++ k.piece) (used + k.width) rest

/-- The text in lines that are as long as fits. -/
def fold (t : Text) (width : Nat) : List Text := foldFrom width [] 0 t.clusters

end Text

end CloudAccess
