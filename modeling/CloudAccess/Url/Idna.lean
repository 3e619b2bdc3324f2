/-
# Internationalised host names

A host name with characters beyond ASCII is written label by label in the ASCII form
`xn--…`.  A label is accepted only if it is in normal form C, keeps its hyphens in place,
does not begin with a mark, holds only code points that may stand in names, those with a
contextual rule in their context, and obeys the bidirectional rule.  An ASCII label that claims
to be such a form is decoded and held to the same conditions.
-/
import CloudAccess.Url.Idna.Table
import CloudAccess.Url.Punycode

namespace CloudAccess.Idna

/-! ## 1. Properties of one code point -/

/-- The class of the first entry whose set has the number. -/
def classOf? {α : Type} (classes : List (α × Ranges)) (n : Nat) : Option α :=
  (classes.find? fun (_, ranges) => ranges.contains n).map (·.1)

/-- `c` may stand anywhere in a name. -/
def isValid (c : CodePoint) : Bool :=
  if c.isAscii then c.isAsciiLower || c.isAsciiDigit || c.val == 0x2D
  else validRanges.contains c.val

/-- `c` is a combining mark. -/
def isMark (c : CodePoint) : Bool := !c.isAscii && markRanges.contains c.val

/-- The direction of a code point that may stand in a name. -/
def direction (c : CodePoint) : Direction :=
  if c.isAscii then
    if c.isAsciiDigit then .europeanNumber
    else if c.val == 0x2D then .europeanSeparator
    else .leftToRight
  else (classOf? directionRanges c.val).getD .leftToRight

/-- How a code point joins its neighbours, if it does. -/
def joining? (c : CodePoint) : Option Joining := classOf? joiningRanges c.val

/-- The code point belongs to a script. -/
def isIn (script : Script) (c : CodePoint) : Bool := (scriptRanges script).contains c.val

/-- The combining class, which orders the marks after a letter. -/
def combiningClass (c : CodePoint) : Nat :=
  if c.isAscii then 0 else (classOf? combiningRanges c.val).getD 0

/-! ## 2. Normal form C -/

/-- The numbers of a hexadecimal table. -/
def hexNumbers (lines : List String) : List Nat :=
  lines.flatMap fun line => (Ranges.ofHex [line]).bounds.toList.map (·.1)

/-- Numbers in groups of three. -/
def triples : List Nat → List (Nat × Nat × Nat)
  | a :: b :: c :: rest => (a, b, c) :: triples rest
  | _ => []

/-- The composites, each with the two code points it is made of. -/
def decompositions : List (Nat × Nat × Nat) := triples (hexNumbers decompositionText)

/-- The two parts of a composite. -/
def parts? (n : Nat) : Option (Nat × Nat) :=
  (decompositions.find? fun (composite, _) => composite == n).map (·.2)

/-- The composite of two code points. -/
def composite? (first second : Nat) : Option Nat :=
  (decompositions.find? fun (_, a, b) => a == first && b == second).map (·.1)

/-- A code point taken apart, at most `depth` times over; only the first part can be a composite
again. -/
def decompose : (depth : Nat) → CodePoint → Text
  | 0, c => [c]
  | depth + 1, c =>
    if c.isAscii then [c]
    else
      match parts? c.val with
      | none => [c]
      | some (first, second) => decompose depth (.ofNat first) ++ [.ofNat second]

/-- Put a mark in front of the marks of a higher class that end a text; the text is given from
its end. -/
def insertMark (c : CodePoint) : Text → Text
  | [] => [c]
  | d :: rest =>
    if combiningClass c < combiningClass d then d :: insertMark c rest else c :: d :: rest

/-- The text with the marks after each letter in the order of their classes. -/
def orderMarks (t : Text) : Text :=
  (t.foldl (fun done c => if combiningClass c = 0 then c :: done else insertMark c done) []).reverse

/-- Compose a text, given the letter that marks may join, the marks since then, last first, that
did not, and the rest. -/
def composeFrom (letter? : Option CodePoint) (marks : Text) : Text → Text
  | [] => letter?.toList ++ marks.reverse
  | c :: rest =>
    let isBlocked := marks.head?.any fun m => combiningClass c ≤ combiningClass m
    let joined? : Option Nat :=
      if isBlocked then none else letter?.bind fun letter => composite? letter.val c.val
    match joined? with
    | some composite => composeFrom (some (.ofNat composite)) marks rest
    | none =>
      if combiningClass c = 0 then letter?.toList ++ marks.reverse ++ composeFrom (some c) [] rest
      else composeFrom letter? (c :: marks) rest

/-- The text in normal form C, for texts of code points that may stand in names. -/
def compose (t : Text) : Text := composeFrom none [] (orderMarks (t.flatMap (decompose 4)))

/-! ## 3. Contextual rules -/

/-- Reading on from a joiner, past transparent code points, comes to one that joins as given. -/
def joins (accepted : List Joining) : Text → Bool
  | [] => false
  | c :: rest =>
    match joining? c with
    | none => false
    | some j => if j = .transparent then joins accepted rest else j ∈ accepted

/-- A mark that suppresses the vowel of its letter. -/
def isVirama (c : CodePoint) : Bool := combiningClass c = 9

/-- The code point is allowed between what stands before it, last first, and what stands
after it, in the given label. -/
def fitsContext (label before : Text) (c : CodePoint) (after : Text) : Bool :=
  let n := c.val
  let has (low high : Nat) : Bool := label.any fun d => low ≤ d.val && d.val ≤ high
  if n = 0x200C then
    before.head?.any isVirama || (joins [.left, .dual] before && joins [.right, .dual] after)
  else if n = 0x200D then before.head?.any isVirama
  else if n = 0xB7 then
    before.head? == some (CodePoint.ofChar 'l') && after.head? == some (CodePoint.ofChar 'l')
  else if n = 0x375 then after.head?.any (isIn .greek)
  else if n = 0x5F3 ∨ n = 0x5F4 then before.head?.any (isIn .hebrew)
  else if n = 0x30FB then
    label.any fun d => d.val != 0x30FB && (isIn .hiragana d || isIn .katakana d || isIn .han d)
  else if 0x660 ≤ n ∧ n ≤ 0x669 then !has 0x6F0 0x6F9
  else if 0x6F0 ≤ n ∧ n ≤ 0x6F9 then !has 0x660 0x669
  else false

/-- Every code point from the given place on may stand where it stands. -/
def allowsFrom (label before : Text) : Text → Bool
  | [] => true
  | c :: rest =>
    (isValid c || fitsContext label before c rest) && allowsFrom label (c :: before) rest

/-! ## 4. The bidirectional rule -/

/-- The direction belongs to a label that runs from right to left. -/
def Direction.isRightToLeft (d : Direction) : Bool :=
  d = .rightToLeft || d = .arabicLetter || d = .arabicNumber

/-- The directions of a label obey the bidirectional rule.  It matters only for labels with a
character that runs from right to left. -/
def obeysDirection (label : Text) : Bool :=
  let ds := label.map direction
  if !ds.any Direction.isRightToLeft then true
  else
    let ending? := (ds.reverse.dropWhile (· = .nonspacingMark)).head?
    match ds.head? with
    | none => false
    | some lead =>
      if lead = .rightToLeft ∨ lead = .arabicLetter then
        !ds.any (· = .leftToRight) &&
          !(ds.any (· = .arabicNumber) && ds.any (· = .europeanNumber)) &&
          ending?.any fun d => d.isRightToLeft || d = .europeanNumber
      else
        lead = .leftToRight && !ds.any Direction.isRightToLeft &&
          ending?.any fun d => d = .leftToRight || d = .europeanNumber

/-! ## 5. Labels and names -/

/-- No hyphen at either end, and none in the third and fourth place. -/
def placesHyphens (label : Text) : Bool :=
  let hyphen : CodePoint := '-'
  (label.drop 2).take 2 != [hyphen, hyphen] && label.head? != some hyphen &&
    label.getLast? != some hyphen

/-- The label may stand in a name. -/
def isLabel (label : Text) : Bool :=
  !label.isEmpty && label.length ≤ 254 && placesHyphens label &&
    !label.head?.any isMark && allowsFrom label [] label && obeysDirection label &&
    compose label = label

/-- What begins the ASCII form of a label. -/
def asciiMark : Text := "xn--"

/-- An ASCII label may stand in a name: an ASCII form has to be that of a label. -/
def isAsciiLabel (label : Text) : Bool :=
  match Text.dropStart? asciiMark label with
  | none => isLabel label
  | some encoded =>
    !encoded.isEmpty && encoded.getLast? != some (CodePoint.ofChar '-') &&
      (Punycode.decode encoded).any isLabel

/-- The ASCII form of a label. -/
def asciiLabel? (label : Text) : Option Text :=
  let form? : Option Text :=
    if label.all CodePoint.isAscii then if isAsciiLabel label then some label else none
    else if isLabel label then some (asciiMark ++ Punycode.encode label)
    else none
  form?.filter (·.length ≤ 63)

/-- The labels of a name: full stops of any width part them. -/
def labels (name : Text) : List Text :=
  Text.splitOn '.' (name.map fun c =>
    if c.val = 0x3002 ∨ c.val = 0xFF0E ∨ c.val = 0xFF61 then '.' else c)

/-- The ASCII form of a name, which may end with a full stop. -/
def encode? (name : Text) : Option Text :=
  let parts := labels name
  let endsWithStop := parts.getLast? = some []
  let parts := if endsWithStop then parts.dropLast else parts
  match parts.mapM asciiLabel? with
  | none => none
  | some forms =>
    let text := Text.join ['.'] (if endsWithStop then forms ++ [[]] else forms)
    if text.length ≤ (if endsWithStop then 254 else 253) then some text else none

end CloudAccess.Idna
