/-
# Lower case

The full lower-case mapping of a text.  Two letters need more than a look-up: the dotted
capital I (U+0130), whose lower-case form is two characters, and the capital sigma (U+03A3),
which at the end of a word becomes the final form (U+03C2).

A sigma ends a word when the nearest character before it that is not case-ignorable is a cased
letter, and the nearest one after it is not.  `lowerFrom` carries the first condition along as
a flag, so that the mapping is one pass over the text.
-/
import CloudAccess.Text.Case.Table

namespace CloudAccess

namespace CodePoint

/-! ## 1. Properties of one character -/

/-- `c` is a letter that has a case. -/
def isCased (c : CodePoint) : Bool :=
  if c.isAscii then c.isAsciiLetter else Text.casedRanges.contains c.val

/-- A search for a neighbouring letter skips `c`. -/
def isCaseIgnorable (c : CodePoint) : Bool :=
  if c.isAscii then
    c.val == 0x27 || c.val == 0x2E || c.val == 0x3A || c.val == 0x5E || c.val == 0x60
  else Text.caseIgnorableRanges.contains c.val

/-- The lower-case letter of a single letter, and every other character itself. -/
def toLower (c : CodePoint) : CodePoint :=
  if c.isAscii then if c.isAsciiUpper then ofNat (c.val + 0x20) else c
  else
    match Text.lowerRuns.find? (·.contains c.val) with
    | some run => ofNat (c.val + run.shift).toNat
    | none => c

end CodePoint

namespace Text

/-! ## 2. Texts -/

/-- The first character that is not case-ignorable is a cased letter. -/
def startsCased : Text → Bool
  | [] => false
  | c :: rest => if c.isCaseIgnorable then startsCased rest else c.isCased

/-- The lower-case form of a text; `afterCased` says that a cased letter stands before it, with
nothing but case-ignorable characters in between. -/
def lowerFrom (afterCased : Bool) : Text → Text
  | [] => []
  | c :: rest =>
    let lowered : Text :=
      if c.val = 0x130 then [.ofNat 0x69, .ofNat 0x307]
      else if c.val = 0x3A3 then
        [.ofNat (if afterCased && !startsCased rest then 0x3C2 else 0x3C3)]
      else [c.toLower]
    lowered ++ lowerFrom (if c.isCaseIgnorable then afterCased else c.isCased) rest

/-- The lower-case form of a text. -/
def lower (t : Text) : Text := lowerFrom false t

end Text

end CloudAccess
