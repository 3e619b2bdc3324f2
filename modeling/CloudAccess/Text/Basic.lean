/-
# Texts as lists of code points

Settings, credentials, paths and addresses arrive as sequences of code points, and some of
them hold lone surrogates, which no `Char` and so no `String` can hold.  A `Text` is therefore
a list of `CodePoint`s, where a code point is a number below 0x110000 with no further
condition.  String literals are read as texts wherever a text is expected.

Beside the list operations of the library this file holds the few operations on whole texts
that the other modules share: taking a text apart at a separator (`splitOn`, `cut`,
`cutLast`), trimming its ends, and replacing one piece by another.
-/

namespace CloudAccess

/-! ## 1. Code points -/

/-- A Unicode code point.  Surrogates count: only the upper limit is a condition. -/
structure CodePoint where
  val : Nat
  isLt : val < 0x110000
deriving DecidableEq

namespace CodePoint

/-- The code point of a character, which is never a surrogate. -/
def ofChar (c : Char) : CodePoint where
  val := c.toNat
  isLt := by
    have h := c.valid
    unfold UInt32.isValidChar Nat.isValidChar at h
    unfold Char.toNat
    omega

instance : Coe Char CodePoint := ⟨ofChar⟩

/-- The code point with the given number; numbers out of range give the replacement
character. -/
def ofNat (n : Nat) : CodePoint :=
  if h : n < 0x110000 then ⟨n, h⟩ else ⟨0xFFFD, by decide⟩

instance : Inhabited CodePoint := ⟨ofNat 0⟩

/-- The character that stands for what could not be read. -/
def replacement : CodePoint := ⟨0xFFFD, by decide⟩

/-- `c` is one of the 128 ASCII characters. -/
def isAscii (c : CodePoint) : Bool := c.val < 0x80

/-- `c` is half of a surrogate pair, which no encoding form writes alone. -/
def isSurrogate (c : CodePoint) : Bool := 0xD800 ≤ c.val && c.val ≤ 0xDFFF

/-- `c` is one of `A` to `Z`. -/
def isAsciiUpper (c : CodePoint) : Bool := 0x41 ≤ c.val && c.val ≤ 0x5A

/-- `c` is one of `a` to `z`. -/
def isAsciiLower (c : CodePoint) : Bool := 0x61 ≤ c.val && c.val ≤ 0x7A

/-- `c` is an ASCII letter. -/
def isAsciiLetter (c : CodePoint) : Bool := c.isAsciiUpper || c.isAsciiLower

/-- `c` is one of `0` to `9`. -/
def isAsciiDigit (c : CodePoint) : Bool := 0x30 ≤ c.val && c.val ≤ 0x39

/-- `c` is an ASCII letter or digit. -/
def isAsciiAlphanumeric (c : CodePoint) : Bool := c.isAsciiLetter || c.isAsciiDigit

/-- The value of a hexadecimal digit of either case. -/
def hexValue? (c : CodePoint) : Option Nat :=
  if c.isAsciiDigit then some (c.val - 0x30)
  else if 0x61 ≤ c.val ∧ c.val ≤ 0x66 then some (c.val - 0x57)
  else if 0x41 ≤ c.val ∧ c.val ≤ 0x46 then some (c.val - 0x37)
  else none

/-- The upper-case hexadecimal digit of a value below sixteen. -/
def upperHexDigit (n : Nat) : CodePoint :=
  ofNat (if n < 10 then 0x30 + n else 0x37 + n)

@[ext] theorem ext {a b : CodePoint} (h : a.val = b.val) : a = b := by
  cases a; cases b; cases h; rfl

end CodePoint

/-! ## 2. Texts -/

/-- A text: any sequence of code points. -/
abbrev Text := List CodePoint

namespace Text

/-- The text of a string. -/
def ofString (s : String) : Text := s.toList.map CodePoint.ofChar

instance : Coe String Text := ⟨ofString⟩

/-- The decimal digits of a natural number. -/
def ofNat (n : Nat) : Text := (Nat.toDigits 10 n).map CodePoint.ofChar

/-- A hexadecimal number of at least `width` lower-case digits. -/
def hex (width n : Nat) : Text :=
  let digits : Text := (Nat.toDigits 16 n).map CodePoint.ofChar
  List.replicate (width - digits.length) (CodePoint.ofChar '0') ++ digits

/-- The parts, with the separator between neighbours. -/
def join (separator : Text) (parts : List Text) : Text := separator.intercalate parts

/-- The pieces of a text between the occurrences of a separator.  There is always one more
piece than there are separators. -/
def splitOn (separator : CodePoint) : Text → List Text
  | [] => [[]]
  | c :: rest =>
    if c = separator then [] :: splitOn separator rest
    else
      match splitOn separator rest with
      | [] => [[c]]
      | piece :: pieces => (c :: piece) :: pieces

/-- The pieces of a text between the characters of a class. -/
def splitWhere (p : CodePoint → Bool) (t : Text) : List Text :=
  t.foldr (fun c (pieces : List Text) =>
    if p c then [] :: pieces
    else
      match pieces with
      | [] => [[c]]
      | piece :: more => (c :: piece) :: more) [[]]

/-- The parts before and after the first separator, or `none` where there is none. -/
def cut? (separator : CodePoint) : Text → Option (Text × Text)
  | [] => none
  | c :: rest =>
    if c = separator then some ([], rest)
    else (cut? separator rest).map fun (before, after) => (c :: before, after)

/-- The parts before and after the last separator, or `none` where there is none. -/
def cutLast? (separator : CodePoint) : Text → Option (Text × Text)
  | [] => none
  | c :: rest =>
    match cutLast? separator rest with
    | some (before, after) => some (c :: before, after)
    | none => if c = separator then some ([], rest) else none

/-- What is left after removing a leading piece, or `none` where the text does not start
with it. -/
def dropStart? : (piece : Text) → Text → Option Text
  | [], t => some t
  | _ :: _, [] => none
  | p :: piece, c :: rest => if p = c then dropStart? piece rest else none

/-- The text begins with the piece. -/
def startsWith (t piece : Text) : Bool := (dropStart? piece t).isSome

/-- The text without the characters of a class at its end. -/
def trimEnd (p : CodePoint → Bool) (t : Text) : Text := (t.reverse.dropWhile p).reverse

/-- The text without the characters of a class at both ends. -/
def trim (p : CodePoint → Bool) (t : Text) : Text := trimEnd p (t.dropWhile p)

/-- Replace by `new` what `replaceAll` finds; `skip` counts the characters that belong to a
piece already replaced. -/
def replaceFrom (old new : Text) (skip : Nat) : Text → Text
  | [] => []
  | c :: rest =>
    match skip with
    | n + 1 => replaceFrom old new n rest
    | 0 =>
      if startsWith (c :: rest) old then new ++ replaceFrom old new (old.length - 1) rest
      else c :: replaceFrom old new 0 rest

/-- Every occurrence of a non-empty piece, found from the left without overlap, replaced by
another.  An empty piece occurs before every character and at the end. -/
def replaceAll (old new t : Text) : Text :=
  if old.isEmpty then new ++ t.flatMap fun c => c :: new else replaceFrom old new 0 t

/-- Code-point order of texts, the shorter first where one begins the other. -/
def le : Text → Text → Bool
  | [], _ => true
  | _ :: _, [] => false
  | a :: s, b :: t => a.val < b.val || (a.val == b.val && le s t)

/-! ## 3. Laws of the operations -/

@[simp] theorem ofString_empty : ofString "" = [] := rfl

theorem splitOn_ne_nil (separator : CodePoint) (t : Text) : splitOn separator t ≠ [] := by
  cases t with
  | nil => simp [splitOn]
  | cons c rest =>
    unfold splitOn
    split
    · simp
    · split <;> simp

/-- Joining the pieces with the separator gives the text back. -/
theorem join_splitOn (separator : CodePoint) (t : Text) :
    join [separator] (splitOn separator t) = t := by
  induction t with
  | nil => rfl
  | cons c rest ih =>
    unfold splitOn
    split
    · rename_i h
      cases hs : splitOn separator rest with
      | nil => exact absurd hs (splitOn_ne_nil separator rest)
      | cons piece pieces =>
        rw [hs] at ih
        simp only [join, List.intercalate, List.intersperse_cons_cons, List.flatten_cons,
          List.nil_append, List.singleton_append, h] at ih ⊢
        rw [ih]
    · cases hs : splitOn separator rest with
      | nil => exact absurd hs (splitOn_ne_nil separator rest)
      | cons piece pieces =>
        rw [hs] at ih
        cases pieces with
        | nil => simpa [join, List.intercalate] using ih
        | cons next more =>
          simp only [join, List.intercalate, List.intersperse_cons_cons, List.flatten_cons,
            List.cons_append] at ih ⊢
          rw [ih]

theorem dropStart?_eq_some_iff {piece t rest : Text} :
    dropStart? piece t = some rest ↔ t = piece ++ rest := by
  induction piece generalizing t with
  | nil => simp [dropStart?, eq_comm]
  | cons p piece ih =>
    cases t with
    | nil => simp [dropStart?]
    | cons c t =>
      simp only [dropStart?, List.cons_append, List.cons.injEq]
      split
      · rename_i h; simp [ih, h]
      · rename_i h; simp [Ne.symm h]

theorem startsWith_iff {t piece : Text} :
    startsWith t piece = true ↔ ∃ rest, t = piece ++ rest := by
  simp [startsWith, Option.isSome_iff_exists, dropStart?_eq_some_iff]

end Text

end CloudAccess
