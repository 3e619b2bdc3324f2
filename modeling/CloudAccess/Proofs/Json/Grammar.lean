/-
# Flat JSON documents

What a document of settings looks like on paper: one object, and in it members whose values are
texts, numbers or words, with white space wherever a piece ends.  A relation for each piece says
how it is written and what it denotes, without regard to how it is read.

Members stay as they are written.  A name may come more than once, and the relations keep every
occurrence, so that it can be said which one counts.
-/
import CloudAccess.Json.Reader

namespace CloudAccess.Json

/-! ## 1. White space and texts -/

/-- The mark at both ends of a text. -/
abbrev quoteMark : CodePoint := '\x22'

/-- The mark that an escape begins with. -/
abbrev escapeMark : CodePoint := '\\'

/-- The letter of an escape by number. -/
abbrev numberMark : CodePoint := 'u'

/-- White space, or nothing. -/
def Blank (s : Text) : Prop := ∀ c ∈ s, isSpace c = true

theorem blank_nil : Blank [] := nofun

/-- Four hexadecimal digits that write a number. -/
def FourHex (h : Text) (n : Nat) : Prop := fourHex? h = some (n, [])

/-- The first half of a surrogate pair. -/
def IsHigh (n : Nat) : Prop := 0xD800 ≤ n ∧ n ≤ 0xDBFF

/-- The second half of a surrogate pair. -/
def IsLow (n : Nat) : Prop := 0xDC00 ≤ n ∧ n ≤ 0xDFFF

/-- The text begins with the escape of a second half. -/
def StartsLow (w : Text) : Prop :=
  ∃ h n rest, FourHex h n ∧ IsLow n ∧ w = escapeMark :: numberMark :: (h ++ rest)

/-- What stands between the quotes of a text.  An escaped first half and an escaped second half
that follow each other are one character; a half may stand alone otherwise. -/
inductive Body : (written content : Text) → Prop
  | nil : Body [] []
  | plain {c : CodePoint} {w t : Text} (not_quote : c ≠ quoteMark) (not_escape : c ≠ escapeMark)
      (visible : 0x20 ≤ c.val) (rest : Body w t) : Body (c :: w) (c :: t)
  | simple {e d : CodePoint} {w t : Text} (letter : simpleEscape? e = some d) (rest : Body w t) :
      Body (escapeMark :: e :: w) (d :: t)
  | unicode {h w t : Text} {n : Nat} (digits : FourHex h n)
      (single : ¬(IsHigh n ∧ StartsLow w)) (rest : Body w t) :
      Body (escapeMark :: numberMark :: (h ++ w)) (CodePoint.ofNat n :: t)
  | pair {h l w t : Text} {high low : Nat} (first : FourHex h high) (second : FourHex l low)
      (isHigh : IsHigh high) (isLow : IsLow low) (rest : Body w t) :
      Body (escapeMark :: numberMark :: (h ++ escapeMark :: numberMark :: (l ++ w)))
        (CodePoint.ofNat (0x10000 + (high - 0xD800) * 0x400 + (low - 0xDC00)) :: t)

/-- A text of visible characters, none of them a mark, stands for itself. -/
theorem Body.of_plain {t : Text}
    (h : ∀ c ∈ t, c ≠ quoteMark ∧ c ≠ escapeMark ∧ 0x20 ≤ c.val) : Body t t := by
  induction t with
  | nil => exact .nil
  | cons c rest ih =>
    obtain ⟨⟨hquote, hescape, hvisible⟩, hrest⟩ := List.forall_mem_cons.mp h
    exact .plain hquote hescape hvisible (ih hrest)

/-! ## 2. Numbers -/

/-- The sign of a number below zero. -/
abbrev minusSign : CodePoint := '-'

/-- The other sign, which only an exponent may have. -/
abbrev plusSign : CodePoint := '+'

/-- The point before the fraction of a number. -/
abbrev pointMark : CodePoint := '.'

/-- One digit or more. -/
def Digits (ds : Text) : Prop := ds ≠ [] ∧ ∀ c ∈ ds, c.isAsciiDigit = true

/-- A minus, or nothing. -/
def Minus (s : Text) : Prop := s = [] ∨ s = [minusSign]

/-- The digits before the point: no zero comes before another digit. -/
inductive Whole : Text → Prop
  | zero : Whole ['0']
  | digits {c : CodePoint} {ds : Text} (ne_zero : c ≠ '0') (all : Digits (c :: ds)) :
      Whole (c :: ds)

/-- The point with the digits after it, or nothing. -/
inductive Fraction : Text → Prop
  | absent : Fraction []
  | present {ds : Text} (digits : Digits ds) : Fraction (pointMark :: ds)

/-- The exponent, or nothing. -/
inductive Exponent : Text → Prop
  | absent : Exponent []
  | present {e : CodePoint} {sign ds : Text} (letter : e = 'e' ∨ e = 'E')
      (signed : sign = [] ∨ sign = [plusSign] ∨ sign = [minusSign]) (digits : Digits ds) :
      Exponent (e :: (sign ++ ds))

/-! ## 3. Values and objects -/

/-- What an object begins with. -/
abbrev openMark : CodePoint := '\x7b'

/-- What an object ends with. -/
abbrev closeMark : CodePoint := '\x7d'

/-- What stands between a name and its value. -/
abbrev colonMark : CodePoint := ':'

/-- What stands between two members. -/
abbrev commaMark : CodePoint := ','

/-- A value that is no list and no object.  A number without a fraction and an exponent is an
integer, and has to be one that can be read. -/
inductive Scalar : Text → Value → Prop
  | word {w : Text} {v : Value} (known : (w, v) ∈ words) : Scalar w v
  | text {w t : Text} (body : Body w t) : Scalar (quoteMark :: (w ++ [quoteMark])) (.text t)
  | whole {minus ds : Text} {n : Int} (sign : Minus minus) (digits : Whole ds)
      (number : Integer.read (minus ++ ds) = .ok n) : Scalar (minus ++ ds) (.whole n)
  | real {minus ds fraction exponent : Text} (sign : Minus minus) (digits : Whole ds)
      (afterPoint : Fraction fraction) (power : Exponent exponent)
      (present : fraction ≠ [] ∨ exponent ≠ []) :
      Scalar (minus ++ (ds ++ (fraction ++ exponent)))
        (.real (minus ++ (ds ++ (fraction ++ exponent))))

/-- A member: a name, a colon and a value. -/
inductive Member : Text → Text × Value → Prop
  | intro {b name s₁ s₂ w s₃ : Text} {v : Value} (body : Body b name) (blank₁ : Blank s₁)
      (blank₂ : Blank s₂) (value : Scalar w v) (blank₃ : Blank s₃) :
      Member (quoteMark :: (b ++ quoteMark :: (s₁ ++ colonMark :: (s₂ ++ (w ++ s₃))))) (name, v)

/-- Members, with commas between them. -/
inductive Members : Text → List (Text × Value) → Prop
  | one {s m : Text} {p : Text × Value} (blank : Blank s) (member : Member m p) :
      Members (s ++ m) [p]
  | more {s m ms : Text} {p : Text × Value} {ps : List (Text × Value)} (blank : Blank s)
      (member : Member m p) (rest : Members ms ps) : Members (s ++ (m ++ commaMark :: ms)) (p :: ps)

/-- A document that is one object, with its members in the order in which they are written. -/
inductive FlatObject : Text → List (Text × Value) → Prop
  | empty {s₁ s₂ s₃ : Text} (blank₁ : Blank s₁) (blank₂ : Blank s₂) (blank₃ : Blank s₃) :
      FlatObject (s₁ ++ openMark :: (s₂ ++ closeMark :: s₃)) []
  | members {s₁ m s₂ : Text} {ps : List (Text × Value)} (blank₁ : Blank s₁)
      (members : Members m ps) (blank₂ : Blank s₂) :
      FlatObject (s₁ ++ openMark :: (m ++ closeMark :: s₂)) ps

end CloudAccess.Json
