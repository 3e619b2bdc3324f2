/-
# Written integers

Reading and writing integers in decimal.  A written integer may be surrounded by blanks, may
carry one sign, and may have single underscores between its digits; the digits may come from
any script.  Both directions stop at `digitLimit` digits, because the time they take grows
faster than the length of the number.

Reading looks at the digits before it looks at what follows them, so a text with too many
digits is called too long even when junk comes after them.
-/
import CloudAccess.Text.Blank
import CloudAccess.Text.Digit
import CloudAccess.Text.Quoted

namespace CloudAccess.Integer

/-! ## 1. Writing -/

/-- The number of digits that reading and writing are willing to handle. -/
def digitLimit : Nat := 4300

/-- The decimal form of an integer. -/
def write : Int → Text
  | .ofNat n => Text.ofNat n
  | .negSucc n => '-' :: Text.ofNat (n + 1)

/-- The integer has few enough digits to be written. -/
def isWritable (n : Int) : Bool := n.natAbs < Nat.pow 10 digitLimit

/-! ## 2. Reading -/

/-- Why a text is not read as an integer. -/
inductive Misread where
  /-- It has this many digits, which is too many. -/
  | tooLong (digits : Nat)
  /-- The integer has too many digits to be written. -/
  | unwritable
  /-- It is not a written integer. -/
  | malformed (source : Text)
deriving DecidableEq

/-- The wording of a misread number.  A malformed text is quoted, up to 200 characters. -/
def Misread.message : Misread → Text
  | .tooLong digits =>
    "Exceeds the limit (4300 digits) for integer string conversion: value has " ++
      Text.ofNat digits ++ " digits; use sys.set_int_max_str_digits() to increase the limit"
  | .unwritable =>
    "Exceeds the limit (4300 digits) for integer string conversion; " ++
      "use sys.set_int_max_str_digits() to increase the limit"
  | .malformed source =>
    "invalid literal for int() with base 10: " ++ (Text.quoted source).take 200

/-- The values of the leading digits and what follows them, or `none` where an underscore does
not stand between two digits or a digit that is `needed` does not come. -/
def digits? (needed : Bool) : Text → Option (List Nat × Text)
  | [] => if needed then none else some ([], [])
  | c :: rest =>
    match c.digitValue? with
    | some d => (digits? false rest).map fun (ds, after) => (d :: ds, after)
    | none =>
      if needed then none
      else if c = '_' then digits? true rest
      else some ([], c :: rest)

/-- The number that a row of digit values writes. -/
def ofDigits (ds : List Nat) : Nat := ds.foldl (fun n d => 10 * n + d) 0

/-- A leading sign: whether it is a minus, and the text after it. -/
def sign : Text → Bool × Text
  | [] => (false, [])
  | c :: rest =>
    if c = '-' then (true, rest) else if c = '+' then (false, rest) else (false, c :: rest)

/-- The integer that a text writes. -/
def read (t : Text) : Except Misread Int :=
  let (negative, body) := sign (t.dropWhile CodePoint.isNumberBlank)
  match digits? true body with
  | none => .error (.malformed t)
  | some (ds, after) =>
    if digitLimit < ds.length then .error (.tooLong ds.length)
    else if after.all CodePoint.isNumberBlank then
      .ok (if negative then -(ofDigits ds : Int) else ofDigits ds)
    else .error (.malformed t)

end CloudAccess.Integer
