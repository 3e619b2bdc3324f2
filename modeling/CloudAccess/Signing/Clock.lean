/-
# Clocks

Times are numbers of seconds, whole or with a fraction.  A clock tells, from the present time,
when what is signed now shall expire; what it tells may be any kind of value that can be turned
into an integer, and `Reading.toInt` turns it.

Fractions are binary floating-point numbers.  Whatever is decided about one, its whole part or
whether it lies above an integer, is decided from its exact value `mantissa * 2 ^ exponent`.  A
floating-point number need not have a value: it may be infinite, or no number at all.
-/
import CloudAccess.Fault

namespace CloudAccess

/-! ## 1. Numbers of seconds -/

/-- A number as a clock may hold it. -/
inductive Number where
  | whole (n : Int)
  | real (x : Float)

namespace Number

/-- The fraction field of a floating-point number. -/
def fractionField (x : Float) : Nat := x.toBits.toNat % Nat.pow 2 52

/-- The exponent field of a floating-point number. -/
def exponentField (x : Float) : Nat := x.toBits.toNat / Nat.pow 2 52 % Nat.pow 2 11

/-- The number is a finite one: its exponent field is not full. -/
def isFinite (x : Float) : Bool := exponentField x ≠ 0x7FF

/-- The exact value of a finite floating-point number, as a mantissa and a power of two. -/
def binary (x : Float) : Int × Int :=
  let fraction := fractionField x
  let exponent := exponentField x
  let magnitude : Nat := if exponent = 0 then fraction else Nat.pow 2 52 + fraction
  let power : Nat := if exponent = 0 then 1 else exponent
  (if x.toBits.toNat / Nat.pow 2 63 = 0 then magnitude else -(magnitude : Int),
    (power : Int) - 1075)

/-- The number has a value. -/
def hasValue : Number → Bool
  | .whole _ => true
  | .real x => isFinite x

/-- The whole part: what is left after dropping the fraction. -/
def truncate : Number → Int
  | .whole n => n
  | .real x =>
    let (m, e) := binary x
    if 0 ≤ e then m * Int.pow 2 e.toNat else Int.tdiv m (Int.pow 2 (-e).toNat)

/-- The whole part of a number that has a value. -/
def whole? : Number → Except Fault Int
  | .whole n => .ok n
  | .real x =>
    if isFinite x then .ok (truncate (.real x))
    else if fractionField x = 0 then .error .numberInfinite
    else .error .numberUndefined

/-- The least integer that is not below a number with a value. -/
def ceiling : Number → Int
  | .whole n => n
  | .real x =>
    let (m, e) := binary x
    if 0 ≤ e then m * Int.pow 2 e.toNat else -((-m) / Int.pow 2 (-e).toNat)

/-- The number lies above all integers. -/
def isInfinity : Number → Bool
  | .whole _ => false
  | .real x => x.toBits.toNat = 0x7FF * Nat.pow 2 52

/-- An integer lies below a number.  None lies below what is no number at all. -/
def exceeds (n : Number) (i : Int) : Bool :=
  if n.hasValue then i < n.ceiling else n.isInfinity

/-- The nearest floating-point number, unless it would be infinite. -/
def toFloat : Number → Except Fault Float
  | .real x => .ok x
  | .whole n =>
    let x := Float.ofInt n
    if isFinite x then .ok x else .error .numberTooLarge

/-- The sum: exact for integers, rounded where a fraction is involved. -/
def add : Number → Number → Except Fault Number
  | .whole a, .whole b => .ok (.whole (a + b))
  | a, b =>
    match a.toFloat with
    | .error fault => .error fault
    | .ok x =>
      match b.toFloat with
      | .error fault => .error fault
      | .ok y => .ok (.real (x + y))

end Number

/-! ## 2. What a clock tells -/

/-- A value that is taken for an integer. -/
inductive Reading where
  | number (n : Number)
  | flag (b : Bool)
  | text (t : Text)
  | nothing

/-- The integer that a value is taken for. -/
def Reading.toInt : Reading → Except Fault Int
  | .number n => n.whole?
  | .flag b => .ok (if b then 1 else 0)
  | .text t => (Integer.read t).mapError .misreadInteger
  | .nothing => .error (.notInteger "NoneType")

/-- A clock: from the present time to a time of expiry. -/
abbrev Clock := Number → Except Fault Reading

namespace Clock

/-- How long what is signed stays valid if nothing else is said, in seconds. -/
def defaultLifetime : Int := 3600

/-- The present time in whole seconds. -/
def system (now : Number) : Int := now.truncate

/-- The time a lifetime from now, corrected by a skew. -/
def expiry (lifetime skew now : Number) : Except Fault Number :=
  match (Number.whole (system now)).add lifetime with
  | .error fault => .error fault
  | .ok sum => sum.add skew

/-- The clock that tells the time a lifetime from now, corrected by a skew. -/
def expiring (lifetime skew : Number) : Clock := fun now =>
  (expiry lifetime skew now).map .number

/-- The clock of a whole lifetime without a skew. -/
def lasting (lifetime : Int) : Clock := expiring (.whole lifetime) (.whole 0)

theorem expiry_whole (lifetime skew : Int) (now : Number) :
    expiry (.whole lifetime) (.whole skew) now = .ok (.whole (system now + lifetime + skew)) := rfl

end Clock

end CloudAccess
