/-
# Punycode

An ASCII form for texts beyond ASCII.  The ASCII characters come first as they are;
then every other one, in the order of their numbers, as the distance from the one before it.  A
distance is written with a varying number of digits in base 36 whose thresholds follow a bias
that adapts to the distances seen so far.
-/
import CloudAccess.Text.Basic

namespace CloudAccess.Punycode

/-! ## 1. Digits and bias -/

/-- The threshold of digit `k` under a bias. -/
def threshold (k bias : Nat) : Nat := max 1 (min 26 (36 * (k + 1) - bias))

theorem one_le_threshold (k bias : Nat) : 1 ≤ threshold k bias := Nat.le_max_left _ _

theorem threshold_le (k bias : Nat) : threshold k bias ≤ 26 := by
  unfold threshold; omega

/-- Divide by 35 until at most 455 is left; the count starts at `divisions` and goes up by 36. -/
def shrink (delta divisions : Nat) : Nat × Nat :=
  if 455 < delta then shrink (delta / 35) (divisions + 36) else (delta, divisions)
termination_by delta
decreasing_by omega

/-- The bias after a distance, when `points` characters are in place. -/
def adapt (delta points : Nat) (isFirst : Bool) : Nat :=
  let scaled := if isFirst then delta / 700 else delta / 2
  let (rest, divisions) := shrink (scaled + scaled / points) 0
  divisions + 36 * rest / (rest + 38)

/-- The bias at the beginning. -/
def initialBias : Nat := 72

/-- The digit of a value below 36. -/
def digit (v : Nat) : CodePoint := .ofNat (if v < 26 then 0x61 + v else 0x30 + (v - 26))

/-- The value of a digit of either case. -/
def value? (c : CodePoint) : Option Nat :=
  if c.isAsciiLower then some (c.val - 0x61)
  else if c.isAsciiUpper then some (c.val - 0x41)
  else if c.isAsciiDigit then some (c.val - 0x30 + 26)
  else none

/-! ## 2. Encoding -/

/-- The digits of a distance, from digit `k` on. -/
def encodeNumber (k n bias : Nat) : Text :=
  let t := threshold k bias
  if n < t then [digit n]
  else digit (t + (n - t) % (36 - t)) :: encodeNumber (k + 1) ((n - t) / (36 - t)) bias
termination_by n
decreasing_by
  have h1 : 1 ≤ threshold k bias := one_le_threshold k bias
  exact Nat.lt_of_le_of_lt (Nat.div_le_self _ _) (by omega)

/-- Where the encoder stands: the distance counted so far, how many characters are in place, and
the bias. -/
structure Encoder where
  delta : Nat
  placed : Nat
  bias : Nat
  output : Text

/-- Pass one character of the text while the code point `m` is being placed.  The first
distance is told by `basic`, the number of ASCII characters. -/
def Encoder.pass (m basic : Nat) (s : Encoder) (c : CodePoint) : Encoder :=
  if c.val < m then { s with delta := s.delta + 1 }
  else if c.val = m then
    { delta := 0, placed := s.placed + 1
      bias := adapt s.delta (s.placed + 1) (s.placed == basic)
      output := s.output ++ encodeNumber 0 s.delta s.bias }
  else s

/-- Place the given code points, which come in increasing order; `next` is the smallest one that
has not been passed. -/
def placeAll (t : Text) (basic : Nat) (next : Nat) (s : Encoder) : List Nat → Encoder
  | [] => s
  | m :: more =>
    let s := { s with delta := s.delta + (m - next) * (s.placed + 1) }
    let s := t.foldl (Encoder.pass m basic) s
    placeAll t basic (m + 1) { s with delta := s.delta + 1 } more

/-- Put a number into an increasing list, unless it is there. -/
def insertSorted (n : Nat) : List Nat → List Nat
  | [] => [n]
  | m :: rest =>
    if n < m then n :: m :: rest else if n = m then m :: rest else m :: insertSorted n rest

/-- The punycode form of a text. -/
def encode (t : Text) : Text :=
  let basic := t.filter CodePoint.isAscii
  let others := (t.filter (!·.isAscii)).foldl (fun ns c => insertSorted c.val ns) []
  let s := placeAll t basic.length 0x80 ⟨0, basic.length, initialBias, []⟩ others
  (if basic.isEmpty then [] else basic ++ ("-" : Text)) ++ s.output

/-! ## 3. Decoding -/

/-- Where the decoder stands: the text so far, the last code point and its place, the bias, and
of the distance being read its value so far, the weight of the next digit and its index. -/
structure Decoder where
  text : Text
  point : Nat
  place : Nat
  bias : Nat
  isFirst : Bool
  value : Nat
  weight : Nat
  index : Nat

/-- Read the remaining digits. -/
def Decoder.run (s : Decoder) : Text → Option Text
  | [] => if s.index = 0 then some s.text else none
  | c :: rest =>
    match value? c with
    | none => none
    | some d =>
      let t := threshold s.index s.bias
      let value := s.value + d * s.weight
      if d < t then
        let size := s.text.length + 1
        let position := s.place + value
        let point := s.point + position / size
        if h : point < 0x110000 then
          let place := position % size
          let text := s.text.take place ++ ⟨point, h⟩ :: s.text.drop place
          Decoder.run ⟨text, point, place + 1, adapt value size s.isFirst, false, 0, 1, 0⟩ rest
        else none
      else
        Decoder.run
          { s with value := value, weight := s.weight * (36 - t), index := s.index + 1 } rest

/-- The text that a punycode form writes. -/
def decode (t : Text) : Option Text :=
  let (basic, digits) := (Text.cutLast? '-' t).getD ([], t)
  Decoder.run ⟨basic, 0x80, 0, initialBias, true, 0, 1, 0⟩ digits

end CloudAccess.Punycode
