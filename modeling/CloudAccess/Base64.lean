/-
# Base64

Bytes are written in groups of four characters, each character for six bits.  The decoder is
strict about foreign characters and about what may follow padding, but not about the bits that
padding leaves over, nor about padding after a complete group.

It reads one character at a time and keeps the values of the group it is in, how
many padding marks have completed that group, and whether any padding mark has been seen.
-/
import CloudAccess.Text.Utf8

namespace CloudAccess.Base64

/-! ## 1. The alphabet -/

/-- The character of a six-bit value. -/
def character (v : Nat) : CodePoint :=
  if v < 26 then .ofNat (0x41 + v)
  else if v < 52 then .ofNat (0x61 + (v - 26))
  else if v < 62 then .ofNat (0x30 + (v - 52))
  else if v = 62 then '+'
  else '/'

/-- The six-bit value of a character of the alphabet. -/
def value? (c : CodePoint) : Option Nat :=
  if c.isAsciiUpper then some (c.val - 0x41)
  else if c.isAsciiLower then some (c.val - 0x61 + 26)
  else if c.isAsciiDigit then some (c.val - 0x30 + 52)
  else if c = '+' then some 62
  else if c = '/' then some 63
  else none

/-- The padding mark. -/
def padding : CodePoint := '='

/-! ## 2. Encoding -/

/-- The base64 form of a byte sequence. -/
def encode : Bytes → Text
  | [] => []
  | [a] =>
    let n := a.toNat
    [character (n / 4), character (n % 4 * 16), padding, padding]
  | [a, b] =>
    let n := a.toNat * 0x100 + b.toNat
    [character (n / 0x400), character (n / 0x10 % 64), character (n % 0x10 * 4), padding]
  | a :: b :: c :: rest =>
    let n := a.toNat * 0x10000 + b.toNat * 0x100 + c.toNat
    [character (n / 0x40000), character (n / 0x1000 % 64), character (n / 0x40 % 64),
      character (n % 64)] ++ encode rest

/-! ## 3. Decoding -/

/-- Why a text is not the base64 form of a byte sequence. -/
inductive Defect where
  | notAscii
  | leadingPadding
  | foreignCharacter
  | discontinuousPadding
  | excessData
  | incompleteGroup
  /-- The text ends after the first character of a group; so many characters were read. -/
  | strayCharacter (count : Nat)
deriving DecidableEq

/-- The wording of a defect. -/
def Defect.message : Defect → Text
  | .notAscii => "string argument should contain only ASCII characters"
  | .leadingPadding => "Leading padding not allowed"
  | .foreignCharacter => "Only base64 data is allowed"
  | .discontinuousPadding => "Discontinuous padding not allowed"
  | .excessData => "Excess data after padding"
  | .incompleteGroup => "Incorrect padding"
  | .strayCharacter count =>
    "Invalid base64-encoded string: number of data characters (" ++ Text.ofNat count ++
      ") cannot be 1 more than a multiple of 4"

/-- The whole bytes of a group of up to four values; left-over bits are dropped. -/
def groupBytes : List Nat → Bytes
  | [a, b, c, d] =>
    let n := a * 0x40000 + b * 0x1000 + c * 0x40 + d
    [(n / 0x10000).toUInt8, (n / 0x100).toUInt8, n.toUInt8]
  | [a, b, c] =>
    let n := a * 0x400 + b * 0x10 + c / 4
    [(n / 0x100).toUInt8, n.toUInt8]
  | [a, b] => [(a * 4 + b / 0x10).toUInt8]
  | _ => []

/-- Decode what follows `groups` complete groups, the values `held` of the group under way and
`pads` marks that pad it; `padded` says that some padding mark has been read. -/
def decodeFrom (groups : Nat) (held : List Nat) (pads : Nat) (padded : Bool) :
    Text → Except Defect Bytes
  | [] =>
    if held.isEmpty then .ok []
    else if held.length = 1 then .error (.strayCharacter (4 * groups + 1))
    else .error .incompleteGroup
  | c :: rest =>
    if c = padding then
      if held.length < 2 then decodeFrom groups held pads true rest
      else if held.length + pads + 1 < 4 then decodeFrom groups held (pads + 1) true rest
      else if rest.isEmpty then .ok (groupBytes held)
      else .error .excessData
    else
      match value? c with
      | none => .error .foreignCharacter
      | some v =>
        if padded then .error .discontinuousPadding
        else if held.length < 3 then decodeFrom groups (held ++ [v]) pads padded rest
        else (decodeFrom (groups + 1) [] pads padded rest).map (groupBytes (held ++ [v]) ++ ·)

/-- The bytes that a text encodes. -/
def decode (t : Text) : Except Defect Bytes :=
  if !t.all CodePoint.isAscii then .error .notAscii
  else if t.head? = some padding then .error .leadingPadding
  else decodeFrom 0 [] 0 false t

end CloudAccess.Base64
