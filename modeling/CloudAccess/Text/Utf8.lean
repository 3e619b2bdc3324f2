/-
# UTF-8

Texts as bytes and back.  Encoding fails on surrogates, which UTF-8 has no form for.  Decoding
is a machine that takes one byte at a time and emits an item for every character and for every
maximal ill-formed piece (`items`); a strict reader stops at the first ill-formed piece
(`decode`), a lenient one puts the replacement character in its place (`decodeLossy`), and a
third keeps the bytes as surrogates (`decodeKeeping`).
-/
import CloudAccess.Text.Quoted

namespace CloudAccess

/-- A sequence of bytes. -/
abbrev Bytes := List UInt8

namespace Utf8

/-! ## 1. Encoding -/

/-- Why a text has no UTF-8 form: a run of surrogates. -/
structure Unencodable where
  first : CodePoint
  start : Nat
  count : Nat
deriving DecidableEq

/-- The wording of an encoding failure. -/
def Unencodable.message (u : Unencodable) : Text :=
  if u.count = 1 then
    "'utf-8' codec can't encode character '" ++ u.first.numericEscape ++ "' in position " ++
      Text.ofNat u.start ++ ": surrogates not allowed"
  else
    "'utf-8' codec can't encode characters in position " ++ Text.ofNat u.start ++ "-" ++
      Text.ofNat (u.start + u.count - 1) ++ ": surrogates not allowed"

/-- The bytes of a code point.  A surrogate is treated as any other. -/
def encodeChar (c : CodePoint) : Bytes :=
  let n := c.val
  if n < 0x80 then [n.toUInt8]
  else if n < 0x800 then [(0xC0 + n / 0x40).toUInt8, (0x80 + n % 0x40).toUInt8]
  else if n < 0x10000 then
    [(0xE0 + n / 0x1000).toUInt8, (0x80 + n / 0x40 % 0x40).toUInt8, (0x80 + n % 0x40).toUInt8]
  else
    [(0xF0 + n / 0x40000).toUInt8, (0x80 + n / 0x1000 % 0x40).toUInt8,
      (0x80 + n / 0x40 % 0x40).toUInt8, (0x80 + n % 0x40).toUInt8]

/-- The first run of surrogates in a text of which `start` characters have been passed. -/
def firstSurrogates? (start : Nat) : Text → Option Unencodable
  | [] => none
  | c :: rest =>
    if c.isSurrogate then
      some ⟨c, start, 1 + (rest.takeWhile CodePoint.isSurrogate).length⟩
    else firstSurrogates? (start + 1) rest

/-- The bytes of a text without surrogates. -/
def encode (t : Text) : Except Unencodable Bytes :=
  match firstSurrogates? 0 t with
  | some u => .error u
  | none => .ok (t.flatMap encodeChar)

/-! ## 2. Decoding -/

/-- What is wrong with an ill-formed piece. -/
inductive Defect where
  /-- No character starts with its byte. -/
  | badStart
  /-- The byte after it does not continue it. -/
  | badContinuation
  /-- The bytes end inside it. -/
  | truncated
deriving DecidableEq

/-- An ill-formed piece of a byte sequence. -/
structure Malformed where
  defect : Defect
  first : UInt8
  start : Nat
  count : Nat
deriving DecidableEq

/-- The name of a defect. -/
def Defect.name : Defect → Text
  | .badStart => "invalid start byte"
  | .badContinuation => "invalid continuation byte"
  | .truncated => "unexpected end of data"

/-- The wording of a decoding failure. -/
def Malformed.message (m : Malformed) : Text :=
  let place : Text :=
    if m.count = 1 then
      "byte 0x" ++ Text.hex 2 m.first.toNat ++ " in position " ++ Text.ofNat m.start
    else
      "bytes in position " ++ Text.ofNat m.start ++ "-" ++ Text.ofNat (m.start + m.count - 1)
  "'utf-8' codec can't decode " ++ place ++ ": " ++ m.defect.name

/-- What a byte sequence is made of. -/
inductive Item where
  | scalar (c : CodePoint)
  | broken (m : Malformed)
deriving DecidableEq

/-- A character under way: its first byte and where it stands, how many bytes have been taken,
how many are still due, the bounds of the next one, and the value so far. -/
structure Pending where
  first : UInt8
  start : Nat
  taken : Nat
  due : Nat
  low : UInt8
  high : UInt8
  value : Nat

/-- The pending character is broken off. -/
def Pending.broken (p : Pending) (defect : Defect) : Item :=
  .broken ⟨defect, p.first, p.start, p.taken⟩

/-- What a first byte starts: a whole character, a pending one, or nothing. -/
def lead (b : UInt8) (position : Nat) : Item ⊕ Pending :=
  let n := b.toNat
  let pending (due : Nat) (low high : UInt8) (value : Nat) : Item ⊕ Pending :=
    .inr ⟨b, position, 1, due, low, high, value⟩
  if n < 0x80 then .inl (.scalar (.ofNat n))
  else if n < 0xC2 then .inl (.broken ⟨.badStart, b, position, 1⟩)
  else if n < 0xE0 then pending 1 0x80 0xBF (n - 0xC0)
  else if n = 0xE0 then pending 2 0xA0 0xBF 0
  else if n = 0xED then pending 2 0x80 0x9F 0xD
  else if n < 0xF0 then pending 2 0x80 0xBF (n - 0xE0)
  else if n = 0xF0 then pending 3 0x90 0xBF 0
  else if n < 0xF4 then pending 3 0x80 0xBF (n - 0xF0)
  else if n = 0xF4 then pending 3 0x80 0x8F 4
  else .inl (.broken ⟨.badStart, b, position, 1⟩)

/-- The items of a byte sequence of which `position` bytes have been passed. -/
def itemsFrom (pending? : Option Pending) (position : Nat) : Bytes → List Item
  | [] =>
    match pending? with
    | none => []
    | some p => [p.broken .truncated]
  | b :: rest =>
    let start (before : List Item) : List Item :=
      match lead b position with
      | .inl item => before ++ item :: itemsFrom none (position + 1) rest
      | .inr p => before ++ itemsFrom (some p) (position + 1) rest
    match pending? with
    | none => start []
    | some p =>
      if p.low ≤ b ∧ b ≤ p.high then
        let value := p.value * 0x40 + (b.toNat - 0x80)
        if p.due = 1 then .scalar (.ofNat value) :: itemsFrom none (position + 1) rest
        else
          itemsFrom (some ⟨p.first, p.start, p.taken + 1, p.due - 1, 0x80, 0xBF, value⟩)
            (position + 1) rest
      else start [p.broken .badContinuation]

/-- The characters and ill-formed pieces of a byte sequence. -/
def items (bytes : Bytes) : List Item := itemsFrom none 0 bytes

/-- The characters, up to the first ill-formed piece. -/
def scalars : List Item → Except Malformed Text
  | [] => .ok []
  | .scalar c :: rest => (scalars rest).map (c :: ·)
  | .broken m :: _ => .error m

/-- The text of a well-formed byte sequence. -/
def decode (bytes : Bytes) : Except Malformed Text := scalars (items bytes)

/-- The text of any byte sequence: an ill-formed piece gives the replacement character. -/
def decodeLossy (bytes : Bytes) : Text :=
  (items bytes).map fun
    | .scalar c => c
    | .broken _ => .replacement

/-- The surrogate that stands for a byte that belongs to no character. -/
def keptByte (b : UInt8) : CodePoint := .ofNat (0xDC00 + b.toNat)

/-- The text of any byte sequence, from which the bytes can be told again: each byte of an
ill-formed piece gives a surrogate. -/
def decodeKeeping (bytes : Bytes) : Text :=
  (items bytes).flatMap fun
    | .scalar c => [c]
    | .broken m => ((bytes.drop m.start).take m.count).map keptByte

end Utf8

end CloudAccess
