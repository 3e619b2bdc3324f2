/-
# Percent escapes

An address may hold only printable ASCII, so every other character is written as the bytes of
its UTF-8 form, each as a percent sign and two upper-case hexadecimal digits.  Which ASCII
characters stand for themselves depends on the part of the address; `escape` takes that set as
a parameter.  Reading escapes back (`unescape`) never fails: a percent sign without two digits
stands for itself, and bytes that are not UTF-8 give the replacement character.
-/
import CloudAccess.Text.Utf8

namespace CloudAccess.Url

/-! ## 1. Writing escapes -/

/-- The escape of a byte. -/
def escapeByte (b : UInt8) : Text :=
  ['%', .upperHexDigit (b.toNat / 16), .upperHexDigit (b.toNat % 16)]

/-- A character as it is written where `keeps` tells which characters stand for themselves. -/
def escapeChar (keeps : CodePoint → Bool) (c : CodePoint) : Text :=
  if keeps c then [c] else (Utf8.encodeChar c).flatMap escapeByte

/-- A text with every character escaped that does not stand for itself.  A surrogate that has
to be escaped has no bytes; the failure is about that character alone. -/
def escape (keeps : CodePoint → Bool) (t : Text) : Except Utf8.Unencodable Text :=
  match t.find? fun c => !keeps c && c.isSurrogate with
  | some c => .error ⟨c, 0, 1⟩
  | none => .ok (t.flatMap (escapeChar keeps))

/-- `c` stands for itself in every part of an address. -/
def isUnreserved (c : CodePoint) : Bool :=
  c.isAsciiAlphanumeric || c.val == 0x2D || c.val == 0x2E || c.val == 0x5F || c.val == 0x7E

/-! ## 2. Reading escapes -/

/-- The bytes that a text with escapes denotes. -/
def unescapeBytes : Text → Bytes
  | [] => []
  | c :: rest =>
    if c = '%' then
      match rest with
      | high :: low :: after =>
        match high.hexValue?, low.hexValue? with
        | some h, some l => (h * 16 + l).toUInt8 :: unescapeBytes after
        | _, _ => 0x25 :: unescapeBytes (high :: low :: after)
      | [d] => 0x25 :: unescapeBytes [d]
      | [] => [0x25]
    else Utf8.encodeChar c ++ unescapeBytes rest

/-- The text that a text with escapes denotes. -/
def unescape (t : Text) : Text := Utf8.decodeLossy (unescapeBytes t)

end CloudAccess.Url
