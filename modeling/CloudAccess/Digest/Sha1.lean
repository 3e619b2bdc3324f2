/-
# SHA-1

The hash of a list of bytes, of twenty bytes itself.  A message is padded to a whole number of
blocks of 64 bytes; each block is expanded to eighty words, and eighty rounds fold the words
into the state.
-/
import CloudAccess.Text.Utf8

namespace CloudAccess.Sha1

/-- The five words of the state between rounds. -/
structure State where
  a : UInt32
  b : UInt32
  c : UInt32
  d : UInt32
  e : UInt32
deriving DecidableEq

/-- The state before the first block. -/
def State.initial : State := ⟨0x67452301, 0xEFCDAB89, 0x98BADCFE, 0x10325476, 0xC3D2E1F0⟩

/-- Word-wise sum of two states. -/
def State.add (s t : State) : State := ⟨s.a + t.a, s.b + t.b, s.c + t.c, s.d + t.d, s.e + t.e⟩

/-- The word rotated to the left. -/
def rotate (w : UInt32) (n : UInt32) : UInt32 := (w <<< n) ||| (w >>> (32 - n))

/-- The big-endian bytes of a word. -/
def wordBytes (w : UInt32) : Bytes :=
  [(w >>> 24).toUInt8, (w >>> 16).toUInt8, (w >>> 8).toUInt8, w.toUInt8]

/-- The big-endian words of a byte sequence whose length is a multiple of four. -/
def words : Bytes → List UInt32
  | a :: b :: c :: d :: rest =>
    ((a.toUInt32 <<< 24) ||| (b.toUInt32 <<< 16) ||| (c.toUInt32 <<< 8) ||| d.toUInt32) ::
      words rest
  | _ => []

/-- The big-endian form of a number in eight bytes. -/
def lengthBytes (n : Nat) : Bytes :=
  [56, 48, 40, 32, 24, 16, 8, 0].map fun shift => (n >>> shift).toUInt8

/-- The message with the end mark, the zeros and the bit length that complete its last
block. -/
def pad (message : Bytes) : Bytes :=
  message ++ 0x80 :: (List.replicate ((119 - message.length % 64) % 64) 0 ++
    lengthBytes (8 * message.length))

/-- Continue the message schedule by `n` words; the sixteen words before them are given, the
latest first. -/
def expand : Nat → List UInt32 → List UInt32
  | 0, _ => []
  | n + 1, window =>
    let word := rotate (window.getD 2 0 ^^^ window.getD 7 0 ^^^ window.getD 13 0 ^^^
      window.getD 15 0) 1
    word :: expand n (word :: window.take 15)

/-- The eighty words of a block of sixteen. -/
def schedule (block : List UInt32) : List UInt32 := block ++ expand 64 block.reverse

/-- The mixing function and the constant of a round. -/
def mixing (round : Nat) (s : State) : UInt32 × UInt32 :=
  if round < 20 then ((s.b &&& s.c) ||| (~~~s.b &&& s.d), 0x5A827999)
  else if round < 40 then (s.b ^^^ s.c ^^^ s.d, 0x6ED9EBA1)
  else if round < 60 then
    ((s.b &&& s.c) ||| (s.b &&& s.d) ||| (s.c &&& s.d), 0x8F1BBCDC)
  else (s.b ^^^ s.c ^^^ s.d, 0xCA62C1D6)

/-- The rounds of a block, from the given one on. -/
def rounds (round : Nat) (s : State) : List UInt32 → State
  | [] => s
  | word :: rest =>
    let (mixed, constant) := mixing round s
    let a := rotate s.a 5 + mixed + s.e + constant + word
    rounds (round + 1) ⟨a, s.a, rotate s.b 30, s.c, s.d⟩ rest

/-- Fold `blocks` blocks of sixteen words into the state. -/
def absorb : Nat → State → List UInt32 → State
  | 0, s, _ => s
  | blocks + 1, s, ws =>
    absorb blocks (s.add (rounds 0 s (schedule (ws.take 16)))) (ws.drop 16)

/-- The digest of a message: twenty bytes. -/
def hash (message : Bytes) : Bytes :=
  let ws := words (pad message)
  let s := absorb (ws.length / 16) .initial ws
  [s.a, s.b, s.c, s.d, s.e].flatMap wordBytes

@[simp] theorem length_hash (message : Bytes) : (hash message).length = 20 := by
  simp [hash, wordBytes]

end CloudAccess.Sha1
