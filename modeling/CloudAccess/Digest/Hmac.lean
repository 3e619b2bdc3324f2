/-
# HMAC-SHA1

The keyed hash over SHA-1: the key and the message are hashed, and the key and that hash are
hashed again.  A key longer than a block is hashed first, and every key is filled up with zeros
to the length of a block.
-/
import CloudAccess.Digest.Sha1

namespace CloudAccess.Hmac

/-- The length of a hash block. -/
def blockSize : Nat := 64

/-- The key as one block. -/
def blockKey (key : Bytes) : Bytes :=
  let short := if blockSize < key.length then Sha1.hash key else key
  short ++ List.replicate (blockSize - short.length) 0

/-- The authentication code of a message under a key: twenty bytes. -/
def sha1 (key message : Bytes) : Bytes :=
  let block := blockKey key
  Sha1.hash (block.map (· ^^^ 0x5C) ++ Sha1.hash (block.map (· ^^^ 0x36) ++ message))

@[simp] theorem length_sha1 (key message : Bytes) : (sha1 key message).length = 20 := by
  simp [sha1]

end CloudAccess.Hmac
