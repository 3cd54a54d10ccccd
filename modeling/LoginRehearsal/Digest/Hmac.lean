import LoginRehearsal.Digest.Sha1

/-!
# HMAC-SHA1

A keyed hash made of two rounds of SHA-1. A key longer than a block is hashed first; a shorter one is filled
up with zero bytes.

* `hmacSha1`: the tag, twenty bytes.
-/
namespace LoginRehearsal
namespace Hmac

/-- The key as one block. -/
def blockKey (key : Bytes) : Bytes :=
  let short := if 64 < key.length then sha1 key else key
  short ++ List.replicate (64 - short.length) 0

end Hmac

/-- The tag of a message under a key. -/
def hmacSha1 (key message : Bytes) : Bytes :=
  let block := Hmac.blockKey key
  let inner := sha1 (block.map (· ^^^ 0x36) ++ message)
  sha1 (block.map (· ^^^ 0x5C) ++ inner)

theorem hmacSha1_length (key message : Bytes) : (hmacSha1 key message).length = 20 :=
  sha1_length _

/-- A published tag, under a key that is filled up. -/
example : hmacSha1 (Utf8.encode "Jefe") (Utf8.encode "what do ya want for nothing?") =
    [0xEF, 0xFC, 0xDF, 0x6A, 0xE5, 0xEB, 0x2F, 0xA2, 0xD2, 0x74, 0x16, 0xD5, 0xF1, 0x84, 0xDF, 0x9C, 0x25, 0x9A,
      0x7C, 0x79] := by
  decide +kernel

end LoginRehearsal
