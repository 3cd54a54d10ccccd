import LoginRehearsal.Text.Utf8

/-!
# SHA-1

The hash function of FIPS 180-4 §6.1 on byte strings: the message is padded to blocks of 64 bytes, and each
block is worked into five 32-bit words in eighty rounds.

* `sha1`: the digest, twenty bytes.
* `sha1_length`: it always has twenty bytes.
-/
namespace LoginRehearsal
namespace Sha1

/-- The hash state. -/
structure Words where
  a : UInt32
  b : UInt32
  c : UInt32
  d : UInt32
  e : UInt32

def initial : Words := ⟨0x67452301, 0xEFCDAB89, 0x98BADCFE, 0x10325476, 0xC3D2E1F0⟩

def rotateLeft (x n : UInt32) : UInt32 := (x <<< n) ||| (x >>> (32 - n))

/-- Four bytes as a word, the most significant first. -/
def word (a b c d : UInt8) : UInt32 :=
  (a.toUInt32 <<< 24) ||| (b.toUInt32 <<< 16) ||| (c.toUInt32 <<< 8) ||| d.toUInt32

/-- A word as four bytes, the most significant first. -/
def bytes (x : UInt32) : Bytes :=
  [(x >>> 24).toUInt8, (x >>> 16).toUInt8, (x >>> 8).toUInt8, x.toUInt8]

/-- The words of a block. -/
def words : Bytes → List UInt32
  | a :: b :: c :: d :: rest => word a b c d :: words rest
  | _ => []

/-- The schedule of eighty words that a block of sixteen is extended to. -/
def schedule (block : List UInt32) : Array UInt32 :=
  (List.range 64).foldl (fun w _ =>
    let t := w.size
    w.push (rotateLeft (w.getD (t - 3) 0 ^^^ w.getD (t - 8) 0 ^^^ w.getD (t - 14) 0 ^^^
      w.getD (t - 16) 0) 1)) block.toArray

/-- The round function and constant of round `t`. -/
def mix (t : Nat) (b c d : UInt32) : UInt32 :=
  if t < 20 then ((b &&& c) ||| (~~~b &&& d)) + 0x5A827999
  else if t < 40 then (b ^^^ c ^^^ d) + 0x6ED9EBA1
  else if t < 60 then ((b &&& c) ||| (b &&& d) ||| (c &&& d)) + 0x8F1BBCDC
  else (b ^^^ c ^^^ d) + 0xCA62C1D6

/-- One round. -/
def round (w : Array UInt32) (s : Words) (t : Nat) : Words :=
  ⟨rotateLeft s.a 5 + mix t s.b s.c s.d + s.e + w.getD t 0, s.a, rotateLeft s.b 30, s.c, s.d⟩

/-- Works one block into the state. -/
def compress (s : Words) (block : Bytes) : Words :=
  let w := schedule (words block)
  let r := (List.range 80).foldl (round w) s
  ⟨s.a + r.a, s.b + r.b, s.c + r.c, s.d + r.d, s.e + r.e⟩

/-- The eight bytes of a length in bits. -/
def lengthBytes (bits : Nat) : Bytes :=
  (List.range 8).map fun i => UInt8.ofNat (bits / Nat.pow 256 (7 - i))

/-- The message with a one bit, zero bits and its length behind it. -/
def padded (message : Bytes) : Bytes :=
  let n := message.length
  message ++ 0x80 :: List.replicate ((119 - n % 64) % 64) 0 ++ lengthBytes (n * 8)

/-- Works all blocks of a padded message into the state. -/
def absorb (s : Words) : (blocks : Nat) → Bytes → Words
  | 0, _ => s
  | blocks + 1, message => absorb (compress s (message.take 64)) blocks (message.drop 64)

end Sha1

/-- The SHA-1 digest of a message. -/
def sha1 (message : Bytes) : Bytes :=
  let text := Sha1.padded message
  let s := Sha1.absorb Sha1.initial (text.length / 64) text
  Sha1.bytes s.a ++ Sha1.bytes s.b ++ Sha1.bytes s.c ++ Sha1.bytes s.d ++ Sha1.bytes s.e

theorem sha1_length (message : Bytes) : (sha1 message).length = 20 := by
  simp [sha1, Sha1.bytes]

end LoginRehearsal
