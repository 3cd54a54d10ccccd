/-!
# UTF-8

Text goes over the wire as bytes. `encode` writes the one- to four-byte form of each character;
`scan` cuts any byte string into characters and ill-formed runs, a run being as long as the bytes
that could still have begun a character.

* `decode?` accepts a byte string without ill-formed runs, and names the first one otherwise.
* `decodeLossy` writes U+FFFD for every run.
* `scan_cons`, `scan_nil`: what one step of the scan does.
-/
namespace LoginRehearsal

/-- Raw octets. -/
abbrev Bytes := List UInt8

namespace Utf8

/-! ## Writing -/

/-- The UTF-8 form of one character. -/
def encodeChar (c : Char) : Bytes :=
  let n := c.toNat
  if n < 0x80 then [UInt8.ofNat n]
  else if n < 0x800 then [UInt8.ofNat (0xC0 + n / 64), UInt8.ofNat (0x80 + n % 64)]
  else if n < 0x10000 then
    [UInt8.ofNat (0xE0 + n / 4096), UInt8.ofNat (0x80 + n / 64 % 64), UInt8.ofNat (0x80 + n % 64)]
  else
    [UInt8.ofNat (0xF0 + n / 262144), UInt8.ofNat (0x80 + n / 4096 % 64),
      UInt8.ofNat (0x80 + n / 64 % 64), UInt8.ofNat (0x80 + n % 64)]

/-- The UTF-8 form of a list of characters. -/
def encodeChars (cs : List Char) : Bytes := cs.flatMap encodeChar

/-- The UTF-8 form of a text. -/
def encode (s : String) : Bytes := encodeChars s.toList

/-! ## Reading -/

/-- A continuation byte, `10xxxxxx`. -/
def isContinuation (b : UInt8) : Bool := 0x80 ≤ b.toNat && b.toNat < 0xC0

/-- The range that the byte after a lead byte has to lie in. It keeps out overlong forms, surrogates
and values above U+10FFFF. -/
def secondFits (lead second : UInt8) : Bool :=
  let b := second.toNat
  if lead.toNat = 0xE0 then 0xA0 ≤ b && b < 0xC0
  else if lead.toNat = 0xED then 0x80 ≤ b && b < 0xA0
  else if lead.toNat = 0xF0 then 0x90 ≤ b && b < 0xC0
  else if lead.toNat = 0xF4 then 0x80 ≤ b && b < 0x90
  else isContinuation second

/-- One item of a scanned byte string. -/
inductive Piece where
  /-- A well-formed character. -/
  | char (c : Char)
  /-- So many bytes that begin no character, with a byte behind them that shows it. -/
  | broken (length : Nat)
  /-- So many bytes that begin a character, at the end of the input. -/
  | cut (length : Nat)
deriving DecidableEq, Repr

/-- Reads `need` more bytes of a character of which `seen` bytes have given `value`. -/
def follow (value seen : Nat) : Nat → Bytes → Piece × Bytes
  | 0, rest => (.char (Char.ofNat value), rest)
  | _ + 1, [] => (.cut seen, [])
  | need + 1, b :: rest =>
    if isContinuation b then follow (value * 64 + (b.toNat - 0x80)) (seen + 1) need rest
    else (.broken seen, b :: rest)

/-- The value bits of a lead byte and the number of bytes that follow it. -/
def lead (b : UInt8) : Option (Nat × Nat) :=
  let n := b.toNat
  if n < 0x80 then some (n, 0)
  else if n < 0xC2 then none
  else if n < 0xE0 then some (n - 0xC0, 1)
  else if n < 0xF0 then some (n - 0xE0, 2)
  else if n < 0xF5 then some (n - 0xF0, 3)
  else none

/-- How the bytes begin: one piece and what follows it. -/
def head (b : UInt8) (rest : Bytes) : Piece × Bytes :=
  match lead b with
  | none => (.broken 1, rest)
  | some (value, 0) => (.char (Char.ofNat value), rest)
  | some (value, need + 1) =>
    match rest with
    | [] => (.cut 1, [])
    | b1 :: r1 =>
      if secondFits b b1 then follow (value * 64 + (b1.toNat - 0x80)) 2 need r1
      else (.broken 1, rest)

theorem follow_length (value seen need : Nat) (bs : Bytes) :
    (follow value seen need bs).2.length ≤ bs.length := by
  induction need generalizing value seen bs with
  | zero => simp [follow]
  | succ need ih =>
    cases bs with
    | nil => simp [follow]
    | cons b rest =>
      simp only [follow]
      split
      · exact Nat.le_succ_of_le (ih _ _ _)
      · simp

theorem head_length (b : UInt8) (rest : Bytes) : (head b rest).2.length ≤ rest.length := by
  unfold head
  split
  · simp
  · simp
  · split
    · simp
    · split
      · exact Nat.le_succ_of_le (follow_length _ _ _ _)
      · simp

/-- The scan, with the pieces found so far in reverse. -/
def scanFrom (found : List Piece) : Bytes → List Piece
  | [] => found.reverse
  | b :: rest => scanFrom ((head b rest).1 :: found) (head b rest).2
termination_by bs => bs.length
decreasing_by have := head_length b rest; simp; omega

/-- All pieces of a byte string, in order. -/
def scan (bs : Bytes) : List Piece := scanFrom [] bs

theorem scanFrom_eq (found : List Piece) (bs : Bytes) :
    scanFrom found bs = found.reverse ++ scan bs := by
  unfold scan
  induction h : bs.length using Nat.strongRecOn generalizing found bs with
  | _ n ih =>
    cases bs with
    | nil => simp [scanFrom]
    | cons b rest =>
      have hl := head_length b rest
      have hlt : (head b rest).2.length < n := by simp at h; omega
      rw [scanFrom, scanFrom, ih _ hlt _ _ rfl, ih _ hlt [(head b rest).1] _ rfl]
      simp

@[simp] theorem scan_nil : scan [] = [] := by simp [scan, scanFrom]

theorem scan_cons (b : UInt8) (rest : Bytes) :
    scan (b :: rest) = (head b rest).1 :: scan (head b rest).2 := by
  rw [scan, scanFrom, scanFrom_eq]; simp

/-- Why bytes are no UTF-8 text: where the first ill-formed run begins, and its length unless the
input ends within it. -/
inductive DecodeError where
  | invalid (length index : Nat)
  | incomplete (index : Nat)
deriving DecidableEq, Repr

/-- The wording of a decoding error. -/
def DecodeError.message : DecodeError → String
  | .invalid length index =>
    s!"invalid utf-8 sequence of {length} bytes from index {index}"
  | .incomplete index => s!"incomplete utf-8 byte sequence from index {index}"

/-- The characters of a list of pieces, up to the first ill-formed run. `index` counts the bytes
before the pieces. -/
def collect (index : Nat) (found : List Char) : List Piece → Except DecodeError (List Char)
  | [] => .ok found.reverse
  | .char c :: rest => collect (index + (encodeChar c).length) (c :: found) rest
  | .broken length :: _ => .error (.invalid length index)
  | .cut _ :: _ => .error (.incomplete index)

/-- The text that the bytes encode. -/
def decode? (bs : Bytes) : Except DecodeError String :=
  (collect 0 [] (scan bs)).map String.ofList

/-- What a piece stands for when ill-formed runs are tolerated. -/
def Piece.toChar : Piece → Char
  | .char c => c
  | .broken _ => '\uFFFD'
  | .cut _ => '\uFFFD'

/-- The text that the bytes encode, with U+FFFD for each ill-formed run. -/
def decodeLossy (bs : Bytes) : String := String.ofList ((scan bs).map Piece.toChar)

end Utf8
end LoginRehearsal
