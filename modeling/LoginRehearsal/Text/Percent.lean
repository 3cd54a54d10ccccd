import LoginRehearsal.Text.Utf8

/-!
# Percent-coding

A byte outside a chosen class is written as `%` and two upper-case hexadecimal digits. Signatures keep
the unreserved characters of RFC 3986 only; the components of a web address keep more.

* `encode`, `decode?`: the strict form that signatures and header fields use.
* `decodeBytes`: turns every `%` with two hexadecimal digits behind it into their byte and keeps all
  else, a stray `%` included.
-/
namespace LoginRehearsal
namespace Percent

/-! ## Hexadecimal digits -/

/-- The upper-case digit of a value below sixteen. -/
def hexDigit (n : Nat) : Char := Char.ofNat (if n < 10 then 0x30 + n else 0x37 + n)

/-- The value of a hexadecimal digit of either case, given as its byte. -/
def hexValue (b : UInt8) : Option Nat :=
  let n := b.toNat
  if 0x30 ≤ n ∧ n ≤ 0x39 then some (n - 0x30)
  else if 0x41 ≤ n ∧ n ≤ 0x46 then some (n - 0x37)
  else if 0x61 ≤ n ∧ n ≤ 0x66 then some (n - 0x57)
  else none

/-! ## Writing -/

/-- ASCII letters and digits. -/
def isAlphanumeric (b : UInt8) : Bool :=
  let n := b.toNat
  (0x30 ≤ n && n ≤ 0x39) || (0x41 ≤ n && n ≤ 0x5A) || (0x61 ≤ n && n ≤ 0x7A)

/-- The unreserved bytes: ASCII letters and digits, `-`, `.`, `_` and `~`. -/
def isUnreserved (b : UInt8) : Bool :=
  isAlphanumeric b || b == 0x2D || b == 0x2E || b == 0x5F || b == 0x7E

/-- A byte as `%` and two hexadecimal digits. -/
def escapeByte (b : UInt8) : List Char :=
  ['%', hexDigit (b.toNat / 16), hexDigit (b.toNat % 16)]

/-- Bytes as text: those of class `keep` as the ASCII character, the others escaped. -/
def encodeBytes (keep : UInt8 → Bool) (bs : Bytes) : List Char :=
  bs.flatMap fun b => if keep b then [Char.ofNat b.toNat] else escapeByte b

/-- Characters as text over the class `keep`, through their UTF-8 form. -/
def encodeChars (keep : UInt8 → Bool) (cs : List Char) : List Char :=
  encodeBytes keep (Utf8.encodeChars cs)

/-- A text with all but the unreserved characters escaped. -/
def encode (s : String) : String := String.ofList (encodeChars isUnreserved s.toList)

/-! ## Reading -/

/-- The decoder, with the bytes found so far in reverse. -/
def decodeFrom (found : Bytes) : Bytes → Bytes
  | [] => found.reverse
  | [a] => (a :: found).reverse
  | [a, b] => (b :: a :: found).reverse
  | a :: b :: c :: rest =>
    if a = 0x25 then
      match hexValue b, hexValue c with
      | some hi, some lo => decodeFrom (UInt8.ofNat (hi * 16 + lo) :: found) rest
      | _, _ => decodeFrom (a :: found) (b :: c :: rest)
    else decodeFrom (a :: found) (b :: c :: rest)

/-- Bytes with every escape replaced by the byte it stands for. -/
def decodeBytes (bs : Bytes) : Bytes := decodeFrom [] bs

theorem decodeFrom_eq (found bs : Bytes) : decodeFrom found bs = found.reverse ++ decodeBytes bs := by
  unfold decodeBytes
  induction h : bs.length using Nat.strongRecOn generalizing found bs with
  | _ n ih =>
    match bs, h with
    | [], _ => simp [decodeFrom]
    | [a], _ => simp [decodeFrom]
    | [a, b], _ => simp [decodeFrom]
    | a :: b :: c :: rest, h =>
      simp only [List.length_cons] at h
      simp only [decodeFrom]
      split
      · split
        · rw [ih rest.length (by omega) _ rest rfl, ih rest.length (by omega) [_] rest rfl]; simp
        · rw [ih (b :: c :: rest).length (by simp; omega) _ _ rfl,
            ih (b :: c :: rest).length (by simp; omega) [a] _ rfl]; simp
      · rw [ih (b :: c :: rest).length (by simp; omega) _ _ rfl,
          ih (b :: c :: rest).length (by simp; omega) [a] _ rfl]; simp

@[simp] theorem decodeBytes_nil : decodeBytes [] = [] := rfl

/-- A byte other than `%` stands for itself. -/
theorem decodeBytes_cons {b : UInt8} (h : b ≠ 0x25) (rest : Bytes) :
    decodeBytes (b :: rest) = b :: decodeBytes rest := by
  match rest with
  | [] => rfl
  | [c] => simp [decodeBytes, decodeFrom]
  | c :: d :: rest =>
    have : decodeBytes (b :: c :: d :: rest) = decodeFrom [b] (c :: d :: rest) := by
      simp [decodeBytes, decodeFrom, h]
    rw [this, decodeFrom_eq]; simp

/-- An escape stands for the byte with its two digits. -/
theorem decodeBytes_escape {b c : UInt8} {hi lo : Nat} (hb : hexValue b = some hi)
    (hc : hexValue c = some lo) (rest : Bytes) :
    decodeBytes (0x25 :: b :: c :: rest) = UInt8.ofNat (hi * 16 + lo) :: decodeBytes rest := by
  have : decodeBytes (0x25 :: b :: c :: rest) =
      decodeFrom [UInt8.ofNat (hi * 16 + lo)] rest := by simp [decodeBytes, decodeFrom, hb, hc]
  rw [this, decodeFrom_eq]; simp

/-- The text that an escaped text stands for, if the bytes are UTF-8. -/
def decode? (cs : List Char) : Except Utf8.DecodeError String :=
  Utf8.decode? (decodeBytes (Utf8.encodeChars cs))

end Percent
end LoginRehearsal
