/-!
# Numerals

Whole numbers in settings, command lines, ports and timestamps: an optional sign and ASCII digits, read
from the left. The first fault met decides the error.

* `readNat`: numbers up to a greatest one; a sign other than `+` is no digit.
* `readInt`: numbers between two bounds.
* `hexDigitValue?`: the digits of base sixteen.
-/
namespace LoginRehearsal
namespace Numeral

/-- Why a text is no numeral of the wanted kind. -/
inductive Fault where
  | empty
  | invalidDigit
  | tooLarge
  | tooSmall
deriving DecidableEq, Repr

/-- The wording of a fault. -/
def Fault.message : Fault → String
  | .empty => "cannot parse integer from empty string"
  | .invalidDigit => "invalid digit found in string"
  | .tooLarge => "number too large to fit in target type"
  | .tooSmall => "number too small to fit in target type"

/-- The value of an ASCII digit. -/
def digitValue (c : Char) : Option Nat :=
  if 0x30 ≤ c.toNat ∧ c.toNat ≤ 0x39 then some (c.toNat - 0x30) else none

/-- Reads digits onto `value`, as long as the number does not exceed `greatest`. -/
def readDigits (greatest : Nat) (overflow : Fault) (value : Nat) : List Char → Except Fault Nat
  | [] => .ok value
  | c :: rest =>
    match digitValue c with
    | none => .error .invalidDigit
    | some d =>
      if value * 10 + d ≤ greatest then readDigits greatest overflow (value * 10 + d) rest
      else .error overflow

/-- The natural number up to `greatest` that a text spells. -/
def readNat (greatest : Nat) (s : String) : Except Fault Nat :=
  match s.toList with
  | [] => .error .empty
  | ['+'] => .error .invalidDigit
  | '+' :: digits => readDigits greatest .tooLarge 0 digits
  | digits => readDigits greatest .tooLarge 0 digits

/-- The whole number that a text spells, at least `-lowest` and at most `greatest`. -/
def readInt (lowest greatest : Nat) (s : String) : Except Fault Int :=
  match s.toList with
  | [] => .error .empty
  | ['+'] => .error .invalidDigit
  | ['-'] => .error .invalidDigit
  | '+' :: digits => (readDigits greatest .tooLarge 0 digits).map Int.ofNat
  | '-' :: digits => (readDigits lowest .tooSmall 0 digits).map fun n => -Int.ofNat n
  | digits => (readDigits greatest .tooLarge 0 digits).map Int.ofNat

/-- The greatest number of sixteen bits. -/
def maxU16 : Nat := 0xFFFF

/-- The greatest number of thirty-two bits. -/
def maxU32 : Nat := 0xFFFFFFFF

/-- The greatest number of sixty-four bits. -/
def maxU64 : Nat := 0xFFFFFFFFFFFFFFFF

/-- The greatest number of sixty-three bits, and of sixty-four with a sign. -/
def maxI64 : Nat := 0x7FFFFFFFFFFFFFFF

end Numeral

/-- The value of a hexadecimal digit of either case. -/
def hexDigitValue? (c : Char) : Option Nat :=
  let n := c.toNat
  if 0x30 ≤ n ∧ n ≤ 0x39 then some (n - 0x30)
  else if 0x41 ≤ n ∧ n ≤ 0x46 then some (n - 0x37)
  else if 0x61 ≤ n ∧ n ≤ 0x66 then some (n - 0x57)
  else none

/-- The decimal numeral of a natural number. -/
def decimal (n : Nat) : String := String.ofList (Nat.toDigits 10 n)

end LoginRehearsal
