import LoginRehearsal.Text.Numeral

/-!
# Double-precision numbers

The finite numbers of the format binary64: a sign, a mantissa below `2 ^ 53` and an exponent of two. All
arithmetic is exact and rounds once, to the nearest number, a tie to the even mantissa.

* `Binary64.ofRatio?`: the nearest number to a ratio, none beyond the greatest.
* `Binary64.ofDecimal?`: the number that a decimal spells.
* `Binary64.text`: the fewest digits that read back.
-/
namespace LoginRehearsal

/-- A finite number: `± mantissa * 2 ^ exponent`. The mantissa is at least `2 ^ 52` unless the exponent is
the least one, `-1074`. -/
structure Binary64 where
  negative : Bool
  mantissa : Nat
  exponent : Int
deriving DecidableEq, Repr

/-- The quotient of two numbers to the nearest whole one, a half to the even neighbour. -/
def roundToEven (num den : Nat) : Nat :=
  let q := num / den
  let r := num % den
  if den < 2 * r ∨ (2 * r = den ∧ q % 2 = 1) then q + 1 else q

namespace Binary64

def zero (negative : Bool) : Binary64 := ⟨negative, 0, -1074⟩

/-- A ratio divided by a power of two, to the nearest whole number. -/
def scaled (num den : Nat) (exponent : Int) : Nat :=
  match exponent with
  | .ofNat e => roundToEven num (den * Nat.pow 2 e)
  | .negSucc e => roundToEven (num * Nat.pow 2 (e + 1)) den

/-- The greatest power of two that is not above a positive ratio. -/
def log2Ratio (num den : Nat) : Int :=
  let guess : Int := (num.log2 : Int) - (den.log2 : Int)
  let below : Bool := match guess with
    | .ofNat e => num < den * Nat.pow 2 e
    | .negSucc e => num * Nat.pow 2 (e + 1) < den
  if below then guess - 1 else guess

/-- The least mantissa that uses all its bits, `2 ^ 52`. -/
def fullMantissa : Nat := 0x10000000000000

/-- The number nearest to `± num / den`, if it is not too large. -/
def ofRatio? (negative : Bool) (num den : Nat) : Option Binary64 :=
  if num = 0 then some (zero negative)
  else
    let exponent := max (log2Ratio num den - 52) (-1074)
    let mantissa := scaled num den exponent
    let result : Binary64 :=
      if mantissa = 2 * fullMantissa then ⟨negative, fullMantissa, exponent + 1⟩
      else ⟨negative, mantissa, exponent⟩
    if 971 < result.exponent then none else some result

/-- The number nearest to `± digits * 10 ^ power`, if it is not too large. Powers far outside the range
of the format are not computed. -/
def ofDecimal? (negative : Bool) (digits : Nat) (power : Int) : Option Binary64 :=
  if digits = 0 ∨ power + (Nat.toDigits 10 digits).length < -330 then some (zero negative)
  else if 310 < power then none
  else match power with
    | .ofNat p => ofRatio? negative (digits * Nat.pow 10 p) 1
    | .negSucc p => ofRatio? negative digits (Nat.pow 10 (p + 1))

/-- The number nearest to a whole one. -/
def ofInt? (n : Int) : Option Binary64 := ofRatio? (n < 0) n.natAbs 1

/-- Whether a number is below zero. Negative zero is not. -/
def isBelowZero (x : Binary64) : Bool := x.negative && x.mantissa != 0

/-- The absolute value as a ratio. -/
def ratio (x : Binary64) : Nat × Nat :=
  match x.exponent with
  | .ofNat e => (x.mantissa * Nat.pow 2 e, 1)
  | .negSucc e => (x.mantissa, Nat.pow 2 (e + 1))

/-! ## Text -/

/-- The power of ten just above a positive number: `10 ^ (p - 1) ≤ x < 10 ^ p`. -/
def decimalPoint (x : Binary64) : Int :=
  let (num, den) := x.ratio
  ((Nat.toDigits 10 (num * Nat.pow 10 400 / den)).length : Int) - 400

/-- The two neighbours of a number on the grid of multiples of `10 ^ power`, the nearer one first, or the
even one in the middle between both. -/
def neighbours (x : Binary64) (power : Int) : List Nat :=
  let (num, den) := x.ratio
  let (num, den) := match power with
    | .ofNat p => (num, den * Nat.pow 10 p)
    | .negSucc p => (num * Nat.pow 10 (p + 1), den)
  let below := num / den
  if roundToEven num den = below then [below, below + 1] else [below + 1, below]

/-- The first decimal with at least `places` digits that reads back, as digits and power; `more` bounds
how many more digits are tried. -/
def shortestFrom (x : Binary64) (places : Nat) : (more : Nat) → Nat × Int
  | 0 => (x.mantissa, 0)
  | more + 1 =>
    let power := x.decimalPoint - places
    match (x.neighbours power).find? fun n => ofDecimal? x.negative n power == some x with
    | some n => (n, power)
    | none => shortestFrom x (places + 1) more

/-- Digits without the zeros at their end, and how many those were. -/
def stripZeros : List Char → List Char × Nat
  | digits =>
    let kept := (digits.reverse.dropWhile (· == '0')).reverse
    (kept, digits.length - kept.length)

/-- Digits with the decimal point behind the first `point` of them: positional from `10 ^ -5` up to
`10 ^ 16`, with an exponent beyond. -/
def layOut (digits : List Char) (point : Int) : List Char :=
  if -4 ≤ point ∧ point ≤ 16 then
    match point with
    | .negSucc zeros => ['0', '.'] ++ List.replicate (zeros + 1) '0' ++ digits
    | .ofNat 0 => ['0', '.'] ++ digits
    | .ofNat whole =>
      if digits.length ≤ whole then
        digits ++ List.replicate (whole - digits.length) '0' ++ ['.', '0']
      else digits.take whole ++ '.' :: digits.drop whole
  else
    let fraction := if digits.length ≤ 1 then [] else '.' :: digits.drop 1
    let exponent := point - 1
    digits.take 1 ++ fraction ++ ['e', if exponent < 0 then '-' else '+'] ++
      Nat.toDigits 10 exponent.natAbs

/-- The fewest digits that read back as the number. -/
def text (x : Binary64) : String :=
  let sign := if x.negative then ['-'] else []
  if x.mantissa = 0 then String.ofList (sign ++ ['0', '.', '0'])
  else
    let (n, power) := x.shortestFrom 1 17
    let all := Nat.toDigits 10 n
    let (digits, _) := stripZeros all
    String.ofList (sign ++ layOut digits (all.length + power))

end Binary64
end LoginRehearsal
