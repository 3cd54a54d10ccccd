/-!
# Punycode

The spelling of a label of a domain name in ASCII: its ASCII characters, a hyphen, and the
others as a series of numbers in base 36 that say which character comes next in code point order and
where it stands.

* `encode`: the ASCII spelling, without the prefix that marks it.
* `decode?`: the label that an ASCII spelling stands for.
-/
namespace LoginRehearsal
namespace Punycode

/-- The digit of a value below 36: letters, then decimal digits. -/
def digit (n : Nat) : Char := Char.ofNat (if n < 26 then 0x61 + n else 0x16 + n)

/-- The value of a digit of either case. -/
def digitValue? (c : Char) : Option Nat :=
  let n := c.toNat
  if 0x61 ≤ n ∧ n ≤ 0x7A then some (n - 0x61)
  else if 0x41 ≤ n ∧ n ≤ 0x5A then some (n - 0x41)
  else if 0x30 ≤ n ∧ n ≤ 0x39 then some (n - 0x30 + 26)
  else none

/-- The greatest value that ends a number at the place `k`. -/
def threshold (k bias : Nat) : Nat :=
  if k ≤ bias then 1 else if bias + 26 ≤ k then 26 else k - bias

theorem threshold_bounds (k bias : Nat) : 1 ≤ threshold k bias ∧ threshold k bias ≤ 26 := by
  unfold threshold
  split
  · omega
  · split <;> omega

/-- Divides by 35 until at most 455 is left, and counts 36 for each division. -/
def settle (k delta : Nat) : Nat × Nat :=
  if 455 < delta then settle (k + 36) (delta / 35) else (k, delta)
termination_by delta
decreasing_by omega

/-- The bias after a number `delta`, with `count` characters placed. -/
def adapt (delta count : Nat) (first : Bool) : Nat :=
  let damped := if first then delta / 700 else delta / 2
  let (k, rest) := settle 0 (damped + damped / count)
  k + 36 * rest / (rest + 38)

/-! ## Writing -/

/-- The digits of a number, the least significant first. -/
def numberDigits (bias k q : Nat) : List Char :=
  let t := threshold k bias
  if q < t then [digit q]
  else digit (t + (q - t) % (36 - t)) :: numberDigits bias (k + 36) ((q - t) / (36 - t))
termination_by q
decreasing_by
  have := threshold_bounds k bias
  calc (q - threshold k bias) / (36 - threshold k bias) ≤ q - threshold k bias := Nat.div_le_self _ _
    _ < q := by omega

/-- What the writer carries from character to character. -/
structure Writer where
  /-- The digits so far, the last first. -/
  digits : List Char
  delta : Nat
  bias : Nat
  /-- How many characters are placed. -/
  placed : Nat

/-- Passes one character of the label while those equal to `point` are placed. -/
def Writer.pass (basic point : Nat) (w : Writer) (c : Char) : Writer :=
  if c.toNat < point then { w with delta := w.delta + 1 }
  else if c.toNat = point then
    { digits := (numberDigits w.bias 36 w.delta).reverse ++ w.digits, delta := 0,
      bias := adapt w.delta (w.placed + 1) (w.placed == basic), placed := w.placed + 1 }
  else w

/-- Places the characters of the given code points, which rise from `next` on. -/
def Writer.placeAll (label : List Char) (basic next : Nat) (w : Writer) : List Nat → Writer
  | [] => w
  | point :: points =>
    let w := { w with delta := w.delta + (point - next) * (w.placed + 1) }
    let w := label.foldl (Writer.pass basic point) w
    Writer.placeAll label basic (point + 1) { w with delta := w.delta + 1 } points

/-- Puts a number into a rising list without repetition. -/
def insertPoint (n : Nat) : List Nat → List Nat
  | [] => [n]
  | m :: rest => if n < m then n :: m :: rest else if n = m then m :: rest else m :: insertPoint n rest

/-- The code points of a label from U+0080 on, rising and without repetition. -/
def points (label : List Char) : List Nat :=
  (label.filter fun c => 0x80 ≤ c.toNat).foldr (fun c rest => insertPoint c.toNat rest) []

/-- The ASCII spelling of a label. -/
def encode (label : List Char) : List Char :=
  let basic := label.filter fun c => c.toNat < 0x80
  let w := Writer.placeAll label basic.length 0x80 ⟨[], 0, 72, basic.length⟩ (points label)
  basic ++ (if basic.isEmpty then [] else ['-']) ++ w.digits.reverse

/-! ## Reading -/

/-- The number that digits spell, on top of `value` with weight `weight`, and what follows it. -/
def readNumber (bias : Nat) : (k weight value : Nat) → List Char → Option (Nat × List Char)
  | _, _, _, [] => none
  | k, weight, value, c :: rest =>
    match digitValue? c with
    | none => none
    | some d =>
      if d < threshold k bias then some (value + d * weight, rest)
      else readNumber bias (k + 36) (weight * (36 - threshold k bias)) (value + d * weight) rest

theorem readNumber_length {bias k weight value : Nat} {cs rest : List Char} {n : Nat}
    (h : readNumber bias k weight value cs = some (n, rest)) : rest.length < cs.length := by
  induction cs generalizing k weight value with
  | nil => simp [readNumber] at h
  | cons c cs ih =>
    simp only [readNumber] at h
    split at h
    · cases h
    · split at h
      · cases h; simp
      · exact Nat.lt_succ_of_lt (ih h)

/-- Places the characters that the numbers in `cs` stand for. `position` is behind the last one placed
and `point` its code point. -/
def placeRead (bias position point : Nat) (label cs : List Char) : Option (List Char) :=
  if cs.isEmpty then some label
  else match _h : readNumber bias 36 1 0 cs with
    | none => none
    | some (delta, rest) =>
      let size := label.length + 1
      let reached := position + delta
      let next := point + reached / size
      let place := reached % size
      if 0x110000 ≤ next ∨ (0xD800 ≤ next ∧ next < 0xE000) then none
      else placeRead (adapt delta size (position == 0)) (place + 1) next
        (label.take place ++ Char.ofNat next :: label.drop place) rest
termination_by cs.length
decreasing_by exact readNumber_length _h

/-- The label that an ASCII spelling stands for. -/
def decode? (cs : List Char) : Option (List Char) :=
  let basic := ((cs.reverse.dropWhile (· != '-')).drop 1).reverse
  let numbers := if cs.contains '-' then (cs.reverse.takeWhile (· != '-')).reverse else cs
  placeRead 72 0 0x80 basic numbers

end Punycode
end LoginRehearsal
