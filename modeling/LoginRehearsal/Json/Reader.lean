import LoginRehearsal.Json.Value

/-!
# Reading JSON

The value that a JSON text spells. A numeral is a whole number if it has neither fraction nor exponent,
is not `-0` and fits sixty-four bits, signed or not; any other is a fraction.

* `Json.ofText`: the value of a text, if it is one value with blanks around it.
-/
namespace LoginRehearsal
namespace Json

def isSpace (c : Char) : Bool := c == ' ' || c == '\t' || c == '\n' || c == '\r'

def skipSpace (cs : List Char) : List Char := cs.dropWhile isSpace

/-! ## Strings -/

/-- The value of four hexadecimal digits. -/
def hexQuad? (a b c d : Char) : Option Nat :=
  match [a, b, c, d].mapM fun x => Percent.hexValue (UInt8.ofNat x.toNat) with
  | some [a, b, c, d] => some (((a * 16 + b) * 16 + c) * 16 + d)
  | _ => none

/-- The character that a simple escape stands for. -/
def simpleEscape? (c : Char) : Option Char :=
  match c with
  | '"' => some '"'
  | '\\' => some '\\'
  | '/' => some '/'
  | 'b' => some '\x08'
  | 'f' => some '\x0c'
  | 'n' => some '\n'
  | 'r' => some '\r'
  | 't' => some '\t'
  | _ => none

/-- Reads the string behind an opening quote; `found` holds its characters so far in reverse. -/
def readString (found : List Char) : List Char → Option (String × List Char)
  | [] => none
  | '"' :: rest => some (String.ofList found.reverse, rest)
  | '\\' :: 'u' :: a :: b :: c :: d :: '\\' :: 'u' :: e :: f :: g :: h :: rest =>
    match hexQuad? a b c d, hexQuad? e f g h with
    | some hi, some lo =>
      if 0xD800 ≤ hi ∧ hi < 0xDC00 ∧ 0xDC00 ≤ lo ∧ lo < 0xE000 then
        readString (Char.ofNat (0x10000 + (hi - 0xD800) * 1024 + (lo - 0xDC00)) :: found) rest
      else readString (Char.ofNat hi :: found) ('\\' :: 'u' :: e :: f :: g :: h :: rest)
    | _, _ => none
  | '\\' :: 'u' :: a :: b :: c :: d :: rest =>
    match hexQuad? a b c d with
    | some n => readString (Char.ofNat n :: found) rest
    | none => none
  | '\\' :: c :: rest =>
    match simpleEscape? c with
    | some c => readString (c :: found) rest
    | none => none
  | c :: rest => readString (c :: found) rest

/-! ## Numbers -/

/-- The value of a list of decimal digits. -/
def digitsValue (cs : List Char) : Nat :=
  cs.foldl (fun n c => n * 10 + (c.toNat - 0x30)) 0

/-- The fraction behind a whole part, as its digits. -/
def fractionOf : List Char → List Char × List Char
  | '.' :: rest => (rest.takeWhile Char.isDigit, rest.dropWhile Char.isDigit)
  | rest => ([], rest)

/-- The exponent of a numeral. -/
def exponentOf : List Char → Int × List Char
  | e :: rest =>
    if e == 'e' || e == 'E' then
      match rest with
      | '-' :: rest => (-(digitsValue (rest.takeWhile Char.isDigit) : Int),
          rest.dropWhile Char.isDigit)
      | '+' :: rest => (digitsValue (rest.takeWhile Char.isDigit), rest.dropWhile Char.isDigit)
      | rest => (digitsValue (rest.takeWhile Char.isDigit), rest.dropWhile Char.isDigit)
    else (0, e :: rest)
  | [] => (0, [])

/-- Whether a whole number fits sixty-four bits, signed or not. -/
def fits (n : Int) : Bool :=
  -(Numeral.maxI64 + 1 : Int) ≤ n && n ≤ (Numeral.maxU64 : Int)

/-- The number that a text begins with, of the given sign. -/
def readNumber (negative : Bool) (cs : List Char) : Option (Json × List Char) :=
  let whole := cs.takeWhile Char.isDigit
  if whole.isEmpty then none
  else
    let behindWhole := cs.dropWhile Char.isDigit
    let (fraction, behindFraction) := fractionOf behindWhole
    let (exponent, rest) := exponentOf behindFraction
    let n : Int := digitsValue whole
    let value : Int := if negative then -n else n
    if rest.length = behindWhole.length ∧ fits value ∧ !(negative ∧ n = 0) then
      some (.int value, rest)
    else
      (Binary64.ofDecimal? negative (digitsValue (whole ++ fraction))
        (exponent - fraction.length)).map fun x => (.float x, rest)

/-! ## Values -/

mutual
/-- The value that a text begins with; `fuel` bounds the steps. -/
def readValue : (fuel : Nat) → List Char → Option (Json × List Char)
  | 0, _ => none
  | fuel + 1, cs =>
    match skipSpace cs with
    | 'n' :: 'u' :: 'l' :: 'l' :: rest => some (.null, rest)
    | 't' :: 'r' :: 'u' :: 'e' :: rest => some (.bool true, rest)
    | 'f' :: 'a' :: 'l' :: 's' :: 'e' :: rest => some (.bool false, rest)
    | '"' :: rest => (readString [] rest).map fun (s, rest) => (.str s, rest)
    | '[' :: rest =>
      match skipSpace rest with
      | ']' :: rest => some (.arr [], rest)
      | _ => readItems fuel [] rest
    | '\x7b' :: rest =>
      match skipSpace rest with
      | '\x7d' :: rest => some (.obj [], rest)
      | _ => readMembers fuel [] rest
    | '-' :: rest => readNumber true rest
    | rest => readNumber false rest

/-- The items up to a closing bracket; `found` holds those so far in reverse. -/
def readItems : (fuel : Nat) → List Json → List Char → Option (Json × List Char)
  | 0, _, _ => none
  | fuel + 1, found, cs =>
    match readValue fuel cs with
    | none => none
    | some (v, rest) =>
      match skipSpace rest with
      | ',' :: rest => readItems fuel (v :: found) rest
      | ']' :: rest => some (.arr (v :: found).reverse, rest)
      | _ => none

/-- The members up to a closing brace; `found` holds those so far in reverse. -/
def readMembers : (fuel : Nat) → List (String × Json) → List Char → Option (Json × List Char)
  | 0, _, _ => none
  | fuel + 1, found, cs =>
    match skipSpace cs with
    | '"' :: rest =>
      match readString [] rest with
      | none => none
      | some (name, rest) =>
        match skipSpace rest with
        | ':' :: rest =>
          match readValue fuel rest with
          | none => none
          | some (v, rest) =>
            match skipSpace rest with
            | ',' :: rest => readMembers fuel ((name, v) :: found) rest
            | '\x7d' :: rest => some (ofMembers ((name, v) :: found).reverse, rest)
            | _ => none
        | _ => none
    | _ => none
end

/-- The value that a text spells. -/
def ofText (s : String) : Option Json :=
  let cs := s.toList
  match readValue (cs.length + 1) cs with
  | some (v, rest) => if (skipSpace rest).isEmpty then some v else none
  | none => none

end Json
end LoginRehearsal
