import LoginRehearsal.Collection.Keyed
import LoginRehearsal.Number.Binary64
import LoginRehearsal.Text.Percent

/-!
# JSON values

Values of the data format JSON, which stand for the variants of bus messages and make up structured
answers and log lines. Whole numbers and fractions are told apart, and the members of an
object are kept in the order of their names.

* `Json.text`: the compact text.
-/
namespace LoginRehearsal

inductive Json where
  | null
  | bool (b : Bool)
  | int (n : Int)
  | float (x : Binary64)
  | str (s : String)
  | arr (items : List Json)
  | obj (members : List (String × Json))
deriving Repr

namespace Json

/-- An object of these members. A later one stands for an earlier one of the same name. -/
def ofMembers (members : List (String × Json)) : Json :=
  .obj (Keyed.merge ([] : Keyed String Json) members)

def ofStrings (items : List String) : Json := .arr (items.map .str)

/-- The value or null. -/
def ofOption : Option Json → Json
  | some v => v
  | none => .null

/-- A text or null. -/
def ofText? : Option String → Json
  | some s => .str s
  | none => .null

def nat (n : Nat) : Json := .int n

/-! ## Text -/

/-- The four hexadecimal digits of a control character. -/
def controlDigits (n : Nat) : List Char :=
  ['0', '0', if n < 16 then '0' else '1', Nat.digitChar (n % 16)]

/-- A character as it stands between quotes: quotes, backslashes and controls are escaped. -/
def escapeChar (c : Char) : List Char :=
  if c = '"' then ['\\', '"']
  else if c = '\\' then ['\\', '\\']
  else if c = '\n' then ['\\', 'n']
  else if c = '\r' then ['\\', 'r']
  else if c = '\t' then ['\\', 't']
  else if c.toNat = 8 then ['\\', 'b']
  else if c.toNat = 12 then ['\\', 'f']
  else if c.toNat < 32 then '\\' :: 'u' :: controlDigits c.toNat
  else [c]

/-- A text between quotes. -/
def quoted (s : String) : String := String.ofList ('"' :: s.toList.flatMap escapeChar ++ ['"'])

mutual
/-- The compact text of a value. -/
def text : Json → String
  | .null => "null"
  | .bool b => if b then "true" else "false"
  | .int n => if n < 0 then "-" ++ decimal n.natAbs else decimal n.natAbs
  | .float x => x.text
  | .str s => quoted s
  | .arr items => "[" ++ ",".intercalate (itemTexts items) ++ "]"
  | .obj members => "\x7b" ++ ",".intercalate (memberTexts members) ++ "\x7d"

/-- The texts of the items of an array. -/
def itemTexts : List Json → List String
  | [] => []
  | v :: rest => v.text :: itemTexts rest

/-- The texts of the members of an object. -/
def memberTexts : List (String × Json) → List String
  | [] => []
  | (name, v) :: rest => (quoted name ++ ":" ++ v.text) :: memberTexts rest
end

/-! ## Parts of a value -/

/-- A member of an object. -/
def get? (v : Json) (name : String) : Option Json :=
  match v with
  | .obj members => (members.find? (·.1 == name)).map (·.2)
  | _ => none

/-- A whole number that is not negative. -/
def asNat? : Json → Option Nat
  | .int (.ofNat n) => some n
  | _ => none

def asString? : Json → Option String
  | .str s => some s
  | _ => none

/-- Any number, to the nearest of the format. -/
def asNumber? : Json → Option Binary64
  | .int n => Binary64.ofInt? n
  | .float x => some x
  | _ => none

end Json
end LoginRehearsal
