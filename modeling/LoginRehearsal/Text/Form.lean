import LoginRehearsal.Text.Percent
import LoginRehearsal.Text.Split

/-!
# Form fields

The `application/x-www-form-urlencoded` format, in which a browser posts a form, a query carries
parameters and a token response is written: `name=value` fields joined by `&`, a space written as `+`
and every byte outside a small class escaped.

* `render`, `read`: lists of fields to text and back. Reading accepts any byte string: empty fields
  are skipped, a field without `=` has an empty value, and ill-formed UTF-8 becomes U+FFFD.
-/
namespace LoginRehearsal
namespace Form

/-- The bytes that stand for themselves in a form field. -/
def isPlain (b : UInt8) : Bool :=
  Percent.isAlphanumeric b || b == 0x2A || b == 0x2D || b == 0x2E || b == 0x5F

/-- One byte of a form field. -/
def encodeByte (b : UInt8) : List Char :=
  if isPlain b then [Char.ofNat b.toNat] else if b = 0x20 then ['+'] else Percent.escapeByte b

/-- A name or a value in the spelling of the format. -/
def encode (s : String) : List Char := (Utf8.encode s).flatMap encodeByte

/-- One `name=value` field. -/
def renderField (field : String × String) : List Char := encode field.1 ++ '=' :: encode field.2

/-- Fields in the format, in their order. -/
def render (fields : List (String × String)) : String :=
  String.ofList (joinWith '&' (fields.map renderField))

/-- The text that a name or a value stands for. -/
def decode (bs : Bytes) : String :=
  Utf8.decodeLossy (Percent.decodeBytes (bs.map fun b => if b = 0x2B then 0x20 else b))

/-- The field that a piece between two `&` stands for. -/
def readField (piece : Bytes) : Option (String × String) :=
  if piece.isEmpty then none
  else match splitFirst? (· == 0x3D) piece with
    | none => some (decode piece, "")
    | some (name, value) => some (decode name, decode value)

/-- The fields of a byte string, in their order. -/
def read (bs : Bytes) : List (String × String) :=
  (splitOn (· == 0x26) bs).filterMap readField

/-- The fields of a text. -/
def readText (s : String) : List (String × String) := read (Utf8.encode s)

end Form
end LoginRehearsal
