import LoginRehearsal.Json.Value
import LoginRehearsal.Log.Filter
import LoginRehearsal.Text.Quoted

/-!
# Log records

What the program reports while it runs: a message with named values, at a level and from a part of the
program.

* `LogRecord.line`: the record as a line of text, or as a JSON object.
* `LogRecord.stampedLine`: the same with the time.
-/
namespace LoginRehearsal

/-- A named value. Texts are quoted in lines, other values are not. -/
structure LogField where
  name : String
  value : String
  quoted : Bool
deriving DecidableEq, Repr

structure LogRecord where
  level : Level
  target : String
  message : String
  fields : List LogField
deriving DecidableEq, Repr

/-- How records are written. -/
inductive LogFormat where
  | compact
  | json
deriving DecidableEq, Repr

namespace LogRecord

def fieldText (f : LogField) : String :=
  " " ++ f.name ++ "=" ++ (if f.quoted then quote f.value else f.value)

/-- The record as a line of text. -/
def text (r : LogRecord) : String :=
  r.level.name ++ " " ++ r.target ++ ": " ++ r.message ++ String.join (r.fields.map fieldText)

/-- The record as the members of an object. -/
def members (r : LogRecord) : List (String × Json) :=
  [("level", .str r.level.name), ("target", .str r.target),
    ("fields", .ofMembers (("message", .str r.message) ::
      r.fields.map fun f => (f.name, .str f.value)))]

/-- The record as an object. -/
def json (r : LogRecord) : Json := .ofMembers r.members

def line (format : LogFormat) (r : LogRecord) : String :=
  match format with
  | .compact => r.text
  | .json => r.json.text

/-- The record with the time at which it was made; the levels of lines end in one column. -/
def stampedLine (format : LogFormat) (time : String) (r : LogRecord) : String :=
  match format with
  | .compact =>
    time ++ " " ++ "".pushn ' ' (5 - r.level.name.length) ++ r.text
  | .json => (Json.ofMembers (("timestamp", .str time) :: r.members)).text

/-- The names of what a record holds, its message included. -/
def fieldNames (r : LogRecord) : List String := "message" :: r.fields.map (·.name)

/-- Whether a filter lets a record through. -/
def passes (filter : LogFilter) (r : LogRecord) : Bool :=
  filter.enables r.level r.target r.fieldNames

/-- The lines that a filter lets through. -/
def lines (filter : LogFilter) (format : LogFormat) (rs : List LogRecord) : List String :=
  (rs.filter (passes filter)).map (line format)

end LogRecord
end LoginRehearsal
