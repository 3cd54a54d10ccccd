import LoginRehearsal.Settings
import LoginRehearsal.Text.Alphanumeric
import LoginRehearsal.Text.Blank
import LoginRehearsal.Text.Split

/-!
# Environment files

A file of `NAME=value` lines that sets variables which are not set yet. A value may be quoted in part, may
hold escapes behind a backslash, and may name variables: those of the environment, then those of earlier
lines. A malformed line ends the reading, and the lines before it count.

* `EnvironmentFile.readLine`: what a line assigns.
* `EnvironmentFile.load`: the variables after a file.
-/
namespace LoginRehearsal

/-- Variables with their values; the first entry of a name counts. -/
abbrev Variables := List (String × String)

namespace Variables

def get? (vs : Variables) (name : String) : Option String := (vs.find? (·.1 == name)).map (·.2)

/-- The environment that variables make up. -/
def environment (vs : Variables) : Environment := fun name => get? vs name

end Variables

namespace EnvironmentFile

/-! ## Values -/

/-- Where the reading of a value stands. -/
inductive Place where
  | plain
  | escape
  | singleQuoted
  | doubleQuoted
  | doubleQuotedEscape
  /-- Behind a dollar sign: the name so far in reverse, and whether double quotes are open. -/
  | name (found : List Char) (quoted : Bool)
  | bracedName (found : List Char) (quoted : Bool)
  /-- Behind a blank, where only a comment may follow. -/
  | done
deriving DecidableEq, Repr

/-- The place outside of names and escapes. -/
def base (quoted : Bool) : Place := if quoted then .doubleQuoted else .plain

/-- What an escaped character stands for. -/
def escaped? (c : Char) : Option Char :=
  if c = 'n' then some '\n'
  else if "\\\"$ ".toList.contains c || c.toNat = 0x27 then some c
  else none

/-- The text of a value, read on from a place; `found` holds it so far in reverse, and `look` gives the
variables. Behind the name of a variable the next character stands for itself, a quote included. -/
def readValue (look : String → String) (found : List Char) : Place → List Char → Option String
  | place, [] =>
    match place with
    | .singleQuoted => none
    | .doubleQuoted => none
    | .doubleQuotedEscape => none
    | .bracedName _ _ => none
    | .name name quoted =>
      if quoted then none
      else some (String.ofList found.reverse ++ look (String.ofList name.reverse))
    | _ => some (String.ofList found.reverse)
  | .done, c :: rest =>
    if c = ' ' ∨ c = '\t' then readValue look found .done rest
    else if c = '#' then some (String.ofList found.reverse)
    else none
  | .escape, c :: rest =>
    match escaped? c with
    | some c => readValue look (c :: found) .plain rest
    | none => none
  | .doubleQuotedEscape, c :: rest =>
    match escaped? c with
    | some c => readValue look (c :: found) .doubleQuoted rest
    | none => none
  | .singleQuoted, c :: rest =>
    if c.toNat = 0x27 then readValue look found .plain rest
    else readValue look (c :: found) .singleQuoted rest
  | .name name quoted, c :: rest =>
    if isLetterOrNumber c then readValue look found (.name (c :: name) quoted) rest
    else if c = '\x7b' ∧ name = [] then readValue look found (.bracedName [] quoted) rest
    else
      let found := (look (String.ofList name.reverse)).toList.reverse ++ found
      if c = '$' then readValue look found (.name [] quoted) rest
      else readValue look (c :: found) (base quoted) rest
  | .bracedName name quoted, c :: rest =>
    if c = '\x7d' then
      readValue look ((look (String.ofList name.reverse)).toList.reverse ++ found) (base quoted) rest
    else readValue look found (.bracedName (c :: name) quoted) rest
  | .doubleQuoted, c :: rest =>
    if c = '$' then readValue look found (.name [] true) rest
    else if c = '"' then readValue look found .plain rest
    else if c = '\\' then readValue look found .doubleQuotedEscape rest
    else readValue look (c :: found) .doubleQuoted rest
  | .plain, c :: rest =>
    if c = '$' then readValue look found (.name [] false) rest
    else if c.toNat = 0x27 then readValue look found .singleQuoted rest
    else if c = '"' then readValue look found .doubleQuoted rest
    else if c = '\\' then readValue look found .escape rest
    else if c = ' ' ∨ c = '\t' then readValue look found .done rest
    else readValue look (c :: found) .plain rest

/-! ## Lines -/

def skipBlanks (cs : List Char) : List Char := cs.dropWhile isBlank

/-- The name that a text begins with: a letter or an underscore, then also digits and dots. -/
def readName? (cs : List Char) : Option (String × List Char) :=
  match cs with
  | c :: _ =>
    if c.isAlpha || c = '_' then
      let inName (c : Char) : Bool := c.isAlphanum || c == '_' || c == '.'
      some (String.ofList (cs.takeWhile inName), cs.dropWhile inName)
    else none
  | [] => none

/-- What stands behind an equals sign. -/
def behindEquals? : List Char → Option (List Char)
  | '=' :: rest => some rest
  | _ => none

/-- The name of an assignment, and the text behind its equals sign. `export` may stand in front. -/
def readTarget? (cs : List Char) : Option (String × List Char) := do
  let (name, rest) ← readName? cs
  match behindEquals? (skipBlanks rest) with
  | some value => pure (name, value)
  | none =>
    if name = "export" then do
      let (name, rest) ← readName? (skipBlanks rest)
      let value ← behindEquals? (skipBlanks rest)
      pure (name, value)
    else none

/-- What a line comes to. -/
inductive Line where
  | blank
  | malformed
  | assignment (name value : String)
deriving DecidableEq, Repr

/-- What a line comes to, where `look` gives the variables. -/
def readLine (look : String → String) (line : List Char) : Line :=
  let cs := skipBlanks (dropRight isBlank line)
  match cs with
  | [] => .blank
  | '#' :: _ => .blank
  | _ =>
    match readTarget? cs with
    | none => .malformed
    | some (name, rest) =>
      match skipBlanks rest with
      | [] => .assignment name ""
      | '#' :: _ => .assignment name ""
      | value =>
        match readValue look [] .plain value with
        | some text => .assignment name text
        | none => .malformed

/-! ## Files -/

/-- Reads lines onto variables; `assigned` holds what the lines so far assigned, the last first. -/
def readLines (vs : Variables) (assigned : Variables) : List (List Char) → Variables
  | [] => vs
  | line :: rest =>
    let look (name : String) : String := ((vs.get? name) <|> (assigned.get? name)).getD ""
    match readLine look line with
    | .blank => readLines vs assigned rest
    | .malformed => vs
    | .assignment name value =>
      let vs := if (vs.get? name).isSome then vs else vs ++ [(name, value)]
      readLines vs ((name, value) :: assigned) rest

/-- The variables after a file: those of the environment, and the others that the file assigns. -/
def load (vs : Variables) (file : String) : Variables :=
  readLines vs [] (splitOn (· == '\n') file.toList)

/-- The words of a file that may name variables. -/
def mentioned (file : String) : List String :=
  ((splitOn (fun c => !(isLetterOrNumber c || c == '_' || c == '.')) file.toList).map String.ofList).filter
    (!·.isEmpty)

/-- The text of a file, up to the first line that is not UTF-8. -/
def textOf (content : Bytes) : String :=
  let lines := (splitOn (· == 0x0A) content).map fun line => (Utf8.decode? line).toOption
  "\n".intercalate ((lines.takeWhile Option.isSome).filterMap id)

end EnvironmentFile
end LoginRehearsal
