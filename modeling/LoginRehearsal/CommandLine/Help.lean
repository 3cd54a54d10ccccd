import LoginRehearsal.CommandLine.Opt
import LoginRehearsal.Text.Styled

/-!
# The help text

What the program prints when it is asked for help: a line for each option in the short form, a paragraph
in the long one. Variables that stand in for options are shown with their present values, in which each line
is moved to the column of the first. Names of options are set in a style of their own, which ends an escape
sequence that a value leaves open.

* `Help.markup`: the help text with its styles.
* `Help.lines`: the lines that are printed.
-/
namespace LoginRehearsal
namespace Help

def programName : String := "online-accounts-mock"

def versionLine : String := programName ++ " 0.1.0"

def about : String := "Mock OAuth servers for online accounts end-to-end tests"

def spaces (n : Nat) : String := String.ofList (List.replicate n ' ')

/-- The letter and the name of an option, in columns, with a style for either. -/
def frontIn (style : String → String) (o : Opt) : String :=
  (match o.letter? with
    | some c => "  " ++ style ("-" ++ String.singleton c) ++ ", "
    | none => "      ") ++ style ("--" ++ o.name) ++ o.valueUsage

/-- The width of an option in its columns. -/
def width (o : Opt) : Nat := (frontIn id o).length

/-- A text whose lines behind the first are moved to a column. -/
def indented (column : Nat) (s : String) : String := ("\n" ++ spaces column).intercalate (textLines s)

/-- Variable and default of an option, in brackets. -/
def notes (env : Environment) (o : Opt) : List String :=
  (match o.standIn? with
    | some name => ["[env: " ++ name ++ "=" ++ (env name).getD "" ++ "]"]
    | none => []) ++
  (match o.default? with
    | some value => ["[default: " ++ value ++ "]"]
    | none => [])

/-- The values that an option is limited to, in brackets. -/
def choiceNote (o : Opt) : String :=
  "[possible values: " ++ ", ".intercalate (o.choices.map (·.1)) ++ "]"

/-! ## Short form -/

/-- The width of the widest option. -/
def frontWidth : Nat := (Opt.all.map width).foldl max 0

def shortLine (env : Environment) (o : Opt) : String :=
  let column := frontIn styled o ++ spaces (frontWidth - width o)
  let choices := if o.choices.isEmpty then [] else [choiceNote o]
  column ++ "  " ++
    indented (frontWidth + 2) (" ".intercalate (o.description false :: notes env o ++ choices))

/-! ## Long form -/

/-- The lines on the values of an option, with their descriptions in a column. -/
def choiceLines (o : Opt) : List String :=
  let width := (o.choices.map (·.1.length)).foldl max 0
  if o.choices.isEmpty then []
  else ["", spaces 10 ++ "Possible values:"] ++ o.choices.map fun (value, text) =>
    spaces 10 ++ "- " ++ value ++ ":" ++ spaces (width - value.length + 1) ++ text

/-- The paragraph on an option. -/
def paragraph (env : Environment) (o : Opt) : List String :=
  let noteLines := (notes env o).map fun note => spaces 10 ++ indented 10 note
  [frontIn styled o, spaces 10 ++ o.description true] ++ choiceLines o ++
    (if noteLines.isEmpty then [] else spaces 10 :: noteLines)

/-- Paragraphs with an empty line between them. -/
def separated : List (List String) → List String
  | [] => []
  | [p] => p
  | p :: rest => p ++ "" :: separated rest

/-- The help text with its styles. -/
def markup (env : Environment) (long : Bool) : String :=
  ofLines ([about, "", "Usage: " ++ programName ++ " [OPTIONS]", "", "Options:"] ++
    (if long then separated (Opt.all.map (paragraph env)) else Opt.all.map (shortLine env)))

/-- The help text in lines, as it is printed. -/
def lines (env : Environment) (long : Bool) : List String := textLines (plain (markup env long))

end Help
end LoginRehearsal
