import LoginRehearsal.CommandLine.Help

/-!
# Usage errors

What is wrong with a command line, and what the program says about it. What a user wrote is set in a style
of its own, which ends an escape sequence in it.

* `UsageError.markup`: the message with its styles.
* `UsageError.lines`: the lines that are printed.
-/
namespace LoginRehearsal

/-- Why a value does not fit its option. -/
inductive ValueFault where
  | numeral (fault : Numeral.Fault)
  | outOfRange (n : Int) (greatest : Nat)
  /-- The value is none of the choices; perhaps one of them was meant. -/
  | noChoice (meant : Option String)
deriving DecidableEq, Repr

inductive UsageError where
  /-- An argument that is no option, what it may have been meant to be, and the options so far. -/
  | unexpected (argument : String) (meant : Option Opt) (used : List Opt)
  | repeated (o : Opt)
  | missingValue (o : Opt)
  | invalidValue (o : Opt) (value : String) (fault : ValueFault)
  /-- A value for an option that takes none, and the options so far. -/
  | needlessValue (o : Opt) (value : String) (used : List Opt)
deriving DecidableEq, Repr

namespace UsageError

def usageLine (arguments : List String) : String :=
  "Usage: " ++ Help.programName ++ " " ++ " ".intercalate arguments

/-- The options that were used, or that there are some. -/
def usedLine (used : List Opt) : String :=
  usageLine (if used.isEmpty then ["[OPTIONS]"] else used.map Opt.usage)

/-- An option that takes no value. Behind other options any of them may stand in its place, unless it asks
for information. -/
def needlessLine (o : Opt) (used : List Opt) : String :=
  usageLine (if used.isEmpty then [o.usage]
    else if o.isQuestion then [o.usage, Opt.anyUsage]
    else [Opt.anyUsage])

/-- Lines about the choices of an option. -/
def choiceLines (o : Opt) : List String :=
  if o.choices.isEmpty then [] else ["  " ++ Help.choiceNote o]

/-- What is wrong, without further advice. -/
def body : UsageError → List String
  | .unexpected argument meant used =>
    ["error: unexpected argument '" ++ styled argument ++ "' found", ""] ++
      (match meant with
        | some o => ["  tip: a similar argument exists: '--" ++ o.name ++ "'", ""]
        | none => []) ++
      [usedLine used]
  | .repeated o =>
    ["error: the argument '" ++ o.usage ++ "' cannot be used multiple times", "", usedLine []]
  | .missingValue o =>
    ("error: a value is required for '" ++ o.usage ++ "' but none was supplied") :: choiceLines o
  | .invalidValue o value fault =>
    let opening := "error: invalid value '" ++ styled value ++ "' for '" ++ o.usage ++ "'"
    match fault with
    | .numeral fault => [opening ++ ": " ++ fault.message]
    | .outOfRange n greatest =>
      [opening ++ ": " ++ toString n ++ " is not in 0..=" ++ decimal greatest]
    | .noChoice meant =>
      opening :: choiceLines o ++ (match meant with
        | some choice => ["", "  tip: a similar value exists: '" ++ choice ++ "'"]
        | none => [])
  | .needlessValue o value used =>
    ["error: unexpected value '" ++ styled value ++ "' for '" ++ o.usage ++
      "' found; no more were expected", "", needlessLine o used]

/-- The message with its styles. -/
def markup (e : UsageError) : String :=
  ofLines (e.body ++ ["", "For more information, try '--help'."])

/-- The message in lines, as it is printed. -/
def lines (e : UsageError) : List String := textLines (plain e.markup)

end UsageError
end LoginRehearsal
