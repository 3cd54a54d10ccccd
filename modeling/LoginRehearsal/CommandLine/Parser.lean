import LoginRehearsal.CommandLine.UsageError
import LoginRehearsal.Text.Similarity

/-!
# Reading the command line

Arguments from left to right. An option takes its value from behind an equals sign or from the next
argument; a value that is still awaited is settled when the next option comes, or at the end. After that,
environment variables stand in for options that were not given.

* `Options.parse`: the options of a command line under an environment, or why there are none.
* `Options.settings`: the settings to run with.
-/
namespace LoginRehearsal

/-- What the command line and the variables behind it say. -/
structure Options where
  oauth1Port : Option Nat
  oauth2Port : Option Nat
  cert : Option String
  noTls : Bool
  mode : Mode
  logLevel : String
  jsonLogs : Bool
deriving DecidableEq, Repr

/-- Why the program ends before it does anything. -/
inductive Halt where
  | help (long : Bool)
  | version
  | usage (error : UsageError)
deriving DecidableEq, Repr

/-- The reading of a command line under way. -/
structure Draft where
  options : Options
  /-- The options so far, in order. -/
  used : List Opt
  /-- The option that awaits a value, and the value once it is there. -/
  awaiting : Option (Opt × Option String)
deriving DecidableEq, Repr

namespace Options

/-- The options of an empty command line. -/
def initial : Options := ⟨none, none, none, false, .both, "info", false⟩

/-- A port, as a number between bounds. -/
def readPort (o : Opt) (value : String) : Except Halt Nat :=
  match Numeral.readInt (Numeral.maxI64 + 1) Numeral.maxI64 value with
  | .error fault => .error (.usage (.invalidValue o value (.numeral fault)))
  | .ok n =>
    if 0 ≤ n ∧ n ≤ (Numeral.maxU16 : Int) then .ok n.toNat
    else .error (.usage (.invalidValue o value (.outOfRange n Numeral.maxU16)))

/-- A mode by its value. -/
def readMode (value : String) : Except Halt Mode :=
  match Mode.ofValue? value with
  | some mode => .ok mode
  | none =>
    .error (.usage (if value.isEmpty then .missingValue .mode
      else .invalidValue .mode value (.noChoice (mostSimilar? value (Mode.all.map Mode.value)))))

/-- A path that is not empty. -/
def readPath (o : Opt) (value : String) : Except Halt String :=
  if value.isEmpty then .error (.usage (.missingValue o)) else .ok value

/-- Writes the value of an option that takes one. -/
def withValue (opts : Options) (o : Opt) (value : String) : Except Halt Options :=
  match o with
  | .oauth1Port => (readPort o value).map fun port => { opts with oauth1Port := some port }
  | .oauth2Port => (readPort o value).map fun port => { opts with oauth2Port := some port }
  | .cert => (readPath o value).map fun path => { opts with cert := some path }
  | .mode => (readMode value).map fun mode => { opts with mode }
  | .logLevel => .ok { opts with logLevel := value }
  | _ => .ok opts

end Options

namespace Draft

def initial : Draft := ⟨.initial, [], none⟩

/-- The draft with an option among those used. -/
def noted (d : Draft) (o : Opt) : Draft := { d with used := d.used ++ [o] }

/-- Takes in an option with its value. -/
def take (d : Draft) (o : Opt) (value : String) : Except Halt Draft :=
  if d.used.contains o then .error (.usage (.repeated o))
  else (d.options.withValue o value).map fun options => { d.noted o with options }

/-- Settles the option that awaits a value. -/
def settle (d : Draft) : Except Halt Draft :=
  match d.awaiting with
  | none => .ok d
  | some (o, none) => .error (.usage (.missingValue o))
  | some (o, some value) => { d with awaiting := none }.take o value

/-- Options with one more at their end, unless it is among them. -/
def withOption (used : List Opt) (o : Opt) : List Opt :=
  if used.contains o then used else used ++ [o]

/-- The options used up to now, the awaiting one included once it has a value. One that was used before is
forgotten, since it may not be repeated. -/
def usedSoFar (d : Draft) : List Opt :=
  match d.awaiting with
  | some (o, some _) => if d.used.contains o then d.used.filter (· != o) else d.used ++ [o]
  | _ => d.used

/-- The refusal of an argument that looks like the name of an option. -/
def unknownName (d : Draft) (name : String) : Halt :=
  let meant := (mostSimilar? name (Opt.all.map Opt.name)).bind Opt.ofName?
  let used := match meant with
    | some o => withOption d.usedSoFar o
    | none => d.usedSoFar
  .usage (.unexpected ("--" ++ name) meant used)

/-- Takes in an option that takes no value. -/
def raise (d : Draft) (o : Opt) (long : Bool) : Except Halt Draft := do
  let d ← d.settle
  match o with
  | .help => .error (.help long)
  | .version => .error .version
  | _ =>
    if d.used.contains o then .error (.usage (.repeated o))
    else match o with
      | .noTls => .ok { d.noted o with options := { d.options with noTls := true } }
      | .jsonLogs => .ok { d.noted o with options := { d.options with jsonLogs := true } }
      | _ => .ok d

/-- An argument behind two dashes: a name, and perhaps a value behind an equals sign. -/
def long (d : Draft) (text : List Char) : Except Halt Draft :=
  let (name, value) := match splitFirst? (· == '=') text with
    | some (name, value) => (String.ofList name, some (String.ofList value))
    | none => (String.ofList text, none)
  match Opt.ofName? name with
  | none => .error (d.unknownName name)
  | some o =>
    if o.valueName?.isSome then do
      let d ← d.settle
      match value with
      | some value => d.take o value
      | none => .ok { d with awaiting := some (o, none) }
    else match value with
      | some value => .error (.usage (.needlessValue o value d.used))
      | none => d.raise o true

/-- Letters behind a single dash. -/
def short (d : Draft) : List Char → Except Halt Draft
  | [] => .ok d
  | c :: rest =>
    match Opt.ofLetter? c with
    | none => .error (.usage (.unexpected ("-" ++ String.singleton c) none []))
    | some o =>
      match d.raise o false with
      | .error halt => .error halt
      | .ok d => d.short rest

/-- An argument that is no option: the value of the option that awaits one, or a mistake. -/
def operand (d : Draft) (text : String) : Except Halt Draft :=
  match d.awaiting with
  | some (o, none) => .ok { d with awaiting := some (o, some text) }
  | _ => .error (.usage (.unexpected text none []))

/-- Reads arguments. Behind a lone `--` no argument is an option or a value. -/
def read (d : Draft) : List String → Except Halt Draft
  | [] => .ok d
  | argument :: rest => do
    match argument.toList with
    | ['-', '-'] =>
      match rest with
      | [] => .ok d
      | next :: _ => .error (.usage (.unexpected next none []))
    | '-' :: '-' :: text => (← d.long text).read rest
    | '-' :: c :: text => (← d.short (c :: text)).read rest
    | _ => (← d.operand argument).read rest

/-- Puts the variable of an option in its place if the option was not given. -/
def fallBack (env : Environment) (d : Draft) (o : Opt) : Except Halt Draft :=
  if d.used.contains o then .ok d
  else match o.standIn?.bind env with
    | none => .ok d
    | some value => (d.options.withValue o value).map fun options => { d with options }

end Draft

namespace Options

/-- The options of a command line under an environment. -/
def parse (args : List String) (env : Environment) : Except Halt Options := do
  let d ← Draft.initial.read args
  let d ← d.settle
  let d ← Opt.all.foldlM (Draft.fallBack env) d
  pure d.options

/-- The settings of the environment, with the options put over them. -/
def settings (opts : Options) (env : Environment) : Except SettingsError Settings := do
  let s ← Settings.ofEnvironment env
  pure { s with
    oauth1Port := opts.oauth1Port.getD s.oauth1Port
    oauth2Port := opts.oauth2Port.getD s.oauth2Port
    certificate := if opts.noTls then none else opts.cert <|> s.certificate }

end Options
end LoginRehearsal
