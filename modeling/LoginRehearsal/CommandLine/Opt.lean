import LoginRehearsal.Settings

/-!
# Command-line options

The options of the program: their names, the variables that stand in for them, and what is said about them
in the help text.

* `Opt.all`: the options, in the order of the help text.
* `Opt.usage`: an option with its value, as messages name it.
-/
namespace LoginRehearsal

/-- Which servers to run. -/
inductive Mode where
  | oauth1
  | oauth2
  | both
deriving DecidableEq, Repr

namespace Mode

/-- The modes, in the order of the help text. -/
def all : List Mode := [oauth1, oauth2, both]

/-- The value that selects a mode. -/
def value : Mode → String
  | .oauth1 => "oauth1"
  | .oauth2 => "oauth2"
  | .both => "both"

def help : Mode → String
  | .oauth1 => "OAuth 1.0a only"
  | .oauth2 => "OAuth 2.0 only"
  | .both => "Both mocks"

/-- The mode in a log record. -/
def report : Mode → String
  | .oauth1 => "Oauth1"
  | .oauth2 => "Oauth2"
  | .both => "Both"

/-- The flows that a mode runs, in the order in which they start. -/
def flows : Mode → List Flow
  | .oauth1 => [.oauth1]
  | .oauth2 => [.oauth2]
  | .both => [.oauth1, .oauth2]

def ofValue? (s : String) : Option Mode := all.find? (·.value == s)

end Mode

inductive Opt where
  | oauth1Port
  | oauth2Port
  | cert
  | noTls
  | mode
  | logLevel
  | jsonLogs
  | help
  | version
deriving DecidableEq, Repr

namespace Opt

/-- The options, in the order of the help text. -/
def all : List Opt :=
  [oauth1Port, oauth2Port, cert, noTls, mode, logLevel, jsonLogs, help, version]

/-- The name behind the two dashes. -/
def name : Opt → String
  | .oauth1Port => "oauth1-port"
  | .oauth2Port => "oauth2-port"
  | .cert => "cert"
  | .noTls => "no-tls"
  | .mode => "mode"
  | .logLevel => "log-level"
  | .jsonLogs => "json-logs"
  | .help => "help"
  | .version => "version"

/-- The letter behind a single dash. -/
def letter? : Opt → Option Char
  | .help => some 'h'
  | .version => some 'V'
  | _ => none

/-- The name of the value, for options that take one. -/
def valueName? : Opt → Option String
  | .oauth1Port => some "OAUTH1_PORT"
  | .oauth2Port => some "OAUTH2_PORT"
  | .cert => some "CERT"
  | .mode => some "MODE"
  | .logLevel => some "LOG_LEVEL"
  | _ => none

/-- The environment variable that stands in for a missing option. -/
def standIn? : Opt → Option String
  | .oauth1Port => some "OAM_OAUTH1_PORT"
  | .oauth2Port => some "OAM_OAUTH2_PORT"
  | .cert => some "OAM_CERT_PATH"
  | .logLevel => some "RUST_LOG"
  | _ => none

def default? : Opt → Option String
  | .mode => some "both"
  | .logLevel => some "info"
  | _ => none

/-- The values that an option is limited to, with what is said about each. -/
def choices : Opt → List (String × String)
  | .mode => Mode.all.map fun m => (m.value, m.help)
  | _ => []

/-- What the help text says about an option; the short one and the long one point to each other. -/
def description (long : Bool) : Opt → String
  | .oauth1Port => "Port of the OAuth 1.0a mock"
  | .oauth2Port => "Port of the OAuth 2.0 mock"
  | .cert => "PEM file with certificate and private key for the OAuth 2.0 mock"
  | .noTls => "Serve the OAuth 2.0 mock over plain HTTP"
  | .mode => "Which mocks to run"
  | .logLevel => "Log level (trace, debug, info, warn, error)"
  | .jsonLogs => "Output logs as JSON"
  | .help =>
    if long then "Print help (see a summary with '-h')" else "Print help (see more with '--help')"
  | .version => "Print version"

/-- The value of an option, as messages name it. -/
def valueUsage (o : Opt) : String :=
  match o.valueName? with
  | some value => " <" ++ value ++ ">"
  | none => ""

/-- An option with its value, as messages name it. -/
def usage (o : Opt) : String := "--" ++ o.name ++ o.valueUsage

/-- Whether an option only asks for information. -/
def isQuestion (o : Opt) : Bool := o == .help || o == .version

/-- Any of the options that say how to run, as messages name them. -/
def anyUsage : String :=
  "<" ++ "|".intercalate ((all.filter (!·.isQuestion)).map usage) ++ ">"

def ofName? (s : String) : Option Opt := all.find? (·.name == s)

def ofLetter? (c : Char) : Option Opt := all.find? (·.letter? == some c)

end Opt
end LoginRehearsal
