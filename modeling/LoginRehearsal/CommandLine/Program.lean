import LoginRehearsal.CommandLine.EnvironmentFile
import LoginRehearsal.CommandLine.Parser
import LoginRehearsal.Server.Bench

/-!
# The program

From a command line to running servers and back: what is printed, and with which code the program ends. It
reads its options, reports that it starts, starts the servers of its mode one after another, and shuts them
down in the same order when it is interrupted. The first server that does not start ends it.

* `Plan.make`: the command line, read.
* `Plan.launch`: the servers, started.
* `Launch.transcript`: what a run prints, interruption included.
-/
namespace LoginRehearsal

/-- What a program prints and returns. -/
structure Transcript where
  exit : Nat
  stdout : List String
  stderr : List String
deriving DecidableEq, Repr

/-- What a command line asks for. -/
structure Plan where
  options : Options
  environment : Environment
  filter : LogFilter
  /-- Remarks on parts of the filter that cannot be read. -/
  remarks : List String

/-- Why a program that has read its options fails. -/
inductive Failure where
  | settings (error : SettingsError)
  | server (error : ServerError)

namespace Failure

/-- The message, in lines, with what is behind it. -/
def lines : Failure → List String
  | .settings e => textLines ("Error: " ++ e.message)
  | .server e =>
    textLines ("Error: " ++ e.message) ++ (match e.cause? with
      | some cause => ["", "Caused by:", "    " ++ cause]
      | none => [])

end Failure

/-- What the program prints instead of running. -/
def Halt.transcript (env : Environment) : Halt → Transcript
  | .help long => ⟨0, Help.lines env long, []⟩
  | .version => ⟨0, [Help.versionLine], []⟩
  | .usage e => ⟨2, [], e.lines⟩

namespace Plan

/-- The log filter, with remarks in lines: that of the environment if it can be read, else that of the
options. -/
def filterOf (opts : Options) (env : Environment) : LogFilter × List String :=
  match (env "RUST_LOG").bind LogFilter.ofText? with
  | some filter => (filter, [])
  | none =>
    let (filter, notes) := LogFilter.ofTextSkipping opts.logLevel
    (filter, notes.flatMap textLines)

/-- Reads a command line under the environment. -/
def make (args : List String) (env : Environment) : Except Halt Plan := do
  let options ← Options.parse args env
  let (filter, remarks) := filterOf options env
  pure ⟨options, env, filter, remarks⟩

def format (p : Plan) : LogFormat := if p.options.jsonLogs then .json else .compact

/-- The settings that the servers start with. -/
def settings (p : Plan) : Except Failure Settings :=
  (p.options.settings p.environment).mapError .settings

/-! ## Log records -/

def logTarget : String := "online_accounts_mock"

def startingRecord (p : Plan) : LogRecord :=
  ⟨.info, logTarget, "Starting online accounts mock",
    [⟨"version", "0.1.0", true⟩, ⟨"mode", p.options.mode.report, false⟩]⟩

/-- The records of a server that has started. -/
def startedRecords (portText : Nat → String) (s : Server) : List LogRecord :=
  [s.boundRecord portText, s.runningRecord portText,
    ⟨.info, logTarget, "Listening", [s.kindField, ⟨"url", s.baseUrl portText, false⟩]⟩]

def interruptedRecord : LogRecord := ⟨.info, logTarget, "Interrupted, shutting down", []⟩

end Plan

/-- The servers that were started, in order, and why no more were. -/
structure Launch where
  plan : Plan
  servers : List Server
  failure : Option Failure

/-- Where the socket of a flow comes from, given where it is wanted. -/
abbrev SocketSource := Bench → Flow → Endpoint → Except SystemFault Endpoint

/-- Sockets of the bench itself. -/
def SocketSource.ofBench : SocketSource := fun b _ wanted => b.claim wanted

namespace Plan

/-- Starts a server for each flow in turn, up to the first that does not start. -/
def startServers (settings : Settings) (sockets : SocketSource) (files : Files) (b : Bench) :
    List Flow → List Server × Option Failure × Bench
  | [] => ([], none, b)
  | flow :: rest =>
    match b.bindTo flow.name flow settings (sockets b flow (settings.endpoint flow)) files with
    | (.error e, b) => ([], some (.server e), b)
    | (.ok s, b) =>
      let (servers, failure, b) :=
        startServers settings sockets files (b.update flow.name s.run) rest
      (s.run :: servers, failure, b)

/-- Starts the servers of a plan on a bench. -/
def launch (p : Plan) (sockets : SocketSource) (files : Files) (b : Bench) : Launch × Bench :=
  match p.settings with
  | .error failure => (⟨p, [], some failure⟩, b)
  | .ok settings =>
    let (servers, failure, b) := startServers settings sockets files b p.options.mode.flows
    (⟨p, servers, failure⟩, b)

end Plan

namespace Launch

/-- The records up to the last server that started. -/
def openingRecords (l : Launch) (portText : Nat → String) : List LogRecord :=
  l.plan.startingRecord :: l.servers.flatMap (Plan.startedRecords portText)

/-- The records of an interrupted run. -/
def closingRecords (l : Launch) : List LogRecord :=
  Plan.interruptedRecord :: l.servers.map Server.shutDownRecord

/-- What a run prints: up to its failure, or up to its interruption. `served` are the records of the
requests in between. -/
def transcript (l : Launch) (portText : Nat → String) (served : List LogRecord) : Transcript :=
  let lines (rs : List LogRecord) : List String := LogRecord.lines l.plan.filter l.plan.format rs
  match l.failure with
  | some failure => ⟨1, lines (l.openingRecords portText), l.plan.remarks ++ failure.lines⟩
  | none =>
    ⟨0, lines (l.openingRecords portText ++ served ++ l.closingRecords), l.plan.remarks⟩

end Launch
end LoginRehearsal
