import LoginRehearsal.CommandLine.EnvironmentFile
import LoginRehearsal.CommandLine.Program
import LoginRehearsal.Http.Wire
import LoginRehearsal.Server.Notice
import Std.Async.Signal
import Std.Async.TCP
import Std.Time

/-!
# The command line program

Sockets, files, variables, the clock and the interrupt around `Plan` and `Bench`, which decide everything.
Each connection carries one request. Nothing is encrypted here: a server with a certificate closes its
connections unanswered.

* `Plan.run`: the servers of a plan, from their start to the interrupt.
* `main`: the command line.
-/
namespace LoginRehearsal

open Std.Async

/-- Where log lines and remarks go. -/
structure Report where
  filter : LogFilter
  format : LogFormat

/-- The time in a log line. -/
def logTime : IO String := do
  let now ← Std.Time.Timestamp.now
  let time := Std.Time.DateTime.ofTimestampWithZone now .UTC
  pure (time.format "uuuu-MM-dd'T'HH:mm:ss.SSSSSS" ++ "Z")

def Report.write (report : Report) (records : List LogRecord) : IO Unit := do
  let time ← logTime
  for r in records.filter (LogRecord.passes report.filter) do
    IO.println (r.stampedLine report.format time)
  (← IO.getStdout).flush

/-! ## Variables and files -/

/-- The paths of environment files: in the working directory, then in those above it. -/
def environmentFilePaths : IO (List String) := do
  let directory := (← IO.currentDir).toString
  let parts := directory.splitOn "/"
  pure ((List.range parts.length).map fun up =>
    "/".intercalate (parts.take (parts.length - up) ++ [".env"]))

/-- The content of the first environment file there is. -/
def environmentFile : IO String := do
  for path in ← environmentFilePaths do
    try
      return EnvironmentFile.textOf (← IO.FS.readBinFile path).toList
    catch _ => pure ()
  pure ""

/-- The variables that the program looks up. -/
def variableNames : List String :=
  Opt.all.filterMap Opt.standIn? ++ ["OAM_BIND_ADDR", "OAM_PUBLIC_HOST", "OAM_SIGNAL_TIMEOUT_SECS"]

/-- The variables, those of the environment file included. -/
def readVariables : IO Variables := do
  let file ← environmentFile
  let mut found : Variables := []
  for name in variableNames ++ EnvironmentFile.mentioned file do
    if let some value ← IO.getEnv name then
      found := found ++ [(name, value)]
  pure (EnvironmentFile.load found file)

/-- The number of an error, which some libraries report below zero. -/
def errorNumber (code : UInt32) : Nat := min code.toNat (4294967296 - code.toNat)

/-- The fault behind an error of the machine. -/
def SystemFault.ofError : IO.Error → SystemFault
  | .noFileOrDirectory .. => .notFound
  | .permissionDenied .. => .permissionDenied
  | .inappropriateType _ code _ =>
    if errorNumber code = 20 then .notDirectory else .isDirectory
  | .invalidArgument (some _) code _ =>
    if errorNumber code = 36 then .nameTooLong else .nulInName
  | .resourceBusy .. => .addressInUse
  | .unsupportedOperation .. => .addressUnavailable
  | e => .badContent (toString e)

/-- The file at a path, if there is a path. -/
def readFiles (path : Option String) : IO Files :=
  match path with
  | none => pure fun _ => .error .notFound
  | some path => do
    let content ← try
        pure (.ok (← IO.FS.readBinFile path).toList)
      catch e => pure (.error (SystemFault.ofError e))
    pure fun _ => content

/-! ## Sockets -/

/-- An endpoint for the network. -/
def Endpoint.socketAddress (e : Endpoint) : Std.Net.SocketAddress :=
  match e.address with
  | .v4 ip => .v4 ⟨.ofParts ip.a.toUInt8 ip.b.toUInt8 ip.c.toUInt8 ip.d.toUInt8, e.port.toUInt16⟩
  | .v6 ip =>
    let group (i : Nat) : UInt16 := (ip.groups.getD i 0).toUInt16
    .v6 ⟨.ofParts (group 0) (group 1) (group 2) (group 3) (group 4) (group 5) (group 6) (group 7),
      e.port.toUInt16⟩

/-- A socket that listens, with its endpoint. -/
structure Listener where
  flow : Flow
  socket : TCP.Socket.Server
  endpoint : Endpoint

/-- Listens on an endpoint. -/
def listen (flow : Flow) (wanted : Endpoint) : IO (Except SystemFault Listener) := do
  try
    let socket ← TCP.Socket.Server.mk
    socket.bind wanted.socketAddress
    socket.listen 1024
    let bound ← socket.getSockName
    pure (.ok ⟨flow, socket, { wanted with port := bound.port.toNat }⟩)
  catch e => pure (.error (.ofError e))

/-- Listens for the flows in turn, up to the first that gets no socket. -/
def listenAll (settings : Settings) : List Flow → IO (List (Flow × Except SystemFault Listener))
  | [] => pure []
  | flow :: rest => do
    match ← listen flow (settings.endpoint flow) with
    | .error fault => pure [(flow, .error fault)]
    | .ok listener => pure ((flow, .ok listener) :: (← listenAll settings rest))

/-- The endpoints of the sockets that were claimed. -/
def socketSource (claimed : List (Flow × Except SystemFault Listener)) : SocketSource :=
  fun _ flow _ =>
    match claimed.find? (·.1 == flow) with
    | some (_, .ok listener) => .ok listener.endpoint
    | some (_, .error fault) => .error fault
    | none => .error .addressUnavailable

/-! ## Connections -/

/-- Reads the request of a connection. -/
partial def readRequest (client : TCP.Socket.Client) (sofar : Bytes) : Async Http.Reading := do
  match Http.Reading.ofBytes sofar with
  | .unfinished =>
    match ← client.recv? 65536 with
    | none => pure .malformed
    | some bytes => readRequest client (sofar ++ bytes.toList)
  | reading => pure reading

/-- Answers a request, unless the server gives no answer. -/
def answer (report : Report) (bench : IO.Ref Bench) (flow : Flow) (request : Http.Request) :
    IO (Option Http.Response) := do
  let now := (← Std.Time.Timestamp.now).toSecondsSinceUnixEpoch.val.toNat
  let (before, reply) ← bench.modifyGet fun b =>
    let (reply, after) := b.exchange flow.name now true request
    ((b, reply), after)
  match reply, before.server? flow.name with
  | .ok response, some server =>
    report.write (server.site.notices now request)
    pure (some response)
  | _, _ => pure none

/-- Serves a connection. -/
def converse (report : Report) (bench : IO.Ref Bench) (flow : Flow) (client : TCP.Socket.Client) :
    Async Unit := do
  try
    if ((← bench.get).server? flow.name).any (!·.encrypted) then
      let response ← match ← readRequest client [] with
        | .finished request => answer report bench flow request
        | _ => pure (some Http.Response.badRequest)
      if let some response := response then
        client.send ⟨response.wire.toArray⟩
    client.shutdown
  catch _ => pure ()

/-- Serves the connections of a socket for ever. -/
partial def serve (report : Report) (bench : IO.Ref Bench) (listener : Listener) : Async Unit := do
  let client ← listener.socket.accept
  background (converse report bench listener.flow client)
  serve report bench listener

/-! ## The run -/

/-- Waits for the interrupt. -/
def awaitInterrupt : IO Unit := do
  let waiter ← Signal.Waiter.mk .sigint false
  discard (← waiter.wait).block

def writeErrors (lines : List String) : IO Unit := do
  for line in lines do
    IO.eprintln line

/-- Runs the servers of a plan up to the interrupt. -/
def Plan.run (plan : Plan) : IO UInt32 := do
  let report : Report := ⟨plan.filter, plan.format⟩
  writeErrors plan.remarks
  let settings := plan.settings.toOption
  let claimed ← match settings with
    | some settings => listenAll settings plan.options.mode.flows
    | none => pure []
  let files ← readFiles (settings.bind (·.certificate))
  let (launch, bench) := plan.launch (socketSource claimed) files (Bench.empty [] true)
  report.write (launch.openingRecords decimal)
  match launch.failure with
  | some failure =>
    writeErrors failure.lines
    pure 1
  | none =>
    let bench ← IO.mkRef bench
    for (_, claim) in claimed do
      if let .ok listener := claim then
        discard (serve report bench listener).toIO
    awaitInterrupt
    report.write launch.closingRecords
    pure 0

end LoginRehearsal

open LoginRehearsal

/-- Reads the command line and does what it asks for. -/
def main (args : List String) : IO UInt32 := do
  let environment := (← readVariables).environment
  match Plan.make args environment with
  | .ok plan => plan.run
  | .error halt =>
    let transcript := halt.transcript environment
    for line in transcript.stdout do
      IO.println line
    writeErrors transcript.stderr
    pure transcript.exit.toUInt32
