import LoginRehearsal.Certificate.File
import LoginRehearsal.Log.Record
import LoginRehearsal.OAuth1.Site
import LoginRehearsal.OAuth2.Site

/-!
# Servers

A server rehearses one flow on one socket. It is bound first, which claims the socket and reads the
certificate, and run then; a running server can be cancelled, and is shut down in the end. It is never
started a second time.

* `Server.bind`, `Server.run`, `Server.cancel`: the stages.
* `Server.serve`: a request and its answer.
* `Server.report`: the server in a report.
-/
namespace LoginRehearsal

/-- The site that a server serves. -/
inductive Site where
  | oauth1 (site : OAuth1Site)
  | oauth2 (site : OAuth2Site)

namespace Site

def flow : Site → Flow
  | .oauth1 _ => .oauth1
  | .oauth2 _ => .oauth2

def signals : Site → LoginSignals
  | .oauth1 site => site.signals
  | .oauth2 site => site.signals

def withSignals (s : Site) (signals : LoginSignals) : Site :=
  match s with
  | .oauth1 site => .oauth1 { site with signals }
  | .oauth2 site => .oauth2 { site with signals }

/-- Answers a request. -/
def serve (s : Site) (now : Nat) (r : Http.Request) : Http.Response × Site :=
  match s with
  | .oauth1 site =>
    let (answer, site) := site.serve now r
    (answer, .oauth1 site)
  | .oauth2 site =>
    let (answer, site) := site.serve r
    (answer, .oauth2 site)

/-- The site of a flow on a bound port. -/
def ofSettings (flow : Flow) (s : Settings) (boundPort : Nat) : Site :=
  let signals := LoginSignals.withTimeout s.signalTimeout
  match flow with
  | .oauth1 => .oauth1 (.ofSettings s signals boundPort)
  | .oauth2 => .oauth2 (.ofSettings s signals boundPort)

end Site

/-- How far a server has come. -/
inductive Stage where
  | bound
  | running
  | cancelled
deriving DecidableEq, Repr

structure Server where
  site : Site
  endpoint : Endpoint
  /-- Whether connections are encrypted. -/
  encrypted : Bool
  stage : Stage

namespace Server

def flow (s : Server) : Flow := s.site.flow

def signals (s : Server) : LoginSignals := s.site.signals

def scheme (s : Server) : String := if s.encrypted then "https" else "http"

/-- The address of the server, with its port spelled by `portText`. -/
def baseUrl (s : Server) (portText : Nat → String) : String :=
  s.scheme ++ "://" ++ s.endpoint.textWith portText

/-- Whether the server needs its certificate: the flow of OAuth 1.0a never does. -/
def certificate? (flow : Flow) (settings : Settings) : Option String :=
  match flow with
  | .oauth1 => none
  | .oauth2 => settings.certificate

/-- Binds a server. The socket is claimed before the certificate is read. -/
def bind (flow : Flow) (settings : Settings) (claimed : Except SystemFault Endpoint)
    (files : Files) : Except ServerError Server := do
  let endpoint ← claimed.mapError .system
  let site := Site.ofSettings flow settings endpoint.port
  match certificate? flow settings with
  | none => pure ⟨site, endpoint, false, .bound⟩
  | some path => do
    CertificateFile.check files path
    pure ⟨site, endpoint, true, .bound⟩

def run (s : Server) : Server := { s with stage := .running }

/-- Tells a running server to stop. -/
def cancel (s : Server) : Server := { s with stage := .cancelled }

def isCancelled (s : Server) : Bool := s.stage == .cancelled

/-- Whether the server holds its socket. -/
def isListening (s : Server) : Bool := s.stage != .cancelled

/-- Answers a request. -/
def serve (s : Server) (now : Nat) (r : Http.Request) : Http.Response × Server :=
  let (answer, site) := s.site.serve now r
  (answer, { s with site })

def resetSignals (s : Server) : Server :=
  { s with site := s.site.withSignals s.signals.reset }

/-- The server in a report. -/
def report (s : Server) (portText : Nat → String) : String :=
  let shared := " \x7b kind: " ++ s.flow.name ++ ", local_addr: " ++ s.endpoint.textWith portText
  match s.stage with
  | .bound => "MockServer" ++ shared ++ ", .. \x7d"
  | .running => "RunningServer" ++ shared ++ ", cancelled: false, .. \x7d"
  | .cancelled => "RunningServer" ++ shared ++ ", cancelled: true, .. \x7d"

/-! ## Log records -/

def logTarget : String := "online_accounts_mock::server"

def kindField (s : Server) : LogField := ⟨"kind", s.flow.name, false⟩

def boundRecord (s : Server) (portText : Nat → String) : LogRecord :=
  ⟨.info, logTarget, "Mock server bound",
    [s.kindField, ⟨"addr", s.endpoint.textWith portText, false⟩, ⟨"scheme", s.scheme, true⟩]⟩

def runningRecord (s : Server) (portText : Nat → String) : LogRecord :=
  ⟨.info, logTarget, "Mock server running on " ++ s.baseUrl portText, [s.kindField]⟩

def shutDownRecord (s : Server) : LogRecord :=
  ⟨.info, logTarget, "Mock server shut down", [s.kindField]⟩

end Server

/-! ## Other reports -/

/-- A token store in a report. -/
def Store.report (s : Store) : String :=
  "TokenStore \x7b consumer: " ++ quote s.consumer.key ++ ", .. \x7d"

/-- An OAuth 1.0a site in a report. -/
def OAuth1Site.report (s : OAuth1Site) : String :=
  "OAuth1State \x7b public_host: " ++ quote s.publicHost ++ ", .. \x7d"

/-- An encrypted listener in a report. -/
def listenerReport (e : Endpoint) (portText : Nat → String) : String :=
  "TlsListener \x7b local_addr: Some(" ++ e.textWith portText ++ ") \x7d"

end LoginRehearsal
