import LoginRehearsal.Server.Basic

/-!
# Benches

Servers side by side on one machine, each under a name. The bench hands out ports and knows which are
held, so that two servers never share one.

* `Bench.claim`: a socket for a server.
* `Bench.bind`, `Bench.update`, `Bench.remove`: servers come, change and go.
* `Bench.exchange`: a request to a server, over a network that may not reach it.
-/
namespace LoginRehearsal

structure Bench where
  servers : Keyed String Server
  /-- The ports that servers of a name were given last, whether they still run or not. -/
  ports : Keyed String Nat
  /-- The next port that nobody has asked for. -/
  nextPort : Nat
  /-- The endpoints that other programs listen on. -/
  foreign : List Endpoint
  /-- Whether clients reach the machine. -/
  reachable : Bool

/-- Why a client gets no answer. -/
inductive ExchangeFault where
  | connectionRefused
  | noResponse
deriving DecidableEq, Repr

namespace IpAddress

/-- The unspecified address of either family, which stands for all of a machine. -/
def isUnspecified : IpAddress → Bool
  | .v4 ip => ip == ⟨0, 0, 0, 0⟩
  | .v6 ip => ip.groups.all (· == 0)

end IpAddress

/-- Whether two endpoints cannot both be listened on: equal ports on equal addresses, an unspecified
address standing for all. -/
def Endpoint.conflicts (a b : Endpoint) : Bool :=
  a.port == b.port &&
    (a.address == b.address || a.address.isUnspecified || b.address.isUnspecified)

namespace Bench

/-- A bench without servers. -/
def empty (foreign : List Endpoint) (reachable : Bool) : Bench := ⟨[], [], 49152, foreign, reachable⟩

/-- The endpoints that are listened on. -/
def held (b : Bench) : List Endpoint :=
  b.foreign ++ (b.servers.filter (·.2.isListening)).map (·.2.endpoint)

/-- A port that nobody listens on: the next one, or one of those behind it. -/
def freePort (b : Bench) : Nat :=
  let candidates := (List.range (b.held.length + 1)).map (b.nextPort + ·)
  (candidates.find? fun port => !b.held.any (·.port == port)).getD b.nextPort

/-- Claims an endpoint; port zero asks for a free one. The machine of a bench answers to every address. -/
def claim (b : Bench) (wanted : Endpoint) : Except SystemFault Endpoint :=
  if wanted.port = 0 then .ok { wanted with port := b.freePort }
  else if b.held.any wanted.conflicts then .error .addressInUse
  else .ok wanted

/-- The settings for a server of a flow that is to listen on a port. -/
def withPort (settings : Settings) (flow : Flow) (port : Nat) : Settings :=
  match flow with
  | .oauth1 => { settings with oauth1Port := port }
  | .oauth2 => { settings with oauth2Port := port }

/-- Writes a server under its name. -/
def update (b : Bench) (name : String) (s : Server) : Bench :=
  { b with servers := Keyed.insert b.servers name s }

/-- Binds a server under a name to a claimed socket. A server that cannot be bound leaves the bench as it
was. -/
def bindTo (b : Bench) (name : String) (flow : Flow) (settings : Settings)
    (claimed : Except SystemFault Endpoint) (files : Files) : Except ServerError Server × Bench :=
  match Server.bind flow settings claimed files with
  | .error e => (.error e, b)
  | .ok s =>
    (.ok s, { b.update name s with
      ports := Keyed.insert b.ports name s.endpoint.port
      nextPort := b.nextPort + 1 })

/-- Binds a server under a name to a socket of the bench. -/
def bind (b : Bench) (name : String) (flow : Flow) (settings : Settings) (files : Files) :
    Except ServerError Server × Bench :=
  b.bindTo name flow settings (b.claim (settings.endpoint flow)) files

def server? (b : Bench) (name : String) : Option Server := Keyed.get? b.servers name

def remove (b : Bench) (name : String) : Bench :=
  { b with servers := b.servers.filter (·.1 != name) }

/-- Sends a request to a server. Plain text sent to a server that expects encryption gets no answer. -/
def exchange (b : Bench) (name : String) (now : Nat) (plain : Bool) (r : Http.Request) :
    Except ExchangeFault Http.Response × Bench :=
  match b.server? name with
  | none => (.error .connectionRefused, b)
  | some s =>
    if !b.reachable || s.stage != .running then (.error .connectionRefused, b)
    else if plain && s.encrypted then (.error .noResponse, b)
    else
      let (answer, s) := s.serve now r
      (.ok answer, b.update name s)

end Bench
end LoginRehearsal
