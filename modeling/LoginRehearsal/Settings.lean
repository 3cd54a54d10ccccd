import LoginRehearsal.Net.Address
import LoginRehearsal.OAuth1.Token
import LoginRehearsal.Text.Duration

/-!
# Settings

What a rehearsal server is told before it starts: where it listens, the credentials that it knows, and
how long it waits. Every setting has a default; some can be given by environment variables.

* `Settings.standard`: the defaults.
* `Settings.forTesting`: free ports, no certificate, short waits.
* `Settings.ofEnvironment`: the defaults, with the variables that are set put over them.
-/
namespace LoginRehearsal

/-- The login flows that a server can rehearse. -/
inductive Flow where
  | oauth1
  | oauth2
deriving DecidableEq, Repr

def Flow.name : Flow → String
  | .oauth1 => "OAuth1"
  | .oauth2 => "OAuth2"

structure Settings where
  bindAddress : IpAddress
  oauth1Port : Nat
  oauth2Port : Nat
  /-- Host and port that pages name instead of the bound ones. -/
  publicHost : Option String
  consumer : Credential
  requestToken : Credential
  accessToken : Credential
  /-- The nonce that counts as used already. -/
  nonce : String
  verifier : String
  callbackUrl : String
  realm : String
  /-- A file with certificate chain and private key. -/
  certificate : Option String
  signalTimeout : Duration
  timestampThreshold : Duration
deriving DecidableEq, Repr

/-- Why settings cannot be read. -/
inductive SettingsError where
  | address
  | number (fault : Numeral.Fault)
deriving DecidableEq, Repr

/-- The wording of an error. -/
def SettingsError.message : SettingsError → String
  | .address => "invalid IP address syntax"
  | .number fault => fault.message

/-- The environment: the variables that are set to a text. -/
abbrev Environment := String → Option String

namespace Settings

/-- The defaults. -/
def standard : Settings where
  bindAddress := .v4 ⟨127, 0, 0, 1⟩
  oauth1Port := 5121
  oauth2Port := 5120
  publicHost := none
  consumer := ⟨"C0nsum3rKey", "C0nsum3rS3cr3t"⟩
  requestToken := ⟨"requestkey", "requestsecret"⟩
  accessToken := ⟨"accesskey", "accesssecret"⟩
  nonce := "nonce"
  verifier := "verifier"
  callbackUrl := "http://localhost:5121/success.html"
  realm := "http://photos.example.net/"
  certificate := some "/etc/ssl/certs/uoa-test-server.pem"
  signalTimeout := .ofSeconds 30
  timestampThreshold := .ofSeconds 300

/-- Settings of a server that a test starts for itself. -/
def forTesting : Settings :=
  { standard with
    oauth1Port := 0
    oauth2Port := 0
    certificate := none
    signalTimeout := .ofSeconds 5 }

def port (s : Settings) : Flow → Nat
  | .oauth1 => s.oauth1Port
  | .oauth2 => s.oauth2Port

/-- Where the server of a flow is to listen. -/
def endpoint (s : Settings) (flow : Flow) : Endpoint := ⟨s.bindAddress, s.port flow⟩

def hasCertificate (s : Settings) : Bool := s.certificate.isSome

/-- Host and port that the pages of a server on the given port name. -/
def publicHostFor (s : Settings) (boundPort : Nat) : String :=
  s.publicHost.getD ("localhost:" ++ decimal boundPort)

/-! ## Environment variables -/

/-- The value of a variable in the reading of `read`, or the default if it is not set. -/
def readVariable {α : Type} (env : Environment) (name : String) (default : α)
    (read : String → Except SettingsError α) : Except SettingsError α :=
  match env name with
  | none => .ok default
  | some text => read text

def readAddress (text : String) : Except SettingsError IpAddress :=
  match IpAddress.ofText? text with
  | some address => .ok address
  | none => .error .address

def readNumber (greatest : Nat) (text : String) : Except SettingsError Nat :=
  (Numeral.readNat greatest text).mapError .number

/-- The certificate that a text names; the empty text names none. -/
def readCertificate (text : String) : Option String := if text.isEmpty then none else some text

/-- The defaults under an environment. -/
def ofEnvironment (env : Environment) : Except SettingsError Settings := do
  let bindAddress ← readVariable env "OAM_BIND_ADDR" standard.bindAddress readAddress
  let oauth1Port ← readVariable env "OAM_OAUTH1_PORT" standard.oauth1Port
    (readNumber Numeral.maxU16)
  let oauth2Port ← readVariable env "OAM_OAUTH2_PORT" standard.oauth2Port
    (readNumber Numeral.maxU16)
  let publicHost ← readVariable env "OAM_PUBLIC_HOST" standard.publicHost (.ok ∘ some)
  let certificate ← readVariable env "OAM_CERT_PATH" standard.certificate (.ok ∘ readCertificate)
  let signalTimeout ← readVariable env "OAM_SIGNAL_TIMEOUT_SECS" standard.signalTimeout
    fun text => (readNumber Numeral.maxU64 text).map .ofSeconds
  pure { standard with
    bindAddress, oauth1Port, oauth2Port, publicHost, certificate, signalTimeout }

end Settings
end LoginRehearsal
