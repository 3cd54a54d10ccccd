import LoginRehearsal.OAuth1.Request
import LoginRehearsal.OAuth1.Store

/-!
# The provider

The decisions of the handshake over the token store. Each check names its own refusal, and the first one
that fails decides. The time is an argument: whole seconds since the epoch.

* `Provider.requestToken`: the first leg. A request that names the stored request token gets it without a
  signature.
* `Provider.authorizeToken`: the user's consent.
* `Provider.accessToken`: the last leg.
-/
namespace LoginRehearsal

/-- The store, and how far the timestamp of a request may be off. -/
structure Provider where
  store : Store
  timestampThreshold : Duration
deriving DecidableEq, Repr

namespace Provider

def ofSettings (s : Settings) : Provider := ⟨.ofSettings s, s.timestampThreshold⟩

def withStore (p : Provider) (store : Store) : Provider := { p with store }

/-! ## Checks -/

/-- The version is 1.0 where it is given. -/
def checkVersion (r : OAuthRequest) : Except Refusal Unit :=
  match r.get? "oauth_version" with
  | none => .ok ()
  | some version => if version = "1.0" then .ok () else .error (.unsupportedVersion version)

/-- The client that a request names. -/
def identify (p : Provider) (r : OAuthRequest) : Except Refusal Credential := do
  let key ← r.require "oauth_consumer_key"
  match p.store.consumer? key with
  | some consumer => .ok consumer
  | none => .error .unknownConsumer

/-- The token that a request names, with the store after the look-up. -/
def findToken (p : Provider) (r : OAuthRequest) (kind : TokenKind) :
    Except Refusal (Token × Store) := do
  let key ← r.require "oauth_token"
  match p.store.lookup? kind key with
  | some found => .ok found
  | none => .error (.unknownToken kind key)

/-- The distance of two times. -/
def distance (a b : Nat) : Nat := (a - b) + (b - a)

/-- A timestamp is a number that is not too far from the present time. -/
def checkTimestamp (p : Provider) (now : Nat) (text : String) : Except Refusal Unit :=
  match Numeral.readNat Numeral.maxU64 text with
  | .error _ => .error (.invalidTimestamp text)
  | .ok given =>
    if distance now given ≤ p.timestampThreshold.seconds then .ok ()
    else .error (.expiredTimestamp given now p.timestampThreshold)

/-- Method, timestamp and nonce are in order, and the signature is that of the request. -/
def checkSignature (p : Provider) (now : Nat) (r : OAuthRequest) (consumer : Credential)
    (token : Option Token) : Except Refusal Unit := do
  let method ← SignatureMethod.ofName (← r.require "oauth_signature_method")
  p.checkTimestamp now (← r.require "oauth_timestamp")
  let nonce ← r.require "oauth_nonce"
  if p.store.knowsNonce consumer token nonce then .error (.nonceReused nonce)
  else do
    let signature ← r.require "oauth_signature"
    if Signature.verify method (r.signingInput consumer token) signature then .ok ()
    else .error .invalidSignature

/-! ## The first leg -/

/-- The client of a signed request for a request token. -/
def signedClient (p : Provider) (now : Nat) (r : OAuthRequest) : Except Refusal Credential := do
  checkVersion r
  let consumer ← p.identify r
  p.checkSignature now r consumer none
  pure consumer

/-- The stored request token, if the request names it. -/
def namedRequestToken? (p : Provider) (r : OAuthRequest) : Option (Token × Store) :=
  (r.get? "oauth_token").bind (p.store.lookup? .request)

/-- Answers a request for a request token. -/
def requestToken (p : Provider) (now : Nat) (r : OAuthRequest) : Except Refusal Token × Provider :=
  match p.namedRequestToken? r with
  | some (token, store) => (.ok token, p.withStore store)
  | none =>
    match p.signedClient now r with
    | .error refusal => (.error refusal, p)
    | .ok consumer =>
      match p.store.issue? consumer (r.get? "oauth_callback") with
      | some (token, store) => (.ok token, p.withStore store)
      | none => (.error .unknownConsumer, p)

/-! ## The user's consent -/

/-- Notes that a user authorized a token. -/
def authorizeToken (p : Provider) (token : Token) (user : String) :
    Except Refusal Token × Provider :=
  match p.store.authorize? token user with
  | some (token, store) => (.ok token, p.withStore store)
  | none => (.error (.unknownToken .request token.key), p)

/-- Notes the verifier on a token. -/
def attachVerifier (p : Provider) (kind : TokenKind) : Token × Provider :=
  let (token, store) := p.store.attachVerifier kind
  (token, p.withStore store)

/-! ## The last leg -/

/-- The client and the verifier of a request for an access token. -/
def bearer (p : Provider) (r : OAuthRequest) : Except Refusal (Credential × String) := do
  checkVersion r
  let consumer ← p.identify r
  let verifier ← r.require "oauth_verifier"
  pure (consumer, verifier)

/-- Answers a request for an access token. The look-up of the request token leaves its trace in the store
even where a later check fails. -/
def accessToken (p : Provider) (now : Nat) (r : OAuthRequest) : Except Refusal Token × Provider :=
  match p.bearer r with
  | .error refusal => (.error refusal, p)
  | .ok (consumer, verifier) =>
    match p.findToken r .request with
    | .error refusal => (.error refusal, p)
    | .ok (token, store) =>
      let found := p.withStore store
      match found.checkSignature now r consumer (some token) with
      | .error refusal => (.error refusal, found)
      | .ok () =>
        match store.exchange? consumer token verifier with
        | some access => (.ok access, found)
        | none => (.error .invalidVerifier, found)

end Provider
end LoginRehearsal
