import LoginRehearsal.Settings

/-!
# The token store

The one client, the one request token and the one access token that a rehearsal provider knows. A look-up
confirms the configured callback on the token that it finds; an issue takes the callback of the request;
an authorization notes the user on the access token.

* `Store.lookup?`, `Store.issue?`, `Store.authorize?`: a token with the store after it, or nothing, which
  leaves the store as it was.
* `Store.exchange?`: the access token for a request token and its verifier.
-/
namespace LoginRehearsal

/-- What a provider knows. -/
structure Store where
  consumer : Credential
  nonce : String
  verifier : String
  callbackUrl : String
  request : Token
  access : Token
deriving DecidableEq, Repr

namespace Store

/-- The store at the beginning. -/
def ofSettings (s : Settings) : Store :=
  ⟨s.consumer, s.nonce, s.verifier, s.callbackUrl, .ofCredential s.requestToken,
    .ofCredential s.accessToken⟩

/-- The stored token of a kind. -/
def token (s : Store) : TokenKind → Token
  | .request => s.request
  | .access => s.access

/-- The store with another token of a kind. -/
def withToken (s : Store) (kind : TokenKind) (t : Token) : Store :=
  match kind with
  | .request => { s with request := t }
  | .access => { s with access := t }

/-- The client of a key. -/
def consumer? (s : Store) (key : String) : Option Credential :=
  if s.consumer.key = key then some s.consumer else none

/-- The token of a kind and key, with the configured callback confirmed on it. -/
def lookup? (s : Store) (kind : TokenKind) (key : String) : Option (Token × Store) :=
  if (s.token kind).key = key then
    let t := (s.token kind).withCallback s.callbackUrl
    some (t, s.withToken kind t)
  else none

/-- Whether a nonce has been used with a token before. Without a token none has. -/
def knowsNonce (s : Store) (consumer : Credential) (token : Option Token) (nonce : String) : Bool :=
  match token with
  | none => false
  | some t =>
    consumer.key == s.consumer.key && (t.key == s.request.key || t.key == s.access.key) &&
      nonce == s.nonce

/-- The request token for a client, with a callback if the client named one. -/
def issue? (s : Store) (consumer : Credential) (callback : Option String) : Option (Token × Store) :=
  if consumer.key = s.consumer.key then
    let t := match callback with
      | some callback => s.request.withCallback callback
      | none => s.request
    some (t, { s with request := t })
  else none

/-- The access token in exchange for the request token and its verifier. -/
def exchange? (s : Store) (consumer : Credential) (token : Token) (verifier : String) : Option Token :=
  if consumer.key = s.consumer.key ∧ token.key = s.request.key ∧ verifier = s.verifier then
    some s.access
  else none

/-- Notes the user who authorized the request token, and gives that token. -/
def authorize? (s : Store) (token : Token) (user : String) : Option (Token × Store) :=
  if token.key = s.request.key then
    some (s.request, { s with access := s.access.withUsername user })
  else none

/-- Notes the verifier on a token, and gives that token. -/
def attachVerifier (s : Store) (kind : TokenKind) : Token × Store :=
  let t := (s.token kind).withVerifier s.verifier
  (t, s.withToken kind t)

end Store
end LoginRehearsal
