import LoginRehearsal.Web.UrlReader

/-!
# Credentials and tokens

A client and a token are each known by a key and a shared secret (RFC 5849 §1.1). A token also remembers
how its handshake goes on: where the user is sent afterwards, the verifier that proves the authorization,
and the user who gave it.

* `Token.callbackUrl`: the address that the user is sent to, with the verifier among its parameters.
* `Token.formText`: the token as the form that answers a token request.
-/
namespace LoginRehearsal

/-- A key and the secret shared with its holder. -/
structure Credential where
  key : String
  secret : String
deriving DecidableEq, Repr

/-- Request tokens stand for a handshake under way, access tokens for a completed one. -/
inductive TokenKind where
  | request
  | access
deriving DecidableEq, Repr

def TokenKind.name : TokenKind → String
  | .request => "request"
  | .access => "access"

/-- A token and what its handshake has recorded. -/
structure Token where
  key : String
  secret : String
  callback : Option String
  callbackConfirmed : Bool
  verifier : Option String
  username : Option String
deriving DecidableEq, Repr

namespace Token

/-- A token at the beginning of its handshake. -/
def ofCredential (c : Credential) : Token := ⟨c.key, c.secret, none, false, none, none⟩

/-- Records and confirms a callback. -/
def withCallback (t : Token) (callback : String) : Token :=
  { t with callback := some callback, callbackConfirmed := true }

def withVerifier (t : Token) (verifier : String) : Token := { t with verifier := some verifier }

def withUsername (t : Token) (username : String) : Token := { t with username := some username }

/-- A callback with the verifier as its last parameter. A callback that is no URL takes it as text. -/
def callbackWith (callback verifier : String) : String :=
  match Url.parse callback with
  | .ok url => (url.addParameter "oauth_verifier" verifier).text
  | .error _ =>
    callback ++ (if callback.toList.contains '?' then "&" else "?") ++ "oauth_verifier=" ++ verifier

/-- Where the user is sent after the login, if the token has a callback. -/
def callbackUrl (t : Token) : Option String :=
  t.callback.map fun callback =>
    match t.verifier with
    | none => callback
    | some verifier => callbackWith callback verifier

/-- The fields of the answer to a token request. -/
def formFields (t : Token) : List (String × String) :=
  [("oauth_token", t.key), ("oauth_token_secret", t.secret)] ++
    (if t.callbackConfirmed then [("oauth_callback_confirmed", "true")] else [])

def formText (t : Token) : String := Form.render t.formFields

end Token
end LoginRehearsal
