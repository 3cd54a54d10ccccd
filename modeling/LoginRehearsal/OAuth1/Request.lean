import LoginRehearsal.OAuth1.Signature
import LoginRehearsal.Text.Blank

/-!
# Requests of the handshake

A request collects its parameters from the `Authorization` header, the query of its URL and a form in its
body, in this order (RFC 5849 §3.4.1.3). The client's side writes them back: names that begin with
`oauth_` into the header, the others into the form.

* `OAuthRequest.ofParts`: a received request.
* `OAuthRequest.signed`: a request to send.
* `OAuthRequest.authorizationHeader`, `OAuthRequest.nonOAuthForm`: the two halves of its parameters.
-/
namespace LoginRehearsal

/-- A request with all its parameters. -/
structure OAuthRequest where
  httpMethod : String
  url : Url
  params : Parameters
deriving DecidableEq, Repr

/-! ## The header -/

namespace Authorization

/-- The parameter list behind the scheme, if the scheme is OAuth in any letter case. -/
def listOf? (header : String) : Option (List Char) :=
  match header.toList.dropWhile isBlank with
  | a :: b :: c :: d :: e :: rest =>
    if [a, b, c, d, e].map Char.toLower = ['o', 'a', 'u', 't', 'h'] then some rest else none
  | _ => none

/-- The text that an escaped name or value stands for. -/
def decode (cs : List Char) : Except Refusal String :=
  match Percent.decode? cs with
  | .ok s => .ok s
  | .error e => .error (.malformed e.message)

/-- The parameter of one item, or none for a realm. Blanks around name and value and quotes around the
value do not belong to them. -/
def readItem (item : List Char) : Except Refusal (Option (String × String)) :=
  match splitFirst? (· == '=') item with
  | none => .error (.malformed ("bad parameter " ++ String.ofList item))
  | some (name, value) =>
    let name := trimBlank name
    if name.map Char.toLower = ['r', 'e', 'a', 'l', 'm'] then .ok none
    else do
      let name ← decode name
      let value ← decode (trimBoth (· == '"') (trimBlank value))
      pure (some (name, value))

/-- Reads items one after another; `found` holds the parameters so far in reverse. -/
def readItems (found : Parameters) : List (List Char) → Except Refusal Parameters
  | [] => .ok found.reverse
  | item :: items =>
    match readItem item with
    | .error e => .error e
    | .ok none => readItems found items
    | .ok (some p) => readItems (p :: found) items

/-- The items between commas that are not blank, trimmed. -/
def items (list : List Char) : List (List Char) :=
  ((splitOn (· == ',') list).map trimBlank).filter (!·.isEmpty)

/-- The parameters in a header. A header of another scheme has none. -/
def parameters (header : String) : Except Refusal Parameters :=
  match listOf? header with
  | none => .ok []
  | some list => readItems [] (items list)

/-- One parameter in the header's form. -/
def renderItem (p : String × String) : String :=
  Percent.encode p.1 ++ "=\"" ++ Percent.encode p.2 ++ "\""

/-- A header with a realm, if one is given, and parameters. -/
def render (realm : Option String) (params : Parameters) : String :=
  let realmItem := match realm with
    | some realm => ["realm=\"" ++ realm ++ "\""]
    | none => []
  "OAuth " ++ ", ".intercalate (realmItem ++ params.map renderItem)

end Authorization

namespace OAuthRequest

/-! ## Received requests -/

/-- The request that was sent as method, URL, header and body. -/
def ofParts (httpMethod : String) (url : Url) (authorization body : Option String) :
    Except Refusal OAuthRequest := do
  let fromHeader ← match authorization with
    | some header => Authorization.parameters header
    | none => pure []
  pure ⟨httpMethod.toUpper, url, fromHeader ++ url.parameters ++ Form.readText (body.getD "")⟩

/-- The first value of a parameter. -/
def get? (r : OAuthRequest) (name : String) : Option String :=
  (r.params.find? (·.1 == name)).map (·.2)

/-- The first value of a parameter that has to be there. -/
def require (r : OAuthRequest) (name : String) : Except Refusal String :=
  match r.get? name with
  | some value => .ok value
  | none => .error (.missingParameter name)

/-- What a signature of the request depends on. -/
def signingInput (r : OAuthRequest) (consumer : Credential) (token : Option Token) : SigningInput :=
  ⟨r.httpMethod, r.url, r.params, consumer.secret, token.map (·.secret)⟩

/-! ## Sent requests -/

/-- The parameters that a client sends, without the signature. -/
def protocolParameters (consumer : Credential) (token : Option Token) (method : SignatureMethod)
    (nonce : String) (now : Nat) : Parameters :=
  [("oauth_consumer_key", consumer.key), ("oauth_signature_method", method.name),
    ("oauth_timestamp", decimal now), ("oauth_nonce", nonce), ("oauth_version", "1.0")] ++
    (match token with
      | some token => [("oauth_token", token.key)]
      | none => [])

/-- A request of a client, signed at the time `now`. -/
def signed (httpMethod : String) (url : Url) (consumer : Credential) (token : Option Token)
    (method : SignatureMethod) (nonce : String) (extra : Parameters) (now : Nat) : OAuthRequest :=
  let plain : OAuthRequest :=
    ⟨httpMethod.toUpper, url, protocolParameters consumer token method nonce now ++ extra⟩
  let signature := Signature.sign method (plain.signingInput consumer token)
  { plain with params := plain.params ++ [("oauth_signature", signature)] }

/-- Whether a parameter is one of the protocol. -/
def isProtocolParameter (p : String × String) : Bool :=
  ['o', 'a', 'u', 't', 'h', '_'].isPrefixOf p.1.toList

/-- The header that carries the protocol parameters. -/
def authorizationHeader (r : OAuthRequest) (realm : Option String) : String :=
  Authorization.render realm (r.params.filter isProtocolParameter)

/-- The form that carries the other parameters. -/
def nonOAuthForm (r : OAuthRequest) : String :=
  Form.render (r.params.filter fun p => !isProtocolParameter p)

end OAuthRequest
end LoginRehearsal
