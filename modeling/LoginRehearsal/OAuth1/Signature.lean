import LoginRehearsal.Digest.Hmac
import LoginRehearsal.OAuth1.Refusal
import LoginRehearsal.Text.Base64

/-!
# Request signatures

How a request is signed (RFC 5849 §3.4). Method, address and parameters are brought into one text, the
base string, in which each of them is escaped, so that no character moves from one to another. The key
joins the secrets of the client and of the token.

* `normalizeUrl`, `normalizeParameters`, `baseString`: what is signed.
* `signingKey`: under what it is signed.
* `sign`, `verify`: making and checking a signature.
-/
namespace LoginRehearsal

/-- Names and values, in the order in which they were given. -/
abbrev Parameters := List (String × String)

/-- How a signature is made from base string and key. -/
inductive SignatureMethod where
  | plaintext
  | hmacSha1
deriving DecidableEq, Repr

namespace SignatureMethod

def name : SignatureMethod → String
  | .plaintext => "PLAINTEXT"
  | .hmacSha1 => "HMAC-SHA1"

def ofName? (s : String) : Option SignatureMethod :=
  [plaintext, hmacSha1].find? (·.name == s)

/-- The method of a name, or the refusal of it. -/
def ofName (s : String) : Except Refusal SignatureMethod :=
  match ofName? s with
  | some method => .ok method
  | none => .error (.unsupportedSignatureMethod s)

end SignatureMethod

namespace Signature

/-! ## The base string -/

/-- The address that is signed: scheme, host, port and path, without the query. -/
def normalizeUrl (u : Url) : String :=
  u.scheme.toLower ++ "://" ++ u.hostText.toLower ++
    (match u.port with
      | some port => ":" ++ decimal port
      | none => "") ++
    u.pathText

/-- The order of parameters: by name, equal names by value. -/
def precedes (a b : String × String) : Bool :=
  decide (a.1 < b.1) || (a.1 == b.1 && decide (a.2 ≤ b.2))

/-- The escaped parameters in order, without signatures. -/
def sortedParameters (params : Parameters) : Parameters :=
  ((params.filter fun p => p.1 != "oauth_signature").map fun p =>
    (Percent.encode p.1, Percent.encode p.2)).mergeSort precedes

/-- The parameters as one text. -/
def normalizeParameters (params : Parameters) : String :=
  "&".intercalate ((sortedParameters params).map fun p => p.1 ++ "=" ++ p.2)

/-- The text that is signed. -/
def baseString (httpMethod : String) (url : Url) (params : Parameters) : String :=
  Percent.encode httpMethod.toUpper ++ "&" ++ Percent.encode (normalizeUrl url) ++ "&" ++
    Percent.encode (normalizeParameters params)

/-! ## Signing -/

/-- The key under which a request is signed. A missing token counts as one with an empty secret. -/
def signingKey (consumerSecret : String) (tokenSecret : Option String) : String :=
  Percent.encode consumerSecret ++ "&" ++ Percent.encode (tokenSecret.getD "")

end Signature

/-- All that a signature depends on. -/
structure SigningInput where
  httpMethod : String
  url : Url
  params : Parameters
  consumerSecret : String
  tokenSecret : Option String

namespace SigningInput

def key (i : SigningInput) : String := Signature.signingKey i.consumerSecret i.tokenSecret

def baseString (i : SigningInput) : String := Signature.baseString i.httpMethod i.url i.params

/-- The authentication tag of the base string under the key. -/
def tag (i : SigningInput) : Bytes := hmacSha1 (Utf8.encode i.key) (Utf8.encode i.baseString)

end SigningInput

namespace Signature

/-- The signature of a request. -/
def sign (method : SignatureMethod) (i : SigningInput) : String :=
  match method with
  | .plaintext => i.key
  | .hmacSha1 => String.ofList (Base64.encode i.tag)

/-- Whether a text is the signature of a request. -/
def verify (method : SignatureMethod) (i : SigningInput) (signature : String) : Bool :=
  match method with
  | .plaintext => signature == i.key
  | .hmacSha1 =>
    match Base64.decode? signature.toList with
    | none => false
    | some bytes => bytes == i.tag

end Signature
end LoginRehearsal
