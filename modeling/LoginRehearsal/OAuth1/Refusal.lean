import LoginRehearsal.OAuth1.Token
import LoginRehearsal.Text.Duration

/-!
# Refusals

Why the provider turns a request of the handshake down.

* `Refusal.message`: the wording, which is also the body of the answer.
-/
namespace LoginRehearsal

/-- Why a request is turned down. -/
inductive Refusal where
  | unknownConsumer
  | unknownToken (kind : TokenKind) (key : String)
  | nonceReused (nonce : String)
  | invalidVerifier
  | missingParameter (name : String)
  | unsupportedSignatureMethod (name : String)
  | unsupportedVersion (version : String)
  | expiredTimestamp (given now : Nat) (threshold : Duration)
  | invalidTimestamp (text : String)
  | invalidSignature
  | malformed (reason : String)
deriving DecidableEq, Repr

/-- The wording of a refusal. -/
def Refusal.message : Refusal → String
  | .unknownConsumer => "Invalid consumer"
  | .unknownToken kind key => s!"Invalid {kind.name} token: {key}"
  | .nonceReused nonce => s!"Nonce already used: {nonce}"
  | .invalidVerifier => "Invalid verifier"
  | .missingParameter name => s!"Missing OAuth parameter: {name}"
  | .unsupportedSignatureMethod name =>
    s!"Signature method {name} not supported, try one of: PLAINTEXT, HMAC-SHA1"
  | .unsupportedVersion version => s!"OAuth version {version} not supported"
  | .expiredTimestamp given now threshold =>
    s!"Expired timestamp: given {given}, current {now}, threshold {threshold.text}"
  | .invalidTimestamp text => s!"Invalid timestamp: {text}"
  | .invalidSignature => "Invalid signature"
  | .malformed reason => s!"Malformed request: {reason}"

end LoginRehearsal
