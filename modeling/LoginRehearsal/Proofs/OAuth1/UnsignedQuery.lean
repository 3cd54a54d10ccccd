import LoginRehearsal.Proofs.OAuth1.BaseString
import LoginRehearsal.Proofs.OAuth1.Transport

/-!
# A query that is not signed

A client signs the parameters that it sends in header and form. A receiver checks the signature over these and
those in the query of the address. So a query that adds a parameter makes the receiver look at another base
string than the client did, and only the plain method, which does not look at it, is sure to hold.

* `baseString_arrived_iff`: what is checked is what was signed just if the query adds no parameter.
* `verify_arrived_iff`: when the signature of what was sent is accepted for what arrives.
* `signed_request_arrives`: both for every request that a client signs and sends.
-/
namespace LoginRehearsal

namespace OAuthRequest

section Arrival

variable {r : OAuthRequest} {httpMethod : String} {u : Url}

/-- The base string on arrival is the one that was signed just if the query adds nothing that is covered. -/
theorem baseString_arrived_iff (hm : r.httpMethod = httpMethod.toUpper) (hu : r.url = u)
    (consumer : Credential) (token : Option Token) :
    ((r.arrived httpMethod u).signingInput consumer token).baseString =
        (r.signingInput consumer token).baseString ↔
      ∀ p ∈ u.parameters, p.1 = "oauth_signature" := by
  have hb : ((r.arrived httpMethod u).signingInput consumer token).baseString =
        (r.signingInput consumer token).baseString ↔
      (Signature.covered (arrivedParameters r.params u)).Perm (Signature.covered r.params) := by
    rw [signingInput_arrived hm hu, SigningInput.baseString, SigningInput.baseString,
      Signature.baseString_parts, Signature.normalizeParameters_eq_iff]
    exact ⟨fun h => h.2.2, fun h => ⟨rfl, rfl, h⟩⟩
  have hp := covered_arrivedParameters_perm r.params u
  rw [hb, ← Signature.covered_eq_nil_iff]
  constructor
  · intro h
    have hl := (hp.symm.trans h).length_eq
    rw [List.length_append] at hl
    exact List.eq_nil_of_length_eq_zero (by omega)
  · intro h
    rwa [h, List.append_nil] at hp

/-- The signature of what was sent is accepted for what arrives by the plain method, and by the other one just
if both have one tag. -/
theorem verify_arrived_iff (method : SignatureMethod) (consumer : Credential) (token : Option Token) :
    Signature.verify method ((r.arrived httpMethod u).signingInput consumer token)
        (Signature.sign method (r.signingInput consumer token)) = true ↔
      method = .plaintext ∨ ((r.arrived httpMethod u).signingInput consumer token).tag =
        (r.signingInput consumer token).tag := by
  rw [Signature.verify_eq_true_iff, eq_comm]
  exact Signature.sign_eq_iff rfl

end Arrival

/-- Whatever a client signs and sends is put together again, with its own signature in front. The signature is
accepted by the plain method, and by the other one just if the tag of what arrives is that of what was signed.
That is so if the query of the address adds nothing; if it does, they are tags of two different texts. -/
theorem signed_request_arrives (httpMethod : String) (u : Url) (consumer : Credential) (token : Option Token)
    (method : SignatureMethod) (nonce : String) (extra : Parameters) (now : Nat)
    (h : ∀ p ∈ extra, p.1 ≠ "oauth_signature") :
    let sent := signed httpMethod u consumer token method nonce extra now
    ∃ a signature,
      ofParts httpMethod u (some (sent.authorizationHeader none)) (some sent.nonOAuthForm) = .ok a ∧
      a.get? "oauth_signature" = some signature ∧
      (Signature.verify method (a.signingInput consumer token) signature = true ↔
        method = .plaintext ∨ (a.signingInput consumer token).tag = (sent.signingInput consumer token).tag) ∧
      ((∀ p ∈ u.parameters, p.1 = "oauth_signature") →
        Signature.verify method (a.signingInput consumer token) signature = true) ∧
      ((a.signingInput consumer token).baseString = (sent.signingInput consumer token).baseString ↔
        ∀ p ∈ u.parameters, p.1 = "oauth_signature") := by
  intro sent
  have ha : ofParts httpMethod u (some (sent.authorizationHeader none)) (some sent.nonOAuthForm) =
      .ok (sent.arrived httpMethod u) := ofParts_sent (fun _ h => by cases h) httpMethod u
  have hg : (sent.arrived httpMethod u).get? "oauth_signature" =
      some (Signature.sign method (sent.signingInput consumer token)) := by
    rw [get?_arrived (by decide), get?_signature_signed _ _ _ _ _ _ _ _ h, Option.some_or]
  refine ⟨_, _, ha, hg, verify_arrived_iff method consumer token, fun hq => ?_,
    baseString_arrived_iff rfl rfl consumer token⟩
  rw [Signature.verify_eq_true_iff]
  exact (sign_arrived (r := sent) rfl rfl (Signature.covered_eq_nil_iff.mpr hq) method consumer token).symm

/-- The parameters of the protocol in the request below, in order. -/
def protocolInOrder : Parameters :=
  [("oauth_consumer_key", "C0nsum3rKey"), ("oauth_nonce", "n"), ("oauth_signature_method", "HMAC-SHA1"),
    ("oauth_timestamp", "1700000000"), ("oauth_version", "1.0")]

/-- A signature in the query does no harm. Any other field of it is not signed, and it is no help to send the
field in the form as well: the receiver counts it twice, and refuses the signature. -/
theorem signed_request_arrives_with_query :
    let address (query : String) : Url :=
      ⟨"http", some ⟨"", none, .name "localhost", none⟩, .segments ["x"], some query, none⟩
    let consumer : Credential := ⟨"C0nsum3rKey", "C0nsum3rS3cr3t"⟩
    let extra : Parameters := [("y", "1")]
    let sent (u : Url) := signed "POST" u consumer none .hmacSha1 "n" extra 1700000000
    let received (u : Url) :=
      ofParts "POST" u (some ((sent u).authorizationHeader none)) (some (sent u).nonOAuthForm)
    (∀ p ∈ extra, p.1 ≠ "oauth_signature") ∧
      (∃ a signature, received (address "oauth_signature=z") = .ok a ∧
        a.get? "oauth_signature" = some signature ∧
        Signature.verify .hmacSha1 (a.signingInput consumer none) signature = true) ∧
      ∃ a signature, received (address "y=1") = .ok a ∧ a.get? "oauth_signature" = some signature ∧
        (Signature.verify .hmacSha1 (a.signingInput consumer none) signature = true ↔
          (a.signingInput consumer none).tag = ((sent (address "y=1")).signingInput consumer none).tag) ∧
        (a.signingInput consumer none).baseString ≠
          ((sent (address "y=1")).signingInput consumer none).baseString ∧
        signature = "RR9q5Mzxzbyk8Pt0XT1BazdJX5s=" ∧
        Signature.sign .hmacSha1 (a.signingInput consumer none) = "MeU3d8swbAQevPFt2xbIePW2Z0A=" ∧
        Signature.verify .hmacSha1 (a.signingInput consumer none) signature = false := by
  intro address consumer extra sent received
  have hx : ∀ p ∈ extra, p.1 ≠ "oauth_signature" := by decide
  have harmless : ∀ p ∈ (address "oauth_signature=z").parameters, p.1 = "oauth_signature" := by
    decide +kernel
  have hy : ¬∀ p ∈ (address "y=1").parameters, p.1 = "oauth_signature" := by decide +kernel
  obtain ⟨a, signature, ha, hg, -, hok, -⟩ :=
    signed_request_arrives "POST" (address "oauth_signature=z") consumer none .hmacSha1 "n" extra 1700000000 hx
  obtain ⟨b, other, hb, ho, hv, -, hbase⟩ :=
    signed_request_arrives "POST" (address "y=1") consumer none .hmacSha1 "n" extra 1700000000 hx
  obtain rfl : b = (sent (address "y=1")).arrived "POST" (address "y=1") :=
    Except.ok.inj (hb.symm.trans (ofParts_sent (fun _ h => by cases h) "POST" (address "y=1")))
  have hsign : Signature.sign .hmacSha1 ((sent (address "y=1")).signingInput consumer none) =
      "RR9q5Mzxzbyk8Pt0XT1BazdJX5s=" := by
    have honce : Signature.sortedParameters ((sent (address "y=1")).signingInput consumer none).params =
        protocolInOrder ++ [("y", "1")] :=
      Signature.sortedParameters_of_sorted (by decide +kernel) (by decide +kernel)
    rw [Signature.sign, SigningInput.tag, SigningInput.baseString, Signature.baseString_of_sorted honce]
    decide +kernel
  have hcheck : Signature.sign .hmacSha1
      (((sent (address "y=1")).arrived "POST" (address "y=1")).signingInput consumer none) =
        "MeU3d8swbAQevPFt2xbIePW2Z0A=" := by
    have htwice : Signature.sortedParameters
        (((sent (address "y=1")).arrived "POST" (address "y=1")).signingInput consumer none).params =
          protocolInOrder ++ [("y", "1"), ("y", "1")] :=
      Signature.sortedParameters_of_sorted (by decide +kernel) (by decide +kernel)
    rw [Signature.sign, SigningInput.tag, SigningInput.baseString, Signature.baseString_of_sorted htwice]
    decide +kernel
  have hother : other = "RR9q5Mzxzbyk8Pt0XT1BazdJX5s=" := by
    rw [get?_arrived (by decide), get?_signature_signed _ _ _ _ _ _ _ _ hx, Option.some_or, hsign] at ho
    exact (Option.some.inj ho).symm
  refine ⟨hx, ⟨a, signature, ha, hg, hok harmless⟩, _, other, hb, ho, ?_, mt hbase.mp hy, hother, hcheck, ?_⟩
  · rw [hv, or_iff_right (by decide)]
  · rw [Bool.eq_false_iff, ne_eq, Signature.verify_eq_true_iff, hcheck, hother]
    decide

end OAuthRequest
end LoginRehearsal
