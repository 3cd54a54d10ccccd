import LoginRehearsal.Proofs.OAuth1.Authorization
import LoginRehearsal.Proofs.OAuth1.Signature
import LoginRehearsal.Proofs.Text.Form

/-!
# A request there and back

A client splits the parameters of a request: those of the protocol travel in the header, the others in the
body. The receiver puts them together again, with the query of the address between them. Their order may
have changed, but not their first values, nor what a signature covers.

* `ofParts_sent`, `parameters_arrive`: what arrives.
* `get?_arrived`: the first value of a protocol parameter is the one that was sent.
* `sign_arrived`: the signature of what arrives is that of what was sent, if the query adds nothing to it.
* `get?_signature_signed`: the signature in a signed request is that of the request.
-/
namespace LoginRehearsal
namespace OAuthRequest

/-- Whether a name is one of the protocol. -/
def isProtocolName (name : String) : Bool :=
  ['o', 'a', 'u', 't', 'h', '_'].isPrefixOf name.toList

/-- The parameters as they arrive, behind those of the header the query's, and last the form's. -/
def arrivedParameters (params : Parameters) (u : Url) : Parameters :=
  params.filter isProtocolParameter ++ u.parameters ++ params.filter fun p => !isProtocolParameter p

/-- A request as it arrives when it is sent by a method to an address. -/
def arrived (r : OAuthRequest) (httpMethod : String) (u : Url) : OAuthRequest :=
  ⟨httpMethod.toUpper, u, arrivedParameters r.params u⟩

/-- The header is read as the parameters of the protocol. -/
theorem parameters_authorizationHeader {r : OAuthRequest} {realm : Option String}
    (hr : ∀ text, realm = some text → ',' ∉ text.toList) :
    Authorization.parameters (r.authorizationHeader realm) = .ok (r.params.filter isProtocolParameter) :=
  Authorization.parameters_render hr fun _ hp => Authorization.namesRealm_of_oauth (List.mem_filter.mp hp).2

/-- Header and body lose nothing, whatever the names and values are. -/
theorem ofParts_sent {r : OAuthRequest} {realm : Option String}
    (hr : ∀ text, realm = some text → ',' ∉ text.toList) (httpMethod : String) (u : Url) :
    ofParts httpMethod u (some (r.authorizationHeader realm)) (some r.nonOAuthForm) =
      .ok (r.arrived httpMethod u) := by
  have hf : Form.readText r.nonOAuthForm = r.params.filter fun p => !isProtocolParameter p :=
    Form.readText_render _
  simp only [ofParts, parameters_authorizationHeader hr, Option.getD_some, hf]
  rfl

/-- Every parameter arrives, whatever its name and value, and nothing else does: first those of the protocol,
then the query's, then the others, each list in its order. -/
theorem parameters_arrive {r : OAuthRequest} {realm : Option String}
    (hr : ∀ text, realm = some text → ',' ∉ text.toList) (httpMethod : String) (u : Url) :
    ∃ a, ofParts httpMethod u (some (r.authorizationHeader realm)) (some r.nonOAuthForm) = .ok a ∧
      a.httpMethod = httpMethod.toUpper ∧ a.url = u ∧
      a.params = r.params.filter isProtocolParameter ++ u.parameters ++
        r.params.filter fun p => !isProtocolParameter p :=
  ⟨r.arrived httpMethod u, ofParts_sent hr httpMethod u, rfl, rfl, rfl⟩

/-- Separators, quotes, escapes and blanks travel in names and values, and so do empty and repeated ones. -/
theorem parameters_arrive_of_separators :
    let u : Url := ⟨"http", some ⟨"", none, .name "localhost", some 5121⟩, .segments ["a"], some "q=+%26&q=", none⟩
    let r : OAuthRequest := ⟨"GET", u, [("x&=", "1 + 1%"), ("oauth_", "a,b=\"c\""), ("", ""),
      ("oauth_é\n", " "), ("oauth_", "a,b=\"c\""), ("", "")]⟩
    (∀ text, some "a=\"b\\ " = some text → ',' ∉ text.toList) ∧
      ∃ a, ofParts "post" u (some (r.authorizationHeader (some "a=\"b\\ "))) (some r.nonOAuthForm) = .ok a ∧
        a.params = [("oauth_", "a,b=\"c\""), ("oauth_é\n", " "), ("oauth_", "a,b=\"c\""), ("q", " &"),
          ("q", ""), ("x&=", "1 + 1%"), ("", ""), ("", "")] := by
  intro u r
  have hr : ∀ text, some "a=\"b\\ " = some text → ',' ∉ text.toList := by
    rintro _ ⟨⟩
    decide
  obtain ⟨a, ha, -, -, hp⟩ := parameters_arrive (r := r) hr "post" u
  exact ⟨hr, a, ha, hp.trans (by decide +kernel)⟩

/-! ## First values -/

theorem find?_filter_of_imp {α : Type} {p q : α → Bool} (h : ∀ a, q a = true → p a = true)
    (xs : List α) : (xs.filter p).find? q = xs.find? q := by
  rw [List.find?_filter]
  congr 1
  funext a
  cases hq : q a with
  | false => simp
  | true => simp [h a hq]

/-- The first value of a name among parameters. -/
def first? (params : Parameters) (name : String) : Option String :=
  (params.find? (·.1 == name)).map (·.2)

theorem first?_append (p q : Parameters) (name : String) :
    first? (p ++ q) name = (first? p name).or (first? q name) := by
  rw [first?, List.find?_append, Option.map_or]
  rfl

theorem first?_eq_none {params : Parameters} {name : String} (h : ∀ p ∈ params, p.1 ≠ name) :
    first? params name = none := by
  rw [first?, Option.map_eq_none_iff, List.find?_eq_none]
  intro p hp
  simpa using h p hp

/-- The first value of a protocol parameter is found before any that the query has. -/
theorem get?_arrived {name : String} (h : isProtocolName name = true) (r : OAuthRequest)
    (httpMethod : String) (u : Url) :
    (r.arrived httpMethod u).get? name = (r.get? name).or (first? u.parameters name) := by
  have hn : ∀ p : String × String, (p.1 == name) = true → isProtocolParameter p = true := by
    intro p hp
    rw [beq_iff_eq] at hp
    rw [isProtocolParameter, hp]
    exact h
  have hheader : first? (r.params.filter isProtocolParameter) name = r.get? name := by
    rw [first?, find?_filter_of_imp hn]
    rfl
  have hform : first? (r.params.filter fun p => !isProtocolParameter p) name = none := by
    refine first?_eq_none fun p hp hpn => ?_
    rw [List.mem_filter, hn p (beq_iff_eq.mpr hpn)] at hp
    exact absurd hp.2 (by decide)
  have ha : (r.arrived httpMethod u).get? name = first? (arrivedParameters r.params u) name := rfl
  rw [ha, arrivedParameters, first?_append, first?_append, hheader, hform, Option.or_none]

/-! ## What a signature covers -/

theorem arrivedParameters_perm (params : Parameters) (u : Url) :
    (arrivedParameters params u).Perm (params ++ u.parameters) := by
  have hp := List.filter_append_perm isProtocolParameter params
  have hswap : (params.filter isProtocolParameter ++ u.parameters ++
      params.filter fun p => !isProtocolParameter p).Perm
      (params.filter isProtocolParameter ++ (params.filter fun p => !isProtocolParameter p) ++
        u.parameters) := by
    rw [List.append_assoc, List.append_assoc]
    exact List.Perm.append_left _ List.perm_append_comm
  exact hswap.trans (hp.append_right _)

/-- An address without a query has no parameters. -/
theorem parameters_of_no_query {u : Url} (h : u.query = none) : u.parameters = [] := by
  rw [Url.parameters, h]
  rfl

/-- A signature covers the parameters of the query beside those that were sent. -/
theorem covered_arrivedParameters_perm (params : Parameters) (u : Url) :
    (Signature.covered (arrivedParameters params u)).Perm
      (Signature.covered params ++ Signature.covered u.parameters) := by
  have hp := (arrivedParameters_perm params u).filter fun p => p.1 != "oauth_signature"
  rwa [List.filter_append] at hp

/-- What a signature of a request depends on as it arrives. -/
theorem signingInput_arrived {r : OAuthRequest} {httpMethod : String} {u : Url}
    (hm : r.httpMethod = httpMethod.toUpper) (hu : r.url = u) (consumer : Credential) (token : Option Token) :
    (r.arrived httpMethod u).signingInput consumer token =
      { r.signingInput consumer token with params := arrivedParameters r.params u } := by
  rw [signingInput, signingInput, arrived, hm, hu]

/-- Where the query adds nothing but signatures, the signature of what arrives is that of what was sent. -/
theorem sign_arrived {r : OAuthRequest} {httpMethod : String} {u : Url} (hm : r.httpMethod = httpMethod.toUpper)
    (hu : r.url = u) (hq : Signature.covered u.parameters = []) (method : SignatureMethod)
    (consumer : Credential) (token : Option Token) :
    Signature.sign method ((r.arrived httpMethod u).signingInput consumer token) =
      Signature.sign method (r.signingInput consumer token) := by
  have hp := covered_arrivedParameters_perm r.params u
  rw [hq, List.append_nil] at hp
  rw [signingInput_arrived hm hu]
  exact Signature.sign_perm hp

/-! ## Signed requests -/

/-- What a client signs. -/
def unsigned (httpMethod : String) (u : Url) (consumer : Credential) (token : Option Token)
    (method : SignatureMethod) (nonce : String) (extra : Parameters) (now : Nat) : OAuthRequest :=
  ⟨httpMethod.toUpper, u, protocolParameters consumer token method nonce now ++ extra⟩

section Signed

variable (httpMethod : String) (u : Url) (consumer : Credential) (token : Option Token)
  (method : SignatureMethod) (nonce : String) (extra : Parameters) (now : Nat)

theorem params_signed :
    (signed httpMethod u consumer token method nonce extra now).params =
      protocolParameters consumer token method nonce now ++ extra ++
        [("oauth_signature", Signature.sign method
          ((unsigned httpMethod u consumer token method nonce extra now).signingInput consumer token))] := rfl

/-- The signature does not change when it becomes a parameter. -/
theorem sign_signed :
    Signature.sign method
        ((signed httpMethod u consumer token method nonce extra now).signingInput consumer token) =
      Signature.sign method
        ((unsigned httpMethod u consumer token method nonce extra now).signingInput consumer token) := by
  have hc : Signature.covered (signed httpMethod u consumer token method nonce extra now).params =
      Signature.covered (unsigned httpMethod u consumer token method nonce extra now).params := by
    rw [params_signed, Signature.covered, List.filter_append]
    simp [Signature.covered, unsigned]
  exact Signature.sign_perm
    (i := (unsigned httpMethod u consumer token method nonce extra now).signingInput consumer token)
    (List.Perm.of_eq hc)

/-- A parameter of the protocol has the value that the client gives it, whatever else is sent. -/
theorem get?_signed {name value : String}
    (h : first? (protocolParameters consumer token method nonce now) name = some value) :
    (signed httpMethod u consumer token method nonce extra now).get? name = some value := by
  have hg : (signed httpMethod u consumer token method nonce extra now).get? name =
      first? (signed httpMethod u consumer token method nonce extra now).params name := rfl
  rw [hg, params_signed, first?_append, first?_append, h]
  rfl

/-- Other parameters have their first value among the extra ones. -/
theorem get?_signed_extra {name : String} (hn : name ≠ "oauth_signature")
    (h : first? (protocolParameters consumer token method nonce now) name = none) :
    (signed httpMethod u consumer token method nonce extra now).get? name = first? extra name := by
  have hg : (signed httpMethod u consumer token method nonce extra now).get? name =
      first? (signed httpMethod u consumer token method nonce extra now).params name := rfl
  have hs : ∀ s : String, first? [("oauth_signature", s)] name = none := fun s =>
    first?_eq_none (by simpa using hn.symm)
  rw [hg, params_signed, first?_append, first?_append, h, hs, Option.none_or, Option.or_none]

/-- The signature of a signed request is that of the request, if no extra parameter comes in front of it. -/
theorem get?_signature_signed (h : ∀ p ∈ extra, p.1 ≠ "oauth_signature") :
    (signed httpMethod u consumer token method nonce extra now).get? "oauth_signature" =
      some (Signature.sign method
        ((signed httpMethod u consumer token method nonce extra now).signingInput consumer token)) := by
  have hp : first? (protocolParameters consumer token method nonce now) "oauth_signature" = none := by
    cases token <;> simp [protocolParameters, first?]
  have hg : (signed httpMethod u consumer token method nonce extra now).get? "oauth_signature" =
      first? (signed httpMethod u consumer token method nonce extra now).params "oauth_signature" := rfl
  rw [sign_signed, hg, params_signed, first?_append, first?_append, hp, first?_eq_none h]
  rfl

end Signed

end OAuthRequest
end LoginRehearsal
