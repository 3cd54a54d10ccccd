import LoginRehearsal.OAuth1.Provider
import LoginRehearsal.Proofs.OAuth1.Authorization
import LoginRehearsal.Proofs.OAuth1.Signature
import LoginRehearsal.Proofs.Text.Form

/-!
# Where parameters travel

A provider looks at a request in two ways: it asks for the first value of some names, and it checks the
signature, which puts the parameters in an order of its own. So the order in which they arrive does not matter
as long as it asks for no name that is given twice, and neither does which of them travel in the header, in
the query and in the form. A header takes a name for that of a realm in any letter case; such a parameter has
to travel elsewhere.

* `OAuthRequest.Alike`: requests that differ in the order of their parameters only.
* `OAuthRequest.SameView`: requests in which a provider sees the same. All its functions agree on these.
* `Placement`: parameters by where they travel.
* `Provider.answers_of_alike`: the same answer and the same store, in both legs of the handshake.
-/
namespace LoginRehearsal

/-- The names whose first value a provider asks for. -/
def Provider.askedNames : List String :=
  ["oauth_token", "oauth_version", "oauth_consumer_key", "oauth_callback", "oauth_verifier",
    "oauth_signature_method", "oauth_timestamp", "oauth_nonce", "oauth_signature"]

/-- The query is no part of the address that is signed. -/
theorem Signature.normalizeUrl_query (u : Url) (query : Option String) :
    normalizeUrl { u with query } = normalizeUrl u := rfl

/-! ## What a provider sees of a request -/

namespace OAuthRequest

/-- No name that a provider asks for is given twice. -/
def AskedOnce (params : Parameters) : Prop :=
  ∀ name ∈ Provider.askedNames, params.countP (·.1 == name) ≤ 1

instance (params : Parameters) : Decidable (AskedOnce params) :=
  inferInstanceAs (Decidable (∀ name ∈ Provider.askedNames, params.countP (·.1 == name) ≤ 1))

/-- Two requests with the same method in any letter case, the same address but for the query, and the same
parameters in any order. -/
structure Alike (r r' : OAuthRequest) : Prop where
  httpMethod : r.httpMethod.toUpper = r'.httpMethod.toUpper
  address : Signature.normalizeUrl r.url = Signature.normalizeUrl r'.url
  params : r.params.Perm r'.params
  once : AskedOnce r.params

/-- Two requests that give the same first values, and for which the same signatures hold. -/
structure SameView (r r' : OAuthRequest) : Prop where
  get? : ∀ name ∈ Provider.askedNames, r.get? name = r'.get? name
  verify : ∀ method consumer token signature,
    Signature.verify method (r.signingInput consumer token) signature =
      Signature.verify method (r'.signingInput consumer token) signature

/-- What is there at most once is found in every order. -/
theorem find?_of_perm {α : Type} {p : α → Bool} {xs ys : List α} (h : xs.Perm ys) (hp : xs.countP p ≤ 1) :
    xs.find? p = ys.find? p := by
  have hf := h.filter p
  rw [← List.head?_filter, ← List.head?_filter]
  rw [List.countP_eq_length_filter] at hp
  match hx : xs.filter p, hp with
  | [], _ =>
    rw [hx] at hf
    rw [hf.nil_eq]
  | [a], _ =>
    rw [hx] at hf
    rw [List.singleton_perm.mp hf]

variable {r r' : OAuthRequest}

theorem Alike.sameView (h : r.Alike r') : r.SameView r' where
  get? := by
    intro name hname
    rw [OAuthRequest.get?, OAuthRequest.get?, find?_of_perm h.params (h.once name hname)]
  verify := by
    intro method consumer token signature
    have hb : (r.signingInput consumer token).baseString = (r'.signingInput consumer token).baseString := by
      have hp := (Signature.normalizeParameters_eq_iff _ _).mpr (h.params.filter _)
      simp only [SigningInput.baseString, Signature.baseString, signingInput, h.httpMethod, h.address, hp]
    rw [Bool.eq_iff_iff, Signature.verify_eq_true_iff, Signature.verify_eq_true_iff,
      Signature.sign_congr hb rfl]

/-! ## What each function makes of it -/

namespace SameView

open Provider

theorem require (h : r.SameView r') {name : String} (hname : name ∈ askedNames) :
    r.require name = r'.require name := by
  rw [OAuthRequest.require, OAuthRequest.require, h.get? name hname]

theorem checkVersion (h : r.SameView r') : checkVersion r = checkVersion r' := by
  rw [Provider.checkVersion, Provider.checkVersion, h.get? "oauth_version" (by decide)]

theorem identify (h : r.SameView r') (p : Provider) : p.identify r = p.identify r' := by
  have hkey : r.require "oauth_consumer_key" = r'.require "oauth_consumer_key" := h.require (by decide)
  rw [Provider.identify, Provider.identify, hkey]

theorem findToken (h : r.SameView r') (p : Provider) (kind : TokenKind) :
    p.findToken r kind = p.findToken r' kind := by
  have hkey : r.require "oauth_token" = r'.require "oauth_token" := h.require (by decide)
  rw [Provider.findToken, Provider.findToken, hkey]

theorem checkSignature (h : r.SameView r') (p : Provider) (now : Nat) (consumer : Credential)
    (token : Option Token) : p.checkSignature now r consumer token = p.checkSignature now r' consumer token := by
  have hmethod : r.require "oauth_signature_method" = r'.require "oauth_signature_method" :=
    h.require (by decide)
  have htime : r.require "oauth_timestamp" = r'.require "oauth_timestamp" := h.require (by decide)
  have hnonce : r.require "oauth_nonce" = r'.require "oauth_nonce" := h.require (by decide)
  have hsignature : r.require "oauth_signature" = r'.require "oauth_signature" := h.require (by decide)
  simp only [Provider.checkSignature, hmethod, htime, hnonce, hsignature, h.verify]

theorem signedClient (h : r.SameView r') (p : Provider) (now : Nat) :
    p.signedClient now r = p.signedClient now r' := by
  simp only [Provider.signedClient, h.checkVersion, h.identify, h.checkSignature]

theorem namedRequestToken? (h : r.SameView r') (p : Provider) :
    p.namedRequestToken? r = p.namedRequestToken? r' := by
  rw [Provider.namedRequestToken?, Provider.namedRequestToken?, h.get? "oauth_token" (by decide)]

theorem requestToken (h : r.SameView r') (p : Provider) (now : Nat) :
    p.requestToken now r = p.requestToken now r' := by
  rw [Provider.requestToken, Provider.requestToken, h.namedRequestToken?, h.signedClient,
    h.get? "oauth_callback" (by decide)]

theorem bearer (h : r.SameView r') (p : Provider) : p.bearer r = p.bearer r' := by
  have hverifier : r.require "oauth_verifier" = r'.require "oauth_verifier" := h.require (by decide)
  simp only [Provider.bearer, h.checkVersion, h.identify, hverifier]

theorem accessToken (h : r.SameView r') (p : Provider) (now : Nat) :
    p.accessToken now r = p.accessToken now r' := by
  simp only [Provider.accessToken, h.bearer, h.findToken, h.checkSignature]

end SameView

end OAuthRequest

/-! ## Header, query and form -/

/-- Parameters by where they travel, and the realm of their header. -/
structure Placement where
  realm : Option String
  header : Parameters
  query : Parameters
  form : Parameters

namespace Placement

/-- All parameters, in the order in which they arrive. -/
def params (l : Placement) : Parameters := l.header ++ l.query ++ l.form

/-- What a header can carry: a realm without a comma, and parameters that are not named like one. -/
structure Sound (l : Placement) : Prop where
  realm : ∀ text, l.realm = some text → ',' ∉ text.toList
  header : ∀ p ∈ l.header, p.1.toLower ≠ "realm"

/-- An address with the parameters of the query. -/
def address (l : Placement) (u : Url) : Url := { u with query := some (Form.render l.query) }

/-- What is received of the parameters. -/
def received (l : Placement) (httpMethod : String) (u : Url) : Except Refusal OAuthRequest :=
  OAuthRequest.ofParts httpMethod (l.address u) (some (Authorization.render l.realm l.header))
    (some (Form.render l.form))

theorem received_eq {l : Placement} (h : l.Sound) (httpMethod : String) (u : Url) :
    l.received httpMethod u = .ok ⟨httpMethod.toUpper, l.address u, l.params⟩ := by
  have hn : ∀ p ∈ l.header, Authorization.namesRealm p.1 = false :=
    fun p hp => Authorization.namesRealm_of_toLower (h.header p hp)
  have hh : Authorization.parameters (Authorization.render l.realm l.header) = .ok l.header :=
    Authorization.parameters_render h.realm hn
  have hq : (l.address u).parameters = l.query := Form.readText_render _
  simp only [received, OAuthRequest.ofParts, hh, hq, Option.getD_some, Form.readText_render]
  rfl

end Placement

/-! ## Answers -/

namespace Provider

/-- Where and in which order parameters are sent does not matter, if no name that the provider asks for is
given twice: requests that are alike get the same answer and leave the same behind, and so do requests whose
parameters travel by different ways. -/
theorem answers_of_alike (p : Provider) (now : Nat) :
    (∀ r r' : OAuthRequest, r.Alike r' →
      p.requestToken now r = p.requestToken now r' ∧ p.accessToken now r = p.accessToken now r') ∧
    ∀ (httpMethod : String) (u : Url) (l l' : Placement), l.Sound → l'.Sound → l.params.Perm l'.params →
      OAuthRequest.AskedOnce l.params →
      ∃ r r', l.received httpMethod u = .ok r ∧ l'.received httpMethod u = .ok r' ∧
        p.requestToken now r = p.requestToken now r' ∧ p.accessToken now r = p.accessToken now r' := by
  have ha : ∀ r r' : OAuthRequest, r.Alike r' →
      p.requestToken now r = p.requestToken now r' ∧ p.accessToken now r = p.accessToken now r' :=
    fun r r' h => ⟨h.sameView.requestToken p now, h.sameView.accessToken p now⟩
  refine ⟨ha, ?_⟩
  intro httpMethod u l l' hl hl' hp ho
  exact ⟨_, _, Placement.received_eq hl httpMethod u, Placement.received_eq hl' httpMethod u,
    ha _ _ ⟨rfl, Signature.normalizeUrl_query u _, hp, ho⟩⟩

/-- A name that is not asked for may be given twice, and a parameter called realm may travel in query and
form. -/
theorem answers_of_alike_moved :
    let p := Provider.ofSettings .standard
    let u : Url := ⟨"http", some ⟨"", none, .name "localhost", some 5121⟩, .segments ["oauth1"], none, none⟩
    let r : OAuthRequest := ⟨"post", u, [("oauth_token", "old"), ("x", "ä&"), ("oauth_callback", ""), ("x", "1")]⟩
    let r' : OAuthRequest := ⟨"POST", { u with query := some "x" }, [("x", "1"), ("oauth_callback", ""),
      ("x", "ä&"), ("oauth_token", "old")]⟩
    let l : Placement := ⟨some "a=\"", [("oauth_token", "requestkey"), ("x", "1")], [], [("realm", "r"),
      ("x", ",")]⟩
    let l' : Placement := ⟨none, [("x", ",")], [("realm", "r"), ("oauth_token", "requestkey")],
      [("x", "1")]⟩
    (r.Alike r' ∧ p.requestToken 0 r = p.requestToken 0 r' ∧ p.accessToken 0 r = p.accessToken 0 r') ∧
      l.Sound ∧ l'.Sound ∧ l.params.Perm l'.params ∧ OAuthRequest.AskedOnce l.params ∧
      ∃ q q', l.received "GET" u = .ok q ∧ l'.received "GET" u = .ok q' ∧
        p.requestToken 0 q = p.requestToken 0 q' ∧ p.accessToken 0 q = p.accessToken 0 q' := by
  intro p u r r' l l'
  have hm : ("post".map Char.toUpper).toList = ("POST".map Char.toUpper).toList := by
    rw [String.toList_map, String.toList_map]
    decide
  have ha : r.Alike r' :=
    ⟨String.toList_inj.mp hm, (Signature.normalizeUrl_query u _).symm, by decide, by decide⟩
  have hl : l.Sound := ⟨by rintro _ ⟨⟩; decide, by decide +kernel⟩
  have hl' : l'.Sound := ⟨by rintro _ ⟨⟩, by decide +kernel⟩
  have hp : l.params.Perm l'.params := by decide
  have ho : OAuthRequest.AskedOnce l.params := by decide
  obtain ⟨halike, hmoved⟩ := answers_of_alike p 0
  exact ⟨⟨ha, halike r r' ha⟩, hl, hl', hp, ho, hmoved "GET" u l l' hl hl' hp ho⟩

end Provider
end LoginRehearsal
