import LoginRehearsal.Proofs.OAuth1.Answer
import LoginRehearsal.Proofs.OAuth1.Transport

/-!
# The handshake from end to end

A client signs a request, sends it in a header and a form, and the provider takes it apart and checks it. A
client that holds to the rules is never turned down, whatever others did before and in between: no call
touches what its checks depend on.

* `Dispatch`: a request with what the client chooses for it; `Dispatch.Proper`: within the rules.
* `Dispatch.wellSigned_received`: a proper request arrives in time and with a signature that holds.
* `handshake_completes`: both legs are answered by their tokens, and the consent is noted.
-/
namespace LoginRehearsal

/-- What a client chooses for a request, when it signs the request, and when this arrives. -/
structure Dispatch where
  httpMethod : String
  url : Url
  method : SignatureMethod
  nonce : String
  extra : Parameters
  signedAt : Nat
  arrivesAt : Nat

namespace Dispatch

/-- The request as the configured client signs it. -/
def sent (d : Dispatch) (s : Settings) (token : Option Token) : OAuthRequest :=
  OAuthRequest.signed d.httpMethod d.url s.consumer token d.method d.nonce d.extra d.signedAt

/-- What arrives of it, once it is sent in a header without a realm and a form. -/
def received (d : Dispatch) (s : Settings) (token : Option Token) : Except Refusal OAuthRequest :=
  OAuthRequest.ofParts d.httpMethod d.url (some ((d.sent s token).authorizationHeader none))
    (some (d.sent s token).nonOAuthForm)

/-- The rules for a client: no query in the address, no signature of its own among the extra parameters, and
a clock of sixty-four bits from which that of the provider, on arrival, is no further than it may be. -/
structure Proper (s : Settings) (d : Dispatch) : Prop where
  no_query : d.url.query = none
  no_signature : ∀ p ∈ d.extra, p.1 ≠ "oauth_signature"
  signedAt_le : d.signedAt ≤ Numeral.maxU64
  in_time : s.timestampThreshold.covers d.arrivesAt d.signedAt

/-! ## What arrives -/

section Arrival

variable {s : Settings} {d : Dispatch} {token : Option Token}

/-- The request that arrives. -/
def arrival (d : Dispatch) (s : Settings) (token : Option Token) : OAuthRequest :=
  (d.sent s token).arrived d.httpMethod d.url

theorem received_eq (d : Dispatch) (s : Settings) (token : Option Token) :
    d.received s token = .ok (d.arrival s token) :=
  OAuthRequest.ofParts_sent (fun _ h => by cases h) d.httpMethod d.url

theorem get?_arrival (h : d.Proper s) {name : String} (hn : OAuthRequest.isProtocolName name = true) :
    (d.arrival s token).get? name = (d.sent s token).get? name := by
  have hq : OAuthRequest.first? d.url.parameters name = none := by
    rw [OAuthRequest.parameters_of_no_query h.no_query]
    rfl
  rw [arrival, OAuthRequest.get?_arrived hn, hq, Option.or_none]

/-- A parameter that the protocol gives to every request arrives as it was given. -/
theorem get?_arrival_of_protocol (h : d.Proper s) {name value : String}
    (hn : OAuthRequest.isProtocolName name = true)
    (hv : OAuthRequest.first? (OAuthRequest.protocolParameters s.consumer token d.method d.nonce d.signedAt)
      name = some value) :
    (d.arrival s token).get? name = some value := by
  rw [get?_arrival h hn]
  exact OAuthRequest.get?_signed _ _ _ _ _ _ _ _ hv

/-- The signature that arrives is that of what arrives. -/
theorem get?_arrival_signature (h : d.Proper s) :
    (d.arrival s token).get? "oauth_signature" =
      some (Signature.sign d.method ((d.arrival s token).signingInput s.consumer token)) := by
  have hq : Signature.covered d.url.parameters = [] := by
    rw [OAuthRequest.parameters_of_no_query h.no_query]
    rfl
  have ha : Signature.sign d.method ((d.arrival s token).signingInput s.consumer token) =
      Signature.sign d.method ((d.sent s token).signingInput s.consumer token) :=
    OAuthRequest.sign_arrived (r := d.sent s token) rfl rfl hq d.method s.consumer token
  rw [get?_arrival h (by decide), ha]
  exact OAuthRequest.get?_signature_signed _ _ _ _ _ _ _ _ h.no_signature

/-- A proper request is in order but for nonce, token and verifier. -/
theorem wellSigned_received (h : d.Proper s) (token : Option Token) :
    WellSigned s d.arrivesAt (d.arrival s token) (token.map (·.secret)) where
  version := .inr (get?_arrival_of_protocol h (by decide) rfl)
  consumer := get?_arrival_of_protocol h (by decide) rfl
  timestamp := ⟨decimal d.signedAt, d.signedAt, get?_arrival_of_protocol h (by decide) rfl,
    Numeral.natural?_decimal d.signedAt, h.signedAt_le, h.in_time⟩
  signature := ⟨d.method, get?_arrival_of_protocol h (by decide) rfl, get?_arrival_signature h⟩

theorem mayBegin_arrival (h : d.Proper s) : MayBegin s d.arrivesAt (d.arrival s none) where
  toWellSigned := wellSigned_received h none
  nonce := ⟨d.nonce, get?_arrival_of_protocol h (by decide) rfl⟩

theorem mayFinish_arrival (h : d.Proper s) {t : Token} (ht : t.credential = s.requestToken)
    (hn : d.nonce ≠ s.nonce) (hv : OAuthRequest.first? d.extra "oauth_verifier" = some s.verifier) :
    MayFinish s d.arrivesAt (d.arrival s (some t)) where
  toWellSigned := by
    have hw := wellSigned_received h (some t)
    rw [← congrArg Credential.secret ht]
    exact hw
  verifier := by
    rw [get?_arrival h (by decide), ← hv]
    exact OAuthRequest.get?_signed_extra _ _ _ _ _ _ _ _ (by decide) rfl
  token := by
    rw [← congrArg Credential.key ht]
    exact get?_arrival_of_protocol h (by decide) rfl
  nonce := ⟨d.nonce, get?_arrival_of_protocol h (by decide) rfl, hn⟩

end Arrival

end Dispatch

/-! ## The three steps -/

namespace Provider

variable {s : Settings} {p : Provider}

theorem requestToken_of_mayBegin (h : p.Fits s) {now : Nat} {r : OAuthRequest} (hr : MayBegin s now r) :
    ∃ t, (p.requestToken now r).1 = .ok t ∧ t.credential = s.requestToken := by
  by_cases hn : r.get? "oauth_token" = some s.requestToken.key
  · rw [requestToken_named h now hn]
    exact ⟨_, rfl, h.store.request⟩
  · rw [(requestToken_unnamed h now hn).1 hr]
    refine ⟨_, rfl, ?_⟩
    unfold issued
    cases r.get? "oauth_callback" with
    | none => exact h.store.request
    | some callback => exact h.store.request

theorem authorizeToken_of_credential (h : p.Fits s) {t : Token} (ht : t.credential = s.requestToken)
    (user : String) : ∃ t', (p.authorizeToken t user).1 = .ok t' := by
  have hk : t.key = p.store.request.key := congrArg Credential.key (ht.trans h.store.request.symm)
  rw [authorizeToken_of_key hk]
  exact ⟨_, rfl⟩

theorem accessToken_of_mayFinish (h : p.Fits s) {now : Nat} {r : OAuthRequest} (hr : MayFinish s now r) :
    ∃ t, (p.accessToken now r).1 = .ok t ∧ t.credential = s.accessToken :=
  ⟨p.store.access, (accessToken_decides h now r).ok (granted_access.mpr hr), h.store.access⟩

end Provider

/-- After any calls, a proper request is given the request token. After any further calls, every user's
consent to that token is noted, and a proper request with that token, a new nonce and the verifier is given
the access token. -/
theorem handshake_completes (s : Settings) (earlier : List Provider.Call) (d : Dispatch) (hd : d.Proper s) :
    let p := (Provider.ofSettings s).run earlier
    ∃ r t, d.received s none = .ok r ∧ (p.requestToken d.arrivesAt r).1 = .ok t ∧
      t.credential = s.requestToken ∧
      ∀ between : List Provider.Call,
        let q := (p.requestToken d.arrivesAt r).2.run between
        (∀ user, ∃ t', (q.authorizeToken t user).1 = .ok t') ∧
        ∀ e : Dispatch, e.Proper s → e.nonce ≠ s.nonce →
          OAuthRequest.first? e.extra "oauth_verifier" = some s.verifier →
          ∃ r' a, e.received s (some t) = .ok r' ∧ (q.accessToken e.arrivesAt r').1 = .ok a ∧
            a.credential = s.accessToken := by
  intro p
  have hp : p.Fits s := (Provider.fits_ofSettings s).run earlier
  obtain ⟨t, hok, ht⟩ := Provider.requestToken_of_mayBegin hp (Dispatch.mayBegin_arrival hd)
  refine ⟨d.arrival s none, t, Dispatch.received_eq d s none, hok, ht, ?_⟩
  intro between q
  have hq : q.Fits s := (hp.step (.requestToken d.arrivesAt (d.arrival s none))).run between
  refine ⟨Provider.authorizeToken_of_credential hq ht, ?_⟩
  intro e he hnonce hverifier
  obtain ⟨a, haok, ha⟩ :=
    Provider.accessToken_of_mayFinish hq (Dispatch.mayFinish_arrival he ht hnonce hverifier)
  exact ⟨e.arrival s (some t), a, Dispatch.received_eq e s (some t), haok, ha⟩

/-- Neither an old token nor a second verifier or nonce among the extra parameters is in the way, nor what is
called in between. -/
theorem handshake_completes_with_stale_token :
    let s := Settings.standard
    let url : Url := ⟨"http", some ⟨"", none, .name "localhost", some 5121⟩, .segments ["oauth1"], none, none⟩
    let d : Dispatch := ⟨"post", url, .hmacSha1, "ä&=", [("oauth_token", "old"), ("x", "1 + 1")], 1000, 1300⟩
    let e : Dispatch := ⟨"post", url, .plaintext, "", [("oauth_verifier", s.verifier),
      ("oauth_verifier", "second"), ("oauth_nonce", s.nonce)], 1200, 900⟩
    let p := (Provider.ofSettings s).run [.accessToken 0 (d.arrival s none), .attachVerifier .access]
    d.Proper s ∧ e.Proper s ∧ e.nonce ≠ s.nonce ∧
      OAuthRequest.first? e.extra "oauth_verifier" = some s.verifier ∧
      ∃ r t, d.received s none = .ok r ∧ (p.requestToken 1300 r).1 = .ok t ∧
        t.credential = s.requestToken ∧
        let q := (p.requestToken 1300 r).2.run [.requestToken 1300 r, .authorizeToken t "Ann"]
        (∃ t', (q.authorizeToken t "Bob").1 = .ok t') ∧
        ∃ r' a, e.received s (some t) = .ok r' ∧ (q.accessToken 900 r').1 = .ok a ∧
          a.credential = s.accessToken := by
  intro s url d e p
  have hd : d.Proper s := ⟨rfl, by decide, by decide, by unfold Duration.covers; decide⟩
  have he : e.Proper s := ⟨rfl, by decide, by decide, by unfold Duration.covers; decide⟩
  have hn : e.nonce ≠ s.nonce := by decide
  have hv : OAuthRequest.first? e.extra "oauth_verifier" = some s.verifier := rfl
  obtain ⟨r, t, hr, hok, ht, hrest⟩ := handshake_completes s
    [.accessToken 0 (d.arrival s none), .attachVerifier .access] d hd
  obtain ⟨huser, hlast⟩ := hrest [.requestToken 1300 r, .authorizeToken t "Ann"]
  exact ⟨hd, he, hn, hv, r, t, hr, hok, ht, huser "Bob", hlast e he hn hv⟩

end LoginRehearsal
