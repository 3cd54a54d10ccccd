import LoginRehearsal.Proofs.OAuth1.Decision

/-!
# The answers of a provider

The checks of `Decision` say which refusal a request meets. Here: what all of them together ask of a request,
in terms of its first values, and what an answer leaves behind. Nothing that was called before matters to
whether a request is answered by a token, only the settings do.

* `MayBegin`, `MayFinish`: a request that the first and the last leg answer by a token.
* `accessToken_answer`: the last leg.
* `requestToken_answer`: the first leg, and what becomes of the request token.
-/
namespace LoginRehearsal

open Check

/-! ## What the checks ask for -/

/-- A request of the client, given in time and signed with its secret and that of a token, if there is one. -/
structure WellSigned (s : Settings) (now : Nat) (r : OAuthRequest) (tokenSecret : Option String) : Prop where
  version : r.get? "oauth_version" = none ∨ r.get? "oauth_version" = some "1.0"
  consumer : r.get? "oauth_consumer_key" = some s.consumer.key
  timestamp : ∃ text t, r.get? "oauth_timestamp" = some text ∧ Numeral.natural? text = some t ∧
    t ≤ Numeral.maxU64 ∧ s.timestampThreshold.covers now t
  signature : ∃ method : SignatureMethod, r.get? "oauth_signature_method" = some method.name ∧
    r.get? "oauth_signature" = some (Signature.sign method
      ⟨r.httpMethod, r.url, r.params, s.consumer.secret, tokenSecret⟩)

/-- A request that may begin a handshake. -/
structure MayBegin (s : Settings) (now : Nat) (r : OAuthRequest) : Prop extends WellSigned s now r none where
  nonce : ∃ nonce, r.get? "oauth_nonce" = some nonce

/-- A request that may finish a handshake. -/
structure MayFinish (s : Settings) (now : Nat) (r : OAuthRequest) : Prop extends
    WellSigned s now r (some s.requestToken.secret) where
  verifier : r.get? "oauth_verifier" = some s.verifier
  token : r.get? "oauth_token" = some s.requestToken.key
  nonce : ∃ nonce, r.get? "oauth_nonce" = some nonce ∧ nonce ≠ s.nonce

variable {s : Settings} {now : Nat} {r : OAuthRequest}

theorem granted_consumer {key : String} :
    Granted (Check.consumer key r) ↔ r.get? "oauth_consumer_key" = some key := by
  rw [OAuthRequest.get?_eq_some_iff, Check.consumer, granted_cons, granted_cons]
  exact ⟨fun h => ⟨h.1, h.2.1⟩, fun h => ⟨h.1, h.2, granted_nil⟩⟩

theorem granted_token {kind : TokenKind} {key : String} :
    Granted (Check.token kind key r) ↔ r.get? "oauth_token" = some key := by
  rw [OAuthRequest.get?_eq_some_iff, Check.token, granted_cons, granted_cons]
  exact ⟨fun h => ⟨h.1, h.2.1⟩, fun h => ⟨h.1, h.2, granted_nil⟩⟩

theorem granted_fresh {used : Option String} :
    Granted (fresh used r) ↔ used ≠ some (r.value "oauth_nonce") := by
  cases used with
  | none => simp [fresh, granted_nil]
  | some nonce =>
    rw [fresh, granted_cons]
    constructor
    · rintro ⟨h, -⟩ he
      exact h (Option.some.inj he).symm
    · intro h
      exact ⟨fun he => h (congrArg some he.symm), granted_nil⟩

/-- The checks of a signature ask for a timestamp, a nonce, and a signature by a method that the request
names. -/
theorem granted_signature {d : Duration} {consumerSecret : String} {tokenSecret used : Option String} :
    Granted (Check.signature d now r consumerSecret tokenSecret used) ↔
      (∃ text t, r.get? "oauth_timestamp" = some text ∧ Numeral.natural? text = some t ∧ t ≤ Numeral.maxU64 ∧
        d.covers now t) ∧
      (∃ nonce, r.get? "oauth_nonce" = some nonce ∧ used ≠ some nonce) ∧
      ∃ method : SignatureMethod, r.get? "oauth_signature_method" = some method.name ∧
        r.get? "oauth_signature" = some (Signature.sign method
          ⟨r.httpMethod, r.url, r.params, consumerSecret, tokenSecret⟩) := by
  simp only [Check.signature, Check.method, Check.timestamp, Check.signed, Check.present, granted_append,
    granted_cons, granted_fresh, OAuthRequest.get?_eq_some_iff]
  constructor
  · rintro ⟨⟨hm, -⟩, ⟨ht, -⟩, ⟨⟨t, hread, hlt⟩, hnear, -⟩, ⟨hn, -⟩, hfresh, hs, ⟨method, hname, hsign⟩, -⟩
    exact ⟨⟨_, t, ⟨ht, rfl⟩, hread, hlt, hnear t hread⟩, ⟨_, ⟨hn, rfl⟩, hfresh⟩, method, ⟨hm, hname⟩, hs,
      hsign⟩
  · rintro ⟨⟨_, t, ⟨ht, rfl⟩, hread, hlt, hnear⟩, ⟨_, ⟨hn, rfl⟩, hfresh⟩, method, ⟨hm, hname⟩, hs, hsign⟩
    have hnear' : ∀ t', Numeral.natural? (r.value "oauth_timestamp") = some t' → d.covers now t' := by
      intro t' ht'
      rw [hread] at ht'
      cases ht'
      exact hnear
    exact ⟨⟨hm, ⟨method, hname⟩, granted_nil⟩, ⟨ht, granted_nil⟩, ⟨⟨t, hread, hlt⟩, hnear', granted_nil⟩,
      ⟨hn, granted_nil⟩, hfresh, hs, ⟨method, hname, hsign⟩, granted_nil⟩

theorem granted_request : Granted (Check.request s now r) ↔ MayBegin s now r := by
  rw [Check.request, granted_append, granted_cons, granted_consumer, granted_signature]
  constructor
  · rintro ⟨⟨hversion, hconsumer⟩, htime, ⟨nonce, hn, -⟩, hsign⟩
    exact ⟨⟨hversion, hconsumer, htime, hsign⟩, nonce, hn⟩
  · rintro ⟨⟨hversion, hconsumer, htime, hsign⟩, nonce, hn⟩
    exact ⟨⟨hversion, hconsumer⟩, htime, ⟨nonce, hn, by simp⟩, hsign⟩

theorem granted_access : Granted (Check.access s now r) ↔ MayFinish s now r := by
  simp only [Check.access, granted_append, granted_cons, granted_consumer, granted_token,
    granted_signature, Check.present]
  constructor
  · rintro ⟨⟨⟨⟨⟨hversion, hconsumer⟩, hv, -⟩, htoken⟩, htime, ⟨nonce, hn, hfresh⟩, hsign⟩, hverifier, -⟩
    exact ⟨⟨hversion, hconsumer, htime, hsign⟩, OAuthRequest.get?_eq_some_iff.mpr ⟨hv, hverifier⟩, htoken,
      nonce, hn, fun he => hfresh (congrArg some he.symm)⟩
  · rintro ⟨⟨hversion, hconsumer, htime, hsign⟩, hverifier, htoken, nonce, hn, hfresh⟩
    obtain ⟨hv, hverifier⟩ := OAuthRequest.get?_eq_some_iff.mp hverifier
    exact ⟨⟨⟨⟨⟨hversion, hconsumer⟩, hv, granted_nil⟩, htoken⟩, htime,
      ⟨nonce, hn, fun he => hfresh (Option.some.inj he).symm⟩, hsign⟩, hverifier, granted_nil⟩

/-! ## The last leg -/

namespace Provider

variable {p : Provider}

/-- Whatever was called before, the last leg hands out the access token to a request that may finish the
handshake, and refuses every other one by the first of the checks that does not hold. -/
theorem accessToken_answer (h : Reachable s p) (now : Nat) (r : OAuthRequest) :
    (∀ t, (p.accessToken now r).1 = .ok t ↔ MayFinish s now r ∧ t = p.store.access) ∧
      ∀ e, (p.accessToken now r).1 = .error e ↔ Refused (Check.access s now r) e := by
  have hd := accessToken_decides h.fits now r
  constructor
  · intro t
    rw [hd.eq_ok_iff, granted_access]
  · intro e
    exact hd.eq_error_iff

/-- A request of the last second, with a plus sign and a zero in front of its time and a used nonce behind a
fresh one, is in order. One with many faults is refused for the first. -/
theorem accessToken_answer_last_second :
    let s := Settings.standard
    let p := (ofSettings s).run [.attachVerifier .request, .authorizeToken (.ofCredential s.requestToken) "Ann"]
    let url : Url := ⟨"http", some ⟨"", none, .name "localhost", some 5121⟩,
      .segments ["oauth1", "access_token"], none, none⟩
    let r : OAuthRequest := ⟨"POST", url,
      [("oauth_verifier", s.verifier), ("oauth_token", s.requestToken.key), ("oauth_nonce", "fresh"),
        ("oauth_nonce", s.nonce), ("oauth_timestamp", "+0700"), ("oauth_signature_method", "PLAINTEXT"),
        ("oauth_consumer_key", s.consumer.key), ("oauth_signature", "C0nsum3rS3cr3t&requestsecret")]⟩
    Reachable s p ∧ (p.accessToken 1000 r).1 = .ok p.store.access ∧
      (p.accessToken 1000 ⟨"POST", url, [("oauth_nonce", s.nonce), ("oauth_version", "2.0")]⟩).1 =
        .error (.unsupportedVersion "2.0") := by
  intro s p url r
  have hp : Reachable s p := ⟨_, rfl⟩
  have hr : MayFinish s 1000 r :=
    { version := .inl (by decide)
      consumer := by decide
      timestamp := ⟨"+0700", 700, by decide, by decide, by decide, by unfold Duration.covers; decide⟩
      signature := ⟨.plaintext, by decide, by decide⟩
      verifier := by decide
      token := by decide
      nonce := ⟨"fresh", by decide, by decide⟩ }
  refine ⟨hp, ((accessToken_answer hp 1000 r).1 _).mpr ⟨hr, rfl⟩, ((accessToken_answer hp 1000 _).2 _).mpr ?_⟩
  exact ⟨[], _, _, rfl, granted_nil, by unfold Check.version; decide, rfl⟩

/-! ## The user's consent -/

theorem authorizeToken_of_key {token : Token} (h : token.key = p.store.request.key) (user : String) :
    p.authorizeToken token user =
      (.ok p.store.request, p.withStore { p.store with access := p.store.access.withUsername user }) := by
  unfold authorizeToken Store.authorize?
  rw [if_pos h]

/-! ## The first leg -/

/-- The provider with another request token, and all else as it was. -/
def withRequest (p : Provider) (t : Token) : Provider := p.withStore { p.store with request := t }

/-- The request token with the callback of a request confirmed on it, if the request has one. -/
def issued (p : Provider) (r : OAuthRequest) : Token :=
  match r.get? "oauth_callback" with
  | some callback => p.store.request.withCallback callback
  | none => p.store.request

theorem lookup?_named (h : p.Fits s) {key : String} (hk : key = s.requestToken.key) :
    p.store.lookup? .request key =
      some (p.store.request.withCallback s.callbackUrl,
        { p.store with request := p.store.request.withCallback s.callbackUrl }) := by
  have hkey : p.store.request.key = s.requestToken.key := congrArg Credential.key h.store.request
  rw [← h.store.callbackUrl]
  exact if_pos (hkey.trans hk.symm)

theorem lookup?_unnamed (h : p.Fits s) {key : String} (hk : key ≠ s.requestToken.key) :
    p.store.lookup? .request key = none := by
  have hkey : p.store.request.key = s.requestToken.key := congrArg Credential.key h.store.request
  exact if_neg fun he => hk (he.symm.trans hkey)

theorem issue?_consumer (h : p.Fits s) (r : OAuthRequest) :
    p.store.issue? s.consumer (r.get? "oauth_callback") =
      some (p.issued r, { p.store with request := p.issued r }) := by
  unfold Store.issue? issued
  exact if_pos (congrArg Credential.key h.store.consumer.symm)

/-- A request that names the request token gets it, signed or not. -/
theorem requestToken_named (h : p.Fits s) (now : Nat) {r : OAuthRequest}
    (hr : r.get? "oauth_token" = some s.requestToken.key) :
    p.requestToken now r = (.ok (p.store.request.withCallback s.callbackUrl),
      p.withRequest (p.store.request.withCallback s.callbackUrl)) := by
  unfold requestToken namedRequestToken?
  rw [hr, Option.bind_some, lookup?_named h rfl]
  rfl

theorem requestToken_unnamed (h : p.Fits s) (now : Nat) {r : OAuthRequest}
    (hr : r.get? "oauth_token" ≠ some s.requestToken.key) :
    (MayBegin s now r → p.requestToken now r = (.ok (p.issued r), p.withRequest (p.issued r))) ∧
      ∀ e, Refused (Check.request s now r) e → p.requestToken now r = (.error e, p) := by
  have hn : p.namedRequestToken? r = none := by
    unfold namedRequestToken?
    cases hk : r.get? "oauth_token" with
    | none => rfl
    | some key =>
      rw [hk] at hr
      exact lookup?_unnamed h fun he => hr (congrArg some he)
  have hd := signedClient_decides h now r
  unfold requestToken
  rw [hn]
  constructor
  · intro hg
    simp only [hd.ok (granted_request.mpr hg), issue?_consumer h]
    rfl
  · intro e he
    simp only [hd.error e he]

/-- The three outcomes of the first leg. -/
theorem requestToken_cases (h : p.Fits s) (now : Nat) (r : OAuthRequest) :
    (r.get? "oauth_token" = some s.requestToken.key ∧
      p.requestToken now r = (.ok (p.store.request.withCallback s.callbackUrl),
        p.withRequest (p.store.request.withCallback s.callbackUrl))) ∨
    (r.get? "oauth_token" ≠ some s.requestToken.key ∧ MayBegin s now r ∧
      p.requestToken now r = (.ok (p.issued r), p.withRequest (p.issued r))) ∨
    (r.get? "oauth_token" ≠ some s.requestToken.key ∧
      ∃ e, Refused (Check.request s now r) e ∧ p.requestToken now r = (.error e, p)) := by
  by_cases hr : r.get? "oauth_token" = some s.requestToken.key
  · exact .inl ⟨hr, requestToken_named h now hr⟩
  · obtain ⟨hok, herror⟩ := requestToken_unnamed h now hr
    rcases granted_or_refused (Check.request s now r) with hg | ⟨e, he⟩
    · have hm := granted_request.mp hg
      exact .inr (.inl ⟨hr, hm, hok hm⟩)
    · exact .inr (.inr ⟨hr, e, he, herror e he⟩)

/-- What the first leg does not refuse a request for, and when it does not know the client. -/
theorem refused_request {e : Refusal} (h : Refused (Check.request s now r) e) :
    (∀ nonce, e ≠ .nonceReused nonce) ∧ (∀ kind key, e ≠ .unknownToken kind key) ∧
      (e = .unknownConsumer →
        ∃ key, r.get? "oauth_consumer_key" = some key ∧ key ≠ s.consumer.key) := by
  have hsign : ∀ c ∈ Check.signature s.timestampThreshold now r s.consumer.secret none none,
      (∀ nonce, c.refusal ≠ .nonceReused nonce) ∧ (∀ kind key, c.refusal ≠ .unknownToken kind key) ∧
        c.refusal ≠ .unknownConsumer := by
    intro c hc
    simp only [Check.signature, Check.method, Check.timestamp, fresh, List.cons_append, List.nil_append,
      List.mem_cons, List.not_mem_nil, or_false] at hc
    rcases hc with rfl | rfl | rfl | rfl | rfl | rfl | rfl | rfl <;>
      simp [Check.present, Check.signed]
  rw [Check.request, refused_append, refused_cons, Check.consumer, refused_cons, refused_cons] at h
  rcases h with (⟨-, rfl⟩ | ⟨-, ⟨-, rfl⟩ | ⟨hp, ⟨hv, rfl⟩ | ⟨-, h⟩⟩⟩) | ⟨-, h⟩
  · simp [Check.version]
  · simp [Check.present]
  · refine ⟨by simp, by simp, fun _ => ⟨_, OAuthRequest.get?_eq_some_iff.mpr ⟨hp, rfl⟩, hv⟩⟩
  · exact absurd h not_refused_nil
  · obtain ⟨c, hc, -, rfl⟩ := h.exists_mem
    obtain ⟨hnonce, htoken, hconsumer⟩ := hsign c hc
    exact ⟨hnonce, htoken, fun he => absurd he hconsumer⟩

/-- A request that names the request token gets it with the configured callback. Every other one is answered
by the checks: all of them, and it gets the token with its own callback, or the refusal of the first that
does not hold, and nothing changes. -/
theorem requestToken_answer (h : Reachable s p) (now : Nat) (r : OAuthRequest) :
    (r.get? "oauth_token" = some s.requestToken.key →
      p.requestToken now r = (.ok (p.store.request.withCallback s.callbackUrl),
        p.withRequest (p.store.request.withCallback s.callbackUrl))) ∧
    (r.get? "oauth_token" ≠ some s.requestToken.key →
      ((∃ t, (p.requestToken now r).1 = .ok t) ↔ MayBegin s now r) ∧
      (MayBegin s now r → p.requestToken now r = (.ok (p.issued r), p.withRequest (p.issued r))) ∧
      ∀ e, p.requestToken now r = (.error e, p) ↔ Refused (Check.request s now r) e) ∧
    (∀ nonce, (p.requestToken now r).1 ≠ .error (.nonceReused nonce)) ∧
    (∀ kind key, (p.requestToken now r).1 ≠ .error (.unknownToken kind key)) ∧
    ((p.requestToken now r).1 = .error .unknownConsumer →
      ∃ key, r.get? "oauth_consumer_key" = some key ∧ key ≠ s.consumer.key) ∧
    ∀ t, (p.requestToken now r).1 = .ok t → t = (p.requestToken now r).2.store.request := by
  have hcases := requestToken_cases h.fits now r
  -- a refusal is one of the checks', whichever way the request came
  have hrefused : ∀ e, (p.requestToken now r).1 = .error e → Refused (Check.request s now r) e := by
    intro e he
    rcases hcases with ⟨-, hx⟩ | ⟨-, -, hx⟩ | ⟨-, e', he', hx⟩
    · rw [hx] at he
      cases he
    · rw [hx] at he
      cases he
    · rw [hx] at he
      exact Except.error.inj he ▸ he'
  refine ⟨requestToken_named h.fits now, fun hr => ⟨?_, ?_, ?_⟩, ?_, ?_, ?_, ?_⟩
  · constructor
    · rintro ⟨t, ht⟩
      rcases hcases with ⟨hn, -⟩ | ⟨-, hm, -⟩ | ⟨-, e, -, hx⟩
      · exact absurd hn hr
      · exact hm
      · rw [hx] at ht
        cases ht
    · intro hm
      rw [(requestToken_unnamed h.fits now hr).1 hm]
      exact ⟨_, rfl⟩
  · exact (requestToken_unnamed h.fits now hr).1
  · intro e
    constructor
    · intro he
      exact hrefused e (congrArg Prod.fst he)
    · exact (requestToken_unnamed h.fits now hr).2 e
  · intro nonce he
    exact (refused_request (hrefused _ he)).1 nonce rfl
  · intro kind key he
    exact (refused_request (hrefused _ he)).2.1 kind key rfl
  · intro he
    exact (refused_request (hrefused _ he)).2.2 rfl
  · intro t ht
    rcases hcases with ⟨-, hx⟩ | ⟨-, -, hx⟩ | ⟨-, e, -, hx⟩
    · rw [hx] at ht ⊢
      exact (Except.ok.inj ht).symm
    · rw [hx] at ht ⊢
      exact (Except.ok.inj ht).symm
    · rw [hx] at ht
      cases ht

/-- A token of the past does not stand in the way of a signed request. -/
theorem requestToken_answer_stale_token :
    let s := Settings.standard
    let p := (ofSettings s).run [.store (.lookup .request s.requestToken.key)]
    let url : Url := ⟨"http", some ⟨"", none, .name "localhost", some 5121⟩,
      .segments ["oauth1", "request_token"], none, none⟩
    let r : OAuthRequest := ⟨"POST", url,
      [("oauth_token", "stale"), ("oauth_nonce", s.nonce), ("oauth_timestamp", "1300"),
        ("oauth_callback", "oob"), ("oauth_signature_method", "PLAINTEXT"),
        ("oauth_consumer_key", s.consumer.key), ("oauth_signature", "C0nsum3rS3cr3t&")]⟩
    Reachable s p ∧ r.get? "oauth_token" ≠ some s.requestToken.key ∧ MayBegin s 1000 r ∧
      p.requestToken 1000 r = (.ok ⟨s.requestToken.key, s.requestToken.secret, some "oob", true, none, none⟩,
        p.withRequest ⟨s.requestToken.key, s.requestToken.secret, some "oob", true, none, none⟩) := by
  intro s p url r
  have hp : Reachable s p := ⟨_, rfl⟩
  have ht : r.get? "oauth_token" ≠ some s.requestToken.key := by decide
  have hr : MayBegin s 1000 r :=
    { version := .inl (by decide)
      consumer := by decide
      timestamp := ⟨"1300", 1300, by decide, by decide, by decide, by unfold Duration.covers; decide⟩
      signature := ⟨.plaintext, by decide, by decide⟩
      nonce := ⟨s.nonce, by decide⟩ }
  exact ⟨hp, ht, hr, ((requestToken_answer hp 1000 r).2.1 ht).2.1 hr⟩

end Provider
end LoginRehearsal
