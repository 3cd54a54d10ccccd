import LoginRehearsal.Proofs.OAuth1.Answer

/-!
# What a refused call leaves behind

The first leg and the consent touch nothing before all their checks hold. The last leg cannot do so: its
signature is made with the secret of the request token, so it looks that token up first, and a look-up
confirms the configured callback on the token that it finds. A check that fails afterwards does not take the
callback back.

* `FindsToken`: a request that the last leg looks the request token up for.
* `Provider.accessToken_after`: what the last leg makes of the provider, whatever it answers.
* `Provider.after_refusal`: what each call leaves behind when it is refused.
-/
namespace LoginRehearsal

open Check

/-- A request that passes the checks of the last leg in front of the look-up and names the request token. It
need not be signed. -/
structure FindsToken (s : Settings) (r : OAuthRequest) : Prop where
  version : r.get? "oauth_version" = none ∨ r.get? "oauth_version" = some "1.0"
  consumer : r.get? "oauth_consumer_key" = some s.consumer.key
  verifier : ∃ verifier, r.get? "oauth_verifier" = some verifier
  token : r.get? "oauth_token" = some s.requestToken.key

namespace Check

/-- The checks of the last leg as far as the look-up. -/
def named (s : Settings) (r : OAuthRequest) : List Check :=
  version r :: consumer s.consumer.key r ++ [present r "oauth_verifier"] ++ token .request s.requestToken.key r

end Check

theorem granted_named {s : Settings} {r : OAuthRequest} : Granted (Check.named s r) ↔ FindsToken s r := by
  simp only [Check.named, granted_append, granted_cons, granted_consumer, granted_token, Check.present,
    Option.isSome_iff_exists]
  constructor
  · rintro ⟨⟨⟨hversion, hconsumer⟩, hverifier, -⟩, htoken⟩
    exact ⟨hversion, hconsumer, hverifier, htoken⟩
  · rintro ⟨hversion, hconsumer, hverifier, htoken⟩
    exact ⟨⟨⟨hversion, hconsumer⟩, hverifier, granted_nil⟩, htoken⟩

namespace Provider

variable {s : Settings} {p : Provider}

/-! ## The last leg -/

/-- The last leg as far as the look-up. -/
def lookUp (p : Provider) (r : OAuthRequest) : Except Refusal (Token × Store) := do
  let _ ← p.bearer r
  p.findToken r .request

theorem lookUp_decides (h : p.Fits s) (r : OAuthRequest) :
    Decides (p.lookUp r) (Check.named s r) (p.confirmed .request, p.confirmedStore .request) := by
  have hf := findToken_decides p r .request
  have hk : (p.store.token .request).key = s.requestToken.key := congrArg Credential.key h.store.request
  rw [hk] at hf
  exact (bearer_decides h r).bind fun _ => hf

/-- The look-up is all that the last leg does to the provider. -/
theorem accessToken_snd (p : Provider) (now : Nat) (r : OAuthRequest) :
    (p.accessToken now r).2 =
      match p.lookUp r with
      | .ok (_, store) => p.withStore store
      | .error _ => p := by
  unfold accessToken lookUp
  cases p.bearer r with
  | error e => rfl
  | ok named =>
    obtain ⟨consumer, verifier⟩ := named
    simp only [bind, Except.bind]
    cases p.findToken r .request with
    | error e => rfl
    | ok found =>
      obtain ⟨token, store⟩ := found
      simp only
      cases (p.withStore store).checkSignature now r consumer (some token) with
      | error e => rfl
      | ok _ => cases store.exchange? consumer token verifier <;> rfl

/-- A request that finds the request token confirms the configured callback on it. Any other one leaves the
provider as it is. -/
theorem accessToken_after (h : p.Fits s) (now : Nat) (r : OAuthRequest) :
    (FindsToken s r →
      (p.accessToken now r).2 = p.withRequest (p.store.request.withCallback s.callbackUrl)) ∧
    (¬FindsToken s r → (p.accessToken now r).2 = p) := by
  have hd := lookUp_decides h r
  rw [accessToken_snd, ← granted_named, ← h.store.callbackUrl]
  constructor
  · intro hg
    rw [hd.ok hg]
    rfl
  · intro hg
    rcases granted_or_refused (Check.named s r) with hg' | ⟨e, he⟩
    · exact absurd hg' hg
    · rw [hd.error e he]

/-! ## Refused calls -/

theorem requestToken_refused {now : Nat} {r : OAuthRequest} {e : Refusal}
    (he : (p.requestToken now r).1 = .error e) : (p.requestToken now r).2 = p := by
  unfold requestToken at he ⊢
  cases hn : p.namedRequestToken? r with
  | some found =>
    rw [hn] at he
    cases he
  | none =>
    cases hc : p.signedClient now r with
    | error refusal => rfl
    | ok consumer =>
      simp only [hn, hc] at he ⊢
      cases hi : p.store.issue? consumer (r.get? "oauth_callback") with
      | none => rfl
      | some found =>
        rw [hi] at he
        cases he

theorem authorizeToken_refused {token : Token} {user : String} {e : Refusal}
    (he : (p.authorizeToken token user).1 = .error e) : (p.authorizeToken token user).2 = p := by
  unfold authorizeToken at he ⊢
  cases ha : p.store.authorize? token user with
  | none => rfl
  | some found =>
    rw [ha] at he
    cases he

/-- Where the last leg refuses a request, either a check in front of the look-up did, or the look-up found the
request token. -/
theorem accessToken_refused (h : p.Fits s) {now : Nat} {r : OAuthRequest} {e : Refusal}
    (he : (p.accessToken now r).1 = .error e) :
    (¬FindsToken s r ∧ Refused (Check.named s r) e ∧ (p.accessToken now r).2 = p) ∨
      (FindsToken s r ∧
        (p.accessToken now r).2 = p.withRequest (p.store.request.withCallback s.callbackUrl)) := by
  obtain ⟨hfound, hunfound⟩ := accessToken_after h now r
  by_cases hr : FindsToken s r
  · exact .inr ⟨hr, hfound hr⟩
  · have hrefused := (accessToken_decides h now r).eq_error_iff.mp he
    rw [Check.access, ← Check.named, List.append_assoc, refused_append, granted_named] at hrefused
    rcases hrefused with hn | ⟨hr', -⟩
    · exact .inl ⟨hr, hn, hunfound hr⟩
    · exact absurd hr' hr

/-- Whatever was called before, a call that is refused changes nothing, but for one case: where the last leg
found the request token before it refused the request, that token keeps the configured callback, confirmed.
The access token stays as it was even then. -/
theorem after_refusal (h : Reachable s p) (now : Nat) (r : OAuthRequest) (e : Refusal) :
    ((p.requestToken now r).1 = .error e → (p.requestToken now r).2 = p) ∧
    (∀ token user, (p.authorizeToken token user).1 = .error e → (p.authorizeToken token user).2 = p) ∧
    ((p.accessToken now r).1 = .error e →
      (¬FindsToken s r ∧ Refused (Check.named s r) e ∧ (p.accessToken now r).2 = p) ∨
        (FindsToken s r ∧
          (p.accessToken now r).2 = p.withRequest (p.store.request.withCallback s.callbackUrl))) :=
  ⟨requestToken_refused, fun _ _ => authorizeToken_refused, accessToken_refused h.fits⟩

/-- A wrong signature is found after the look-up, a missing verifier before it. The verifier that the token has
and the user on the other token are kept. -/
theorem after_refusal_late_and_early :
    let s := Settings.standard
    let p := (ofSettings s).run [.attachVerifier .request, .authorizeToken (.ofCredential s.requestToken) "Ann"]
    let url : Url := ⟨"http", some ⟨"", none, .name "localhost", some 5121⟩,
      .segments ["oauth1", "access_token"], none, none⟩
    let late : OAuthRequest := ⟨"POST", url, [("oauth_version", "1.0"), ("oauth_verifier", s.verifier),
      ("oauth_token", s.requestToken.key), ("oauth_token", "other"), ("oauth_nonce", "fresh"),
      ("oauth_timestamp", "1000"), ("oauth_signature_method", "PLAINTEXT"),
      ("oauth_consumer_key", s.consumer.key), ("oauth_signature", "C0nsum3rS3cr3t&")]⟩
    let early : OAuthRequest := ⟨"POST", url, [("oauth_token", s.requestToken.key),
      ("oauth_consumer_key", s.consumer.key)]⟩
    Reachable s p ∧
      ((p.accessToken 1000 late).1 = .error .invalidSignature ∧
        (p.accessToken 1000 late).2 = p.withRequest (p.store.request.withCallback s.callbackUrl)) ∧
      (p.accessToken 1000 early).1 = .error (.missingParameter "oauth_verifier") ∧
        (p.accessToken 1000 early).2 = p := by
  intro s p url late early
  have hp : Reachable s p := ⟨_, rfl⟩
  have hlate : (p.accessToken 1000 late).1 = .error .invalidSignature := by decide +kernel
  have hearly : (p.accessToken 1000 early).1 = .error (.missingParameter "oauth_verifier") := by
    decide +kernel
  have hfinds : FindsToken s late := ⟨.inr (by decide), by decide, ⟨_, rfl⟩, by decide⟩
  have hmisses : ¬FindsToken s early := by
    rintro ⟨-, -, ⟨verifier, hv⟩, -⟩
    cases hv
  refine ⟨hp, ⟨hlate, ?_⟩, hearly, ?_⟩
  · rcases (after_refusal hp 1000 late _).2.2 hlate with ⟨hn, -⟩ | ⟨-, h⟩
    · exact absurd hfinds hn
    · exact h
  · rcases (after_refusal hp 1000 early _).2.2 hearly with ⟨-, -, h⟩ | ⟨hf, -⟩
    · exact h
    · exact absurd hf hmisses

/-- A forged request puts the configured callback in the place of the one that the client gave. -/
theorem forged_request_replaces_callback :
    let s := Settings.standard
    let url : Url := ⟨"http", some ⟨"", none, .name "localhost", some 5121⟩,
      .segments ["oauth1", "access_token"], none, none⟩
    let first : OAuthRequest := ⟨"POST", url, [("oauth_consumer_key", s.consumer.key),
      ("oauth_signature_method", "PLAINTEXT"), ("oauth_timestamp", "1000"), ("oauth_nonce", "n"),
      ("oauth_callback", "oob"), ("oauth_signature", "C0nsum3rS3cr3t&")]⟩
    let forged : OAuthRequest := ⟨"POST", url, [("oauth_consumer_key", s.consumer.key),
      ("oauth_verifier", "guess"), ("oauth_token", s.requestToken.key)]⟩
    let p := (ofSettings s).run [.requestToken 1000 first]
    Reachable s p ∧
      (p.accessToken 1000 forged).1 = .error (.missingParameter "oauth_signature_method") ∧
      p.store.request.callback = some "oob" ∧
      (p.accessToken 1000 forged).2.store.request.callback = some s.callbackUrl := by
  intro s url first forged p
  exact ⟨⟨_, rfl⟩, by decide +kernel, by decide +kernel, by decide +kernel⟩

end Provider
end LoginRehearsal
