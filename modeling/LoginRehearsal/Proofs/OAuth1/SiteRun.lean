import LoginRehearsal.Proofs.OAuth1.Handling

/-!
# Runs of a site

Requests reach a site in any order, signed or not, and in between somebody may take its signals back. The
tokens keep what the settings gave them. What is noted on them stays in step: no handler confirms a callback
that is not there, and the verifier is on the request token just when a user is on the access token, since one
handler notes both.

* `OAuth1Site.step`, `OAuth1Site.run`: what a request or a reset, and a list of them, make of a site.
* `Provider.Consistent`, `OAuth1Site.Consistent`: tokens in step with the settings and with one another.
* `OAuth1Site.Consistent.step`: a step keeps them so.
* `OAuth1Site.run_consistent`: in every state that a run from the beginning reaches they are.
-/
namespace LoginRehearsal

/-- A token whose callback is confirmed just if there is one. -/
def Token.Confirmed (t : Token) : Prop := t.callbackConfirmed = true ↔ t.callback.isSome = true

theorem Token.confirmed_withCallback (t : Token) (callback : String) : (t.withCallback callback).Confirmed :=
  iff_of_true rfl rfl

/-! ## The provider of a site -/

namespace Provider

/-- The tokens of a provider that nothing but a site has used. -/
structure Consistent (s : Settings) (p : Provider) : Prop extends Fits s p where
  request_username : p.store.request.username = none
  request_callback : p.store.request.Confirmed
  access_callback : p.store.access.callback = none
  access_unconfirmed : p.store.access.callbackConfirmed = false
  access_verifier : p.store.access.verifier = none
  verifier : p.store.request.verifier = none ∨ p.store.request.verifier = some s.verifier
  /-- The verifier is the trace of a consent on one token, the user is that on the other. -/
  consent : p.store.request.verifier.isSome = true ↔ p.store.access.username.isSome = true
  username : p.store.access.username ≠ some ""

variable {s : Settings} {p : Provider}

theorem consistent_ofSettings (s : Settings) : (ofSettings s).Consistent s where
  toFits := fits_ofSettings s
  request_username := rfl
  request_callback := iff_of_false Bool.false_ne_true Bool.false_ne_true
  access_callback := rfl
  access_unconfirmed := rfl
  access_verifier := rfl
  verifier := .inl rfl
  consent := iff_of_false Bool.false_ne_true Bool.false_ne_true
  username := nofun

/-- A callback may be confirmed on the request token. -/
theorem Consistent.withCallback (h : p.Consistent s) (callback : String) :
    (p.withRequest (p.store.request.withCallback callback)).Consistent s where
  store := h.store.withToken .request (Token.credential_withCallback _ _)
  threshold := h.threshold
  request_username := h.request_username
  request_callback := Token.confirmed_withCallback _ _
  access_callback := h.access_callback
  access_unconfirmed := h.access_unconfirmed
  access_verifier := h.access_verifier
  verifier := h.verifier
  consent := h.consent
  username := h.username

theorem Consistent.issued (h : p.Consistent s) (r : OAuthRequest) :
    (p.withRequest (p.issued r)).Consistent s := by
  unfold Provider.issued
  cases r.get? "oauth_callback" with
  | none => exact h
  | some callback => exact h.withCallback callback

theorem Consistent.requestToken (h : p.Consistent s) (now : Nat) (r : OAuthRequest) :
    (p.requestToken now r).2.Consistent s := by
  rcases requestToken_cases h.toFits now r with ⟨-, hx⟩ | ⟨-, -, hx⟩ | ⟨-, e, -, hx⟩
  · rw [hx]
    exact h.withCallback s.callbackUrl
  · rw [hx]
    exact h.issued r
  · rw [hx]
    exact h

theorem Consistent.accessToken (h : p.Consistent s) (now : Nat) (r : OAuthRequest) :
    (p.accessToken now r).2.Consistent s := by
  obtain ⟨hfound, hunfound⟩ := accessToken_after h.toFits now r
  by_cases hr : FindsToken s r
  · rw [hfound hr]
    exact h.withCallback s.callbackUrl
  · rw [hunfound hr]
    exact h

/-- The one step that notes a verifier notes a user as well. -/
theorem Consistent.consented (h : p.Consistent s) {username : String} (hu : username ≠ "") :
    (p.consented username).Consistent s where
  store := (h.store.withToken .request (Token.credential_withVerifier _ p.store.verifier)).withToken .access
    (Token.credential_withUsername _ username)
  threshold := h.threshold
  request_username := h.request_username
  request_callback := h.request_callback
  access_callback := h.access_callback
  access_unconfirmed := h.access_unconfirmed
  access_verifier := h.access_verifier
  verifier := .inr (congrArg some h.store.verifier)
  consent := iff_of_true rfl rfl
  username := fun he => hu (Option.some.inj he)

/-- The token that the first leg gives is the one in the store afterwards. -/
theorem requestToken_ok (h : p.Fits s) {now : Nat} {r : OAuthRequest} {token : Token}
    (ht : (p.requestToken now r).1 = .ok token) : (p.requestToken now r).2.store.request = token := by
  rcases requestToken_cases h now r with ⟨-, hx⟩ | ⟨-, -, hx⟩ | ⟨-, e, -, hx⟩
  · rw [hx] at ht ⊢
    exact Except.ok.inj ht
  · rw [hx] at ht ⊢
    exact Except.ok.inj ht
  · rw [hx] at ht
    cases ht

end Provider

/-! ## The site -/

namespace OAuth1Site

/-- What can happen to a site. The time of a request comes with it. -/
inductive Event where
  | request (now : Nat) (r : Http.Request)
  | reset

def step (site : OAuth1Site) : Event → OAuth1Site
  | .request now r => (site.serve now r).2
  | .reset => { site with signals := site.signals.reset }

/-- The site after a list of events. -/
def run (site : OAuth1Site) (events : List Event) : OAuth1Site := events.foldl step site

/-- The sites that events lead to from the beginning. -/
def Reachable (s : Settings) (site : OAuth1Site) : Prop :=
  ∃ signals boundPort events, (ofSettings s signals boundPort).run events = site

/-- A provider whose tokens are in step, and the request token pending, if any is. -/
structure Consistent (s : Settings) (site : OAuth1Site) : Prop where
  provider : site.provider.Consistent s
  pending : ∀ t, site.pending = some t → t.credential = s.requestToken ∧ t.Confirmed

variable {s : Settings} {site : OAuth1Site} {now : Nat} {r : Http.Request}

theorem submitted?_ne_empty {username : String} (h : submitted? r = some username) : username ≠ "" := by
  unfold submitted? at h
  cases hf : r.formFields ["username"] with
  | error rejection =>
    rw [hf] at h
    cases h
  | ok fields =>
    rw [hf] at h
    have hne := (Option.filter_eq_some_iff.mp h).2
    rintro rfl
    exact absurd hne (by decide)

theorem consistent_ofSettings (s : Settings) (signals : LoginSignals) (boundPort : Nat) :
    (ofSettings s signals boundPort).Consistent s where
  provider := Provider.consistent_ofSettings s
  pending := nofun

theorem Consistent.withProvider (h : site.Consistent s) {p : Provider} (hp : p.Consistent s) :
    (site.withProvider p).Consistent s :=
  ⟨hp, h.pending⟩

/-- The page is shown for the request token as it is then. -/
theorem Consistent.showing (h : site.Consistent s) {token : Token}
    (ht : site.provider.store.request = token) : (site.showing token).Consistent s where
  provider := h.provider
  pending := by
    intro t hp
    cases hp
    rw [← ht]
    exact ⟨h.provider.store.request, h.provider.request_callback⟩

theorem Consistent.granted (h : site.Consistent s) (grant : Token → OAuth1Outcome)
    {answer : Except Refusal Token × Provider} (ha : answer.2.Consistent s) :
    (site.granted grant answer).2.Consistent s := by
  cases hx : answer.1 with
  | error refusal =>
    rw [granted_error hx]
    exact h.withProvider ha
  | ok token =>
    rw [granted_ok hx]
    exact h.withProvider ha

/-- A pending token is the request token, so a login reaches the provider's own one. -/
theorem Consistent.pending_key (h : site.Consistent s) {pending : Token} (hp : site.pending = some pending) :
    pending.key = site.provider.store.request.key :=
  congrArg Credential.key ((h.pending pending hp).1.trans h.provider.store.request.symm)

theorem Consistent.acceptLogin (h : site.Consistent s) {pending : Token} {username : String}
    (hp : site.pending = some pending) (hu : username ≠ "") :
    (site.acceptLogin pending username).2.Consistent s := by
  have hc := h.withProvider (h.provider.consented hu)
  rw [acceptLogin_of_key (h.pending_key hp)]
  cases site.provider.store.request.callback with
  | none => exact hc
  | some callback => exact ⟨hc.provider, hc.pending⟩

theorem Consistent.handled (h : site.Consistent s) {x : OAuth1Outcome × OAuth1Site}
    (hx : Handled site now r x) : x.2.Consistent s := by
  cases hx with
  | settled => exact h
  | requestToken _ _ _ => exact h.withProvider (h.provider.requestToken now _)
  | page _ _ ht =>
    exact (h.withProvider (h.provider.requestToken now _)).showing
      (Provider.requestToken_ok h.provider.toFits ht)
  | accessToken _ _ => exact h.granted .accessToken (h.provider.accessToken now _)
  | login _ hu hp => exact h.acceptLogin hp (submitted?_ne_empty hu)

/-- Whatever happens to a site whose tokens are in step, they are so afterwards. -/
theorem Consistent.step (h : site.Consistent s) (event : Event) : (site.step event).Consistent s := by
  cases event with
  | request now r => exact h.handled (decide_handled site now r)
  | reset => exact ⟨h.provider, h.pending⟩

theorem Consistent.run (h : site.Consistent s) (events : List Event) : (site.run events).Consistent s := by
  induction events generalizing site with
  | nil => exact h
  | cons event events ih => exact ih (h.step event)

theorem Reachable.consistent (h : Reachable s site) : site.Consistent s := by
  obtain ⟨signals, boundPort, events, rfl⟩ := h
  exact (consistent_ofSettings s signals boundPort).run events

/-- Under any settings, whatever requests and resets come in whatever order, the tokens of a site are in
step. -/
theorem run_consistent (s : Settings) (signals : LoginSignals) (boundPort : Nat) (events : List Event) :
    ((ofSettings s signals boundPort).run events).Consistent s :=
  (consistent_ofSettings s signals boundPort).run events

end OAuth1Site
end LoginRehearsal
