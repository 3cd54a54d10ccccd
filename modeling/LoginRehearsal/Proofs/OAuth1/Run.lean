import LoginRehearsal.OAuth1.Provider

/-!
# Runs of a provider

A run is a list of calls, accepted or refused, in any order. A call does one operation on the store, or
leaves it as it is, and no operation touches what the settings gave: the client, the keys and secrets of
both tokens, nonce, verifier and callback address.

* `Provider.step`, `Provider.run`: what a call and a list of calls make of a provider.
* `Provider.step_eq`: a call in terms of the operations on the store.
* `Store.Fits`, `Provider.Fits`: a store and a provider under the settings that they began with.
* `Provider.Fits.run`: they stay under them.
-/
namespace LoginRehearsal

/-! ## Tokens -/

namespace Token

/-- What a token is known by. -/
def credential (t : Token) : Credential := ⟨t.key, t.secret⟩

@[simp] theorem credential_withCallback (t : Token) (callback : String) :
    (t.withCallback callback).credential = t.credential := rfl

@[simp] theorem credential_withVerifier (t : Token) (verifier : String) :
    (t.withVerifier verifier).credential = t.credential := rfl

@[simp] theorem credential_withUsername (t : Token) (user : String) :
    (t.withUsername user).credential = t.credential := rfl

end Token

/-! ## Operations on the store -/

namespace Store

/-- The operations that change a store. -/
inductive Operation where
  | lookup (kind : TokenKind) (key : String)
  | issue (consumer : Credential) (callback : Option String)
  | authorize (token : Token) (user : String)
  | attachVerifier (kind : TokenKind)

/-- The store behind an operation, which stays as it was where the operation gives nothing. -/
def after (s : Store) : Option (Token × Store) → Store
  | some (_, next) => next
  | none => s

def step (s : Store) : Operation → Store
  | .lookup kind key => s.after (s.lookup? kind key)
  | .issue consumer callback => s.after (s.issue? consumer callback)
  | .authorize token user => s.after (s.authorize? token user)
  | .attachVerifier kind => (s.attachVerifier kind).2

/-- What the settings gave to a store and no operation changes. -/
structure Fits (settings : Settings) (s : Store) : Prop where
  consumer : s.consumer = settings.consumer
  nonce : s.nonce = settings.nonce
  verifier : s.verifier = settings.verifier
  callbackUrl : s.callbackUrl = settings.callbackUrl
  request : s.request.credential = settings.requestToken
  access : s.access.credential = settings.accessToken

variable {settings : Settings} {s : Store}

theorem fits_ofSettings (settings : Settings) : (ofSettings settings).Fits settings :=
  ⟨rfl, rfl, rfl, rfl, rfl, rfl⟩

/-- Another token of the same credential may take the place of one. -/
theorem Fits.withToken (h : s.Fits settings) (kind : TokenKind) {t : Token}
    (ht : t.credential = (s.token kind).credential) : (s.withToken kind t).Fits settings := by
  cases kind with
  | request => exact ⟨h.consumer, h.nonce, h.verifier, h.callbackUrl, ht.trans h.request, h.access⟩
  | access => exact ⟨h.consumer, h.nonce, h.verifier, h.callbackUrl, h.request, ht.trans h.access⟩

theorem Fits.lookup (h : s.Fits settings) (kind : TokenKind) (key : String) :
    (s.after (s.lookup? kind key)).Fits settings := by
  unfold lookup?
  split
  · exact h.withToken kind (Token.credential_withCallback _ _)
  · exact h

theorem Fits.issue (h : s.Fits settings) (consumer : Credential) (callback : Option String) :
    (s.after (s.issue? consumer callback)).Fits settings := by
  unfold issue?
  split
  · cases callback with
    | none => exact h.withToken .request rfl
    | some callback => exact h.withToken .request (Token.credential_withCallback _ _)
  · exact h

theorem Fits.authorize (h : s.Fits settings) (token : Token) (user : String) :
    (s.after (s.authorize? token user)).Fits settings := by
  unfold authorize?
  split
  · exact h.withToken .access (Token.credential_withUsername _ _)
  · exact h

theorem Fits.step (h : s.Fits settings) (op : Operation) : (s.step op).Fits settings := by
  cases op with
  | lookup kind key => exact h.lookup kind key
  | issue consumer callback => exact h.issue consumer callback
  | authorize token user => exact h.authorize token user
  | attachVerifier kind => exact h.withToken kind (Token.credential_withVerifier _ _)

end Store

/-! ## Calls -/

namespace Provider

/-- One call. The store can also be used past the checks of the provider. -/
inductive Call where
  | requestToken (now : Nat) (r : OAuthRequest)
  | accessToken (now : Nat) (r : OAuthRequest)
  | authorizeToken (token : Token) (user : String)
  | attachVerifier (kind : TokenKind)
  | store (op : Store.Operation)

def step (p : Provider) : Call → Provider
  | .requestToken now r => (p.requestToken now r).2
  | .accessToken now r => (p.accessToken now r).2
  | .authorizeToken token user => (p.authorizeToken token user).2
  | .attachVerifier kind => (p.attachVerifier kind).2
  | .store op => p.withStore (p.store.step op)

/-- The provider after a list of calls. -/
def run (p : Provider) (calls : List Call) : Provider := calls.foldl step p

/-- The providers that calls lead to from the beginning. -/
def Reachable (settings : Settings) (p : Provider) : Prop :=
  ∃ calls, (ofSettings settings).run calls = p

variable {settings : Settings} {p : Provider}

/-! ## One operation for a call -/

theorem requestToken_store (p : Provider) (now : Nat) (r : OAuthRequest) :
    (p.requestToken now r).2 = p ∨ ∃ op, (p.requestToken now r).2 = p.withStore (p.store.step op) := by
  unfold requestToken namedRequestToken?
  split
  · next token store h =>
    obtain ⟨key, -, hk⟩ := Option.bind_eq_some_iff.mp h
    right
    exact ⟨.lookup .request key, by simp only [Store.step, hk, Store.after]⟩
  · split
    · exact .inl rfl
    · next consumer _ =>
      split
      · next token store h =>
        right
        exact ⟨.issue consumer (r.get? "oauth_callback"), by simp only [Store.step, h, Store.after]⟩
      · exact .inl rfl

theorem findToken_eq_ok {r : OAuthRequest} {kind : TokenKind} {found : Token × Store}
    (h : p.findToken r kind = .ok found) : ∃ key, p.store.lookup? kind key = some found := by
  unfold findToken at h
  cases hk : r.require "oauth_token" with
  | error e =>
    rw [hk] at h
    cases h
  | ok key =>
    rw [hk] at h
    simp only [bind, Except.bind] at h
    split at h
    · next found' hl =>
      cases h
      exact ⟨key, hl⟩
    · cases h

theorem accessToken_store (p : Provider) (now : Nat) (r : OAuthRequest) :
    (p.accessToken now r).2 = p ∨ ∃ op, (p.accessToken now r).2 = p.withStore (p.store.step op) := by
  unfold accessToken
  split
  · exact .inl rfl
  · split
    · exact .inl rfl
    · next token store h =>
      -- whatever the later checks say, the look-up is what remains
      obtain ⟨key, hk⟩ := findToken_eq_ok h
      right
      refine ⟨.lookup .request key, ?_⟩
      simp only [Store.step, hk, Store.after]
      split
      · rfl
      · split <;> rfl

/-- A call does one operation on the store, or none. -/
theorem step_eq (p : Provider) (c : Call) :
    p.step c = p ∨ ∃ op, p.step c = p.withStore (p.store.step op) := by
  cases c with
  | requestToken now r => exact requestToken_store p now r
  | accessToken now r => exact accessToken_store p now r
  | authorizeToken token user =>
    right
    refine ⟨.authorize token user, ?_⟩
    simp only [step, authorizeToken, Store.step]
    cases p.store.authorize? token user <;> rfl
  | attachVerifier kind => exact .inr ⟨.attachVerifier kind, rfl⟩
  | store op => exact .inr ⟨op, rfl⟩

/-! ## What no call changes -/

/-- What the settings gave to a provider and no call changes. -/
structure Fits (settings : Settings) (p : Provider) : Prop where
  store : p.store.Fits settings
  threshold : p.timestampThreshold = settings.timestampThreshold

theorem fits_ofSettings (settings : Settings) : (ofSettings settings).Fits settings :=
  ⟨Store.fits_ofSettings settings, rfl⟩

theorem Fits.step (h : p.Fits settings) (c : Call) : (p.step c).Fits settings := by
  rcases step_eq p c with hs | ⟨op, hs⟩
  · rw [hs]
    exact h
  · rw [hs]
    exact ⟨h.store.step op, h.threshold⟩

/-- Every run stays under the settings. -/
theorem Fits.run (h : p.Fits settings) (calls : List Call) : (p.run calls).Fits settings := by
  induction calls generalizing p with
  | nil => exact h
  | cons c calls ih => exact ih (h.step c)

theorem Reachable.fits (h : Reachable settings p) : p.Fits settings := by
  obtain ⟨calls, rfl⟩ := h
  exact (fits_ofSettings settings).run calls

end Provider
end LoginRehearsal
