import LoginRehearsal.OAuth1.Site
import LoginRehearsal.Proofs.OAuth1.Refused

/-!
# How the site handles a request

A request comes to one of five things. It may be settled with the site as it is. It may be given the request
token, or shown the login page for that token. It may ask for the access token, which can leave a trace even if
it is refused. Or it names a user for the pending token. What is said about the site in general is said about
each of the five.

* `OAuth1Site.Handled`: the five, each with the requests that come to it.
* `OAuth1Site.decide_handled`: there is no other.
* `OAuth1Site.submitted?`: the user name that the form of a request gives.
-/
namespace LoginRehearsal

/-! ## Routes -/

namespace OAuth1Route

/-- A request that is posted to a route. -/
def Posted (route : OAuth1Route) (r : Http.Request) : Prop :=
  r.method = "POST" ∧ r.target.route = route.path

/-- A request for the login page: the path goes on from that of the page, or is that path. -/
def AsksForPage (r : Http.Request) : Prop :=
  r.method = "GET" ∧ authorize.path.toList.isPrefixOf r.target.route.toList = true

theorem find?_path (route : OAuth1Route) : find? route.path = some route := by
  cases route <;> decide

theorem path_of_find? {path : String} {route : OAuth1Route} (h : find? path = some route) :
    path = route.path := by
  have := List.find?_some h
  exact (beq_iff_eq.mp this).symm

end OAuth1Route

/-! ## Answers -/

namespace Http

theorem Response.status_finished (answer : Response) (method : String) :
    (answer.finished method).status = answer.status := rfl

theorem Rejection.le_status (rejection : Rejection) : 400 ≤ rejection.response.status := by
  cases rejection <;> exact Nat.le_of_ble_eq_true rfl

end Http

theorem OAuth1Site.status_unauthorized (site : OAuth1Site) (refusal : Refusal) :
    (site.unauthorized refusal).status = 401 := by
  unfold unauthorized
  simp only
  split <;> rfl

/-- What a request can come to while the site stays as it is. -/
def OAuth1Outcome.settled : OAuth1Outcome → Bool
  | .health => true
  | .head => true
  | .notFound => true
  | .methodNotAllowed _ => true
  | .rejected _ => true
  | .refused _ => true
  | .missingUsername => true
  | .nothingPending => true
  | .requestToken _ => false
  | .accessToken _ => false
  | .loginPage _ => false
  | .noCallback => false
  | .loggedIn _ _ => false

namespace Provider

/-- The provider once a user has consented: the request token has its verifier, and the access token the
user. -/
def consented (p : Provider) (username : String) : Provider :=
  p.withStore { p.store with
    request := p.store.request.withVerifier p.store.verifier
    access := p.store.access.withUsername username }

end Provider

namespace OAuth1Site

open OAuth1Route

variable {site : OAuth1Site} {now : Nat} {r : Http.Request}

/-! ## The handlers -/

/-- The user name that the form of a request gives. The empty name is none. -/
def submitted? (r : Http.Request) : Option String :=
  match r.formFields ["username"] with
  | .error _ => none
  | .ok fields => (Http.field? fields "username").filter (!·.isEmpty)

/-- The site with another provider. -/
def withProvider (site : OAuth1Site) (provider : Provider) : OAuth1Site := { site with provider }

/-- The site once the login page has been shown for a token. -/
def showing (site : OAuth1Site) (token : Token) : OAuth1Site :=
  { site with
    pending := some token
    signals := site.signals.set .showLogin }

/-- The site once a login form has been accepted. -/
def done (site : OAuth1Site) : OAuth1Site := { site with signals := site.signals.set .loginDone }

/-- What is put together from a request with a body. -/
def Arrives (site : OAuth1Site) (r : Http.Request) (q : OAuthRequest) : Prop :=
  ∃ body, r.bodyText = .ok body ∧ site.oauthRequest r (some body) = .ok q

theorem Arrives.unique {q q' : OAuthRequest} (h : site.Arrives r q) (h' : site.Arrives r q') : q = q' := by
  obtain ⟨body, hb, hq⟩ := h
  obtain ⟨body', hb', hq'⟩ := h'
  rw [hb] at hb'
  cases hb'
  rw [hq] at hq'
  exact Except.ok.inj hq'

theorem granted_ok {grant : Token → OAuth1Outcome} {answer : Except Refusal Token × Provider} {token : Token}
    (h : answer.1 = .ok token) : site.granted grant answer = (grant token, site.withProvider answer.2) := by
  unfold granted
  rw [h]
  rfl

theorem granted_error {grant : Token → OAuth1Outcome} {answer : Except Refusal Token × Provider}
    {refusal : Refusal} (h : answer.1 = .error refusal) :
    site.granted grant answer = (.refused refusal, site.withProvider answer.2) := by
  unfold granted
  rw [h]
  rfl

theorem tokenRequest_of_arrives {q : OAuthRequest} (h : site.Arrives r q) (grant : Token → OAuth1Outcome)
    (ask : OAuthRequest → Except Refusal Token × Provider) :
    site.tokenRequest r grant ask = site.granted grant (ask q) := by
  obtain ⟨body, hb, hq⟩ := h
  unfold tokenRequest
  rw [hb]
  simp only [hq]

/-- A request for a token arrives, or it is settled. -/
theorem tokenRequest_cases (site : OAuth1Site) (r : Http.Request) (grant : Token → OAuth1Outcome)
    (ask : OAuthRequest → Except Refusal Token × Provider) :
    (∃ q, site.Arrives r q) ∨
    (∃ rejection, site.tokenRequest r grant ask = (.rejected rejection, site)) ∨
    ∃ refusal, site.tokenRequest r grant ask = (.refused refusal, site) := by
  unfold tokenRequest
  cases hb : r.bodyText with
  | error rejection => exact .inr (.inl ⟨rejection, rfl⟩)
  | ok body =>
    simp only
    cases hq : site.oauthRequest r (some body) with
    | error refusal => exact .inr (.inr ⟨refusal, rfl⟩)
    | ok q => exact .inl ⟨q, body, hb, hq⟩

/-- A request for the login page is refused, and nothing changes, or the page is shown. -/
theorem authorize_cases (site : OAuth1Site) (now : Nat) (r : Http.Request) :
    (∃ refusal, site.authorize now r = (.refused refusal, site)) ∨
    ∃ q token, site.oauthRequest r none = .ok q ∧ (site.provider.requestToken now q).1 = .ok token ∧
      site.authorize now r =
        (.loginPage token, (site.withProvider (site.provider.requestToken now q).2).showing token) := by
  unfold authorize
  cases hq : site.oauthRequest r none with
  | error refusal => exact .inl ⟨refusal, rfl⟩
  | ok q =>
    simp only
    cases ht : (site.provider.requestToken now q).1 with
    | error refusal =>
      rw [granted_error ht, Provider.requestToken_refused ht]
      exact .inl ⟨refusal, rfl⟩
    | ok token =>
      rw [granted_ok ht]
      exact .inr ⟨q, token, rfl, ht, rfl⟩

theorem login_some {username : String} {pending : Token} (hu : submitted? r = some username)
    (hp : site.pending = some pending) : site.login r = site.acceptLogin pending username := by
  unfold submitted? at hu
  unfold login
  cases hf : r.formFields ["username"] with
  | error rejection =>
    rw [hf] at hu
    cases hu
  | ok fields =>
    rw [hf] at hu
    simp only [hu, hp]

/-- Without a user name or a pending token a form is settled. -/
theorem login_none (h : submitted? r = none ∨ site.pending = none) :
    ∃ o : OAuth1Outcome, site.login r = (o, site) ∧
      (o = .missingUsername ∨ o = .nothingPending ∨
        ∃ rejection, r.formFields ["username"] = .error rejection ∧ o = .rejected rejection) := by
  unfold submitted? at h
  unfold login
  cases hf : r.formFields ["username"] with
  | error rejection => exact ⟨_, rfl, .inr (.inr ⟨rejection, rfl, rfl⟩)⟩
  | ok fields =>
    rw [hf] at h
    cases hu : (Http.field? fields "username").filter (!·.isEmpty) with
    | none => exact ⟨_, by simp only [hu], .inl rfl⟩
    | some username =>
      have hp : site.pending = none := h.resolve_left (by simp [hu])
      exact ⟨_, by simp only [hu, hp], .inr (.inl rfl)⟩

/-- The consent of a user to the token that the provider has. Both tokens change before it is known whether
there is a callback to go to. -/
theorem acceptLogin_of_key {pending : Token} (h : pending.key = site.provider.store.request.key)
    (username : String) :
    site.acceptLogin pending username =
      match site.provider.store.request.callback with
      | none => (.noCallback, site.withProvider (site.provider.consented username))
      | some callback =>
        (.loggedIn username (Token.callbackWith callback site.provider.store.verifier),
          (site.withProvider (site.provider.consented username)).done) := by
  -- the verifier is on the token by now, so a callback always gets it
  have hurl : (site.provider.store.request.withVerifier site.provider.store.verifier).callbackUrl =
      site.provider.store.request.callback.map (Token.callbackWith · site.provider.store.verifier) := rfl
  have haccept : site.acceptLogin pending username =
      match (site.provider.store.request.withVerifier site.provider.store.verifier).callbackUrl with
      | none => (.noCallback, site.withProvider (site.provider.consented username))
      | some location =>
        (.loggedIn username location, (site.withProvider (site.provider.consented username)).done) := by
    unfold acceptLogin
    rw [Provider.authorizeToken_of_key h]
    rfl
  rw [haccept, hurl]
  cases site.provider.store.request.callback <;> rfl

/-! ## Which handler it is -/

theorem decide_posted {route : OAuth1Route} (h : route.Posted r) :
    site.decide now r = site.handle now route r := by
  unfold decide
  rw [h.2, find?_path]

theorem decide_requestToken (h : OAuth1Route.requestToken.Posted r) :
    site.decide now r = site.tokenRequest r .requestToken (site.provider.requestToken now) := by
  rw [decide_posted h]
  unfold handle
  rw [h.1]
  rfl

theorem decide_login (h : OAuth1Route.login.Posted r) : site.decide now r = site.login r := by
  rw [decide_posted h]
  unfold handle
  rw [h.1]
  rfl

theorem serve_of_decide {x : OAuth1Outcome × OAuth1Site} (h : site.decide now r = x) :
    site.serve now r = ((site.respond x.1).finished r.method, x.2) := by
  unfold serve
  rw [h]

/-! ## All that a request can come to -/

/-- What a request comes to, and the site after it. -/
inductive Handled (site : OAuth1Site) (now : Nat) (r : Http.Request) : OAuth1Outcome × OAuth1Site → Prop where
  /-- It is settled, and the site stays as it is. -/
  | settled {o : OAuth1Outcome} (h : o.settled = true) : Handled site now r (o, site)
  /-- It is given the request token. -/
  | requestToken {q : OAuthRequest} {token : Token} (h : OAuth1Route.requestToken.Posted r)
      (hq : site.Arrives r q)
      (ht : (site.provider.requestToken now q).1 = .ok token) :
      Handled site now r (.requestToken token, site.withProvider (site.provider.requestToken now q).2)
  /-- It is shown the login page. -/
  | page {q : OAuthRequest} {token : Token} (h : AsksForPage r) (hq : site.oauthRequest r none = .ok q)
      (ht : (site.provider.requestToken now q).1 = .ok token) :
      Handled site now r
        (.loginPage token, (site.withProvider (site.provider.requestToken now q).2).showing token)
  /-- It asks for the access token. -/
  | accessToken {q : OAuthRequest} (h : OAuth1Route.accessToken.Posted r) (hq : site.Arrives r q) :
      Handled site now r (site.granted .accessToken (site.provider.accessToken now q))
  /-- It names a user for the pending token. -/
  | login {username : String} {pending : Token} (h : OAuth1Route.login.Posted r)
      (hu : submitted? r = some username) (hp : site.pending = some pending) :
      Handled site now r (site.acceptLogin pending username)

theorem authorize_handled (h : AsksForPage r) : Handled site now r (site.authorize now r) := by
  rcases authorize_cases site now r with ⟨refusal, ha⟩ | ⟨q, token, hq, ht, ha⟩
  · rw [ha]
    exact .settled rfl
  · rw [ha]
    exact .page h hq ht

theorem requestToken_handled (h : OAuth1Route.requestToken.Posted r) :
    Handled site now r (site.tokenRequest r .requestToken (site.provider.requestToken now)) := by
  rcases tokenRequest_cases site r .requestToken (site.provider.requestToken now) with
    ⟨q, hq⟩ | ⟨rejection, hx⟩ | ⟨refusal, hx⟩
  · rw [tokenRequest_of_arrives hq]
    cases ht : (site.provider.requestToken now q).1 with
    | error refusal =>
      rw [granted_error ht, Provider.requestToken_refused ht]
      exact .settled rfl
    | ok token =>
      rw [granted_ok ht]
      exact .requestToken h hq ht
  · rw [hx]
    exact .settled rfl
  · rw [hx]
    exact .settled rfl

theorem accessToken_handled (h : OAuth1Route.accessToken.Posted r) :
    Handled site now r (site.tokenRequest r .accessToken (site.provider.accessToken now)) := by
  rcases tokenRequest_cases site r .accessToken (site.provider.accessToken now) with
    ⟨q, hq⟩ | ⟨rejection, hx⟩ | ⟨refusal, hx⟩
  · rw [tokenRequest_of_arrives hq]
    exact .accessToken h hq
  · rw [hx]
    exact .settled rfl
  · rw [hx]
    exact .settled rfl

theorem login_handled (h : OAuth1Route.login.Posted r) : Handled site now r (site.login r) := by
  by_cases hn : submitted? r = none ∨ site.pending = none
  · obtain ⟨o, ho, hcases⟩ := login_none hn
    rw [ho]
    rcases hcases with rfl | rfl | ⟨rejection, -, rfl⟩ <;> exact .settled rfl
  · rw [not_or, ← ne_eq, ← ne_eq, Option.ne_none_iff_exists', Option.ne_none_iff_exists'] at hn
    obtain ⟨⟨username, hu⟩, pending, hp⟩ := hn
    rw [login_some hu hp]
    exact .login h hu hp

theorem handle_handled {route : OAuth1Route} (h : r.target.route = route.path) :
    Handled site now r (site.handle now route r) := by
  unfold handle
  split
  · exact .settled rfl
  · exact .settled rfl
  · next hm =>
    refine authorize_handled ⟨hm, ?_⟩
    rw [h]
    decide
  · exact .settled rfl
  · next hm => exact requestToken_handled ⟨hm, h⟩
  · next hm => exact accessToken_handled ⟨hm, h⟩
  · next hm => exact login_handled ⟨hm, h⟩
  · exact .settled rfl

theorem fallback_handled : Handled site now r (site.fallback now r) := by
  unfold fallback
  split
  · exact .settled rfl
  · split
    · next h => exact authorize_handled h
    · exact .settled rfl

/-- Every request is handled in one of the five ways. -/
theorem decide_handled (site : OAuth1Site) (now : Nat) (r : Http.Request) :
    Handled site now r (site.decide now r) := by
  unfold decide
  split
  · next route hf => exact handle_handled (path_of_find? hf)
  · exact fallback_handled

end OAuth1Site
end LoginRehearsal
