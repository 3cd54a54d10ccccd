import LoginRehearsal.Proofs.OAuth1.LoginForm
import Mathlib.Data.List.Induction

/-!
# The history of a site

A test sees of a site only what it answers. So a run is written down as its requests with their answers, and
the resets in between, the latest first. Two answers come with a change that the login depends on: the page
that is shown, and the form that is accepted. After every other one the pending token and the signals are as
they were, so both can be read off the history.

* `OAuth1Site.Entry`, `OAuth1Site.history`: what is written down of an event, and of a run.
* `OAuth1Site.Served`: how a request is answered, and what it leaves behind; `Consistent.served`: there is no
  other way.
* `OAuth1Site.Progress`, `Served.progress`: what an answer tells about the pending token and the signals.
* `OAuth1Site.pendingSince_run`: a token is pending just if the history has the page in it.
-/
namespace LoginRehearsal

namespace OAuth1Route

instance (route : OAuth1Route) (r : Http.Request) : Decidable (route.Posted r) :=
  inferInstanceAs (Decidable (_ ∧ _))

instance (r : Http.Request) : Decidable (AsksForPage r) := inferInstanceAs (Decidable (_ ∧ _))

theorem AsksForPage.not_posted {r : Http.Request} (h : AsksForPage r) (route : OAuth1Route) :
    ¬route.Posted r := by
  intro hr
  have hm := hr.1
  rw [h.1] at hm
  exact absurd hm (by decide)

/-- Of the routes only that of the page has a path that begins like its own. -/
theorem eq_authorize_of_prefix {route : OAuth1Route}
    (h : authorize.path.toList.isPrefixOf route.path.toList = true) : route = authorize := by
  cases route with
  | authorize => rfl
  | health => exact absurd h (by decide)
  | requestToken => exact absurd h (by decide)
  | accessToken => exact absurd h (by decide)
  | login => exact absurd h (by decide)

end OAuth1Route

namespace Provider

variable {s : Settings} {p : Provider}

/-- What the token endpoints and the page make of a provider: at most the request token has changed, and a
callback on it is replaced, not taken away. -/
structure Keeps (p after : Provider) : Prop where
  access : after.store.access = p.store.access
  callback : p.store.request.callback ≠ none → after.store.request.callback ≠ none

theorem Keeps.refl (p : Provider) : p.Keeps p := ⟨rfl, id⟩

theorem keeps_withCallback (p : Provider) (callback : String) :
    p.Keeps (p.withRequest (p.store.request.withCallback callback)) :=
  ⟨rfl, fun _ => Option.some_ne_none callback⟩

theorem keeps_issued (p : Provider) (r : OAuthRequest) : p.Keeps (p.withRequest (p.issued r)) := by
  unfold issued
  cases r.get? "oauth_callback" with
  | none => exact ⟨rfl, id⟩
  | some callback => exact keeps_withCallback p callback

theorem keeps_requestToken (h : p.Fits s) (now : Nat) (r : OAuthRequest) :
    p.Keeps (p.requestToken now r).2 := by
  rcases requestToken_cases h now r with ⟨-, hx⟩ | ⟨-, -, hx⟩ | ⟨-, e, -, hx⟩
  · rw [hx]
    exact keeps_withCallback p s.callbackUrl
  · rw [hx]
    exact keeps_issued p r
  · rw [hx]
    exact .refl p

theorem keeps_accessToken (h : p.Fits s) (now : Nat) (r : OAuthRequest) :
    p.Keeps (p.accessToken now r).2 := by
  obtain ⟨hfound, hunfound⟩ := accessToken_after h now r
  by_cases hr : FindsToken s r
  · rw [hfound hr]
    exact keeps_withCallback p s.callbackUrl
  · rw [hunfound hr]
    exact .refl p

end Provider

theorem Http.Rejection.status_ne_401 (rejection : Http.Rejection) : rejection.response.status ≠ 401 := by
  cases rejection <;> exact Nat.ne_of_beq_eq_false rfl

namespace OAuth1Site

open OAuth1Route

variable {s : Settings} {site : OAuth1Site} {now : Nat} {r : Http.Request}

/-! ## Histories -/

/-- What is written down of an event. -/
inductive Entry where
  | answered (r : Http.Request) (answer : Http.Response)
  | reset

namespace Entry

/-- The login page was asked for and shown. -/
def ShowsPage : Entry → Prop
  | .answered r answer => AsksForPage r ∧ answer.status = 200
  | .reset => False

/-- A login form was posted and accepted. -/
def AcceptsLogin : Entry → Prop
  | .answered r answer => OAuth1Route.login.Posted r ∧ answer.status = 301
  | .reset => False

instance : DecidablePred ShowsPage
  | .answered _ _ => inferInstanceAs (Decidable (_ ∧ _))
  | .reset => .isFalse id

instance : DecidablePred AcceptsLogin
  | .answered _ _ => inferInstanceAs (Decidable (_ ∧ _))
  | .reset => .isFalse id

end Entry

def entry (site : OAuth1Site) : Event → Entry
  | .request now r => .answered r (site.serve now r).1
  | .reset => .reset

/-- The entries of a list of events, put in front of earlier ones. -/
def recordOnto (site : OAuth1Site) (earlier : List Entry) : List Event → List Entry
  | [] => earlier
  | event :: events => (site.step event).recordOnto (site.entry event :: earlier) events

/-- The history of a run, the latest entry first. -/
def history (site : OAuth1Site) (events : List Event) : List Entry := site.recordOnto [] events

theorem run_concat (site : OAuth1Site) (events : List Event) (event : Event) :
    site.run (events ++ [event]) = (site.run events).step event :=
  List.foldl_concat step site event events

theorem recordOnto_concat (site : OAuth1Site) (earlier : List Entry) (events : List Event) (event : Event) :
    site.recordOnto earlier (events ++ [event]) =
      (site.run events).entry event :: site.recordOnto earlier events := by
  induction events generalizing site earlier with
  | nil => rfl
  | cons first events ih => exact ih (site.step first) (site.entry first :: earlier)

theorem history_concat (site : OAuth1Site) (events : List Event) (event : Event) :
    site.history (events ++ [event]) = (site.run events).entry event :: site.history events :=
  recordOnto_concat site [] events event

/-! ## Answers -/

theorem decide_page (h : AsksForPage r) : site.decide now r = site.authorize now r := by
  unfold decide
  split
  · next route hf =>
    have hpath := path_of_find? hf
    have hroute : route = .authorize := eq_authorize_of_prefix (hpath ▸ h.2)
    subst hroute
    unfold handle
    rw [h.1]
    rfl
  · next hf =>
    unfold fallback
    rw [if_neg (by rw [h.1]; decide)]
    exact if_pos h

/-- How a request is answered, and the site after it. -/
inductive Served (site : OAuth1Site) (r : Http.Request) : Http.Response × OAuth1Site → Prop where
  /-- It is about neither the page nor the form. -/
  | other {answer : Http.Response} {p : Provider} (hp : ¬AsksForPage r) (hl : ¬OAuth1Route.login.Posted r)
      (hk : site.provider.Keeps p) : Served site r (answer, site.withProvider p)
  /-- The page is not shown. -/
  | pageRefused {answer : Http.Response} (hp : AsksForPage r) (hstatus : answer.status = 401) :
      Served site r (answer, site)
  /-- The page is shown for the request token. -/
  | page {answer : Http.Response} {p : Provider} (hp : AsksForPage r) (hstatus : answer.status = 200)
      (hk : site.provider.Keeps p) :
      Served site r (answer, (site.withProvider p).showing p.store.request)
  /-- The form names no user, or no token is pending. -/
  | formRefused {answer : Http.Response} (hl : OAuth1Route.login.Posted r)
      (hn : submitted? r = none ∨ site.pending = none) (hstatus : 400 ≤ answer.status)
      (hrefusal : answer.status ≠ 401) : Served site r (answer, site)
  /-- The user has consented, and cannot be sent anywhere. -/
  | noCallback {username : String} (hl : OAuth1Route.login.Posted r) (hu : submitted? r = some username)
      (hp : site.pending ≠ none) (hc : site.provider.store.request.callback = none) :
      Served site r ((Http.Response.plain 400 "Token has no callback").finished r.method,
        site.withProvider (site.provider.consented username))
  /-- The user has consented and is sent back. -/
  | accepted {answer : Http.Response} {username : String} (hl : OAuth1Route.login.Posted r)
      (hu : submitted? r = some username) (hp : site.pending ≠ none)
      (hc : site.provider.store.request.callback ≠ none) (hstatus : answer.status = 301) :
      Served site r (answer, (site.withProvider (site.provider.consented username)).done)

theorem Consistent.served_page (h : site.Consistent s) (hp : AsksForPage r) :
    site.Served r (site.serve now r) := by
  rcases authorize_cases site now r with ⟨refusal, ha⟩ | ⟨q, token, -, ht, ha⟩
  · rw [serve_of_decide ((decide_page hp).trans ha)]
    exact .pageRefused hp (site.status_unauthorized refusal)
  · rw [serve_of_decide ((decide_page hp).trans ha),
      ← Provider.requestToken_ok h.provider.toFits ht]
    exact .page hp rfl (Provider.keeps_requestToken h.provider.toFits now q)

theorem Consistent.served_login (h : site.Consistent s) (hl : OAuth1Route.login.Posted r) :
    site.Served r (site.serve now r) := by
  by_cases hn : submitted? r = none ∨ site.pending = none
  · obtain ⟨o, ho, hcases⟩ := login_none hn
    rw [serve_login hl, ho]
    rcases hcases with rfl | rfl | ⟨rejection, -, rfl⟩
    · exact .formRefused hl hn (Nat.le_refl 400) (by decide : (400 : Nat) ≠ 401)
    · exact .formRefused hl hn (Nat.le_refl 400) (by decide : (400 : Nat) ≠ 401)
    · exact .formRefused hl hn rejection.le_status rejection.status_ne_401
  · rw [not_or, ← ne_eq, ← ne_eq] at hn
    obtain ⟨username, hu⟩ := Option.ne_none_iff_exists'.mp hn.1
    obtain ⟨pending, hp⟩ := Option.ne_none_iff_exists'.mp hn.2
    cases hc : site.provider.store.request.callback with
    | none =>
      rw [h.serve_login_noCallback hl hu hp hc]
      exact .noCallback hl hu hn.2 hc
    | some callback =>
      rw [h.serve_login_callback hl hu hp hc]
      refine .accepted hl hu hn.2 (hc ▸ Option.some_ne_none callback) ?_
      rw [Http.Response.status_finished, LoginPage.status_redirect]

theorem Consistent.served_other (h : site.Consistent s) (hp : ¬AsksForPage r)
    (hl : ¬OAuth1Route.login.Posted r) : site.Served r (site.serve now r) := by
  have hfits := h.provider.toFits
  have hd := decide_handled site now r
  generalize hx : site.decide now r = x at hd
  rw [serve_of_decide hx]
  cases hd with
  | settled => exact .other hp hl (.refl site.provider)
  | requestToken _ _ _ => exact .other hp hl (Provider.keeps_requestToken hfits now _)
  | page hpage _ _ => exact absurd hpage hp
  | @accessToken q _ _ =>
    have hk := Provider.keeps_accessToken hfits now q
    cases ha : (site.provider.accessToken now q).1 with
    | error refusal =>
      rw [granted_error ha]
      exact .other hp hl hk
    | ok token =>
      rw [granted_ok ha]
      exact .other hp hl hk
  | login hlogin _ _ => exact absurd hlogin hl

/-- Every request is answered in one of these ways. -/
theorem Consistent.served (h : site.Consistent s) (now : Nat) (r : Http.Request) :
    site.Served r (site.serve now r) := by
  by_cases hp : AsksForPage r
  · exact h.served_page hp
  · by_cases hl : OAuth1Route.login.Posted r
    · exact h.served_login hl
    · exact h.served_other hp hl

/-! ## What an answer tells -/

/-- A form with a user is accepted: a token is pending, and the request token has a callback. -/
structure Ready (site : OAuth1Site) : Prop where
  pending : site.pending ≠ none
  callback : site.provider.store.request.callback ≠ none

/-- What the answer to a request tells about the pending token and the signals. -/
inductive Progress (site : OAuth1Site) (r : Http.Request) (x : Http.Response × OAuth1Site) : Prop where
  | page (h : (Entry.answered r x.1).ShowsPage) (hl : ¬(Entry.answered r x.1).AcceptsLogin)
      (pending : x.2.pending = some x.2.provider.store.request)
      (signals : x.2.signals = site.signals.set .showLogin)
  | login (h : (Entry.answered r x.1).AcceptsLogin) (hp : ¬(Entry.answered r x.1).ShowsPage)
      (was : site.Ready) (pending : x.2.pending = site.pending)
      (signals : x.2.signals = site.signals.set .loginDone)
  | none (hp : ¬(Entry.answered r x.1).ShowsPage) (hl : ¬(Entry.answered r x.1).AcceptsLogin)
      (pending : x.2.pending = site.pending) (signals : x.2.signals = site.signals)

theorem Served.progress {x : Http.Response × OAuth1Site} (h : site.Served r x) : site.Progress r x := by
  cases h with
  | other hp hl hk => exact .none (fun h => hp h.1) (fun h => hl h.1) rfl rfl
  | pageRefused hp hstatus =>
    refine .none (fun h => ?_) (fun h => hp.not_posted _ h.1) rfl rfl
    exact absurd (hstatus.symm.trans h.2) (by decide)
  | page hp hstatus hk => exact .page ⟨hp, hstatus⟩ (fun h => hp.not_posted _ h.1) rfl rfl
  | formRefused hl hn hstatus _ =>
    refine .none (fun h => h.1.not_posted _ hl) (fun h => ?_) rfl rfl
    exact absurd (h.2 ▸ hstatus) (by decide)
  | noCallback hl hu hp hc =>
    refine .none (fun h => h.1.not_posted _ hl) (fun h => ?_) rfl rfl
    exact absurd h.2 (by decide : (400 : Nat) ≠ 301)
  | accepted hl hu hp hc hstatus => exact .login ⟨hl, hstatus⟩ (fun h => h.1.not_posted _ hl) ⟨hp, hc⟩ rfl rfl

/-! ## Runs -/

/-- A token is pending just if the page has been shown. -/
def PendingSince (site : OAuth1Site) (history : List Entry) : Prop :=
  site.pending ≠ none ↔ ∃ x ∈ history, x.ShowsPage

theorem PendingSince.progress {history : List Entry} (h : site.PendingSince history)
    {x : Http.Response × OAuth1Site} (hx : site.Progress r x) :
    x.2.PendingSince (.answered r x.1 :: history) := by
  unfold PendingSince at h ⊢
  cases hx with
  | page hpage _ hp _ => simp [hp, hpage]
  | login _ hpage _ hp _ => simpa [hp, hpage] using h
  | none hpage _ hp _ => simpa [hp, hpage] using h

theorem served_run (s : Settings) (signals : LoginSignals) (boundPort : Nat) (events : List Event) (now : Nat)
    (r : Http.Request) :
    ((ofSettings s signals boundPort).run events).Served r
      (((ofSettings s signals boundPort).run events).serve now r) :=
  ((consistent_ofSettings s signals boundPort).run events).served now r

theorem pendingSince_run (s : Settings) (signals : LoginSignals) (boundPort : Nat) (events : List Event) :
    ((ofSettings s signals boundPort).run events).PendingSince
      ((ofSettings s signals boundPort).history events) := by
  induction events using List.reverseRecOn with
  | nil => simp [PendingSince, run, history, recordOnto, ofSettings]
  | append_singleton events event ih =>
    rw [run_concat, history_concat]
    cases event with
    | request now r => exact ih.progress (served_run s signals boundPort events now r).progress
    | reset => simpa [PendingSince, step, entry, Entry.ShowsPage] using ih

end OAuth1Site
end LoginRehearsal
