import LoginRehearsal.Proofs.OAuth1.Placement
import LoginRehearsal.Proofs.OAuth1.SiteRun

/-!
# The login form

A form that names a user for the pending token is written to both tokens before it is known where the browser
is to go. Two things can be in the way by then. The request token may have no callback: the form is refused,
but the consent stays. Or its callback may make a location that no header can carry: the answer is a redirect
without a target, and the form counts as accepted. Every other form is accepted with a redirect, or refused
without a trace.

* `OAuth1Site.AllOrNothing`: an accepted form with its redirect, or a refused one without a trace.
* `OAuth1Site.login_answer`: what a form comes to, and just when that is all or nothing.
-/
namespace LoginRehearsal

/-! ## Answers -/

namespace Http

/-- An answer is finished with its length. Its other fields can be looked up as before. -/
theorem Response.findHeader?_finished (answer : Response) (method : String) {name : String}
    (hname : name ≠ "content-length") (honce : answer.headers.countP (·.1 == name) ≤ 1) :
    findHeader? (answer.finished method).headers name = findHeader? answer.headers name := by
  have hlength : ("content-length" == name) = false := beq_eq_false_iff_ne.mpr hname.symm
  have hperm := List.mergeSort_perm
    (answer.headers ++ [("content-length", Utf8.encode (decimal answer.body.length))])
    fun a b : Header => decide (a.1 ≤ b.1)
  have hcount : (answer.headers ++ [("content-length", Utf8.encode (decimal answer.body.length))]).countP
      (·.1 == name) ≤ 1 := by
    simpa [List.countP_append, hlength] using honce
  unfold findHeader? finished
  rw [← OAuthRequest.find?_of_perm hperm.symm hcount, List.find?_append]
  simp [hlength]

/-- Whether a text can be the value of a header field. -/
def carries (text : String) : Bool := (Utf8.encode text).all isFieldByte

end Http

namespace LoginPage

theorem redirect_eq (location : String) :
    redirect location =
      if Http.carries location then .empty 301 [("location", Utf8.encode location)]
      else .plain 301 "failed to parse header value" := rfl

theorem status_redirect (location : String) : (redirect location).status = 301 := by
  rw [redirect_eq]
  split <;> rfl

/-- A redirect has its location unless no header can carry it. -/
theorem location_redirect (location method : String) :
    Http.findHeader? ((redirect location).finished method).headers "location" =
      if Http.carries location then some (Utf8.encode location) else none := by
  have honce : (redirect location).headers.countP (·.1 == "location") ≤ 1 := by
    rw [redirect_eq]
    split <;> exact Nat.le_of_ble_eq_true rfl
  rw [Http.Response.findHeader?_finished _ _ (by decide) honce, redirect_eq]
  split <;> rfl

end LoginPage

namespace Token

theorem withVerifier_eq_self {t : Token} {verifier : String} :
    t.withVerifier verifier = t ↔ t.verifier = some verifier := by
  constructor
  · intro h
    exact (congrArg Token.verifier h).symm
  · intro h
    unfold withVerifier
    rw [← h]

theorem withUsername_eq_self {t : Token} {username : String} :
    t.withUsername username = t ↔ t.username = some username := by
  constructor
  · intro h
    exact (congrArg Token.username h).symm
  · intro h
    unfold withUsername
    rw [← h]

end Token

namespace OAuth1Site

variable {s : Settings} {site after : OAuth1Site} {now : Nat} {r : Http.Request}

/-- Neither a token nor a signal has changed. -/
structure Untouched (site after : OAuth1Site) : Prop where
  request : after.provider.store.request = site.provider.store.request
  access : after.provider.store.access = site.provider.store.access
  pending : after.pending = site.pending
  signals : after.signals = site.signals

/-- A form that is accepted and leads somewhere, or is refused and leaves no trace. -/
def AllOrNothing (site : OAuth1Site) (x : Http.Response × OAuth1Site) : Prop :=
  (x.1.status = 301 ∧ (Http.findHeader? x.1.headers "location").isSome = true ∧
    x.2.signals.loginDone = true) ∨
  (400 ≤ x.1.status ∧ site.Untouched x.2)

/-- Where an accepted form leads, for a callback of the request token. -/
def destination (site : OAuth1Site) (callback : String) : String :=
  Token.callbackWith callback site.provider.store.verifier

theorem untouched_self (site : OAuth1Site) : site.Untouched site := ⟨rfl, rfl, rfl, rfl⟩

theorem serve_login (h : OAuth1Route.login.Posted r) :
    site.serve now r = ((site.respond (site.login r).1).finished r.method, (site.login r).2) :=
  serve_of_decide (decide_login h)

theorem allOrNothing_redirect {location method : String} (h : after.signals.loginDone = true) :
    site.AllOrNothing ((LoginPage.redirect location).finished method, after) ↔
      Http.carries location = true := by
  unfold AllOrNothing
  rw [LoginPage.location_redirect, Http.Response.status_finished, LoginPage.status_redirect]
  constructor
  · rintro (⟨-, hsome, -⟩ | ⟨hrefused, -⟩)
    · by_contra hcarries
      rw [if_neg hcarries] at hsome
      cases hsome
    · exact absurd hrefused (by decide)
  · intro hcarries
    rw [if_pos hcarries]
    exact .inl ⟨rfl, rfl, h⟩

theorem allOrNothing_refused {x : Http.Response × OAuth1Site} (h : 400 ≤ x.1.status) :
    site.AllOrNothing x ↔ site.Untouched x.2 := by
  constructor
  · rintro (⟨haccepted, -⟩ | ⟨-, huntouched⟩)
    · exact absurd (haccepted ▸ h) (by decide)
    · exact huntouched
  · intro huntouched
    exact .inr ⟨h, huntouched⟩

/-- Without a user name or a pending token nothing changes. -/
theorem serve_login_none (h : OAuth1Route.login.Posted r) (hn : submitted? r = none ∨ site.pending = none) :
    400 ≤ (site.serve now r).1.status ∧ (site.serve now r).2 = site := by
  obtain ⟨o, ho, hcases⟩ := login_none hn
  rw [serve_login h, ho]
  refine ⟨?_, rfl⟩
  rcases hcases with rfl | rfl | ⟨rejection, -, rfl⟩
  · exact Nat.le_refl 400
  · exact Nat.le_refl 400
  · exact rejection.le_status

section Consistent

variable {username : String} {pending : Token}

/-- A consent changes neither token just if the user has consented before. -/
theorem Consistent.untouched_consented (h : site.Consistent s) :
    site.Untouched (site.withProvider (site.provider.consented username)) ↔
      site.provider.store.access.username = some username := by
  constructor
  · intro hu
    exact Token.withUsername_eq_self.mp hu.access
  · intro hu
    -- where there is a user there is a verifier, and it is the one that is noted again
    have hsome : site.provider.store.request.verifier.isSome = true := by
      rw [h.provider.consent, hu]
      rfl
    have hverifier : site.provider.store.request.verifier = some site.provider.store.verifier := by
      rcases h.provider.verifier with hv | hv
      · rw [hv] at hsome
        cases hsome
      · rw [hv, h.provider.store.verifier]
    exact ⟨Token.withVerifier_eq_self.mpr hverifier, Token.withUsername_eq_self.mpr hu, rfl, rfl⟩

theorem Consistent.serve_login_noCallback (h : site.Consistent s) (hr : OAuth1Route.login.Posted r)
    (hu : submitted? r = some username) (hp : site.pending = some pending)
    (hc : site.provider.store.request.callback = none) :
    site.serve now r = ((Http.Response.plain 400 "Token has no callback").finished r.method,
      site.withProvider (site.provider.consented username)) := by
  rw [serve_login hr, login_some hu hp, acceptLogin_of_key (h.pending_key hp), hc]
  rfl

theorem Consistent.serve_login_callback (h : site.Consistent s) (hr : OAuth1Route.login.Posted r)
    (hu : submitted? r = some username) (hp : site.pending = some pending) {callback : String}
    (hc : site.provider.store.request.callback = some callback) :
    site.serve now r = ((LoginPage.redirect (site.destination callback)).finished r.method,
      (site.withProvider (site.provider.consented username)).done) := by
  rw [serve_login hr, login_some hu hp, acceptLogin_of_key (h.pending_key hp), hc]
  rfl

end Consistent

/-- A form without a user name, or while nothing is pending, is refused and changes nothing. Any other one is
written to both tokens. With a callback it is accepted, and it leads there just if a header can carry the
address. Without a callback it is refused, and it leaves a trace unless its user had consented before. -/
theorem login_answer (h : Reachable s site) (now : Nat) (hr : OAuth1Route.login.Posted r) :
    (submitted? r = none ∨ site.pending = none →
      400 ≤ (site.serve now r).1.status ∧ (site.serve now r).2 = site ∧
        site.AllOrNothing (site.serve now r)) ∧
    (∀ username callback, submitted? r = some username → site.pending ≠ none →
      site.provider.store.request.callback = some callback →
      (site.serve now r).1.status = 301 ∧
        (site.serve now r).2 = (site.withProvider (site.provider.consented username)).done ∧
        Http.findHeader? (site.serve now r).1.headers "location" =
          (if Http.carries (site.destination callback) then some (Utf8.encode (site.destination callback))
          else none) ∧
        (site.AllOrNothing (site.serve now r) ↔ Http.carries (site.destination callback) = true)) ∧
    ∀ username, submitted? r = some username → site.pending ≠ none →
      site.provider.store.request.callback = none →
      (site.serve now r).1.status = 400 ∧
        (site.serve now r).2 = site.withProvider (site.provider.consented username) ∧
        (site.AllOrNothing (site.serve now r) ↔
          site.provider.store.access.username = some username) := by
  have hs := h.consistent
  refine ⟨?_, ?_, ?_⟩
  · intro hn
    obtain ⟨hstatus, hsite⟩ := serve_login_none hr hn
    refine ⟨hstatus, hsite, (allOrNothing_refused hstatus).mpr ?_⟩
    rw [hsite]
    exact site.untouched_self
  · intro username callback hu hp hc
    obtain ⟨pending, hp⟩ := Option.ne_none_iff_exists'.mp hp
    rw [hs.serve_login_callback hr hu hp hc, Http.Response.status_finished]
    exact ⟨LoginPage.status_redirect _, rfl, LoginPage.location_redirect _ _, allOrNothing_redirect rfl⟩
  · intro username hu hp hc
    obtain ⟨pending, hp⟩ := Option.ne_none_iff_exists'.mp hp
    rw [hs.serve_login_noCallback hr hu hp hc, ← hs.untouched_consented]
    exact ⟨rfl, rfl, allOrNothing_refused (Nat.le_refl 400)⟩

/-- Settings with a client of few letters. -/
def brief : Settings := { Settings.standard with consumer := ⟨"c", "s"⟩, publicHost := some "h" }

/-- The site after its page was shown to a signed request, which may name a callback at the end of its query. -/
def shownWith (callback : String) : OAuth1Site :=
  (ofSettings brief .standard 5121).run [.request 0 ⟨"GET",
    ⟨"/oauth1/authorize", some ("oauth_timestamp=0&oauth_nonce=n" ++ callback)⟩,
    [("authorization", Utf8.encode "OAuth oauth_consumer_key=c,oauth_signature=s%26" ++
      Utf8.encode ",oauth_signature_method=PLAINTEXT")], []⟩]

theorem reachable_shownWith (callback : String) : Reachable brief (shownWith callback) := ⟨_, _, _, rfl⟩

/-- Where the request named no callback, the form is refused, and both tokens have changed. Where there is a
line feed in the callback, the form is accepted, and there is no location. -/
theorem login_answer_halfway :
    let form : Http.Request := ⟨"POST", ⟨"/login.html", none⟩,
      [("content-type", Utf8.encode "application/x-www-form-urlencoded")], Utf8.encode "username=Ann"⟩
    (OAuth1Route.login.Posted form ∧ submitted? form = some "Ann") ∧
      (Reachable brief (shownWith "") ∧ (shownWith "").pending ≠ none ∧
        (shownWith "").provider.store.request.callback = none ∧
        ¬(shownWith "").AllOrNothing ((shownWith "").serve 0 form)) ∧
      Reachable brief (shownWith "&oauth_callback=%0A") ∧ (shownWith "&oauth_callback=%0A").pending ≠ none ∧
        (shownWith "&oauth_callback=%0A").provider.store.request.callback = some "\n" ∧
        ¬(shownWith "&oauth_callback=%0A").AllOrNothing ((shownWith "&oauth_callback=%0A").serve 0 form) := by
  intro form
  have hform : OAuth1Route.login.Posted form := ⟨rfl, rfl⟩
  have hu : submitted? form = some "Ann" := by decide +kernel
  have hsilent := reachable_shownWith ""
  have hbroken := reachable_shownWith "&oauth_callback=%0A"
  obtain ⟨hp, hc, hfirst⟩ : (shownWith "").pending ≠ none ∧
      (shownWith "").provider.store.request.callback = none ∧
      (shownWith "").provider.store.access.username ≠ some "Ann" := by
    decide +kernel
  obtain ⟨hp', hc', hcarries⟩ : (shownWith "&oauth_callback=%0A").pending ≠ none ∧
      (shownWith "&oauth_callback=%0A").provider.store.request.callback = some "\n" ∧
      Http.carries ((shownWith "&oauth_callback=%0A").destination "\n") ≠ true := by
    decide +kernel
  refine ⟨⟨hform, hu⟩, ⟨hsilent, hp, hc, ?_⟩, hbroken, hp', hc', ?_⟩
  · intro hall
    exact hfirst (((login_answer hsilent 0 hform).2.2 _ hu hp hc).2.2.mp hall)
  · intro hall
    exact hcarries (((login_answer hbroken 0 hform).2.1 _ _ hu hp' hc').2.2.2.mp hall)

end OAuth1Site
end LoginRehearsal
