import LoginRehearsal.Proofs.OAuth1.History
import LoginRehearsal.Proofs.Text.Form

/-!
# What a token answer says

A client learns a token, its secret and, on the last leg, the user's name from a form in the body of the
answer. Whatever characters these hold, the form is read as the fields that it was written from. The name is
that of the last user who was named in a login form while a token was pending, accepted or not: the form notes
the user before it is known whether it can be accepted, and no other request touches the access token.

* `OAuth1Site.lastUser`: the user that a history leaves on the access token.
* `OAuth1Site.username_run`: it is the one that the site has noted.
* `OAuth1Site.token_answers_name`: the fields of both token answers after any run.
-/
namespace LoginRehearsal

theorem Http.Response.body_finished (answer : Http.Response) {method : String} (h : method ≠ "HEAD") :
    (answer.finished method).body = answer.body := if_neg h

namespace Provider

/-- The last leg gives out the access token as it is. -/
theorem accessToken_ok {s : Settings} {p : Provider} (h : p.Fits s) {now : Nat} {r : OAuthRequest} {token : Token}
    (ht : (p.accessToken now r).1 = .ok token) : token = p.store.access :=
  ((accessToken_decides h now r).eq_ok_iff.mp ht).2

end Provider

namespace OAuth1Site

open OAuth1Route

variable {s : Settings} {site : OAuth1Site} {now : Nat} {r : Http.Request} {x : Http.Response × OAuth1Site}

/-! ## The user of a history -/

/-- The user whom an entry names in a login form. -/
def Entry.user? : Entry → Option String
  | .answered r _ => if OAuth1Route.login.Posted r then submitted? r else none
  | .reset => none

/-- The user whom the latest login form names, of the forms that were posted after the page had been shown. -/
def lastUser : List Entry → Option String
  | [] => none
  | entry :: earlier =>
    (if ∃ x ∈ earlier, x.ShowsPage then entry.user? else none).or (lastUser earlier)

/-- A form notes its user on the access token just if a token is pending. Nothing else touches that token. -/
theorem Served.username (hx : site.Served r x) :
    x.2.provider.store.access.username =
      (if site.pending ≠ none then (Entry.answered r x.1).user? else none).or
        site.provider.store.access.username := by
  cases hx with
  | other _ hl hk => simp [Entry.user?, hl, withProvider, hk.access]
  | pageRefused hp _ => simp [Entry.user?, hp.not_posted]
  | page hp _ hk => simp [Entry.user?, hp.not_posted, showing, withProvider, hk.access]
  | formRefused hl hn _ _ =>
    rcases hn with hn | hn
    · simp [Entry.user?, hl, hn]
    · simp [hn]
  | noCallback hl hu hp _ =>
    rw [if_pos hp]
    simp only [Entry.user?, if_pos hl, hu]
    rfl
  | accepted hl hu hp _ _ =>
    rw [if_pos hp]
    simp only [Entry.user?, if_pos hl, hu]
    rfl

theorem username_run (s : Settings) (signals : LoginSignals) (boundPort : Nat) (events : List Event) :
    ((ofSettings s signals boundPort).run events).provider.store.access.username =
      lastUser ((ofSettings s signals boundPort).history events) := by
  induction events using List.reverseRecOn with
  | nil => rfl
  | append_singleton events event ih =>
    have hpending := pendingSince_run s signals boundPort events
    unfold PendingSince at hpending
    rw [run_concat, history_concat, lastUser]
    cases event with
    | request now r =>
      rw [step, (served_run s signals boundPort events now r).username, ih]
      simp only [entry, hpending]
    | reset => simpa [step, entry, Entry.user?] using ih

/-! ## Token answers -/

theorem decide_accessToken (h : OAuth1Route.accessToken.Posted r) :
    site.decide now r = site.tokenRequest r .accessToken (site.provider.accessToken now) := by
  rw [decide_posted h]
  unfold handle
  rw [h.1]
  rfl

/-- A token endpoint that answers with success has granted a token. -/
theorem tokenRequest_granted {grant : Token → OAuth1Outcome}
    {ask : OAuthRequest → Except Refusal Token × Provider}
    (h : (site.respond (site.tokenRequest r grant ask).1).status = 200) :
    ∃ q token, (ask q).1 = .ok token ∧
      site.tokenRequest r grant ask = (grant token, site.withProvider (ask q).2) := by
  have hrefused : ∀ refusal, (site.respond (.refused refusal)).status ≠ 200 := fun refusal he =>
    absurd ((site.status_unauthorized refusal).symm.trans he) (by decide)
  rcases tokenRequest_cases site r grant ask with ⟨q, hq⟩ | ⟨rejection, hx⟩ | ⟨refusal, hx⟩
  · rw [tokenRequest_of_arrives hq] at h ⊢
    cases ha : (ask q).1 with
    | error refusal =>
      rw [granted_error ha] at h
      exact absurd h (hrefused refusal)
    | ok token => exact ⟨q, token, ha, granted_ok ha⟩
  · rw [hx] at h
    exact absurd (h ▸ rejection.le_status) (by decide)
  · rw [hx] at h
    exact absurd h (hrefused refusal)

theorem read_formResponse {method body : String} (h : method ≠ "HEAD") :
    Form.read ((formResponse body).finished method).body = Form.readText body := by
  rw [Http.Response.body_finished _ h]
  rfl

theorem Consistent.accessToken_fields (h : site.Consistent s) (hr : OAuth1Route.accessToken.Posted r)
    (hstatus : (site.serve now r).1.status = 200) :
    Form.read (site.serve now r).1.body =
      [("oauth_token", s.accessToken.key), ("oauth_token_secret", s.accessToken.secret),
        ("ScreenName", site.provider.store.access.username.getD "")] := by
  have hmethod : r.method ≠ "HEAD" := by
    rw [hr.1]
    decide
  have hkey : site.provider.store.access.key = s.accessToken.key :=
    congrArg Credential.key h.provider.store.access
  have hsecret : site.provider.store.access.secret = s.accessToken.secret :=
    congrArg Credential.secret h.provider.store.access
  rw [serve_of_decide (decide_accessToken hr)] at hstatus ⊢
  obtain ⟨q, token, ht, hx⟩ := tokenRequest_granted hstatus
  rw [hx, Provider.accessToken_ok h.provider.toFits ht]
  simp only [respond]
  rw [read_formResponse hmethod, Token.formText, Form.render_append (by simp [Token.formFields]) (by simp),
    Form.readText_render, Token.formFields, h.provider.access_unconfirmed, hkey, hsecret]
  rfl

theorem Consistent.requestToken_fields (h : site.Consistent s) (hr : OAuth1Route.requestToken.Posted r)
    (hstatus : (site.serve now r).1.status = 200) :
    Form.read (site.serve now r).1.body =
      [("oauth_token", s.requestToken.key), ("oauth_token_secret", s.requestToken.secret)] ++
        (if (site.serve now r).2.provider.store.request.callback.isSome then
          [("oauth_callback_confirmed", "true")] else []) := by
  have hmethod : r.method ≠ "HEAD" := by
    rw [hr.1]
    decide
  rw [serve_of_decide (decide_requestToken hr)] at hstatus ⊢
  obtain ⟨q, token, ht, hx⟩ := tokenRequest_granted hstatus
  -- the token of the answer is the stored one, so its marks agree with one another
  have hp : (site.provider.requestToken now q).2.Consistent s := h.provider.requestToken now q
  have htoken := Provider.requestToken_ok h.provider.toFits ht
  have hkey : token.key = s.requestToken.key := htoken ▸ congrArg Credential.key hp.store.request
  have hsecret : token.secret = s.requestToken.secret := htoken ▸ congrArg Credential.secret hp.store.request
  have hconfirmed : token.callbackConfirmed = token.callback.isSome :=
    Bool.eq_iff_iff.mpr (htoken ▸ hp.request_callback)
  have hstored : (site.withProvider (site.provider.requestToken now q).2).provider.store.request = token := htoken
  rw [hx]
  simp only [respond]
  rw [read_formResponse hmethod, Token.formText, Form.readText_render, Token.formFields, hkey, hsecret,
    hconfirmed, hstored]

/-- After any run from the beginning a successful answer of the last leg is read as the access token, its secret
and the last user, and nothing else. A successful answer of the first leg is read as the request token and its
secret, with the mark of a confirmed callback just if the stored token has a callback. -/
theorem token_answers_name (s : Settings) (signals : LoginSignals) (boundPort : Nat) (events : List Event)
    (now : Nat) (r : Http.Request) :
    let start := ofSettings s signals boundPort
    let site := start.run events
    (OAuth1Route.accessToken.Posted r → (site.serve now r).1.status = 200 →
      Form.read (site.serve now r).1.body =
        [("oauth_token", s.accessToken.key), ("oauth_token_secret", s.accessToken.secret),
          ("ScreenName", (lastUser (start.history events)).getD "")]) ∧
    (OAuth1Route.requestToken.Posted r → (site.serve now r).1.status = 200 →
      Form.read (site.serve now r).1.body =
        [("oauth_token", s.requestToken.key), ("oauth_token_secret", s.requestToken.secret)] ++
          (if (site.serve now r).2.provider.store.request.callback.isSome then
            [("oauth_callback_confirmed", "true")] else [])) := by
  intro start site
  have hconsistent : site.Consistent s := (consistent_ofSettings s signals boundPort).run events
  constructor
  · intro hr hstatus
    rw [hconsistent.accessToken_fields hr hstatus, ← username_run]
  · intro hr hstatus
    exact hconsistent.requestToken_fields hr hstatus

/-- The post of a login form with an escaped name. -/
def formNaming (username : String) : Http.Request :=
  ⟨"POST", ⟨"/login.html", none⟩, [("content-type", Utf8.encode "application/x-www-form-urlencoded")],
    Utf8.encode ("username=" ++ username)⟩

/-- A form without a page, and two forms after one. -/
def threeForms : List Event :=
  [.request 0 (formNaming "Eve"),
    .request 0 ⟨"GET", ⟨"/oauth1/authorize", some "oauth_token=requestkey"⟩, [], []⟩,
    .request 0 (formNaming "Ann"), .reset, .request 0 (formNaming "B%26%3D")]

/-- The last leg, signed with the secrets themselves. -/
def lastLeg : Http.Request :=
  ⟨"POST", ⟨"/oauth1/access_token", none⟩, [("authorization",
    Utf8.encode "OAuth oauth_consumer_key=c,oauth_token=requestkey,oauth_verifier=verifier" ++
      Utf8.encode ",oauth_signature=s%26requestsecret,oauth_signature_method=PLAINTEXT" ++
      Utf8.encode ",oauth_timestamp=0,oauth_nonce=n")], []⟩

/-- The last form names the user, with the marks of the format in the name. -/
theorem token_answers_name_second_user :
    let site := (ofSettings brief .standard 5121).run threeForms
    OAuth1Route.accessToken.Posted lastLeg ∧ (site.serve 0 lastLeg).1.status = 200 ∧
      Form.read (site.serve 0 lastLeg).1.body = [("oauth_token", "accesskey"),
        ("oauth_token_secret", "accesssecret"), ("ScreenName", "B&=")] := by
  intro site
  have hlast : OAuth1Route.accessToken.Posted lastLeg := ⟨rfl, rfl⟩
  have hstatus : (((ofSettings brief .standard 5121).run threeForms).serve 0 lastLeg).1.status = 200 := by
    decide +kernel
  have huser : lastUser ((ofSettings brief .standard 5121).history threeForms) = some "B&=" := by
    decide +kernel
  have hfields := (token_answers_name brief .standard 5121 threeForms 0 lastLeg).1 hlast hstatus
  rw [huser] at hfields
  exact ⟨hlast, hstatus, hfields⟩

end OAuth1Site
end LoginRehearsal
