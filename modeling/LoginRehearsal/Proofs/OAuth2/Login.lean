import LoginRehearsal.Proofs.OAuth1.LoginSignals
import LoginRehearsal.Proofs.OAuth2.Fragment
import LoginRehearsal.Proofs.Recorded

/-!
# Logging in

A posted form with one user name and one password is always accepted: there is nothing to check. It is sent on
to the success page with both in the fragment. A form that lacks one of them is refused. The page sets one
signal and the accepted form the other; whatever else is asked, nothing changes.

* `OAuth2Site.serve_accepted`, `OAuth2Site.serve_incomplete`: the two kinds of forms.
* `OAuth2Site.Served`: how a request is answered, and what it leaves behind; `OAuth2Site.served`: there is no
  other way.
* `OAuth2Site.told_run`: the signals after any run are those of its history.
* `OAuth2Site.login_hands_over`: the credentials in an answer, and the signals.
-/
namespace LoginRehearsal

/-! ## Fields -/

namespace Http

/-- The fields of a name are one with this value. -/
def HasOnce (fields : List (String × String)) (name value : String) : Prop :=
  fields.filter (·.1 == name) = [(name, value)]

instance (fields : List (String × String)) (name value : String) : Decidable (HasOnce fields name value) :=
  inferInstanceAs (Decidable (_ = _))

/-- How many fields have a name. -/
def occurrences (fields : List (String × String)) (name : String) : Nat := fields.countP (·.1 == name)

variable {fields : List (String × String)} {name value : String}

theorem HasOnce.occurrences (h : HasOnce fields name value) : occurrences fields name = 1 := by
  rw [Http.occurrences, List.countP_eq_length_filter, h]
  rfl

theorem HasOnce.field? (h : HasOnce fields name value) : field? fields name = some value := by
  rw [Http.field?, ← List.head?_filter, h]
  rfl

theorem field?_of_occurrences (h : occurrences fields name = 0) : field? fields name = none := by
  rw [Http.field?, Option.map_eq_none_iff, List.find?_eq_none]
  exact List.countP_eq_zero.mp h

theorem occurrences_cons (field : String × String) (rest : List (String × String)) (name : String) :
    occurrences (field :: rest) name = occurrences rest name + if field.1 = name then 1 else 0 := by
  simp [occurrences, List.countP_cons]

/-- No name is found a second time if each stands among the fields at most once, and not at all where it was seen
before. -/
theorem duplicate?_eq_none {names seen : List String}
    (h : ∀ name ∈ names, occurrences fields name + (if name ∈ seen then 1 else 0) ≤ 1) :
    duplicate? names seen fields = none := by
  induction fields generalizing seen with
  | nil => rfl
  | cons field rest ih =>
    obtain ⟨name, value⟩ := field
    simp only [occurrences_cons] at h
    rw [duplicate?]
    by_cases hname : name ∈ names
    · have hunseen : name ∉ seen := by
        intro hseen
        have hle := h name hname
        rw [if_pos rfl, if_pos hseen] at hle
        omega
      rw [if_neg (by simpa using hname), if_neg (by simpa using hunseen)]
      refine ih fun other hother => ?_
      -- what the field counted among the fields it counts as seen from now on
      have hle := h other hother
      by_cases he : name = other
      · subst he
        simpa [hunseen] using hle
      · simpa [he, Ne.symm he] using hle
    · rw [if_pos (by simpa using hname)]
      refine ih fun other hother => ?_
      have hle := h other hother
      omega

end Http

namespace OAuth2Site

open OAuth1Site (Entry sinceReset sinceReset_answered sinceReset_reset)

variable {s : Settings} {site : OAuth2Site} {boundPort : Nat} {r : Http.Request} {username password : String}
  {x : Http.Response × OAuth2Site} {history : List Entry}

/-! ## Forms -/

/-- A form that is posted to a page and can be taken in. -/
structure PostsForm (r : Http.Request) : Prop where
  method : r.method = "POST"
  page : isPage r = true
  form : r.hasForm = true
  size : r.body.length ≤ 2097152

/-- The fields of a form. -/
def fieldsOf (r : Http.Request) : List (String × String) := Form.read r.body

theorem PostsForm.formFields (h : PostsForm r) (husername : Http.occurrences (fieldsOf r) "username" ≤ 1)
    (hpassword : Http.occurrences (fieldsOf r) "password" ≤ 1) :
    r.formFields ["username", "password"] = .ok (fieldsOf r) := by
  have hbody : r.boundedBody = .ok r.body := if_neg (Nat.not_lt.mpr h.size)
  have hunique : Http.duplicate? ["username", "password"] [] (Form.read r.body) = none := by
    refine Http.duplicate?_eq_none ?_
    simpa using ⟨husername, hpassword⟩
  unfold Http.Request.formFields
  simp only [h.form, Bool.not_true, Bool.false_eq_true, if_false, hbody, bind, Except.bind, hunique]
  rfl

theorem PostsForm.serve (h : PostsForm r) (site : OAuth2Site) :
    site.serve r = ((site.respond (site.login r).1).finished r.method, (site.login r).2) := by
  have hdecide : site.decide r = site.login r := by
    simp [decide, h.page, h.method]
  unfold OAuth2Site.serve
  rw [hdecide]

/-- A form with both fields is sent on, and the login is done. -/
theorem serve_accepted (h : PostsForm r) (husername : Http.HasOnce (fieldsOf r) "username" username)
    (hpassword : Http.HasOnce (fieldsOf r) "password" password) :
    site.serve r = ((LoginPage.redirect (site.successUrl username password)).finished r.method,
      { site with signals := site.signals.set .loginDone }) := by
  have hlogin : site.login r = (.loggedIn username (site.successUrl username password),
      { site with signals := site.signals.set .loginDone }) := by
    unfold login
    rw [h.formFields (Nat.le_of_eq husername.occurrences) (Nat.le_of_eq hpassword.occurrences)]
    simp only [husername.field?, hpassword.field?]
  rw [h.serve, hlogin]
  rfl

/-- A form that lacks a field, and repeats none, is refused. -/
theorem serve_incomplete (h : PostsForm r) (husername : Http.occurrences (fieldsOf r) "username" ≤ 1)
    (hpassword : Http.occurrences (fieldsOf r) "password" ≤ 1)
    (hlacks : Http.occurrences (fieldsOf r) "username" = 0 ∨ Http.occurrences (fieldsOf r) "password" = 0) :
    (site.serve r).1.status = 400 := by
  have hlogin : site.login r = (.missingField, site) := by
    unfold login
    rw [h.formFields husername hpassword]
    simp only
    rcases hlacks with hlacks | hlacks
    · rw [Http.field?_of_occurrences hlacks]
    · rw [Http.field?_of_occurrences hlacks]
      split
      · next hfield => cases hfield
      · rfl
  rw [h.serve, hlogin]
  rfl

/-! ## All that a request can come to -/

/-- The login page was asked for and shown. -/
def ShowsPage : Entry → Prop
  | .answered r answer => r.method = "GET" ∧ answer.status = 200
  | .reset => False

/-- A form was posted and accepted. -/
def AcceptsLogin : Entry → Prop
  | .answered r answer => r.method = "POST" ∧ answer.status = 301
  | .reset => False

/-- The answer to a request, and the site after it. -/
inductive Served (site : OAuth2Site) (r : Http.Request) : Http.Response × OAuth2Site → Prop
  | page {answer : Http.Response} (hmethod : r.method = "GET") (hstatus : answer.status = 200) :
      Served site r (answer, { site with signals := site.signals.set .showLogin })
  | accepted {answer : Http.Response} (hmethod : r.method = "POST") (hstatus : answer.status = 301) :
      Served site r (answer, { site with signals := site.signals.set .loginDone })
  /-- Everything else, refused forms among it. -/
  | other {answer : Http.Response} (hpage : ¬ShowsPage (.answered r answer))
      (hlogin : ¬AcceptsLogin (.answered r answer)) : Served site r (answer, site)

/-- A form is accepted, or it is refused and nothing changes. -/
theorem login_cases (site : OAuth2Site) (r : Http.Request) :
    (∃ username location, site.login r =
      (.loggedIn username location, { site with signals := site.signals.set .loginDone })) ∨
    ∃ o, site.login r = (o, site) ∧ 400 ≤ (site.respond o).status := by
  unfold login
  cases r.formFields ["username", "password"] with
  | error rejection => exact .inr ⟨_, rfl, rejection.le_status⟩
  | ok fields =>
    cases husername : Http.field? fields "username" with
    | none => exact .inr ⟨.missingField, by simp only [husername], Nat.le_refl 400⟩
    | some username =>
      cases hpassword : Http.field? fields "password" with
      | none => exact .inr ⟨.missingField, by simp only [husername, hpassword], Nat.le_refl 400⟩
      | some password =>
        exact .inl ⟨username, site.successUrl username password, by simp only [husername, hpassword]⟩

/-- Neither status tells of the page or of an accepted form. -/
theorem Served.of_status {answer : Http.Response} (hpage : answer.status ≠ 200) (hlogin : answer.status ≠ 301) :
    Served site r (answer, site) :=
  .other (fun h => hpage h.2) fun h => hlogin h.2

theorem served_post (hm : r.method = "POST") :
    Served site r ((site.respond (site.login r).1).finished r.method, (site.login r).2) := by
  rcases site.login_cases r with ⟨username, location, hlogin⟩ | ⟨o, hlogin, hstatus⟩
  · rw [hlogin]
    exact .accepted hm (LoginPage.status_redirect location)
  · rw [hlogin]
    rw [← Http.Response.status_finished (site.respond o) r.method] at hstatus
    exact .of_status (Nat.ne_of_gt (Nat.lt_of_lt_of_le (by decide) hstatus))
      (Nat.ne_of_gt (Nat.lt_of_lt_of_le (by decide) hstatus))

/-- Every request is answered in one of these ways. -/
theorem served (site : OAuth2Site) (r : Http.Request) : Served site r (site.serve r) := by
  change Served site r ((site.respond (site.decide r).1).finished r.method, (site.decide r).2)
  unfold decide
  split
  · refine .of_status ?_ ?_
    · exact (by decide : (404 : Nat) ≠ 200)
    · exact (by decide : (404 : Nat) ≠ 301)
  · split
    · next hm => exact .page hm rfl
    · next hm =>
      refine .other (fun h => ?_) fun h => ?_
      · exact absurd (hm.symm.trans h.1) (by decide)
      · exact absurd (hm.symm.trans h.1) (by decide)
    · next hm => exact served_post hm
    · refine .of_status ?_ ?_
      · exact (by decide : (405 : Nat) ≠ 200)
      · exact (by decide : (405 : Nat) ≠ 301)

/-! ## Runs -/

/-- What can happen to a site. -/
inductive Event where
  | request (r : Http.Request)
  | reset

/-- What is written down of an event, and the site after it. -/
def exchange (site : OAuth2Site) : Event → Entry × OAuth2Site
  | .request r => (.answered r (site.serve r).1, (site.serve r).2)
  | .reset => (.reset, { site with signals := site.signals.reset })

/-- The site of a server on the given port after a list of events. -/
def run (s : Settings) (timeout : Duration) (boundPort : Nat) (events : List Event) : Recorded OAuth2Site Entry :=
  Recorded.run exchange (ofSettings s (.withTimeout timeout) boundPort) events

/-- The settings are as at the beginning, and each signal is set just if what it is for has happened since the last
reset. -/
structure Told (s : Settings) (boundPort : Nat) (x : Recorded OAuth2Site Entry) : Prop where
  settings : { x.state with signals := .standard } = ofSettings s .standard boundPort
  showLogin : x.state.signals.showLogin = true ↔ ∃ e ∈ sinceReset x.history, ShowsPage e
  loginDone : x.state.signals.loginDone = true ↔ ∃ e ∈ sinceReset x.history, AcceptsLogin e

theorem Told.answered {earlier : Recorded OAuth2Site Entry} (h : Told s boundPort earlier)
    (hx : Served earlier.state r x) : Told s boundPort ⟨x.2, .answered r x.1 :: earlier.history⟩ := by
  cases hx with
  | @page answer hmethod hstatus =>
    have hpage : ShowsPage (.answered r answer) := ⟨hmethod, hstatus⟩
    have hlogin : ¬AcceptsLogin (.answered r answer) := fun hl => absurd (hmethod.symm.trans hl.1) (by decide)
    refine ⟨h.settings, ?_, ?_⟩
    · simp [LoginSignals.set, LoginSignals.put, hpage]
    · simp [LoginSignals.set, LoginSignals.put, hlogin, h.loginDone]
  | @accepted answer hmethod hstatus =>
    have hpage : ¬ShowsPage (.answered r answer) := fun hp => absurd (hmethod.symm.trans hp.1) (by decide)
    have hlogin : AcceptsLogin (.answered r answer) := ⟨hmethod, hstatus⟩
    refine ⟨h.settings, ?_, ?_⟩
    · simp [LoginSignals.set, LoginSignals.put, hpage, h.showLogin]
    · simp [LoginSignals.set, LoginSignals.put, hlogin]
  | other hpage hlogin =>
    refine ⟨h.settings, ?_, ?_⟩
    · simp [hpage, h.showLogin]
    · simp [hlogin, h.loginDone]

theorem told_run (s : Settings) (timeout : Duration) (boundPort : Nat) (events : List Event) :
    Told s boundPort (run s timeout boundPort events) := by
  refine Recorded.run_induction events ⟨rfl, ?_, ?_⟩ fun earlier event h => ?_
  · simp [ofSettings, LoginSignals.withTimeout, sinceReset]
  · simp [ofSettings, LoginSignals.withTimeout, sinceReset]
  · cases event with
    | request r => exact h.answered (earlier.state.served r)
    | reset =>
      refine ⟨h.settings, ?_, ?_⟩
      · simp [Recorded.next, exchange, LoginSignals.reset]
      · simp [Recorded.next, exchange, LoginSignals.reset]

/-! ## Logging in -/

/-- The page in front of the fragment. -/
def successPage (s : Settings) (boundPort : Nat) : String :=
  (if s.hasCertificate then "https" else "http") ++ "://" ++ s.publicHostFor boundPort ++ "/success.html"

theorem Told.pageUrl {x : Recorded OAuth2Site Entry} (h : Told s boundPort x) :
    x.state.pageUrl "success.html" = successPage s boundPort := by
  have hscheme : x.state.scheme = if s.hasCertificate then "https" else "http" :=
    congrArg OAuth2Site.scheme h.settings
  have hhost : x.state.publicHost = s.publicHostFor boundPort := congrArg OAuth2Site.publicHost h.settings
  rw [OAuth2Site.pageUrl, hscheme, hhost, successPage, String.append_assoc,
    show "/" ++ "success.html" = "/success.html" from rfl]

/-- What asks for a head or is refused sets no signal. -/
theorem Served.signals_of_refused (hx : Served site r x)
    (h : r.method = "HEAD" ∨ x.1.status ∈ [400, 405, 413, 415, 422]) : x.2.signals = site.signals := by
  cases hx with
  | page hmethod hstatus =>
    rw [hstatus, hmethod] at h
    exact absurd h (by decide)
  | accepted hmethod hstatus =>
    rw [hstatus, hmethod] at h
    exact absurd h (by decide)
  | other => rfl

/-- Without a public host the pages name the port, which is visible and has no `#` in it. -/
theorem publicHostFor_visible (hhost : ∀ host, s.publicHost = some host → Http.Visible host ∧ '#' ∉ host.toList)
    (boundPort : Nat) : Http.Visible (s.publicHostFor boundPort) ∧ '#' ∉ (s.publicHostFor boundPort).toList := by
  unfold Settings.publicHostFor
  cases hs : s.publicHost with
  | some host => exact hhost host hs
  | none =>
    refine ⟨Http.Visible.append (by decide) (Http.visible_decimal _), ?_⟩
    rw [Option.getD_none, String.toList_append, List.mem_append, not_or]
    refine ⟨by decide, fun hm => ?_⟩
    exact absurd (Numeral.digit_of_mem_decimal hm) (by decide)

theorem successPage_visible (hhost : ∀ host, s.publicHost = some host → Http.Visible host ∧ '#' ∉ host.toList)
    (boundPort : Nat) : Http.Visible (successPage s boundPort) ∧ '#' ∉ (successPage s boundPort).toList := by
  obtain ⟨hvisible, hmark⟩ := publicHostFor_visible hhost boundPort
  unfold successPage
  constructor
  · have hscheme : Http.Visible (if s.hasCertificate then "https" else "http") := by split <;> decide
    exact ((hscheme.append (by decide)).append hvisible).append (by decide)
  · have hscheme : '#' ∉ (if s.hasCertificate then "https" else "http").toList := by split <;> decide
    simp only [String.toList_append, List.mem_append, not_or]
    exact ⟨⟨⟨hscheme, by decide⟩, hmark⟩, by decide⟩

/-- After any run under a visible public host without a `#`, a posted form with one user name and one password is
answered with a redirect to the success page. There is one `#` in its location, and what stands behind reads as a
form with both in its token. A form that lacks one of them and repeats none is refused. Each signal tells just what
has been answered since the last reset, and what asks for a head or is refused leaves both alone. -/
theorem login_hands_over (s : Settings) (timeout : Duration) (boundPort : Nat)
    (hhost : ∀ host, s.publicHost = some host → Http.Visible host ∧ '#' ∉ host.toList) (events : List Event) :
    let x := run s timeout boundPort events
    (∀ r username password, PostsForm r → Http.HasOnce (fieldsOf r) "username" username →
      Http.HasOnce (fieldsOf r) "password" password →
      (x.state.serve r).1.status = 301 ∧
      ∃ location fragment, location = successPage s boundPort ++ "#" ++ fragment ∧
        Http.findHeader? (x.state.serve r).1.headers "location" = some (Utf8.encode location) ∧
        location.toList.count '#' = 1 ∧
        Form.readText fragment = [("access_token", username ++ password), ("expires_in", "3600")]) ∧
    (∀ r, PostsForm r → Http.occurrences (fieldsOf r) "username" ≤ 1 →
      Http.occurrences (fieldsOf r) "password" ≤ 1 →
      Http.occurrences (fieldsOf r) "username" = 0 ∨ Http.occurrences (fieldsOf r) "password" = 0 →
      (x.state.serve r).1.status = 400) ∧
    (x.state.signals.showLogin = true ↔ ∃ e ∈ sinceReset x.history, ShowsPage e) ∧
    (x.state.signals.loginDone = true ↔ ∃ e ∈ sinceReset x.history, AcceptsLogin e) ∧
    ∀ r, r.method = "HEAD" ∨ (x.state.serve r).1.status ∈ [400, 405, 413, 415, 422] →
      (x.state.serve r).2.signals = x.state.signals := by
  intro x
  have htold : Told s boundPort x := told_run s timeout boundPort events
  refine ⟨fun r username password hform husername hpassword => ?_,
    fun r hform husername hpassword hlacks => serve_incomplete hform husername hpassword hlacks,
    htold.showLogin, htold.loginDone, fun r hr => (x.state.served r).signals_of_refused hr⟩
  -- what is left is about the address, which only the settings and the form tell
  have hexpires : x.state.expiresIn = 3600 := congrArg OAuth2Site.expiresIn htold.settings
  obtain ⟨hvisible, hmark⟩ := successPage_visible hhost boundPort
  rw [← htold.pageUrl] at hvisible hmark
  rw [serve_accepted hform husername hpassword, Http.Response.status_finished]
  refine ⟨LoginPage.status_redirect _, x.state.successUrl username password, x.state.fragment username password,
    ?_, ?_, count_successUrl hmark, ?_⟩
  · rw [successUrl_eq, htold.pageUrl]
  · rw [LoginPage.location_redirect, if_pos (carries_successUrl hvisible)]
  · rw [readText_fragment, hexpires]
    rfl

/-- A form with marks of addresses in both fields, and one more field, after the page was shown and the signals were
taken back. -/
theorem login_hands_over_marks :
    let form : Http.Request := ⟨"POST", ⟨"/", none⟩,
      [("content-type", Utf8.encode "application/x-www-form-urlencoded")],
      Utf8.encode "username=a%26b&password=%23c+d&remember=on"⟩
    let x := run OAuth1Site.brief (.ofSeconds 5) 0 [.request ⟨"GET", ⟨"/", none⟩, [], []⟩, .reset]
    (x.state.serve form).1.status = 301 ∧
      ∃ location fragment, location = "https://h/success.html#" ++ fragment ∧
        Http.findHeader? (x.state.serve form).1.headers "location" = some (Utf8.encode location) ∧
        Form.readText fragment = [("access_token", "a&b#c d"), ("expires_in", "3600")] := by
  intro form x
  have hhost : ∀ host, OAuth1Site.brief.publicHost = some host → Http.Visible host ∧ '#' ∉ host.toList := by
    intro host h
    cases h
    decide
  have hform : PostsForm form := ⟨rfl, by decide +kernel, by decide +kernel, by decide +kernel⟩
  have husername : Http.HasOnce (fieldsOf form) "username" "a&b" := by decide +kernel
  have hpassword : Http.HasOnce (fieldsOf form) "password" "#c d" := by decide +kernel
  obtain ⟨hstatus, location, fragment, hlocation, hheader, -, hread⟩ :=
    (login_hands_over OAuth1Site.brief (.ofSeconds 5) 0 hhost _).1 form "a&b" "#c d" hform husername hpassword
  exact ⟨hstatus, location, fragment, hlocation, hheader, hread⟩

end OAuth2Site
end LoginRehearsal
