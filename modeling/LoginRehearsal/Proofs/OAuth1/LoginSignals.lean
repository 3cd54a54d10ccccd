import LoginRehearsal.Proofs.OAuth1.History

/-!
# What the signals tell

A test takes the signals back, lets the browser go on, and looks at them again. Between two resets they tell
just whether the page was shown and whether a form was accepted. Nothing else that reaches the site sets or
takes back a signal, or touches the pending token.

* `OAuth1Site.sinceReset`: the part of a history that the signals are about.
* `OAuth1Site.signalled_run`: each signal after any run.
* `OAuth1Site.signals_tell_history`: the signals, and the answers that leave them and the pending token alone.
-/
namespace LoginRehearsal
namespace OAuth1Site

open OAuth1Route

variable {s : Settings} {site : OAuth1Site} {r : Http.Request} {x : Http.Response × OAuth1Site}
  {history : List Entry}

def Entry.isReset : Entry → Bool
  | .answered _ _ => false
  | .reset => true

/-- The entries since the last reset. -/
def sinceReset (history : List Entry) : List Entry := history.takeWhile (!·.isReset)

@[simp] theorem sinceReset_answered (answer : Http.Response) (history : List Entry) :
    sinceReset (.answered r answer :: history) = .answered r answer :: sinceReset history := rfl

@[simp] theorem sinceReset_reset (history : List Entry) : sinceReset (.reset :: history) = [] := rfl

/-! ## Signals -/

/-- Each signal is set just if what it is for has happened since the last reset. -/
structure Signalled (site : OAuth1Site) (history : List Entry) : Prop where
  showLogin : site.signals.showLogin = true ↔ ∃ x ∈ sinceReset history, x.ShowsPage
  loginDone : site.signals.loginDone = true ↔ ∃ x ∈ sinceReset history, x.AcceptsLogin

/-- Unset signals fit a history that ends with a reset, and the empty one. -/
theorem signalled_of_unset (hshow : site.signals.showLogin = false) (hdone : site.signals.loginDone = false)
    (hempty : sinceReset history = []) : site.Signalled history := by
  constructor
  · simp [hshow, hempty]
  · simp [hdone, hempty]

theorem Signalled.progress (h : site.Signalled history) (hx : site.Progress r x) :
    x.2.Signalled (.answered r x.1 :: history) := by
  cases hx with
  | page hpage hlogin _ hs =>
    constructor
    · simp [hs, LoginSignals.set, LoginSignals.put, hpage]
    · simp [hs, LoginSignals.set, LoginSignals.put, hlogin, h.loginDone]
  | login hlogin hpage _ _ hs =>
    constructor
    · simp [hs, LoginSignals.set, LoginSignals.put, hpage, h.showLogin]
    · simp [hs, LoginSignals.set, LoginSignals.put, hlogin]
  | none hpage hlogin _ hs =>
    constructor
    · simp [hs, hpage, h.showLogin]
    · simp [hs, hlogin, h.loginDone]

theorem signalled_run (s : Settings) (timeout : Duration) (boundPort : Nat) (events : List Event) :
    ((ofSettings s (.withTimeout timeout) boundPort).run events).Signalled
      ((ofSettings s (.withTimeout timeout) boundPort).history events) := by
  induction events using List.reverseRecOn with
  | nil => exact signalled_of_unset rfl rfl rfl
  | append_singleton events event ih =>
    rw [run_concat, history_concat]
    cases event with
    | request now r => exact ih.progress (served_run s _ boundPort events now r).progress
    | reset => exact signalled_of_unset rfl rfl (sinceReset_reset _)

/-! ## What leaves them alone -/

/-- An answer that tells of neither page nor form leaves everything alone that a login depends on. -/
theorem Progress.unchanged (hx : site.Progress r x) (hpage : ¬(Entry.answered r x.1).ShowsPage)
    (hlogin : ¬(Entry.answered r x.1).AcceptsLogin) :
    x.2.signals = site.signals ∧ x.2.pending = site.pending := by
  cases hx with
  | page h _ _ _ => exact absurd h hpage
  | login h _ _ _ _ => exact absurd h hlogin
  | none _ _ hp hs => exact ⟨hs, hp⟩

/-- A request for the head of a page, or for the report of a running service. -/
def Inspects (r : Http.Request) : Prop :=
  r.method = "HEAD" ∨ (r.method = "GET" ∧ r.target.route = OAuth1Route.health.path)

theorem Inspects.not_asksForPage (h : Inspects r) : ¬AsksForPage r := by
  rintro ⟨hm, hpath⟩
  rcases h with h | ⟨-, h⟩
  · rw [h] at hm
    exact absurd hm (by decide)
  · rw [h] at hpath
    exact absurd hpath (by decide)

theorem Inspects.not_posted (h : Inspects r) (route : OAuth1Route) : ¬route.Posted r := by
  rintro ⟨hm, -⟩
  rcases h with h | ⟨h, -⟩
  · rw [h] at hm
    exact absurd hm (by decide)
  · rw [h] at hm
    exact absurd hm (by decide)

/-- A refusal of the protocol is never the answer to a login form: a pending token is the provider's own. -/
theorem Served.status_ne_401 (hx : site.Served r x) (hl : OAuth1Route.login.Posted r) : x.1.status ≠ 401 := by
  cases hx with
  | other _ hn _ => exact absurd hl hn
  | pageRefused hp _ => exact absurd hl (hp.not_posted _)
  | page hp _ _ => exact absurd hl (hp.not_posted _)
  | formRefused _ _ _ hrefusal => exact hrefusal
  | noCallback _ _ _ _ => exact (by decide : (400 : Nat) ≠ 401)
  | accepted _ _ _ _ hstatus =>
    rw [hstatus]
    decide

/-- After any run from the beginning each signal tells just what has been answered since the last reset. An
answer with the status of an error other than 400, and any answer to a request that only inspects the site,
leaves both signals and the pending token alone. A login form is accepted only after the page has been shown,
and is never refused by the protocol. -/
theorem signals_tell_history (s : Settings) (timeout : Duration) (boundPort : Nat) (events : List Event) :
    let start := ofSettings s (.withTimeout timeout) boundPort
    let site := start.run events
    (site.signals.showLogin = true ↔ ∃ x ∈ sinceReset (start.history events), x.ShowsPage) ∧
    (site.signals.loginDone = true ↔ ∃ x ∈ sinceReset (start.history events), x.AcceptsLogin) ∧
    (∀ token, site.pending = some token → token.key = site.provider.store.request.key) ∧
    ∀ now r,
      ((site.serve now r).1.status ∈ [401, 404, 405, 413, 415, 422] ∨ Inspects r →
        (site.serve now r).2.signals = site.signals ∧ (site.serve now r).2.pending = site.pending) ∧
      (OAuth1Route.login.Posted r →
        ((site.serve now r).1.status = 301 → ∃ x ∈ start.history events, x.ShowsPage) ∧
          (site.serve now r).1.status ≠ 401) := by
  intro start site
  have hsignals : site.Signalled (start.history events) := signalled_run s timeout boundPort events
  have hpending : site.PendingSince (start.history events) := pendingSince_run s _ boundPort events
  have hconsistent : site.Consistent s := (consistent_ofSettings s _ boundPort).run events
  refine ⟨hsignals.showLogin, hsignals.loginDone, fun _ => hconsistent.pending_key, fun now r => ⟨?_, ?_⟩⟩
  · intro hr
    refine (hconsistent.served now r).progress.unchanged ?_ ?_
    · rintro ⟨hpage, hstatus⟩
      rcases hr with hr | hr
      · rw [hstatus] at hr
        exact absurd hr (by decide)
      · exact hr.not_asksForPage hpage
    · rintro ⟨hlogin, hstatus⟩
      rcases hr with hr | hr
      · rw [hstatus] at hr
        exact absurd hr (by decide)
      · exact hr.not_posted _ hlogin
  · intro hl
    have hserved := hconsistent.served now r
    refine ⟨fun hstatus => ?_, hserved.status_ne_401 hl⟩
    cases hserved.progress with
    | page hpage _ _ _ => exact absurd hl (hpage.1.not_posted _)
    | login _ _ hwas _ _ => exact hpending.mp hwas.pending
    | none _ hlogin _ _ => exact absurd ⟨hl, hstatus⟩ hlogin

/-- The page sets the first signal and the form after it the second. After a reset both are unset, though the
history still has the page and the form in it. -/
theorem signals_tell_history_until_reset :
    let page : Event := .request 0 ⟨"GET", ⟨"/oauth1/authorize", some "oauth_token=requestkey"⟩, [], []⟩
    let form : Event := .request 0 ⟨"POST", ⟨"/login.html", none⟩,
      [("content-type", Utf8.encode "application/x-www-form-urlencoded")], Utf8.encode "username=Ann"⟩
    let start := ofSettings brief (.withTimeout (.ofSeconds 5)) 5121
    let signals (events : List Event) := (start.run events).signals
    ((signals [page]).showLogin = true ∧ (signals [page]).loginDone = false) ∧
      ((signals [page, form]).showLogin = true ∧ (signals [page, form]).loginDone = true) ∧
      ((∃ x ∈ start.history [page, form, .reset], x.ShowsPage) ∧
        ∃ x ∈ start.history [page, form, .reset], x.AcceptsLogin) ∧
      (signals [page, form, .reset]).showLogin = false ∧ (signals [page, form, .reset]).loginDone = false := by
  intro page form start signals
  have hpage : (∃ x ∈ sinceReset (start.history [page]), x.ShowsPage) ∧
      ¬∃ x ∈ sinceReset (start.history [page]), x.AcceptsLogin := by
    decide +kernel
  have hform : (∃ x ∈ sinceReset (start.history [page, form]), x.ShowsPage) ∧
      ∃ x ∈ sinceReset (start.history [page, form]), x.AcceptsLogin := by
    decide +kernel
  have hkept : (∃ x ∈ start.history [page, form, .reset], x.ShowsPage) ∧
      ∃ x ∈ start.history [page, form, .reset], x.AcceptsLogin := by
    decide +kernel
  have hnone : sinceReset (start.history [page, form, .reset]) = [] := rfl
  have htell : ∀ events,
      ((signals events).showLogin = true ↔ ∃ x ∈ sinceReset (start.history events), x.ShowsPage) ∧
        ((signals events).loginDone = true ↔ ∃ x ∈ sinceReset (start.history events), x.AcceptsLogin) := by
    intro events
    obtain ⟨hshow, hdone, -⟩ := signals_tell_history brief (.ofSeconds 5) 5121 events
    exact ⟨hshow, hdone⟩
  refine ⟨⟨(htell _).1.mpr hpage.1, ?_⟩, ⟨(htell _).1.mpr hform.1, (htell _).2.mpr hform.2⟩, hkept, ?_, ?_⟩
  · rw [Bool.eq_false_iff, ne_eq, (htell _).2]
    exact hpage.2
  · rw [Bool.eq_false_iff, ne_eq, (htell _).1, hnone]
    simp
  · rw [Bool.eq_false_iff, ne_eq, (htell _).2, hnone]
    simp

end OAuth1Site
end LoginRehearsal
