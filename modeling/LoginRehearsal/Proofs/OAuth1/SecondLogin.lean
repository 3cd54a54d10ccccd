import LoginRehearsal.Proofs.OAuth1.TokenAnswer

/-!
# Login forms after the first

The pending token is noted by the page, read by the form, and taken back by nobody. So once the page has been
shown, no form with a user is refused for want of an authorization, and once a form has been accepted every
later one is too, with its own user in the place of the one before, whether the page has been shown again or
not. What makes the second part true is that nothing takes the callback off the request token either.

* `OAuth1Site.ready_run`: after a form that was accepted a site is ready for others.
* `OAuth1Site.login_keeps_authorization`: what a form comes to, by the history in front of it.
-/
namespace LoginRehearsal
namespace OAuth1Site

variable {s : Settings} {site : OAuth1Site} {r : Http.Request} {username : String}
  {x : Http.Response × OAuth1Site}

/-! ## Sites that accept forms -/

/-- No request makes a site refuse the forms that it would have accepted. -/
theorem Served.keeps_ready (hx : site.Served r x) (h : site.Ready) : x.2.Ready := by
  cases hx with
  | other _ _ hk => exact ⟨h.pending, hk.callback h.callback⟩
  | pageRefused _ _ => exact h
  | page _ _ hk => exact ⟨Option.some_ne_none _, hk.callback h.callback⟩
  | formRefused _ _ _ _ => exact h
  | noCallback _ _ _ _ => exact ⟨h.pending, h.callback⟩
  | accepted _ _ _ _ _ => exact ⟨h.pending, h.callback⟩

theorem Progress.ready_of_accepted (hx : site.Progress r x) (h : (Entry.answered r x.1).AcceptsLogin) :
    site.Ready := by
  cases hx with
  | page _ hlogin _ _ => exact absurd h hlogin
  | login _ _ hready _ _ => exact hready
  | none _ hlogin _ _ => exact absurd h hlogin

theorem ready_run (s : Settings) (signals : LoginSignals) (boundPort : Nat) (events : List Event)
    (h : ∃ x ∈ (ofSettings s signals boundPort).history events, x.AcceptsLogin) :
    ((ofSettings s signals boundPort).run events).Ready := by
  induction events using List.reverseRecOn with
  | nil =>
    obtain ⟨entry, hmem, -⟩ := h
    exact absurd hmem List.not_mem_nil
  | append_singleton events event ih =>
    simp only [history_concat, List.mem_cons, exists_eq_or_imp] at h
    rw [run_concat]
    cases event with
    | request now r =>
      have hserved := served_run s signals boundPort events now r
      rcases h with hlast | hearlier
      · exact hserved.keeps_ready (hserved.progress.ready_of_accepted hlast)
      · exact hserved.keeps_ready (ih hearlier)
    | reset =>
      have hready := ih (h.resolve_left id)
      exact ⟨hready.pending, hready.callback⟩

/-! ## The form -/

theorem login_nothingPending (hu : submitted? r = some username) (hp : site.pending = none) :
    site.login r = (.nothingPending, site) := by
  unfold submitted? at hu
  unfold login
  cases hf : r.formFields ["username"] with
  | error rejection =>
    rw [hf] at hu
    cases hu
  | ok fields =>
    rw [hf] at hu
    simp only [hu, hp]

/-- A form with a user, while a token is pending, leaves it pending. It is accepted just if there is a callback. -/
theorem Consistent.serve_login_pending (h : site.Consistent s) (now : Nat) (hr : OAuth1Route.login.Posted r)
    (hu : submitted? r = some username) (hp : site.pending ≠ none) :
    (site.serve now r).2.pending = site.pending ∧
      (site.serve now r).2.provider.store.access.username = some username ∧
      ((site.serve now r).1.status = 301 ∧ site.provider.store.request.callback ≠ none ∨
        (site.serve now r).1 = (Http.Response.plain 400 "Token has no callback").finished r.method ∧
          site.provider.store.request.callback = none) := by
  obtain ⟨token, htoken⟩ := Option.ne_none_iff_exists'.mp hp
  cases hc : site.provider.store.request.callback with
  | none =>
    rw [h.serve_login_noCallback hr hu htoken hc]
    exact ⟨rfl, rfl, .inr ⟨rfl, rfl⟩⟩
  | some callback =>
    rw [h.serve_login_callback hr hu htoken hc]
    refine ⟨rfl, rfl, .inl ⟨?_, Option.some_ne_none callback⟩⟩
    rw [Http.Response.status_finished, LoginPage.status_redirect]

/-- A form that names a user after any run from the beginning. Before the page has been shown it is refused
without a trace. Afterwards the token stays pending under it, and its user is the one that the last leg will
name; it is accepted just if there is a callback. After a form that was accepted it is accepted again. -/
theorem login_keeps_authorization (s : Settings) (signals : LoginSignals) (boundPort : Nat)
    (events : List Event) (now : Nat) (hr : OAuth1Route.login.Posted r) (hu : submitted? r = some username) :
    let start := ofSettings s signals boundPort
    let site := start.run events
    let after := site.serve now r
    ((∀ x ∈ start.history events, ¬x.ShowsPage) →
      after = ((Http.Response.plain 400 "No authorization in progress").finished r.method, site)) ∧
    ((∃ x ∈ start.history events, x.ShowsPage) →
      site.pending ≠ none ∧ after.2.pending = site.pending ∧
        after.2.provider.store.access.username = some username ∧
        (after.1.status = 301 ∧ site.provider.store.request.callback ≠ none ∨
          after.1 = (Http.Response.plain 400 "Token has no callback").finished r.method ∧
            site.provider.store.request.callback = none)) ∧
    ((∃ x ∈ start.history events, x.AcceptsLogin) → after.1.status = 301) := by
  intro start site after
  have hconsistent : site.Consistent s := (consistent_ofSettings s signals boundPort).run events
  have hpending : site.PendingSince (start.history events) := pendingSince_run s signals boundPort events
  refine ⟨?_, ?_, ?_⟩
  · intro hnone
    have hp : site.pending = none := by
      by_contra hp
      obtain ⟨entry, hmem, hpage⟩ := hpending.mp hp
      exact hnone entry hmem hpage
    show site.serve now r = _
    rw [serve_login hr, login_nothingPending hu hp]
    rfl
  · intro hshown
    have hp := hpending.mpr hshown
    exact ⟨hp, hconsistent.serve_login_pending now hr hu hp⟩
  · intro haccepted
    have hready : site.Ready := ready_run s signals boundPort events haccepted
    obtain ⟨-, -, haccepts | hrefused⟩ := hconsistent.serve_login_pending now hr hu hready.pending
    · exact haccepts.1
    · exact absurd hrefused.2 hready.callback

/-- One page, and two forms after it. -/
theorem login_keeps_authorization_after_login :
    let page : Event := .request 0 ⟨"GET", ⟨"/oauth1/authorize", some "oauth_token=requestkey"⟩, [], []⟩
    let shown := (ofSettings brief .standard 5121).run [page]
    let used := (ofSettings brief .standard 5121).run [page, .request 0 (formNaming "Ann")]
    (OAuth1Route.login.Posted (formNaming "Bob") ∧ submitted? (formNaming "Bob") = some "Bob") ∧
      (shown.serve 0 (formNaming "Ann")).1.status = 301 ∧ (used.serve 0 (formNaming "Bob")).1.status = 301 := by
  intro page shown used
  have hposted : OAuth1Route.login.Posted (formNaming "Bob") := ⟨rfl, rfl⟩
  have hu : submitted? (formNaming "Bob") = some "Bob" := by decide +kernel
  have hfirst : (((ofSettings brief .standard 5121).run [page]).serve 0 (formNaming "Ann")).1.status = 301 := by
    decide +kernel
  have haccepted : ∃ x ∈ (ofSettings brief .standard 5121).history [page, .request 0 (formNaming "Ann")],
      x.AcceptsLogin :=
    ⟨_, List.mem_cons_self, ⟨rfl, rfl⟩, hfirst⟩
  exact ⟨⟨hposted, hu⟩, hfirst,
    (login_keeps_authorization brief .standard 5121 _ 0 hposted hu).2.2 haccepted⟩

end OAuth1Site
end LoginRehearsal
