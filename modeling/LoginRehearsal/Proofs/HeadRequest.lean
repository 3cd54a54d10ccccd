import LoginRehearsal.OAuth2.Site
import LoginRehearsal.Proofs.OAuth1.LoginForm

/-!
# Requests for the head of a page

Every page of the OAuth 2.0 site answers a request for its head, with the type of a page and without a body. On
the OAuth 1.0a site so does every path but four: the report of the service has a type of its own, and the paths
that only take what is posted refuse the method. Whatever the answer, it has no body, and nothing changes.

* `OAuth1Site.serve_head`: what such a request comes to, by its route.
* `OAuth1Site.isPageHead_iff`: which routes do not answer as a page.
* `head_answered_by_route`: the answers of both sites.
-/
namespace LoginRehearsal

/-- The answer to a request for the head of a page: it has the type of a page, and no body. -/
structure Http.Response.IsPageHead (answer : Http.Response) : Prop where
  status : answer.status = 200
  type : Http.findHeader? answer.headers "content-type" = some (Utf8.encode "text/html")
  body : answer.body = []

theorem LoginPage.isPageHead_head : (LoginPage.head.finished "HEAD").IsPageHead where
  status := rfl
  type := Http.Response.findHeader?_finished _ _ (by decide) (by decide)
  body := rfl

/-! ## The OAuth 1.0a site -/

theorem OAuth1Route.find?_eq_some_iff {path : String} {route : OAuth1Route} :
    find? path = some route ↔ path = route.path := by
  constructor
  · exact path_of_find?
  · rintro rfl
    exact find?_path route

namespace OAuth1Site

open OAuth1Route

variable {site : OAuth1Site} {now : Nat} {r : Http.Request}

/-- What a request for a head comes to, on a route of the site or on none. -/
def headOutcome : Option OAuth1Route → OAuth1Outcome
  | none => .head
  | some .health => .health
  | some .authorize => .head
  | some .requestToken => .methodNotAllowed "POST"
  | some .accessToken => .methodNotAllowed "POST"
  | some .login => .methodNotAllowed "POST"

/-- The answer that goes with it. -/
def headAnswer (site : OAuth1Site) (route : Option OAuth1Route) : Http.Response :=
  (site.respond (headOutcome route)).finished "HEAD"

theorem handle_head (h : r.method = "HEAD") (route : OAuth1Route) :
    site.handle now route r = (headOutcome (some route), site) := by
  unfold handle
  rw [h]
  cases route <;> rfl

theorem serve_head (h : r.method = "HEAD") :
    site.serve now r = (site.headAnswer (find? r.target.route), site) := by
  have hdecide : site.decide now r = (headOutcome (find? r.target.route), site) := by
    unfold decide
    cases find? r.target.route with
    | none =>
      unfold fallback
      rw [if_pos h]
      rfl
    | some route => exact handle_head h route
  rw [serve_of_decide hdecide, h]
  rfl

theorem type_health (site : OAuth1Site) :
    Http.findHeader? (site.headAnswer (some .health)).headers "content-type" =
      some (Utf8.encode "application/json") :=
  Http.Response.findHeader?_finished _ _ (by decide) (Nat.le_refl 1)

/-- The routes that only take what is posted. -/
def postRoutes : List OAuth1Route := [.requestToken, .accessToken, .login]

theorem headAnswer_postRoute {route : OAuth1Route} (h : route ∈ postRoutes) :
    site.headAnswer (some route) = (Http.Response.methodNotAllowed "POST").finished "HEAD" := by
  simp only [postRoutes, List.mem_cons, List.not_mem_nil, or_false] at h
  rcases h with rfl | rfl | rfl <;> rfl

theorem not_isPageHead_health (site : OAuth1Site) : ¬(site.headAnswer (some .health)).IsPageHead := by
  intro hhead
  have htype := hhead.type
  rw [type_health] at htype
  exact absurd htype (by decide +kernel)

theorem not_isPageHead_postRoute {route : OAuth1Route} (h : route ∈ postRoutes) :
    ¬(site.headAnswer (some route)).IsPageHead := by
  rw [headAnswer_postRoute h]
  intro hhead
  exact absurd hhead.status (by decide : (405 : Nat) ≠ 200)

/-- The answer is that for a page, but for the report of the service and the routes that refuse the method. -/
theorem isPageHead_iff (site : OAuth1Site) (route : Option OAuth1Route) :
    (site.headAnswer route).IsPageHead ↔ ∀ other ∈ OAuth1Route.health :: postRoutes, route ≠ some other := by
  cases route with
  | none => exact iff_of_true LoginPage.isPageHead_head (by decide)
  | some route =>
    cases route with
    | authorize => exact iff_of_true LoginPage.isPageHead_head (by decide)
    | health => exact iff_of_false site.not_isPageHead_health (by decide)
    | requestToken => exact iff_of_false (not_isPageHead_postRoute (by decide)) (by decide)
    | accessToken => exact iff_of_false (not_isPageHead_postRoute (by decide)) (by decide)
    | login => exact iff_of_false (not_isPageHead_postRoute (by decide)) (by decide)

end OAuth1Site

/-! ## Both sites -/

theorem OAuth2Site.serve_head {site : OAuth2Site} {r : Http.Request} (h : r.method = "HEAD")
    (hpage : OAuth2Site.isPage r = true) : site.serve r = (LoginPage.head.finished "HEAD", site) := by
  have hdecide : site.decide r = (.head, site) := by
    simp [decide, hpage, h]
  unfold serve
  rw [hdecide, h]
  rfl

/-- A request for a head, in any state of either site. It changes nothing, and there is no body in its answer. On
the OAuth 1.0a site the answer is that for a page but for four paths: the report of the service is answered with
its own type, and the three paths that only take what is posted refuse the method. On the OAuth 2.0 site the answer
is that for a page on every path that begins with a slash. -/
theorem head_answered_by_route (site : OAuth1Site) (other : OAuth2Site) (now : Nat) {r : Http.Request}
    (h : r.method = "HEAD") :
    let answer := (site.serve now r).1
    ((site.serve now r).2 = site ∧ answer.body = [] ∧
      (answer.IsPageHead ↔
        ∀ route ∈ [OAuth1Route.health, .requestToken, .accessToken, .login], r.target.route ≠ route.path) ∧
      (r.target.route = OAuth1Route.health.path → answer.status = 200 ∧
        Http.findHeader? answer.headers "content-type" = some (Utf8.encode "application/json")) ∧
      ∀ route ∈ [OAuth1Route.requestToken, .accessToken, .login], r.target.route = route.path →
        answer.status = 405 ∧ Http.findHeader? answer.headers "content-type" = none ∧
          Http.findHeader? answer.headers "allow" = some (Utf8.encode "POST")) ∧
    (OAuth2Site.isPage r = true → (other.serve r).2 = other ∧ (other.serve r).1.IsPageHead) := by
  intro answer
  have hserve : site.serve now r = (site.headAnswer (OAuth1Route.find? r.target.route), site) :=
    OAuth1Site.serve_head h
  have hanswer : answer = site.headAnswer (OAuth1Route.find? r.target.route) := congrArg Prod.fst hserve
  refine ⟨⟨congrArg Prod.snd hserve, ?_, ?_, ?_, ?_⟩, ?_⟩
  · rw [hanswer]
    rfl
  · rw [hanswer, OAuth1Site.isPageHead_iff]
    simp only [OAuth1Site.postRoutes, ne_eq, OAuth1Route.find?_eq_some_iff]
  · intro hpath
    rw [hanswer, hpath, OAuth1Route.find?_path]
    exact ⟨rfl, site.type_health⟩
  · intro route hmem hpath
    rw [hanswer, hpath, OAuth1Route.find?_path, OAuth1Site.headAnswer_postRoute hmem]
    refine ⟨rfl, ?_, ?_⟩
    · exact Http.Response.findHeader?_finished _ _ (by decide) (by decide)
    · exact Http.Response.findHeader?_finished _ _ (by decide) (by decide)
  · intro hpage
    rw [OAuth2Site.serve_head h hpage]
    exact ⟨rfl, LoginPage.isPageHead_head⟩

/-- A path that is no route has the head of a page, and the path of the login form has none on the first site. -/
theorem head_answered_by_route_for_form :
    let site := OAuth1Site.ofSettings OAuth1Site.brief .standard 5121
    let other := OAuth2Site.ofSettings OAuth1Site.brief .standard 5120
    let unknown : Http.Request := ⟨"HEAD", ⟨"/anything", some "x=1"⟩, [], []⟩
    let form : Http.Request := ⟨"HEAD", ⟨"/login.html", none⟩, [], []⟩
    (site.serve 0 unknown).1.IsPageHead ∧ (other.serve unknown).1.IsPageHead ∧
      ¬(site.serve 0 form).1.IsPageHead ∧ (site.serve 0 form).1.status = 405 ∧ (other.serve form).1.IsPageHead := by
  intro site other unknown form
  obtain ⟨⟨-, -, hunknown, -, -⟩, hpage⟩ := head_answered_by_route site other 0 (r := unknown) rfl
  obtain ⟨⟨-, -, hform, -, hrefused⟩, hpage'⟩ := head_answered_by_route site other 0 (r := form) rfl
  refine ⟨hunknown.mpr (by decide), (hpage (by decide)).2, fun hhead => ?_, ?_, (hpage' (by decide)).2⟩
  · exact hform.mp hhead .login (by decide) rfl
  · exact (hrefused .login (by decide) rfl).1

end LoginRehearsal
