import LoginRehearsal.Http.Body
import LoginRehearsal.LoginPage
import LoginRehearsal.Signals

/-!
# The OAuth 2.0 site

The implicit grant in its simplest form: every page shows the login form, and every posted form is sent on
to the success page, with an access token in the fragment that is user name and password in one.

* `OAuth2Site.successUrl`: where an accepted form is sent on to.
* `OAuth2Site.decide`, `OAuth2Site.respond`, `OAuth2Site.serve`: requests and their answers.
-/
namespace LoginRehearsal

/-- The state of the site. -/
structure OAuth2Site where
  signals : LoginSignals
  scheme : String
  publicHost : String
  /-- How many seconds the access token is said to last. -/
  expiresIn : Nat

/-- What a request comes to. -/
inductive OAuth2Outcome where
  | head
  | notFound
  | methodNotAllowed
  | rejected (why : Http.Rejection)
  | loginPage
  | missingField
  | loggedIn (username location : String)

namespace OAuth2Site

/-- The site of a server on the given port. -/
def ofSettings (s : Settings) (signals : LoginSignals) (boundPort : Nat) : OAuth2Site :=
  ⟨signals, if s.hasCertificate then "https" else "http", s.publicHostFor boundPort, 3600⟩

/-- The address of a page of the site. -/
def pageUrl (site : OAuth2Site) (page : String) : String :=
  site.scheme ++ "://" ++ site.publicHost ++ "/" ++ page

/-- Where an accepted form is sent on to. -/
def successUrl (site : OAuth2Site) (username password : String) : String :=
  site.pageUrl "success.html" ++ "#access_token=" ++ Percent.encode username ++
    Percent.encode password ++ "&expires_in=" ++ decimal site.expiresIn

/-- The form of the login page. -/
def login (site : OAuth2Site) (r : Http.Request) : OAuth2Outcome × OAuth2Site :=
  match r.formFields ["username", "password"] with
  | .error rejection => (.rejected rejection, site)
  | .ok fields =>
    match Http.field? fields "username", Http.field? fields "password" with
    | some username, some password =>
      (.loggedIn username (site.successUrl username password),
        { site with signals := site.signals.set .loginDone })
    | _, _ => (.missingField, site)

/-- Every path that begins with a slash is a page. -/
def isPage (r : Http.Request) : Bool := ['/'].isPrefixOf r.target.route.toList

/-- What a request comes to, and the site after it. -/
def decide (site : OAuth2Site) (r : Http.Request) : OAuth2Outcome × OAuth2Site :=
  if !isPage r then (.notFound, site)
  else match r.method with
    | "GET" => (.loginPage, { site with signals := site.signals.set .showLogin })
    | "HEAD" => (.head, site)
    | "POST" => site.login r
    | _ => (.methodNotAllowed, site)

/-- The answer that an outcome gives. -/
def respond (site : OAuth2Site) : OAuth2Outcome → Http.Response
  | .head => LoginPage.head
  | .notFound => .empty 404 []
  | .methodNotAllowed => .methodNotAllowed "GET,HEAD,POST"
  | .rejected rejection => rejection.response
  | .loginPage => LoginPage.response .oauth2 (site.pageUrl "login.html")
  | .missingField => .plain 400 "Missing username or password"
  | .loggedIn _ location => LoginPage.redirect location

/-- Answers a request. -/
def serve (site : OAuth2Site) (r : Http.Request) : Http.Response × OAuth2Site :=
  let (outcome, after) := site.decide r
  ((site.respond outcome).finished r.method, after)

end OAuth2Site
end LoginRehearsal
