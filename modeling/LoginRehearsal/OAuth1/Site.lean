import LoginRehearsal.Http.Body
import LoginRehearsal.Json.Value
import LoginRehearsal.LoginPage
import LoginRehearsal.OAuth1.Provider
import LoginRehearsal.Signals

/-!
# The OAuth 1.0a site

The web site around the provider: the two token endpoints, the authorize page, and the form that it posts.
The token for which the page was shown last is pending until a form is posted for it; the form leaves it
pending.

* `OAuth1Site.decide`: what a request comes to, and the state after it.
* `OAuth1Site.respond`: the answer to it.
* `OAuth1Site.serve`: both.
-/
namespace LoginRehearsal

/-- The state of the site. -/
structure OAuth1Site where
  provider : Provider
  pending : Option Token
  signals : LoginSignals
  publicHost : String
  realm : String

/-- What a request comes to. -/
inductive OAuth1Outcome where
  | health
  | head
  | notFound
  | methodNotAllowed (allowed : String)
  | rejected (why : Http.Rejection)
  | refused (why : Refusal)
  | requestToken (token : Token)
  | accessToken (token : Token)
  | loginPage (token : Token)
  | missingUsername
  | nothingPending
  | noCallback
  | loggedIn (username location : String)

/-- The paths that the site knows. -/
inductive OAuth1Route where
  | health
  | authorize
  | requestToken
  | accessToken
  | login
deriving DecidableEq, Repr

namespace OAuth1Route

def path : OAuth1Route → String
  | .health => "/health"
  | .authorize => "/oauth1/authorize"
  | .requestToken => "/oauth1/request_token"
  | .accessToken => "/oauth1/access_token"
  | .login => "/login.html"

/-- The methods of a route, as a refused request is told. -/
def allowed : OAuth1Route → String
  | .health => "GET,HEAD"
  | .authorize => "GET,HEAD"
  | .requestToken => "POST"
  | .accessToken => "POST"
  | .login => "POST"

def find? (path : String) : Option OAuth1Route :=
  [health, authorize, requestToken, accessToken, login].find? (·.path == path)

end OAuth1Route

namespace OAuth1Site

/-- The site of a server on the given port. -/
def ofSettings (s : Settings) (signals : LoginSignals) (boundPort : Nat) : OAuth1Site :=
  ⟨.ofSettings s, none, signals, s.publicHostFor boundPort, s.realm⟩

/-! ## Requests as the provider sees them -/

/-- The address that a request was sent to. -/
def requestUrl (site : OAuth1Site) (r : Http.Request) : Except Refusal Url :=
  let host := (r.textHeader? "host").getD site.publicHost
  match Url.parse ("http://" ++ host ++ r.target.text) with
  | .ok url => .ok url
  | .error e => .error (.malformed e.message)

/-- The request with all its parameters. -/
def oauthRequest (site : OAuth1Site) (r : Http.Request) (body : Option String) :
    Except Refusal OAuthRequest := do
  let url ← site.requestUrl r
  OAuthRequest.ofParts r.method url (r.textHeader? "authorization") body

/-! ## Handlers -/

/-- What an answer of the provider comes to. -/
def granted (site : OAuth1Site) (grant : Token → OAuth1Outcome)
    (answer : Except Refusal Token × Provider) : OAuth1Outcome × OAuth1Site :=
  let site := { site with provider := answer.2 }
  match answer.1 with
  | .ok token => (grant token, site)
  | .error refusal => (.refused refusal, site)

/-- The two token endpoints. -/
def tokenRequest (site : OAuth1Site) (r : Http.Request) (grant : Token → OAuth1Outcome)
    (ask : OAuthRequest → Except Refusal Token × Provider) : OAuth1Outcome × OAuth1Site :=
  match r.bodyText with
  | .error rejection => (.rejected rejection, site)
  | .ok body =>
    match site.oauthRequest r (some body) with
    | .error refusal => (.refused refusal, site)
    | .ok request => site.granted grant (ask request)

/-- Shows the login page for the token that the request asks for, and notes the token as pending. -/
def authorize (site : OAuth1Site) (now : Nat) (r : Http.Request) : OAuth1Outcome × OAuth1Site :=
  match site.oauthRequest r none with
  | .error refusal => (.refused refusal, site)
  | .ok request =>
    match site.granted .loginPage (site.provider.requestToken now request) with
    | (.loginPage token, site) =>
      (.loginPage token, { site with
        pending := some token
        signals := site.signals.set .showLogin })
    | other => other

/-- Accepts a user name for the pending token. -/
def acceptLogin (site : OAuth1Site) (pending : Token) (username : String) :
    OAuth1Outcome × OAuth1Site :=
  match site.provider.authorizeToken pending username with
  | (.error refusal, provider) => (.refused refusal, { site with provider })
  | (.ok _, provider) =>
    let (token, provider) := provider.attachVerifier .request
    let site := { site with provider }
    match token.callbackUrl with
    | none => (.noCallback, site)
    | some location =>
      (.loggedIn username location, { site with signals := site.signals.set .loginDone })

/-- The form of the login page. -/
def login (site : OAuth1Site) (r : Http.Request) : OAuth1Outcome × OAuth1Site :=
  match r.formFields ["username"] with
  | .error rejection => (.rejected rejection, site)
  | .ok fields =>
    match (Http.field? fields "username").filter (!·.isEmpty) with
    | none => (.missingUsername, site)
    | some username =>
      match site.pending with
      | none => (.nothingPending, site)
      | some pending => site.acceptLogin pending username

/-! ## Routes -/

/-- A request on a route that the site knows. -/
def handle (site : OAuth1Site) (now : Nat) (route : OAuth1Route) (r : Http.Request) :
    OAuth1Outcome × OAuth1Site :=
  match route, r.method with
  | .health, "GET" => (.health, site)
  | .health, "HEAD" => (.health, site)
  | .authorize, "GET" => site.authorize now r
  | .authorize, "HEAD" => (.head, site)
  | .requestToken, "POST" => site.tokenRequest r .requestToken (site.provider.requestToken now)
  | .accessToken, "POST" => site.tokenRequest r .accessToken (site.provider.accessToken now)
  | .login, "POST" => site.login r
  | route, _ => (.methodNotAllowed route.allowed, site)

/-- A request on any other path. Paths below the authorize page show it too. -/
def fallback (site : OAuth1Site) (now : Nat) (r : Http.Request) : OAuth1Outcome × OAuth1Site :=
  if r.method = "HEAD" then (.head, site)
  else if r.method = "GET" ∧ OAuth1Route.authorize.path.toList.isPrefixOf r.target.route.toList then
    site.authorize now r
  else (.notFound, site)

/-- What a request comes to, and the site after it. -/
def decide (site : OAuth1Site) (now : Nat) (r : Http.Request) : OAuth1Outcome × OAuth1Site :=
  match OAuth1Route.find? r.target.route with
  | some route => site.handle now route r
  | none => site.fallback now r

/-! ## Answers -/

/-- The answer to a refused request, with a challenge if a header can carry it. -/
def unauthorized (site : OAuth1Site) (refusal : Refusal) : Http.Response :=
  let answer := Http.Response.plain 401 refusal.message
  let challenge := Utf8.encode ("OAuth realm=\"" ++ site.realm ++ "\"")
  if challenge.all Http.isFieldByte then
    { answer with headers := answer.headers ++ [("www-authenticate", challenge)] }
  else answer

/-- A body in the format of forms. -/
def formResponse (body : String) : Http.Response :=
  .ofText 200 "application/x-www-form-urlencoded" body

/-- The report of a running service. -/
def healthReport : Json :=
  .obj [("service", .str "online-accounts-mock"), ("status", .str "ok"), ("version", .str "0.1.0")]

/-- The address that the login page posts to. -/
def loginAction (site : OAuth1Site) : String := "http://" ++ site.publicHost ++ "/login.html"

/-- The answer that an outcome gives. -/
def respond (site : OAuth1Site) : OAuth1Outcome → Http.Response
  | .health => .ofText 200 "application/json" healthReport.text
  | .head => LoginPage.head
  | .notFound => .empty 404 []
  | .methodNotAllowed allowed => .methodNotAllowed allowed
  | .rejected rejection => rejection.response
  | .refused refusal => site.unauthorized refusal
  | .requestToken token => formResponse token.formText
  | .accessToken token =>
    formResponse (token.formText ++ "&" ++ Form.render [("ScreenName", token.username.getD "")])
  | .loginPage _ => LoginPage.response .oauth1 site.loginAction
  | .missingUsername => .plain 400 "Missing username"
  | .nothingPending => .plain 400 "No authorization in progress"
  | .noCallback => .plain 400 "Token has no callback"
  | .loggedIn _ location => LoginPage.redirect location

/-- Answers a request. -/
def serve (site : OAuth1Site) (now : Nat) (r : Http.Request) : Http.Response × OAuth1Site :=
  let (outcome, after) := site.decide now r
  ((site.respond outcome).finished r.method, after)

end OAuth1Site
end LoginRehearsal
