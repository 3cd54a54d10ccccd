import LoginRehearsal.Server.Basic

/-!
# Notices

What a server reports in the log about a request: pages shown, logins accepted, tokens issued, and
refusals. Details of a refusal are reported at a lower level in front of it.

* `Site.notices`: the records that a request gives rise to.
-/
namespace LoginRehearsal

/-- A value that is shown as it is. -/
def LogField.shown (name value : String) : LogField := ⟨name, value, false⟩

/-- What an outcome is reported as. -/
def OAuth1Outcome.notice? (o : OAuth1Outcome) : Option LogRecord :=
  let info (message : String) (fields : List LogField) : Option LogRecord :=
    some ⟨.info, "online_accounts_mock::oauth1::handlers", message, fields⟩
  match o with
  | .refused refusal =>
    some ⟨.warn, "online_accounts_mock::oauth1::handlers", "Rejected OAuth request",
      [.shown "error" refusal.message]⟩
  | .loginPage token => info "Serving OAuth 1.0a login page" [.shown "token" token.key]
  | .requestToken token => info "Issued request token" [.shown "token" token.key]
  | .accessToken token =>
    info "Issued access token"
      [.shown "token" token.key, .shown "screen_name" (token.username.getD "")]
  | .loggedIn username location =>
    info "Login accepted" [.shown "user" username, .shown "location" location]
  | _ => none

/-- What an outcome is reported as. -/
def OAuth2Outcome.notice? (o : OAuth2Outcome) : Option LogRecord :=
  let info (message : String) (fields : List LogField) : Option LogRecord :=
    some ⟨.info, "online_accounts_mock::oauth2", message, fields⟩
  match o with
  | .loginPage => info "Serving OAuth 2.0 login page" []
  | .loggedIn username _ => info "Login accepted" [.shown "user" username]
  | _ => none

namespace OAuth1Site

def detail (message : String) (fields : List LogField) : LogRecord :=
  ⟨.debug, "online_accounts_mock::oauth1::server", message, fields⟩

/-- A token that a request for a request token or for the page names, but that is not stored. -/
def unknownTokenDetail (site : OAuth1Site) (r : OAuthRequest) : List LogRecord :=
  match r.get? "oauth_token", site.provider.namedRequestToken? r with
  | some key, none =>
    [detail "Token lookup failed" [.shown "error" (Refusal.unknownToken .request key).message]]
  | _, _ => []

/-- The base string to which a signature does not belong. -/
def mismatchDetail (r : OAuthRequest) : LogRecord :=
  detail "Signature mismatch"
    [⟨"method", (r.get? "oauth_signature_method").getD "", true⟩,
      .shown "base" (Signature.baseString r.httpMethod r.url r.params)]

/-- Whether a path is that of the endpoint for access tokens. -/
def asksForAccess (r : Http.Request) : Bool :=
  r.target.route == OAuth1Route.accessToken.path

/-- The details behind an outcome. -/
def details (site : OAuth1Site) (r : Http.Request) (o : OAuth1Outcome) : List LogRecord :=
  let body := if r.method = "POST" then r.bodyText.toOption else none
  match site.oauthRequest r body with
  | .error _ => []
  | .ok request =>
    let lookup := if asksForAccess r then [] else site.unknownTokenDetail request
    match o with
    | .refused .invalidSignature => lookup ++ [mismatchDetail request]
    | .refused _ => lookup
    | .requestToken _ => lookup
    | .loginPage _ => lookup
    | _ => []

end OAuth1Site

/-- The records that a request gives rise to. -/
def Site.notices (s : Site) (now : Nat) (r : Http.Request) : List LogRecord :=
  match s with
  | .oauth1 site =>
    let outcome := (site.decide now r).1
    site.details r outcome ++ outcome.notice?.toList
  | .oauth2 site => (site.decide r).1.notice?.toList

end LoginRehearsal
