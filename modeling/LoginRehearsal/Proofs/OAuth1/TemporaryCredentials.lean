import LoginRehearsal.Proofs.OAuth1.SiteRun

/-!
# Temporary credentials

The first endpoint gives out the request token and its secret in two cases. Either the client has signed the
request, in time and with its secret, or the request names the request token. The second case is that of the
login page, for which a browser asks without a signature; the endpoint decides in the same way. So a request
without a signature is told the secret just if it names the token.

* `OAuth1Site.Entitled`: the two cases.
* `OAuth1Site.temporary_credentials_given`: a request gets the token just in these, and any other one changes
  nothing.
* `OAuth1Site.unsigned_request_gets_secret`: one of them without a signature.
-/
namespace LoginRehearsal
namespace OAuth1Site

variable {s : Settings} {site : OAuth1Site} {now : Nat} {r : Http.Request} {q : OAuthRequest}

theorem serve_requestToken (h : OAuth1Route.requestToken.Posted r) :
    site.serve now r =
      ((site.respond (site.tokenRequest r .requestToken (site.provider.requestToken now)).1).finished r.method,
        (site.tokenRequest r .requestToken (site.provider.requestToken now)).2) :=
  serve_of_decide (decide_requestToken h)

/-- A request that names the request token, or may begin a handshake. -/
def Entitled (s : Settings) (now : Nat) (q : OAuthRequest) : Prop :=
  q.get? "oauth_token" = some s.requestToken.key ∨ MayBegin s now q

/-- A request that names the token gets it with the configured callback. -/
theorem Consistent.serve_named (h : site.Consistent s) (hr : OAuth1Route.requestToken.Posted r)
    (hq : site.Arrives r q) (hn : q.get? "oauth_token" = some s.requestToken.key) :
    site.serve now r =
      ((formResponse (site.provider.store.request.withCallback s.callbackUrl).formText).finished r.method,
        site.withProvider (site.provider.withRequest
          (site.provider.store.request.withCallback s.callbackUrl))) := by
  rw [serve_requestToken hr, tokenRequest_of_arrives hq,
    Provider.requestToken_named h.provider.toFits now hn]
  rfl

/-- A signed request that does not name the token gets it with its own callback. -/
theorem Consistent.serve_signed (h : site.Consistent s) (hr : OAuth1Route.requestToken.Posted r)
    (hq : site.Arrives r q) (hn : q.get? "oauth_token" ≠ some s.requestToken.key) (hm : MayBegin s now q) :
    site.serve now r =
      ((formResponse (site.provider.issued q).formText).finished r.method,
        site.withProvider (site.provider.withRequest (site.provider.issued q))) := by
  rw [serve_requestToken hr, tokenRequest_of_arrives hq,
    (Provider.requestToken_unnamed h.provider.toFits now hn).1 hm]
  rfl

theorem Consistent.serve_entitled (h : site.Consistent s) (hr : OAuth1Route.requestToken.Posted r)
    (hq : site.Arrives r q) (he : Entitled s now q) :
    ∃ t : Token, t.credential = s.requestToken ∧
      site.serve now r =
        ((formResponse t.formText).finished r.method, site.withProvider (site.provider.withRequest t)) := by
  by_cases hn : q.get? "oauth_token" = some s.requestToken.key
  · refine ⟨_, ?_, h.serve_named hr hq hn⟩
    exact h.provider.store.request
  · refine ⟨_, ?_, h.serve_signed hr hq hn (he.resolve_left hn)⟩
    exact (h.provider.issued q).store.request

/-- Every other request is refused, and nothing changes. -/
theorem Consistent.serve_unentitled (h : site.Consistent s) (hr : OAuth1Route.requestToken.Posted r)
    (hn : ∀ q, site.Arrives r q → ¬Entitled s now q) :
    400 ≤ (site.serve now r).1.status ∧ (site.serve now r).2 = site := by
  rw [serve_requestToken hr, Http.Response.status_finished]
  rcases tokenRequest_cases site r .requestToken (site.provider.requestToken now) with
    ⟨q, hq⟩ | ⟨rejection, hx⟩ | ⟨refusal, hx⟩
  · have hentitled := hn q hq
    rw [tokenRequest_of_arrives hq]
    rcases Provider.requestToken_cases h.provider.toFits now q with ⟨hnamed, -⟩ | ⟨-, hmay, -⟩ | ⟨-, e, -, hp⟩
    · exact absurd (.inl hnamed) hentitled
    · exact absurd (.inr hmay) hentitled
    · rw [hp]
      exact ⟨(site.status_unauthorized e).symm ▸ by decide, rfl⟩
  · rw [hx]
    exact ⟨rejection.le_status, rfl⟩
  · rw [hx]
    exact ⟨(site.status_unauthorized refusal).symm ▸ by decide, rfl⟩

/-- The endpoint gives the request token to a request just if the request names it or is signed, given in time
and by the client. Every other request is refused and changes nothing. -/
theorem temporary_credentials_given (h : Reachable s site) (now : Nat)
    (hr : OAuth1Route.requestToken.Posted r) :
    ((site.serve now r).1.status = 200 ↔ ∃ q, site.Arrives r q ∧ Entitled s now q) ∧
    ((site.serve now r).1.status = 200 →
      ∃ t : Token, t.credential = s.requestToken ∧
        site.serve now r = ((formResponse t.formText).finished r.method,
          site.withProvider (site.provider.withRequest t))) ∧
    ((site.serve now r).1.status ≠ 200 → (site.serve now r).2 = site) := by
  have hs := h.consistent
  by_cases hq : ∃ q, site.Arrives r q ∧ Entitled s now q
  · obtain ⟨q, hq, he⟩ := hq
    obtain ⟨t, ht, hx⟩ := hs.serve_entitled hr hq he
    have hstatus : (site.serve now r).1.status = 200 := by
      rw [hx]
      rfl
    exact ⟨iff_of_true hstatus ⟨q, hq, he⟩, fun _ => ⟨t, ht, hx⟩, fun hne => absurd hstatus hne⟩
  · obtain ⟨hrefused, hsite⟩ := hs.serve_unentitled hr fun q hq' he => hq ⟨q, hq', he⟩
    have hstatus : (site.serve now r).1.status ≠ 200 := fun he => absurd (he ▸ hrefused) (by decide)
    exact ⟨iff_of_false hstatus hq, fun he => absurd he hstatus, fun _ => hsite⟩

/-- A signed request gets the token, though it names another one. Unsigned, it gets nothing. -/
theorem temporary_credentials_given_to_signed :
    let s := { Settings.standard with consumer := ⟨"c", "s"⟩, publicHost := some "h" }
    let site := ofSettings s .standard 5121
    let header := Utf8.encode "OAuth oauth_consumer_key=c,oauth_signature=s%26,oauth_nonce=n"
    let signed : Http.Request := ⟨"POST", ⟨"/oauth1/request_token", none⟩, [("authorization", header)],
      Utf8.encode "oauth_token=old&oauth_timestamp=0&oauth_signature_method=PLAINTEXT"⟩
    let unsigned : Http.Request := ⟨"POST", ⟨"/oauth1/request_token", none⟩, [], Utf8.encode "oauth_token=old"⟩
    Reachable s site ∧
      (OAuth1Route.requestToken.Posted signed ∧ (site.serve 0 signed).1.status = 200) ∧
      OAuth1Route.requestToken.Posted unsigned ∧ (site.serve 0 unsigned).1.status ≠ 200 ∧
        (site.serve 0 unsigned).2 = site := by
  intro s site header signed unsigned
  have hsite : Reachable s site := ⟨_, _, [], rfl⟩
  have hsigned : OAuth1Route.requestToken.Posted signed := ⟨rfl, rfl⟩
  have hunsigned : OAuth1Route.requestToken.Posted unsigned := ⟨rfl, rfl⟩
  let url : Url := ⟨"http", some ⟨"", none, .name "h", none⟩, .segments ["oauth1", "request_token"], none, none⟩
  let q : OAuthRequest := ⟨"POST", url, [("oauth_consumer_key", "c"), ("oauth_signature", "s&"),
    ("oauth_nonce", "n"), ("oauth_token", "old"), ("oauth_timestamp", "0"),
    ("oauth_signature_method", "PLAINTEXT")]⟩
  have hq : site.Arrives signed q :=
    ⟨"oauth_token=old&oauth_timestamp=0&oauth_signature_method=PLAINTEXT", by decide +kernel,
      by decide +kernel⟩
  have hmay : MayBegin s 0 q :=
    { version := .inl (by decide)
      consumer := by decide
      timestamp := ⟨"0", 0, by decide, by decide, by decide, by unfold Duration.covers; decide⟩
      signature := ⟨.plaintext, by decide, by decide⟩
      nonce := ⟨"n", by decide⟩ }
  have hq' : site.Arrives unsigned ⟨"POST", url, [("oauth_token", "old")]⟩ :=
    ⟨"oauth_token=old", by decide +kernel, by decide +kernel⟩
  have hstatus : (site.serve 0 unsigned).1.status ≠ 200 := by
    intro hgiven
    -- only one request arrives, and it neither names the token nor has a nonce
    obtain ⟨q', harrives, hnamed | hmay'⟩ := (temporary_credentials_given hsite 0 hunsigned).1.mp hgiven
    · rw [harrives.unique hq'] at hnamed
      exact absurd hnamed (by decide)
    · obtain ⟨nonce, hnonce⟩ := hmay'.nonce
      rw [harrives.unique hq'] at hnonce
      cases hnonce
  exact ⟨hsite, ⟨hsigned, (temporary_credentials_given hsite 0 hsigned).1.mpr ⟨q, hq, .inr hmay⟩⟩, hunsigned,
    hstatus, (temporary_credentials_given hsite 0 hunsigned).2.2 hstatus⟩

/-- A request that only names the request token is told its secret. -/
theorem unsigned_request_gets_secret :
    let s := Settings.standard
    let site := ofSettings s .standard 5121
    let r : Http.Request :=
      ⟨"POST", ⟨"/oauth1/request_token", none⟩, [], Utf8.encode "oauth_token=requestkey"⟩
    let url : Url := ⟨"http", some ⟨"", none, .name "localhost", some 5121⟩,
      .segments ["oauth1", "request_token"], none, none⟩
    let q : OAuthRequest := ⟨"POST", url, [("oauth_token", "requestkey")]⟩
    let token : Token := ⟨"requestkey", "requestsecret", some s.callbackUrl, true, none, none⟩
    Reachable s site ∧ OAuth1Route.requestToken.Posted r ∧
      (site.serve 0 r).1.status = 200 ∧ (site.serve 0 r).1 = (formResponse token.formText).finished "POST" ∧
      site.Arrives r q ∧ q.get? "oauth_signature" = none := by
  intro s site r url q token
  have hr : OAuth1Route.requestToken.Posted r := ⟨rfl, rfl⟩
  have hq : site.Arrives r q := ⟨"oauth_token=requestkey", by decide +kernel, by decide +kernel⟩
  have hx : site.serve 0 r = _ := (consistent_ofSettings s .standard 5121).serve_named hr hq (by decide)
  refine ⟨⟨_, _, [], rfl⟩, hr, ?_, ?_, hq, by decide⟩
  · rw [hx]
    rfl
  · rw [hx]
    rfl

end OAuth1Site
end LoginRehearsal
