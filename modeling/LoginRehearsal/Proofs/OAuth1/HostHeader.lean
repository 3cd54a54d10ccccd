import LoginRehearsal.OAuth1.Site
import LoginRehearsal.Proofs.Web.Target

/-!
# What a host text does to a request

The address of a request is its host text with the target written behind it, and then read as a whole. A host text is
not checked before: where it holds a separator, all that it has from there on stands in front of the target, and is
read as path and query. One without a separator leaves the query to the target, and the parameters with it; and the
path too, unless there is no host in it and the target has to give one.

* `OAuth1Site.requestUrl_target`: path and query of a request, for every host text.
* `OAuth1Site.params_oauthRequest`: the parameters, told from the query, the header and the body.
* `OAuth1Site.host_spares_target`: two host texts in front of one target.
-/
namespace LoginRehearsal
namespace OAuth1Site

variable {site : OAuth1Site} {r r' : Http.Request} {u u' : Url}

/-! ## Host texts -/

/-- The text that stands in front of the target when a request is read. -/
def hostText (site : OAuth1Site) (r : Http.Request) : String := (r.textHeader? "host").getD site.publicHost

/-- The host that a text begins with, up to its first separator. -/
def hostFront (text : String) : List Char := text.toList.takeWhile fun c => !Url.isHostEnd c

/-- What a host text adds to the target, from its first separator on. -/
def spill (text : String) : List Char := text.toList.dropWhile fun c => !Url.isHostEnd c

/-- Whether a text begins with a host at all. If not, the host is looked for in the target. -/
def NamesHost (text : String) : Prop := Url.unbroken (hostFront text) ≠ []

instance (text : String) : Decidable (NamesHost text) := inferInstanceAs (Decidable (_ ≠ []))

/-! ## The address -/

theorem parse_of_requestUrl (h : site.requestUrl r = .ok u) :
    Url.parse ("http://" ++ site.hostText r ++ r.target.text) = .ok u := by
  simp only [requestUrl] at h
  rw [hostText]
  cases hp : Url.parse ("http://" ++ (r.textHeader? "host").getD site.publicHost ++ r.target.text) with
  | ok v =>
    rw [hp] at h
    exact congrArg Except.ok (Except.ok.inj h)
  | error e =>
    rw [hp] at h
    cases h

/-- What a host text spills begins with the separator that ends the host, and if there is none, the target does. -/
theorem spill_target (text : String) {target : List Char} (ht : ∃ rest, target = '/' :: rest) :
    ∃ c rest, spill text ++ target = c :: rest ∧ Url.isHostEnd c = true := by
  obtain ⟨rest, rfl⟩ := ht
  cases hs : spill text with
  | nil => exact ⟨'/', rest, rfl, by decide⟩
  | cons c more =>
    have hc := List.head?_dropWhile_not (fun c => !Url.isHostEnd c) text.toList
    rw [show text.toList.dropWhile (fun c => !Url.isHostEnd c) = c :: more from hs] at hc
    exact ⟨c, more ++ '/' :: rest, rfl, by simpa using hc⟩

/-- Path and query of a request are those of its target with what the host text spills in front of it. -/
theorem requestUrl_target (ht : ∃ rest, r.target.text.toList = '/' :: rest) (h : site.requestUrl r = .ok u) :
    u.path = (if NamesHost (site.hostText r) then Url.targetPath else Url.pathBehindHost)
        (spill (site.hostText r) ++ r.target.text.toList) ∧
      u.query = Url.targetQuery (spill (site.hostText r) ++ r.target.text.toList) := by
  have hfront : ∀ c ∈ hostFront (site.hostText r), Url.isHostEnd c = false := fun c hc => by
    simpa using List.mem_takeWhile_imp hc
  have htext : "http://" ++ site.hostText r ++ r.target.text = String.ofList (['h', 't', 't', 'p', ':', '/', '/'] ++
      (hostFront (site.hostText r) ++ (spill (site.hostText r) ++ r.target.text.toList))) := by
    rw [← List.append_assoc (hostFront _), hostFront, spill, List.takeWhile_append_dropWhile, ← String.toList_inj]
    simp
  have hp := parse_of_requestUrl h
  rw [htext] at hp
  obtain ⟨hpath, hquery⟩ := Url.parse_behind_host hfront (spill_target _ ht) hp
  refine ⟨hpath.trans ?_, hquery⟩
  by_cases hn : NamesHost (site.hostText r)
  · rw [if_pos hn, if_neg hn]
  · rw [if_neg hn, if_pos (not_not.mp hn)]

/-! ## The parameters -/

/-- The parameters that a header adds, if there is one. -/
def headerParameters (authorization : Option String) : Except Refusal Parameters :=
  (authorization.map Authorization.parameters).getD (.ok [])

/-- Of an address only the query is a source of parameters. -/
theorem params_oauthRequest (h : site.requestUrl r = .ok u) (body : Option String) :
    (site.oauthRequest r body).map (·.params) =
      (headerParameters (r.textHeader? "authorization")).map
        (· ++ Form.readText (u.query.getD "") ++ Form.readText (body.getD "")) := by
  rw [oauthRequest, h]
  cases ha : r.textHeader? "authorization" with
  | none => rfl
  | some header =>
    rw [show headerParameters (some header) = Authorization.parameters header from rfl]
    cases hp : Authorization.parameters header with
    | error e => simp [bind, Except.bind, Except.map, OAuthRequest.ofParts, hp]
    | ok params => simp [bind, Except.bind, Except.map, pure, Except.pure, OAuthRequest.ofParts, Url.parameters, hp]

/-- A host text puts what it has from its first separator on in front of the target. So between two that spill the
same, as any two without a separator do, there is no difference in query or parameters, and none in the path if both
name a host. -/
theorem host_spares_target (htarget : r'.target = r.target) (hslash : ∃ rest, r.target.text.toList = '/' :: rest)
    (hu : site.requestUrl r = .ok u) (hu' : site.requestUrl r' = .ok u') :
    (u.path = (if NamesHost (site.hostText r) then Url.targetPath else Url.pathBehindHost)
        (spill (site.hostText r) ++ r.target.text.toList) ∧
      u.query = Url.targetQuery (spill (site.hostText r) ++ r.target.text.toList)) ∧
    (spill (site.hostText r') = spill (site.hostText r) →
      ((NamesHost (site.hostText r') ↔ NamesHost (site.hostText r)) → u'.path = u.path) ∧ u'.query = u.query ∧
        (r'.textHeader? "authorization" = r.textHeader? "authorization" → ∀ body,
          (site.oauthRequest r' body).map (·.params) = (site.oauthRequest r body).map (·.params))) := by
  have hread := requestUrl_target hslash hu
  have hread' := requestUrl_target (htarget ▸ hslash) hu'
  refine ⟨hread, fun hspill => ?_⟩
  rw [hspill, htarget] at hread'
  have hquery : u'.query = u.query := hread'.2.trans hread.2.symm
  refine ⟨fun hn => ?_, hquery, fun ha body => ?_⟩
  · rw [hread'.1, hread.1, if_congr hn rfl rfl]
  · rw [params_oauthRequest hu, params_oauthRequest hu', ha, hquery]

/-- A name with a port in one request, and a user with an address in the other. -/
theorem host_spares_target_of_name_and_address :
    let site := ofSettings .standard .standard 5121
    let target : Http.Target := ⟨"/oauth1/authorize", some "oauth_token=requestkey"⟩
    let named : Http.Request := ⟨"GET", target, [("host", Utf8.encode "localhost:5121")], []⟩
    let numbered : Http.Request := ⟨"GET", target, [("host", Utf8.encode "ann@127.0.0.1")], []⟩
    spill (site.hostText numbered) = spill (site.hostText named) ∧
      ∃ u u', site.requestUrl named = .ok u ∧ site.requestUrl numbered = .ok u' ∧
        u'.authority ≠ u.authority ∧ u'.path = u.path ∧ u'.query = u.query ∧
        (site.oauthRequest numbered none).map (·.params) = (site.oauthRequest named none).map (·.params) := by
  intro site target named numbered
  have hspill : spill (site.hostText numbered) = spill (site.hostText named) := by decide +kernel
  have hslash : ∃ rest, named.target.text.toList = '/' :: rest :=
    ⟨"oauth1/authorize?oauth_token=requestkey".toList, by decide +kernel⟩
  have htarget : numbered.target = named.target := rfl
  have hn : NamesHost (site.hostText named) := by decide +kernel
  have hn' : NamesHost (site.hostText numbered) := by decide +kernel
  have hu : site.requestUrl named = .ok ⟨"http", some ⟨"", none, .name "localhost", some 5121⟩,
      .segments ["oauth1", "authorize"], some "oauth_token=requestkey", none⟩ := by decide +kernel
  have hu' : site.requestUrl numbered = .ok ⟨"http", some ⟨"ann", none, .ipv4 ⟨127, 0, 0, 1⟩, none⟩,
      .segments ["oauth1", "authorize"], some "oauth_token=requestkey", none⟩ := by decide +kernel
  obtain ⟨hpath, hquery, hparams⟩ := (host_spares_target htarget hslash hu hu').2 hspill
  exact ⟨hspill, _, _, hu, hu', by decide, hpath (iff_of_true hn' hn), hquery, hparams (by decide +kernel) none⟩

/-- A host text with a question mark brings parameters of its own, and takes the path. -/
example :
    let site := ofSettings .standard .standard 5121
    let asked : Http.Request := ⟨"GET", ⟨"/oauth1/authorize", none⟩, [("host", Utf8.encode "h?oauth_token=t&x=")], []⟩
    (site.requestUrl asked).map (·.path) = .ok (.segments [""]) ∧
      (site.oauthRequest asked none).map (·.params) = .ok [("oauth_token", "t"), ("x", "/oauth1/authorize")] := by
  decide +kernel

end OAuth1Site
end LoginRehearsal
