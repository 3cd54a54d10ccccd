import LoginRehearsal.Proofs.OAuth1.Check
import LoginRehearsal.Proofs.OAuth1.Run
import LoginRehearsal.Proofs.OAuth1.Signature
import LoginRehearsal.Proofs.Text.Numeral

/-!
# The decisions of a provider

What a provider answers in each leg of the handshake, told from the settings that it began with, the time and
the request. Every request for a token is decided by a list of checks; the first that does not hold gives
its refusal. The checks look at the first value of a parameter only.

* `Check.access`, `Check.request`: the checks of both legs, in their order.
* `accessToken_decides`: the last leg is decided by its checks.
* `signedClient_decides`: so is the first leg, where the request does not name the request token.
-/
namespace LoginRehearsal

/-! ## First values -/

namespace OAuthRequest

/-- The first value of a parameter, or the empty text where there is none. -/
def value (r : OAuthRequest) (name : String) : String := (r.get? name).getD ""

theorem get?_eq_some_iff {r : OAuthRequest} {name v : String} :
    r.get? name = some v ↔ (r.get? name).isSome = true ∧ r.value name = v := by
  unfold value
  cases r.get? name <;> simp

end OAuthRequest

/-- Whether two times in seconds are no further apart than a span, which need not be of whole seconds. -/
def Duration.covers (d : Duration) (a b : Nat) : Prop := ((a : Int) - b).natAbs * 1000000000 ≤ d.nanos

/-! ## The checks -/

namespace Check

def present (r : OAuthRequest) (name : String) : Check := ⟨(r.get? name).isSome, .missingParameter name⟩

/-- The version is 1.0 where there is one. -/
def version (r : OAuthRequest) : Check :=
  ⟨r.get? "oauth_version" = none ∨ r.get? "oauth_version" = some "1.0",
    .unsupportedVersion (r.value "oauth_version")⟩

def consumer (key : String) (r : OAuthRequest) : List Check :=
  [present r "oauth_consumer_key", ⟨r.value "oauth_consumer_key" = key, .unknownConsumer⟩]

def token (kind : TokenKind) (key : String) (r : OAuthRequest) : List Check :=
  [present r "oauth_token", ⟨r.value "oauth_token" = key, .unknownToken kind (r.value "oauth_token")⟩]

def method (r : OAuthRequest) : List Check :=
  [present r "oauth_signature_method",
    ⟨∃ method : SignatureMethod, r.value "oauth_signature_method" = method.name,
      .unsupportedSignatureMethod (r.value "oauth_signature_method")⟩]

/-- A timestamp is a number of sixty-four bits, and not too far from the present. -/
def timestamp (threshold : Duration) (now : Nat) (text : String) : List Check :=
  [⟨∃ t, Numeral.natural? text = some t ∧ t ≤ Numeral.maxU64, .invalidTimestamp text⟩,
    ⟨∀ t, Numeral.natural? text = some t → threshold.covers now t,
      .expiredTimestamp ((Numeral.natural? text).getD 0) now threshold⟩]

/-- The nonce is another than the one in use, where one is. -/
def fresh (used : Option String) (r : OAuthRequest) : List Check :=
  match used with
  | some nonce => [⟨r.value "oauth_nonce" ≠ nonce, .nonceReused (r.value "oauth_nonce")⟩]
  | none => []

/-- The signature is the one that the method of the request makes of it. -/
def signed (r : OAuthRequest) (consumerSecret : String) (tokenSecret : Option String) : Check :=
  ⟨∃ method : SignatureMethod, r.value "oauth_signature_method" = method.name ∧
      r.value "oauth_signature" =
        Signature.sign method ⟨r.httpMethod, r.url, r.params, consumerSecret, tokenSecret⟩,
    .invalidSignature⟩

def signature (threshold : Duration) (now : Nat) (r : OAuthRequest) (consumerSecret : String)
    (tokenSecret used : Option String) : List Check :=
  method r ++ ([present r "oauth_timestamp"] ++ (timestamp threshold now (r.value "oauth_timestamp") ++
    ([present r "oauth_nonce"] ++ (fresh used r ++
      [present r "oauth_signature", signed r consumerSecret tokenSecret]))))

/-- The checks of a request for the access token. -/
def access (s : Settings) (now : Nat) (r : OAuthRequest) : List Check :=
  version r :: consumer s.consumer.key r ++ [present r "oauth_verifier"] ++
    token .request s.requestToken.key r ++
    signature s.timestampThreshold now r s.consumer.secret (some s.requestToken.secret) (some s.nonce) ++
    [⟨r.value "oauth_verifier" = s.verifier, .invalidVerifier⟩]

/-- The checks of a request for the request token. -/
def request (s : Settings) (now : Nat) (r : OAuthRequest) : List Check :=
  version r :: consumer s.consumer.key r ++
    signature s.timestampThreshold now r s.consumer.secret none none

end Check

/-! ## What each function decides -/

namespace Provider

open Check

variable {s : Settings} {p : Provider}

theorem require_decides (r : OAuthRequest) (name : String) :
    Decides (r.require name) [present r name] (r.value name) := by
  have h : r.require name =
      if (r.get? name).isSome = true then .ok (r.value name) else .error (.missingParameter name) := by
    unfold OAuthRequest.require OAuthRequest.value
    cases r.get? name <;> rfl
  rw [h]
  exact .check _

theorem checkVersion_decides (r : OAuthRequest) : Decides (checkVersion r) [version r] () := by
  have h : checkVersion r =
      if r.get? "oauth_version" = none ∨ r.get? "oauth_version" = some "1.0" then .ok ()
      else .error (.unsupportedVersion (r.value "oauth_version")) := by
    unfold checkVersion OAuthRequest.value
    cases r.get? "oauth_version" <;> simp
  rw [h]
  exact .check _

theorem identify_decides (p : Provider) (r : OAuthRequest) :
    Decides (p.identify r) (consumer p.store.consumer.key r) p.store.consumer := by
  refine (require_decides r "oauth_consumer_key").bind fun _ => ?_
  by_cases hk : r.value "oauth_consumer_key" = p.store.consumer.key
  · have hf : p.store.consumer? (r.value "oauth_consumer_key") = some p.store.consumer := if_pos hk.symm
    simp only [hf]
    exact .passed hk (.pure _)
  · have hf : p.store.consumer? (r.value "oauth_consumer_key") = none := if_neg (Ne.symm hk)
    simp only [hf]
    exact .failed hk rfl

/-- The stored token of a kind, as a look-up finds and leaves it. -/
def confirmed (p : Provider) (kind : TokenKind) : Token :=
  (p.store.token kind).withCallback p.store.callbackUrl

/-- The store behind a look-up that found a token of a kind. -/
def confirmedStore (p : Provider) (kind : TokenKind) : Store := p.store.withToken kind (p.confirmed kind)

theorem findToken_decides (p : Provider) (r : OAuthRequest) (kind : TokenKind) :
    Decides (p.findToken r kind) (token kind (p.store.token kind).key r)
      (p.confirmed kind, p.confirmedStore kind) := by
  refine (require_decides r "oauth_token").bind fun _ => ?_
  by_cases hk : r.value "oauth_token" = (p.store.token kind).key
  · have hf : p.store.lookup? kind (r.value "oauth_token") =
        some (p.confirmed kind, p.confirmedStore kind) := if_pos hk.symm
    simp only [hf]
    exact .passed hk (.pure _)
  · have hf : p.store.lookup? kind (r.value "oauth_token") = none := if_neg (Ne.symm hk)
    simp only [hf]
    exact .failed hk rfl

/-- Comparing whole seconds loses nothing: times are of whole seconds. -/
theorem distance_le_iff {a b : Nat} {d : Duration} : distance a b ≤ d.seconds ↔ d.covers a b := by
  have hd : distance a b = ((a : Int) - b).natAbs := by
    unfold distance
    omega
  unfold Duration.covers Duration.seconds
  rw [hd, Nat.le_div_iff_mul_le (by decide)]

theorem checkTimestamp_decides (p : Provider) (now : Nat) (text : String) :
    Decides (p.checkTimestamp now text) (timestamp p.timestampThreshold now text) () := by
  have hread : ∀ t, Numeral.readNat Numeral.maxU64 text = .ok t ↔
      Numeral.natural? text = some t ∧ t ≤ Numeral.maxU64 := fun _ => Numeral.readNat_eq_ok_iff
  unfold checkTimestamp
  cases hr : Numeral.readNat Numeral.maxU64 text with
  | error fault =>
    refine .failed ?_ rfl
    rintro ⟨t, ht⟩
    rw [(hread t).mpr ht] at hr
    cases hr
  | ok given =>
    obtain ⟨hg, hlt⟩ := (hread given).mp hr
    refine .passed ⟨given, hg, hlt⟩ ?_
    have hc : (∀ t, Numeral.natural? text = some t → p.timestampThreshold.covers now t) ↔
        distance now given ≤ p.timestampThreshold.seconds := by
      rw [distance_le_iff, hg]
      exact ⟨fun h => h given rfl, fun h t ht => Option.some.inj ht ▸ h⟩
    have ht : (Numeral.natural? text).getD 0 = given := by rw [hg, Option.getD_some]
    by_cases hd : distance now given ≤ p.timestampThreshold.seconds
    · simp only [if_pos hd]
      exact .passed (hc.mpr hd) (.pure ())
    · simp only [if_neg hd]
      refine .failed (fun h => hd (hc.mp h)) ?_
      rw [ht]

theorem ofName?_eq_some_iff {text : String} {method : SignatureMethod} :
    SignatureMethod.ofName? text = some method ↔ text = method.name := by
  constructor
  · intro h
    have := List.find?_some h
    exact (beq_iff_eq.mp this).symm
  · rintro rfl
    cases method <;> rfl

theorem ofName_decides (text : String) :
    Decides (SignatureMethod.ofName text)
      [⟨∃ method : SignatureMethod, text = method.name, .unsupportedSignatureMethod text⟩]
      ((SignatureMethod.ofName? text).getD .plaintext) := by
  unfold SignatureMethod.ofName
  cases hm : SignatureMethod.ofName? text with
  | some method => exact .passed ⟨method, ofName?_eq_some_iff.mp hm⟩ (.pure _)
  | none =>
    refine .failed ?_ rfl
    rintro ⟨method, h⟩
    rw [ofName?_eq_some_iff.mpr h] at hm
    cases hm

/-- The last two checks, with the method that an earlier one found. -/
theorem signed_decides {method : SignatureMethod} {r : OAuthRequest}
    (hm : r.value "oauth_signature_method" = method.name) (consumer : Credential) (token : Option Token) :
    Decides (do
        let signature ← r.require "oauth_signature"
        if Signature.verify method (r.signingInput consumer token) signature then .ok ()
        else .error .invalidSignature)
      [present r "oauth_signature", signed r consumer.secret (token.map (·.secret))] () := by
  refine (require_decides r "oauth_signature").bind fun _ => ?_
  have hs : (signed r consumer.secret (token.map (·.secret))).holds ↔
      Signature.verify method (r.signingInput consumer token) (r.value "oauth_signature") = true := by
    rw [Signature.verify_eq_true_iff]
    constructor
    · rintro ⟨method', hm', h⟩
      rw [hm] at hm'
      have : some method = some method' := by
        rw [← ofName?_eq_some_iff.mpr hm', ofName?_eq_some_iff.mpr rfl]
      cases this
      exact h
    · intro h
      exact ⟨method, hm, h⟩
  by_cases hv : Signature.verify method (r.signingInput consumer token) (r.value "oauth_signature") = true
  · simp only [if_pos hv]
    exact .passed (hs.mpr hv) (.pure ())
  · simp only [if_neg hv]
    exact .failed (fun h => hv (hs.mp h)) rfl

/-- The nonce `used` is the one that a consumer and a token have used before, if there is one. -/
theorem checkSignature_decides {consumer : Credential} {token : Option Token} {used : Option String}
    (hu : ∀ nonce, p.store.knowsNonce consumer token nonce = true ↔ used = some nonce) (now : Nat)
    (r : OAuthRequest) :
    Decides (p.checkSignature now r consumer token)
      (Check.signature p.timestampThreshold now r consumer.secret (token.map (·.secret)) used) () := by
  refine (require_decides r "oauth_signature_method").bind fun _ => ?_
  refine (ofName_decides _).bind fun hm => ?_
  refine (require_decides r "oauth_timestamp").bind fun _ => ?_
  refine (checkTimestamp_decides p now _).bind fun _ => ?_
  refine (require_decides r "oauth_nonce").bind fun _ => ?_
  obtain ⟨method, hm⟩ := hm _ List.mem_cons_self
  rw [ofName?_eq_some_iff.mpr hm, Option.getD_some]
  have hs := signed_decides hm consumer token
  cases used with
  | none =>
    have hn : ¬p.store.knowsNonce consumer token (r.value "oauth_nonce") = true := by
      rw [hu]
      simp
    simp only [if_neg hn]
    exact hs
  | some nonce =>
    by_cases hn : p.store.knowsNonce consumer token (r.value "oauth_nonce") = true
    · simp only [if_pos hn]
      exact .failed (fun h => h (Option.some.inj ((hu _).mp hn)).symm) rfl
    · simp only [if_neg hn]
      exact hs.passed fun h => hn ((hu _).mpr (congrArg some h.symm))

/-! ## The first leg -/

theorem signedClient_decides (h : p.Fits s) (now : Nat) (r : OAuthRequest) :
    Decides (p.signedClient now r) (Check.request s now r) s.consumer := by
  have hn : ∀ nonce, p.store.knowsNonce s.consumer none nonce = true ↔ none = some nonce := by
    intro nonce
    simp [Store.knowsNonce]
  have hi := identify_decides p r
  have hc := checkSignature_decides hn now r
  rw [h.store.consumer] at hi
  rw [h.threshold] at hc
  refine (checkVersion_decides r).bind fun _ => ?_
  refine hi.bind fun _ => ?_
  exact hc.bind fun _ => .pure s.consumer

/-! ## The last leg -/

theorem bearer_decides (h : p.Fits s) (r : OAuthRequest) :
    Decides (p.bearer r) (version r :: consumer s.consumer.key r ++ [present r "oauth_verifier"])
      (s.consumer, r.value "oauth_verifier") := by
  have hi := identify_decides p r
  rw [h.store.consumer] at hi
  refine (checkVersion_decides r).bind fun _ => ?_
  refine hi.bind fun _ => ?_
  exact (require_decides r "oauth_verifier").bind fun _ => .pure _

/-- The exchange of a request token that a look-up found, as one computation. -/
def exchange (p : Provider) (now : Nat) (r : OAuthRequest) (consumer : Credential) (verifier : String)
    (token : Token) (store : Store) : Except Refusal Token := do
  (p.withStore store).checkSignature now r consumer (some token)
  match store.exchange? consumer token verifier with
  | some access => .ok access
  | none => .error .invalidVerifier

/-- The answer of the last leg, without what becomes of the store. -/
theorem accessToken_fst (p : Provider) (now : Nat) (r : OAuthRequest) :
    (p.accessToken now r).1 = (do
      let (consumer, verifier) ← p.bearer r
      let (token, store) ← p.findToken r .request
      p.exchange now r consumer verifier token store) := by
  unfold accessToken exchange
  cases p.bearer r with
  | error e => rfl
  | ok named =>
    obtain ⟨consumer, verifier⟩ := named
    cases p.findToken r .request with
    | error e => rfl
    | ok found =>
      obtain ⟨token, store⟩ := found
      simp only [bind, Except.bind]
      cases (p.withStore store).checkSignature now r consumer (some token) with
      | error e => rfl
      | ok _ => cases store.exchange? consumer token verifier <;> rfl

theorem exchange_decides (h : p.Fits s) (now : Nat) (r : OAuthRequest) :
    Decides (p.exchange now r s.consumer (r.value "oauth_verifier") (p.confirmed .request)
        (p.confirmedStore .request))
      (Check.signature s.timestampThreshold now r s.consumer.secret (some s.requestToken.secret)
          (some s.nonce) ++
        [⟨r.value "oauth_verifier" = s.verifier, .invalidVerifier⟩])
      p.store.access := by
  have hconsumer : (p.confirmedStore .request).consumer = s.consumer := h.store.consumer
  have hkey : (p.confirmed .request).key = (p.confirmedStore .request).request.key := rfl
  have hsecret : (p.confirmed .request).secret = s.requestToken.secret :=
    congrArg Credential.secret h.store.request
  have hnonce : (p.confirmedStore .request).nonce = s.nonce := h.store.nonce
  have hverifier : (p.confirmedStore .request).verifier = s.verifier := h.store.verifier
  have hn : ∀ nonce, (p.confirmedStore .request).knowsNonce s.consumer (some (p.confirmed .request)) nonce =
      true ↔ some s.nonce = some nonce := by
    intro nonce
    simp only [Store.knowsNonce, hconsumer, hkey, hnonce, beq_self_eq_true, Bool.true_or, Bool.and_true,
      Bool.true_and, beq_iff_eq, Option.some.injEq]
    exact eq_comm
  have hc := checkSignature_decides (p := p.withStore (p.confirmedStore .request)) hn now r
  have ht : (p.withStore (p.confirmedStore .request)).timestampThreshold = s.timestampThreshold :=
    h.threshold
  rw [ht, Option.map_some, hsecret] at hc
  refine hc.bind fun _ => ?_
  by_cases hv : r.value "oauth_verifier" = s.verifier
  · have hx : (p.confirmedStore .request).exchange? s.consumer (p.confirmed .request)
        (r.value "oauth_verifier") = some p.store.access :=
      if_pos ⟨congrArg Credential.key hconsumer.symm, hkey, hv.trans hverifier.symm⟩
    simp only [hx]
    exact .passed hv (.pure _)
  · have hx : (p.confirmedStore .request).exchange? s.consumer (p.confirmed .request)
        (r.value "oauth_verifier") = none := if_neg fun hm => hv (hm.2.2.trans hverifier)
    simp only [hx]
    exact .failed hv rfl

theorem accessToken_decides (h : p.Fits s) (now : Nat) (r : OAuthRequest) :
    Decides (p.accessToken now r).1 (Check.access s now r) p.store.access := by
  have hf := findToken_decides p r .request
  have hk : (p.store.token .request).key = s.requestToken.key := congrArg Credential.key h.store.request
  rw [hk] at hf
  have hx := exchange_decides h now r
  rw [accessToken_fst, Check.access, List.append_assoc, List.append_assoc]
  refine (bearer_decides h r).bind fun _ => ?_
  exact hf.bind fun _ => hx

end Provider
end LoginRehearsal
