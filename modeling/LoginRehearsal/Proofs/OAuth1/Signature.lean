import LoginRehearsal.Proofs.OAuth1.Parameters
import LoginRehearsal.Proofs.Text.Base64

/-!
# Making and checking signatures

A text is taken for the signature of a request just if it is the one that signing makes. What signing makes
does not depend on the order of the parameters, nor on a signature among them.

* `verify_eq_true_iff`: checking agrees with making, for both methods.
* `verify_accepts_sign_only`: and the tag of a request has one spelling, of twenty-eight characters.
* `signingKey_eq_iff`: the key tells both secrets.
* `plaintext_verifies_iff`: so a signature by the plain method stands for the secrets, and for nothing else.
* `sign_perm`: the order of the parameters does not matter.
-/
namespace LoginRehearsal
namespace Signature

theorem verify_plaintext {i : SigningInput} {s : String} :
    verify .plaintext i s = true ↔ s = sign .plaintext i := by
  simp only [verify, sign, beq_iff_eq]

/-- The tag has one spelling, so a text that spells it is that spelling. -/
theorem decode?_eq_tag_iff {i : SigningInput} {s : String} :
    Base64.decode? s.toList = some i.tag ↔ s = sign .hmacSha1 i := by
  rw [Base64.decode?_eq_some_iff, sign, ← String.toList_inj, String.toList_ofList]

theorem verify_hmacSha1 {i : SigningInput} {s : String} :
    verify .hmacSha1 i s = true ↔ s = sign .hmacSha1 i := by
  rw [← decode?_eq_tag_iff, verify]
  cases Base64.decode? s.toList <;> simp

theorem verify_eq_true_iff {method : SignatureMethod} {i : SigningInput} {s : String} :
    verify method i s = true ↔ s = sign method i := by
  cases method with
  | plaintext => exact verify_plaintext
  | hmacSha1 => exact verify_hmacSha1

/-- A tag of twenty bytes is spelled in twenty-eight characters. -/
theorem length_sign_hmacSha1 (i : SigningInput) : (sign .hmacSha1 i).length = 28 := by
  rw [sign, String.length_ofList, Base64.length_encode, SigningInput.tag, hmacSha1_length]

/-- The text that signing makes is accepted, and no other: for a tag it is the one text that is read as the
twenty bytes of the tag. -/
theorem verify_accepts_sign_only (i : SigningInput) :
    (∀ method s, verify method i s = true ↔ s = sign method i) ∧
      i.tag.length = 20 ∧ (sign .hmacSha1 i).length = 28 ∧
      ∀ s, Base64.decode? s.toList = some i.tag ↔ s = sign .hmacSha1 i := by
  refine ⟨?_, hmacSha1_length _ _, length_sign_hmacSha1 i, fun s => decode?_eq_tag_iff⟩
  intro method s
  exact verify_eq_true_iff

/-! ## Keys -/

theorem toList_signingKey (consumerSecret : String) (tokenSecret : Option String) :
    (signingKey consumerSecret tokenSecret).toList =
      (Percent.encode consumerSecret).toList ++ '&' :: (Percent.encode (tokenSecret.getD "")).toList := by
  simp [signingKey]

/-- An escaped secret holds no `&`, so the first one in a key ends the secret of the consumer. -/
theorem signingKey_eq_iff {consumer consumer' : String} {token token' : Option String} :
    signingKey consumer token = signingKey consumer' token' ↔
      consumer = consumer' ∧ token.getD "" = token'.getD "" := by
  constructor
  · intro h
    rw [← String.toList_inj, toList_signingKey, toList_signingKey] at h
    obtain ⟨hconsumer, htoken⟩ := append_cons_inj (no_ampersand_encode consumer) (no_ampersand_encode consumer') h
    constructor
    · exact Percent.encode_injective (String.toList_inj.mp hconsumer)
    · exact Percent.encode_injective (String.toList_inj.mp htoken)
  · rintro ⟨rfl, htoken⟩
    rw [signingKey, signingKey, htoken]

/-- A signature by the plain method, made for one request, is accepted for another just if both have the same
secrets. A missing token counts as one with an empty secret. Method, address and parameters do not count. -/
theorem plaintext_verifies_iff (i j : SigningInput) :
    verify .plaintext j (sign .plaintext i) = true ↔
      i.consumerSecret = j.consumerSecret ∧ i.tokenSecret.getD "" = j.tokenSecret.getD "" := by
  rw [verify_plaintext, ← signingKey_eq_iff]
  rfl

/-! ## What goes into a signature -/

/-- Under one key, a signature by the plain method is always the same, and one by a tag tells the tag. -/
theorem sign_eq_iff {method : SignatureMethod} {i j : SigningInput} (hk : i.key = j.key) :
    sign method i = sign method j ↔ method = .plaintext ∨ i.tag = j.tag := by
  cases method with
  | plaintext => exact iff_of_true hk (.inl rfl)
  | hmacSha1 =>
    rw [← decode?_eq_tag_iff, decode?_eq_tag_iff.mpr rfl, Option.some.injEq, or_iff_right (by decide)]

/-- Only the base string and the key go into a signature. -/
theorem sign_congr {method : SignatureMethod} {i j : SigningInput} (hb : i.baseString = j.baseString)
    (hk : i.key = j.key) : sign method i = sign method j := by
  cases method with
  | plaintext => exact hk
  | hmacSha1 => simp only [sign, SigningInput.tag, hb, hk]

theorem sign_perm {method : SignatureMethod} {i : SigningInput} {params : Parameters}
    (h : (covered params).Perm (covered i.params)) :
    sign method { i with params } = sign method i := by
  refine sign_congr ?_ rfl
  simp only [SigningInput.baseString, baseString, (normalizeParameters_eq_iff _ _).mpr h]

end Signature
end LoginRehearsal
