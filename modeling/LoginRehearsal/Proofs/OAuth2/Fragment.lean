import LoginRehearsal.OAuth2.Site
import LoginRehearsal.Proofs.OAuth1.LoginForm
import LoginRehearsal.Proofs.Text.Form
import LoginRehearsal.Proofs.Text.Numeral

/-!
# The fragment

The address that an accepted form is sent on to carries the credentials behind its `#`, in the strict code and
in the shape of a form. The code has no mark in it that could end the fragment, a field or a name, so a browser
that cuts the address there and reads a form gets back what was submitted.

* `OAuth2Site.fragment`: what stands behind the `#`; `OAuth2Site.readText_fragment`: what a form reader makes of
  it.
* `OAuth2Site.count_successUrl`: there is no other `#`.
* `OAuth2Site.carries_successUrl`: a header can carry the address.
-/
namespace LoginRehearsal

/-! ## Visible text -/

namespace Http

def isVisibleChar (c : Char) : Bool := 0x20 ≤ c.toNat && c.toNat < 0x7F

/-- All characters are visible ASCII. -/
def Visible (text : String) : Prop := text.toList.all isVisibleChar = true

instance (text : String) : Decidable (Visible text) := inferInstanceAs (Decidable (_ = true))

theorem visible_iff {text : String} :
    Visible text ↔ ∀ c ∈ text.toList, 0x20 ≤ c.toNat ∧ c.toNat < 0x7F := by
  simp [Visible, isVisibleChar]

theorem Visible.append {s t : String} (hs : Visible s) (ht : Visible t) : Visible (s ++ t) := by
  unfold Visible at *
  rw [String.toList_append, List.all_append, hs, ht, Bool.and_self]

/-- A header can carry visible text. -/
theorem Visible.carries {text : String} (h : Visible text) : carries text = true := by
  rw [visible_iff] at h
  have hascii : ∀ c ∈ text.toList, c.toNat < 0x80 := fun c hc => Nat.lt_succ_of_lt (h c hc).2
  unfold Http.carries
  rw [Utf8.encode, Utf8.encodeChars_ascii hascii, List.all_map, List.all_eq_true]
  intro c hc
  obtain ⟨hlow, hhigh⟩ := h c hc
  have hbyte : (UInt8.ofNat c.toNat).toNat = c.toNat := UInt8.toNat_ofNat_of_lt' (Nat.lt_trans hhigh (by decide))
  simp only [Function.comp_apply, isFieldByte, hbyte, Bool.or_eq_true, Bool.and_eq_true, decide_eq_true_eq,
    bne_iff_ne]
  exact .inr ⟨hlow, Nat.ne_of_lt hhigh⟩

theorem visible_decimal (n : Nat) : Visible (decimal n) := by
  refine visible_iff.mpr fun c hc => ?_
  obtain ⟨hlow, hhigh⟩ := Numeral.digit_of_mem_decimal hc
  omega

theorem visible_encode (s : String) : Visible (Percent.encode s) :=
  visible_iff.mpr fun _ hc => Percent.visible_of_isCodeChar (Percent.isCodeChar_of_mem hc)

end Http

theorem Percent.encode_decimal (n : Nat) : encode (decimal n) = decimal n := by
  refine encode_of_unreserved fun c hc => ?_
  obtain ⟨hlow, hhigh⟩ := Numeral.digit_of_mem_decimal hc
  have hbyte : (UInt8.ofNat c.toNat).toNat = c.toNat := UInt8.toNat_ofNat_of_lt' (Nat.lt_of_le_of_lt hhigh (by decide))
  refine ⟨by omega, ?_⟩
  simp only [isUnreserved, isAlphanumeric, hbyte, hlow, hhigh, decide_true, Bool.and_true, Bool.true_or]

namespace OAuth2Site

variable {site : OAuth2Site} {username password : String}

/-- What stands behind the `#`. -/
def fragment (site : OAuth2Site) (username password : String) : String :=
  Form.strictField ("access_token", username ++ password) ++ "&" ++
    Form.strictField ("expires_in", decimal site.expiresIn)

theorem readText_fragment (site : OAuth2Site) (username password : String) :
    Form.readText (site.fragment username password) =
      [("access_token", username ++ password), ("expires_in", decimal site.expiresIn)] := by
  rw [fragment, Form.readText_append, Form.readText_strictField, Form.readText_strictField]
  rfl

theorem successUrl_eq (site : OAuth2Site) (username password : String) :
    site.successUrl username password =
      site.pageUrl "success.html" ++ "#" ++ site.fragment username password := by
  have htoken : Percent.encode "access_token" = "access_token" := by decide
  have hexpires : Percent.encode "expires_in" = "expires_in" := by decide
  rw [successUrl, fragment, Form.strictField, Form.strictField]
  simp only [Percent.encode_append, Percent.encode_decimal, htoken, hexpires]
  -- the same characters, cut in other places
  rw [← String.toList_inj]
  simp only [String.toList_append, List.append_assoc]
  rfl

/-- No field has a `#` in it. -/
theorem not_mem_strictField (f : String × String) : '#' ∉ (Form.strictField f).toList := by
  have hcode : ∀ s : String, '#' ∉ (Percent.encode s).toList := Percent.not_mem_encode (by decide)
  simp only [Form.strictField, String.toList_append, List.mem_append, not_or]
  exact ⟨⟨hcode _, by decide⟩, hcode _⟩

theorem not_mem_fragment (site : OAuth2Site) (username password : String) :
    '#' ∉ (site.fragment username password).toList := by
  simp only [fragment, String.toList_append, List.mem_append, not_or]
  exact ⟨⟨not_mem_strictField _, by decide⟩, not_mem_strictField _⟩

theorem visible_fragment (site : OAuth2Site) (username password : String) :
    Http.Visible (site.fragment username password) := by
  have hfield : ∀ f, Http.Visible (Form.strictField f) := fun f =>
    ((Http.visible_encode f.1).append (by decide)).append (Http.visible_encode f.2)
  exact ((hfield _).append (by decide)).append (hfield _)

/-! ## The whole address -/

/-- The address has one `#` if the page in front of it has none. -/
theorem count_successUrl (h : '#' ∉ (site.pageUrl "success.html").toList) :
    (site.successUrl username password).toList.count '#' = 1 := by
  rw [successUrl_eq, String.toList_append, String.toList_append, List.count_append, List.count_append,
    List.count_eq_zero.mpr h, List.count_eq_zero.mpr (site.not_mem_fragment username password)]
  rfl

theorem carries_successUrl (h : Http.Visible (site.pageUrl "success.html")) :
    Http.carries (site.successUrl username password) = true := by
  rw [successUrl_eq]
  exact ((h.append (by decide)).append (site.visible_fragment username password)).carries

end OAuth2Site
end LoginRehearsal
