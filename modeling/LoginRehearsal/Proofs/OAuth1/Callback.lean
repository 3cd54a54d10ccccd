import LoginRehearsal.OAuth1.Token
import LoginRehearsal.Proofs.Web.Serialization

/-!
# The verifier in the callback

After the login the user is sent to the callback of the token, with the verifier among its parameters. A callback
that is an address gets it as a form field of its query, so whoever reads that query finds it as it was, behind the
parameters that were there before. A callback that is no address gets it as it stands, and then it depends on the
text: the field must not come to stand in a fragment, and the verifier must be one that a form takes for itself.

* `Token.address_carries_verifier`: address and parameters of the callback, and the verifier behind them.
* `Token.text_carries_verifier`: the callback as text, and when its last parameter is the verifier.
* `Token.text_loses_verifier`: one of the verifiers that do not arrive in this way.
-/
namespace LoginRehearsal

namespace Url

/-- A field that is added comes behind the others, and nothing else changes. -/
theorem parameters_addParameter (u : Url) (name value : String) :
    (u.addParameter name value).parameters = u.parameters ++ [(name, value)] := by
  have hfield : Form.readText (Form.render [(name, value)]) = [(name, value)] := Form.readText_render _
  cases hq : u.query with
  | none =>
    simp only [parameters, addParameter, hq, Option.getD_none, Option.getD_some, hfield]
    rfl
  | some q =>
    simp only [parameters, addParameter, hq, Option.getD_some]
    split
    · next hempty =>
      rw [String.isEmpty_iff.mp hempty, hfield]
      rfl
    · rw [Form.readText_append, hfield]

end Url

namespace Token

variable {t : Token} {callback verifier : String}

theorem callbackUrl_eq (hcallback : t.callback = some callback) (hverifier : t.verifier = some verifier) :
    t.callbackUrl = some (callbackWith callback verifier) := by
  rw [callbackUrl, hcallback, hverifier]
  rfl

/-! ## Callbacks that are addresses -/

/-- The user is sent to the address of the callback with the verifier as one more parameter. -/
theorem address_carries_verifier {u : Url} (hcallback : t.callback = some callback)
    (hverifier : t.verifier = some verifier) (haddress : Url.parse callback = .ok u) :
    ∃ sent : Url,
      t.callbackUrl = some sent.text ∧
      (sent.scheme = u.scheme ∧ sent.authority = u.authority ∧ sent.path = u.path ∧ sent.fragment = u.fragment) ∧
      sent.parameters = u.parameters ++ [("oauth_verifier", verifier)] ∧
      Url.frontOf sent.text = u.frontText ∧
      Url.parametersOf sent.text = u.parameters ++ [("oauth_verifier", verifier)] ∧
      Url.behindQuery sent.text = u.fragment := by
  have hseparated := (Url.separated_of_parse haddress).addParameter "oauth_verifier" verifier
  have hparameters := u.parameters_addParameter "oauth_verifier" verifier
  obtain ⟨q, hq⟩ : ∃ q, (u.addParameter "oauth_verifier" verifier).query = some q := ⟨_, rfl⟩
  refine ⟨u.addParameter "oauth_verifier" verifier, ?_, ⟨rfl, rfl, rfl, rfl⟩, hparameters,
    Url.frontOf_text hseparated hq, ?_, Url.behindQuery_text hseparated hq⟩
  · rw [callbackUrl_eq hcallback hverifier, callbackWith, haddress]
  · rw [← hparameters, Url.parametersOf, Url.queryOf?_text hseparated hq, Url.parameters, hq]

/-- Every mark of the format in the verifier, behind parameters that end in a separator and in front of a fragment. -/
theorem address_carries_reserved_characters :
    let callback := "http://u:p@h:81/x?oauth_verifier=a&#f?"
    let t : Token := ⟨"k", "s", some callback, true, some "a b&c=d#é%41+?", none⟩
    ∃ u sent : Url, Url.parse callback = .ok u ∧ t.callbackUrl = some sent.text ∧
      sent.authority = u.authority ∧ sent.fragment = some "f?" ∧
      Url.parametersOf sent.text = [("oauth_verifier", "a"), ("oauth_verifier", "a b&c=d#é%41+?")] := by
  intro callback t
  have hu : Url.parse callback = .ok ⟨"http", some ⟨"u", some "p", .name "h", some 81⟩, .segments ["x"],
      some "oauth_verifier=a&", some "f?"⟩ := by decide +kernel
  obtain ⟨sent, hsent, ⟨-, hauthority, -, hfragment⟩, -, -, hparameters, -⟩ :=
    address_carries_verifier (t := t) rfl rfl hu
  exact ⟨_, sent, hu, hsent, hauthority, hfragment, hparameters.trans (by decide +kernel)⟩

/-! ## Callbacks that are texts -/

/-- The field that is written behind a callback, as far as it stands in front of a fragment. -/
theorem readText_verifier_iff (value : List Char) :
    Form.readText (String.ofList ("oauth_verifier=".toList ++ (Url.cutAt '#' value).1)) =
        [("oauth_verifier", String.ofList value)] ↔
      '&' ∉ value ∧ '#' ∉ value ∧ Form.StandsForItself value := by
  have hmark : "oauth_verifier=".toList ++ (Url.cutAt '#' value).1 =
      "oauth_verifier".toList ++ '=' :: (Url.cutAt '#' value).1 := by
    rw [show "oauth_verifier=" = "oauth_verifier" ++ "=" by decide, String.toList_append, List.append_assoc]
    rfl
  have hname : '&' ∉ "oauth_verifier".toList ∧ '=' ∉ "oauth_verifier".toList := by decide
  have hself : Form.StandsForItself "oauth_verifier".toList := by decide
  have h := Form.readText_eq_singleton_iff hname hself (Url.isPrefix_cutAt '#' value)
  rw [String.ofList_toList, Url.cutAt_eq_self_iff] at h
  rw [hmark, h, and_left_comm]

/-- The field comes to stand behind the parameters of the callback unless these end at a fragment. -/
theorem text_parameters_iff (callback verifier : String) :
    Url.parametersOf (callback ++ (if '?' ∈ callback.toList then "&" else "?") ++ "oauth_verifier=" ++ verifier) =
        Url.parametersOf callback ++ [("oauth_verifier", verifier)] ↔
      '#' ∉ callback.toList.dropWhile (· != '?') ∧ '&' ∉ verifier.toList ∧ '#' ∉ verifier.toList ∧
        Form.StandsForItself verifier.toList := by
  have hfield := readText_verifier_iff verifier.toList
  have hname : '#' ∉ "oauth_verifier=".toList := by decide
  rw [String.ofList_toList] at hfield
  rw [String.append_assoc, Url.parametersOf_append, List.append_cancel_left_eq,
    String.toList_append, Url.cutAt_front hname]
  split
  · next hmark => exact iff_of_false (List.cons_ne_nil _ _).symm fun h => h.1 hmark
  · next hmark => rw [hfield, and_iff_right hmark]

/-- A callback that is no address takes the verifier as it stands. It arrives unless it, or the callback behind its
question mark, has something in it that means more than itself: the end of the query, the end of a field, an escape
or a plus sign. -/
theorem text_carries_verifier {e : UrlError} (hcallback : t.callback = some callback)
    (hverifier : t.verifier = some verifier) (htext : Url.parse callback = .error e) :
    t.callbackUrl =
        some (callback ++ (if '?' ∈ callback.toList then "&" else "?") ++ "oauth_verifier=" ++ verifier) ∧
      (t.callbackUrl.map Url.parametersOf = some (Url.parametersOf callback ++ [("oauth_verifier", verifier)]) ↔
        '#' ∉ callback.toList.dropWhile (· != '?') ∧ '&' ∉ verifier.toList ∧ '#' ∉ verifier.toList ∧
          Form.StandsForItself verifier.toList) := by
  have hsent : t.callbackUrl =
      some (callback ++ (if '?' ∈ callback.toList then "&" else "?") ++ "oauth_verifier=" ++ verifier) := by
    rw [callbackUrl_eq hcallback hverifier, callbackWith, htext]
    simp only [List.contains_iff_mem]
  refine ⟨hsent, ?_⟩
  rw [hsent, Option.map_some, Option.some.injEq]
  exact text_parameters_iff callback verifier

theorem text_carries_plain_verifier :
    let t : Token := ⟨"k", "s", some "/cb?state=1", true, some "50% = é", none⟩
    t.callbackUrl = some "/cb?state=1&oauth_verifier=50% = é" ∧
      t.callbackUrl.map Url.parametersOf = some [("state", "1"), ("oauth_verifier", "50% = é")] := by
  intro t
  have htext : Url.parse "/cb?state=1" = .error .relativeWithoutBase := rfl
  obtain ⟨hsent, hparameters⟩ := text_carries_verifier (t := t) rfl rfl htext
  exact ⟨hsent.trans (by decide +kernel), (hparameters.mpr (by decide +kernel)).trans (by decide +kernel)⟩

/-- An `&` ends the verifier. -/
theorem text_loses_verifier :
    ¬∀ (t : Token) (callback verifier : String) (e : UrlError),
      t.callback = some callback → t.verifier = some verifier → Url.parse callback = .error e →
      t.callbackUrl.map Url.parametersOf = some (Url.parametersOf callback ++ [("oauth_verifier", verifier)]) := by
  intro h
  have hsent := h ⟨"k", "s", some "/cb", true, some "a&b", none⟩ "/cb" "a&b" .relativeWithoutBase rfl rfl rfl
  exact absurd hsent (by decide +kernel)

end Token
end LoginRehearsal
