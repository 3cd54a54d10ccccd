import LoginRehearsal.Proofs.OAuth1.HeaderItems
import LoginRehearsal.Proofs.OAuth1.Transport

/-!
# What a realm does to a header

A realm is written as it is, between quotes, while the reader cuts the header at every comma, quotes or not. Up
to its first comma a realm is dropped. Behind it each piece is an item like any other, in front of the parameters
that were sent: it adds a parameter, or refuses the header, unless it happens to be a realm of its own.

* `items_written_realm`: the items of a header with a realm.
* `ofParts_realm`: the request that arrives with one.
* `realm_inert_iff`: the realms that make no difference.
-/
namespace LoginRehearsal

namespace Authorization

/-- The items that a realm leaves behind its first comma, up to the quote that closes it. -/
def strayItems (realm : String) : List (List Char) :=
  match splitFirst? (· == ',') realm.toList with
  | none => []
  | some (_, behind) => items (behind ++ ['"'])

/-- The front of a realm is read as no parameter. -/
theorem readItems_front {text : List Char} (h : ',' ∉ text) :
    readItems [] (items (['r', 'e', 'a', 'l', 'm'] ++ '=' :: text)) = .ok [] := by
  have hc : ',' ∉ ['r', 'e', 'a', 'l', 'm'] ++ '=' :: text := by simp [h]
  rw [items_of_no_comma hc]
  split
  · rfl
  · rw [readItems, readItem_trimBlank (by decide), readItem_realm]
    rfl

theorem readItems_realmChars (realm : String) :
    readItems [] (items (realmChars realm)) = readItems [] (strayItems realm) := by
  unfold strayItems
  by_cases h : ',' ∈ realm.toList
  · obtain ⟨front, behind, hr, hf⟩ := List.eq_append_cons_of_mem h
    have hs : splitFirst? (· == ',') realm.toList = some (front, behind) := by
      rw [hr]
      exact splitFirst?_append_of_not_mem hf
    have hrealm : realmChars realm =
        (['r', 'e', 'a', 'l', 'm'] ++ '=' :: '"' :: front) ++ ',' :: (behind ++ ['"']) := by
      rw [realmChars, hr]
      simp
    rw [hs, hrealm, items_append_comma, readItems_append, readItems_front (by simpa using hf)]
    cases readItems [] (items (behind ++ ['"'])) <;> rfl
  · have hs : splitFirst? (· == ',') realm.toList = none := splitFirst?_of_not_mem h
    have hrealm : realmChars realm = ['r', 'e', 'a', 'l', 'm'] ++ '=' :: '"' :: (realm.toList ++ ['"']) := by
      simp [realmChars]
    rw [hs, hrealm, readItems_front (by simpa using h)]
    rfl

/-- The items of a header with a realm are those of the realm, and then those of the header without it. -/
theorem items_written_realm (realm : String) (params : Parameters) :
    items (' ' :: [',', ' '].intercalate (written (some realm) params)) =
      items (realmChars realm) ++ items (' ' :: [',', ' '].intercalate (written none params)) := by
  have hb : isBlank ' ' = true := by decide
  have hw : written (some realm) params = realmChars realm :: written none params := rfl
  rw [items_cons_blank hb, items_cons_blank hb, hw, items_intercalate_cons]

/-- A header with a realm is read as the items that the realm leaves and then the parameters. -/
theorem parameters_render_realm (realm : String) (params : Parameters) :
    parameters (render (some realm) params) = (do
      let stray ← readItems [] (strayItems realm)
      let sent ← parameters (render none params)
      pure (stray ++ sent)) := by
  simp only [parameters, listOf?_render]
  rw [items_written_realm, readItems_append, readItems_realmChars]

end Authorization

namespace OAuthRequest

open Authorization (strayItems readItems isRealmItem)

theorem parameters_no_realm (r : OAuthRequest) :
    Authorization.parameters (r.authorizationHeader none) = .ok (r.params.filter isProtocolParameter) :=
  parameters_authorizationHeader (by simp)

theorem ofParts_no_realm (r : OAuthRequest) (httpMethod : String) (u : Url) (body : Option String) :
    ofParts httpMethod u (some (r.authorizationHeader none)) body =
      .ok ⟨httpMethod.toUpper, u,
        r.params.filter isProtocolParameter ++ u.parameters ++ Form.readText (body.getD "")⟩ := by
  simp only [ofParts, parameters_no_realm]
  rfl

/-- What a realm leaves stands in front of all that arrives without it. -/
theorem ofParts_realm (r : OAuthRequest) (realm httpMethod : String) (u : Url) (body : Option String) :
    ofParts httpMethod u (some (r.authorizationHeader (some realm))) body = (do
      let stray ← readItems [] (strayItems realm)
      let q ← ofParts httpMethod u (some (r.authorizationHeader none)) body
      pure { q with params := stray ++ q.params }) := by
  have hr : Authorization.parameters (r.authorizationHeader (some realm)) = (do
      let stray ← readItems [] (strayItems realm)
      pure (stray ++ r.params.filter isProtocolParameter)) := by
    have hn := parameters_no_realm r
    rw [authorizationHeader] at hn ⊢
    rw [Authorization.parameters_render_realm, hn]
    rfl
  rw [ofParts_no_realm, ofParts]
  simp only [hr]
  cases readItems [] (strayItems realm) with
  | error e => rfl
  | ok stray => simp [bind, Except.bind, pure, Except.pure]

/-- A realm makes no difference exactly if every item that it leaves behind its first comma is a realm again;
one without a comma leaves none. Otherwise the request is refused, or the items' parameters come first. -/
theorem realm_inert_iff (r : OAuthRequest) (realm httpMethod : String) (u : Url) (body : Option String) :
    (ofParts httpMethod u (some (r.authorizationHeader (some realm))) body = (do
      let stray ← readItems [] (strayItems realm)
      let q ← ofParts httpMethod u (some (r.authorizationHeader none)) body
      pure { q with params := stray ++ q.params })) ∧
    (ofParts httpMethod u (some (r.authorizationHeader (some realm))) body =
        ofParts httpMethod u (some (r.authorizationHeader none)) body ↔
      ∀ item ∈ strayItems realm, isRealmItem item = true) := by
  refine ⟨ofParts_realm r realm httpMethod u body, ?_⟩
  rw [← Authorization.readItems_eq_nil_iff, ofParts_realm, ofParts_no_realm]
  cases readItems [] (strayItems realm) with
  | error e => simp [bind, Except.bind]
  | ok stray => simp [bind, Except.bind, pure, Except.pure]

/-- A comma in a realm is enough to refuse the header, or to slip in a token. -/
example :
    Authorization.parameters "OAuth realm=\"a,b\"" = .error (.malformed "bad parameter b\"") ∧
      Authorization.parameters "OAuth realm=\"a,oauth_token=b\"" = .ok [("oauth_token", "b")] := by
  decide +kernel

end OAuthRequest
end LoginRehearsal
