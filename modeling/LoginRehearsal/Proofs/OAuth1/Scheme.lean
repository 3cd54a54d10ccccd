import LoginRehearsal.Proofs.OAuth1.HeaderItems

/-!
# The scheme of a header

The first word of a header names its scheme. The reader looks at five letters and not at the word: a word that
begins otherwise is passed over with all that follows it, and one that merely begins as OAuth does is read as
that scheme, what is left of the word being part of the first item.

* `listOf?_eq`: the list that is read, told from the first word.
* `header_ignored_iff`: how a header is read, and when it might as well not be there.
-/
namespace LoginRehearsal

namespace Authorization

/-- The first word of a header. -/
def scheme (header : String) : List Char := (header.toList.dropWhile isBlank).takeWhile fun c => !isBlank c

/-- Whether a text begins with the letters of OAuth, in any case. -/
def beginsOAuth (cs : List Char) : Bool := (cs.take 5).map Char.toLower == ['o', 'a', 'u', 't', 'h']

/-- What stands behind the first five letters of a header. -/
def behindLetters (header : String) : List Char := (header.toList.dropWhile isBlank).drop 5

theorem beginsOAuth_iff {cs : List Char} :
    beginsOAuth cs = true ↔ (cs.take 5).map Char.toLower = ['o', 'a', 'u', 't', 'h'] := by
  rw [beginsOAuth, beq_iff_eq]

theorem length_take_of_beginsOAuth {cs : List Char} (h : beginsOAuth cs = true) : (cs.take 5).length = 5 := by
  have := congrArg List.length (beginsOAuth_iff.mp h)
  rwa [List.length_map] at this

/-! ## Letters and blanks -/

theorem toLower_of_isBlank {c : Char} (h : isBlank c = true) : c.toLower = c := by
  have hn : ¬(c.val ≥ 'A'.val ∧ c.val ≤ 'Z'.val) := by
    rintro ⟨hA, hZ⟩
    have hA : 0x41 ≤ c.toNat := UInt32.le_iff_toNat_le.mp hA
    have hZ : c.toNat ≤ 0x5A := UInt32.le_iff_toNat_le.mp hZ
    simp only [isBlank, Bool.or_eq_true, Bool.and_eq_true, decide_eq_true_eq, beq_iff_eq] at h
    omega
  exact dif_neg hn

/-- A letter of a word is no blank, in either case. -/
theorem not_blank_of_toLower (word : List Char) (h : (word.all fun c => !isBlank c) = true) {c : Char}
    (hc : c.toLower ∈ word) : isBlank c = false := by
  cases hb : isBlank c with
  | false => rfl
  | true =>
    rw [toLower_of_isBlank hb] at hc
    have hn := List.all_eq_true.mp h c hc
    rw [hb] at hn
    cases hn

theorem not_blank_of_beginsOAuth {cs : List Char} (h : beginsOAuth cs = true) :
    ∀ c ∈ cs.take 5, isBlank c = false := by
  intro c hc
  refine not_blank_of_toLower ['o', 'a', 'u', 't', 'h'] (by decide) ?_
  rw [← beginsOAuth_iff.mp h]
  exact List.mem_map_of_mem hc

theorem beginsOAuth_takeWhile (cs : List Char) :
    beginsOAuth (cs.takeWhile fun c => !isBlank c) = beginsOAuth cs := by
  rw [Bool.eq_iff_iff]
  constructor
  · intro h
    obtain ⟨rest, hrest⟩ := List.takeWhile_prefix (fun c => !isBlank c) (l := cs)
    have hlen := length_take_of_beginsOAuth h
    rw [List.length_take] at hlen
    rw [beginsOAuth_iff, ← hrest, List.take_append_of_le_length (by omega)]
    exact beginsOAuth_iff.mp h
  · intro h
    have hnb : ∀ c ∈ cs.take 5, (!isBlank c) = true := fun c hc => by
      rw [not_blank_of_beginsOAuth h c hc]
      rfl
    rw [beginsOAuth_iff]
    conv_lhs => rw [← List.take_append_drop 5 cs]
    rw [List.takeWhile_append_of_pos hnb, List.take_left' (length_take_of_beginsOAuth h)]
    exact beginsOAuth_iff.mp h

/-! ## The list behind the scheme -/

/-- A header is read from behind the letters of OAuth on if its first word begins with them. -/
theorem listOf?_eq (header : String) :
    listOf? header = if beginsOAuth (scheme header) then some (behindLetters header) else none := by
  rw [scheme, beginsOAuth_takeWhile, listOf?, behindLetters]
  generalize header.toList.dropWhile isBlank = cs
  -- the reader looks for five characters, so a text is a shorter one or has its five
  rcases cs with _ | ⟨a, _ | ⟨b, _ | ⟨c, _ | ⟨d, _ | ⟨e, rest⟩⟩⟩⟩⟩ <;> simp [beginsOAuth]

theorem parameters_of_other {header : String} (h : beginsOAuth (scheme header) = false) :
    parameters header = .ok [] := by
  have hl := listOf?_eq header
  rw [h] at hl
  simp only [parameters, hl]
  rfl

theorem parameters_of_oauth {header : String} (h : beginsOAuth (scheme header) = true) :
    parameters header = readItems [] (items (behindLetters header)) := by
  have hl := listOf?_eq header
  rw [if_pos h] at hl
  simp only [parameters, hl]

/-- A header of the scheme in any letter case, with blanks in front. -/
theorem parameters_padded {lead word : List Char} (hlead : ∀ c ∈ lead, isBlank c = true)
    (hword : word.map Char.toLower = ['o', 'a', 'u', 't', 'h']) (list : List Char) :
    parameters (String.ofList (lead ++ (word ++ ' ' :: list))) = readItems [] (items list) := by
  have hlen : word.length = 5 := by
    have := congrArg List.length hword
    rwa [List.length_map] at this
  have hbegins : beginsOAuth (word ++ ' ' :: list) = true := by
    rw [beginsOAuth_iff, List.take_left' hlen, hword]
  have hdrop : (String.ofList (lead ++ (word ++ ' ' :: list))).toList.dropWhile isBlank = word ++ ' ' :: list := by
    rw [String.toList_ofList, List.dropWhile_append_of_pos hlead]
    cases word with
    | nil => cases hlen
    | cons c word =>
      have hc : isBlank c = false := not_blank_of_beginsOAuth hbegins c (by simp)
      rw [List.cons_append, List.dropWhile_cons_of_neg (by simp [hc])]
  have hb : isBlank ' ' = true := by decide
  rw [parameters_of_oauth, behindLetters, hdrop, List.drop_left' hlen, items_cons_blank hb]
  rw [scheme, beginsOAuth_takeWhile, hdrop, hbegins]

theorem parameters_oauth (list : List Char) :
    parameters ("OAuth " ++ String.ofList list) = readItems [] (items list) := by
  have ht : "OAuth " ++ String.ofList list =
      String.ofList ([] ++ (['O', 'A', 'u', 't', 'h'] ++ ' ' :: list)) := by
    rw [← String.toList_inj, String.toList_append]
    simp
  rw [ht, parameters_padded (by simp) (by decide)]

end Authorization

namespace OAuthRequest

open Authorization (scheme beginsOAuth behindLetters items isRealmItem)

/-- A header is passed over if its first word does not begin with the letters of OAuth, and else read as if a blank
stood behind them, whatever the word is. So it might as well not be there exactly if the word does not begin so, or
if all that stands behind the letters are realms. -/
theorem header_ignored_iff (header httpMethod : String) (u : Url) (body : Option String) :
    (ofParts httpMethod u (some header) body =
      if beginsOAuth (scheme header) then
        ofParts httpMethod u (some ("OAuth " ++ String.ofList (behindLetters header))) body
      else ofParts httpMethod u none body) ∧
    (ofParts httpMethod u (some header) body = ofParts httpMethod u none body ↔
      beginsOAuth (scheme header) = false ∨ ∀ item ∈ items (behindLetters header), isRealmItem item = true) := by
  rw [← Authorization.readItems_eq_nil_iff]
  cases h : beginsOAuth (scheme header) with
  | false => simp [ofParts, Authorization.parameters_of_other h, pure, Except.pure]
  | true =>
    simp only [ofParts, Authorization.parameters_of_oauth h, Authorization.parameters_oauth]
    cases Authorization.readItems [] (items (behindLetters header)) with
    | error e => simp [bind, Except.bind, pure, Except.pure]
    | ok params => simp [bind, Except.bind, pure, Except.pure]

/-- A word that goes on behind the letters is another scheme, and is read all the same. -/
example :
    scheme "OAuth2 token" = ['O', 'A', 'u', 't', 'h', '2'] ∧
      Authorization.parameters "OAuth2 token" = .error (.malformed "bad parameter 2 token") := by
  decide +kernel

end OAuthRequest
end LoginRehearsal
