import LoginRehearsal.LoginPage
import Mathlib.Data.List.Basic

/-!
# The address on the login page

The address that a form posts to stands in an attribute of the page, between two quotes. Whatever text it is, its
escaped form has no quote in it, so the attribute ends where it should, and a browser that replaces the entities in it
gets the address back.

The marks are replaced one after the other, each in the outcome of the replacements before it. That comes to one
replacement of all of them, because no entity has a mark in it that is replaced later.

* `LoginPage.toList_escape`: the replacements at one time.
* `LoginPage.unescape_escape`: entities are read back.
* `LoginPage.actionOf_render`: the attribute, found in the page.
* `LoginPage.action_stays_inside`: all that a page has to do with its address.
-/
namespace LoginRehearsal
namespace LoginPage

/-! ## Replacements one after the other -/

/-- What one of several replacements makes of a character; of two for the same mark the first counts. -/
def substitute (entities : List (Char × String)) (c : Char) : List Char :=
  match entities.lookup c with
  | some text => text.toList
  | none => [c]

/-- No replacement touches what was put in before it. -/
def InOrder (entities : List (Char × String)) : Prop :=
  entities.Pairwise fun entity later => later.1 ∉ entity.2.toList

theorem substitute_cons (entity : Char × String) (entities : List (Char × String)) (c : Char) :
    substitute (entity :: entities) c = if c = entity.1 then entity.2.toList else substitute entities c := by
  obtain ⟨mark, text⟩ := entity
  by_cases hc : c = mark
  · simp [substitute, hc]
  · simp [substitute, List.lookup_cons, hc, beq_false_of_ne hc]

theorem substitute_of_no_mark {entities : List (Char × String)} {c : Char} (h : ∀ e ∈ entities, e.1 ≠ c) :
    substitute entities c = [c] := by
  induction entities with
  | nil => rfl
  | cons entity entities ih =>
    rw [substitute_cons, if_neg (Ne.symm (h entity List.mem_cons_self)),
      ih fun e he => h e (List.mem_cons_of_mem _ he)]

/-- Replacements in order come to one replacement of all marks. -/
theorem foldl_replaceMark {entities : List (Char × String)} (h : InOrder entities) (cs : List Char) :
    entities.foldl replaceMark cs = cs.flatMap (substitute entities) := by
  induction entities generalizing cs with
  | nil => exact (List.flatMap_singleton' cs).symm
  | cons entity entities ih =>
    obtain ⟨hlater, hrest⟩ := List.pairwise_cons.mp h
    -- the later replacements keep what this one puts in
    have hkept : entity.2.toList.flatMap (substitute entities) = entity.2.toList := by
      refine Eq.trans (List.flatMap_congr fun c hc => ?_) (List.flatMap_singleton' _)
      exact substitute_of_no_mark fun e he hmark => hlater e he (hmark ▸ hc)
    rw [List.foldl_cons, ih hrest]
    unfold replaceMark
    rw [List.flatMap_assoc]
    refine List.flatMap_congr fun c _ => ?_
    rw [substitute_cons]
    split
    · exact hkept
    · exact List.flatMap_singleton _ _

theorem inOrder_entities : InOrder entities := by
  unfold InOrder entities
  decide

/-- A character as it stands in an attribute. -/
def escapeChar : Char → List Char := substitute entities

theorem toList_escape (s : String) : (escape s).toList = s.toList.flatMap escapeChar := by
  rw [escape, String.toList_ofList, foldl_replaceMark inOrder_entities]
  rfl

/-! ## Characters of an attribute -/

/-- A character is written as itself, or as the entity of its mark. -/
theorem escapeChar_cases (c : Char) :
    (∃ e ∈ entities, c = e.1 ∧ escapeChar c = e.2.toList) ∨ (∀ e ∈ entities, e.1 ≠ c) ∧ escapeChar c = [c] := by
  by_cases h : ∃ e ∈ entities, e.1 = c
  · obtain ⟨e, he, rfl⟩ := h
    have hall : ∀ e ∈ entities, escapeChar e.1 = e.2.toList := by decide
    exact .inl ⟨e, he, rfl, hall e he⟩
  · have hnone : ∀ e ∈ entities, e.1 ≠ c := fun e he hc => h ⟨e, he, hc⟩
    exact .inr ⟨hnone, substitute_of_no_mark hnone⟩

/-- Of the marks only the ampersand is left in an escaped text. -/
theorem mark_of_mem_escape {s : String} {c : Char} (h : c ∈ (escape s).toList) :
    ∀ e ∈ entities, e.1 = c → c = '&' := by
  rw [toList_escape, List.mem_flatMap] at h
  obtain ⟨d, -, hc⟩ := h
  rcases escapeChar_cases d with ⟨e, he, -, hd⟩ | ⟨hnone, hd⟩
  · have hentity : entities.all fun e => e.2.toList.all fun c => entities.all fun e' => e'.1 != c || c == '&' := by
      decide
    simp only [List.all_eq_true, Bool.or_eq_true, bne_iff_ne, beq_iff_eq] at hentity
    rw [hd] at hc
    intro e' he' hmark
    exact (hentity e he c hc e' he').resolve_left fun hne => hne hmark
  · rw [hd, List.mem_singleton] at hc
    intro e he hmark
    exact absurd (hmark.trans hc) (hnone e he)

/-! ## Entities -/

/-- Every ampersand of a text begins an entity. -/
def EntitiesOnly (cs : List Char) : Prop :=
  ∀ behind, '&' :: behind <:+ cs → ∃ e ∈ entities, e.2.toList <+: '&' :: behind

theorem EntitiesOnly.append {front cs : List Char} (hfront : '&' ∉ front) (h : EntitiesOnly cs) :
    EntitiesOnly (front ++ cs) := by
  induction front with
  | nil => exact h
  | cons c front ih =>
    rw [List.mem_cons, not_or] at hfront
    intro behind hs
    rcases List.suffix_cons_iff.mp hs with heq | hs
    · exact absurd (List.cons.inj heq).1 hfront.1
    · exact ih hfront.2 behind hs

theorem EntitiesOnly.entity {e : Char × String} (he : e ∈ entities) {cs : List Char} (h : EntitiesOnly cs) :
    EntitiesOnly (e.2.toList ++ cs) := by
  have hshape : ∀ e ∈ entities, e.2.toList.head? = some '&' ∧ '&' ∉ e.2.toList.tail := by decide
  obtain ⟨hhead, htail⟩ := hshape e he
  have htext : e.2.toList = '&' :: e.2.toList.tail := (List.cons_head?_tail hhead).symm
  intro behind hs
  rw [htext, List.cons_append] at hs
  rcases List.suffix_cons_iff.mp hs with heq | hs
  · refine ⟨e, he, ?_⟩
    rw [heq, ← List.cons_append, ← htext]
    exact List.prefix_append _ _
  · exact h.append htail behind hs

theorem entitiesOnly_escape (s : String) : EntitiesOnly (escape s).toList := by
  rw [toList_escape]
  induction s.toList with
  | nil => exact fun behind hs => by cases List.suffix_nil.mp hs
  | cons c cs ih =>
    rw [List.flatMap_cons]
    rcases escapeChar_cases c with ⟨e, he, -, hc⟩ | ⟨hnone, hc⟩
    · rw [hc]
      exact ih.entity he
    · rw [hc]
      refine ih.append fun hm => ?_
      rw [List.mem_singleton] at hm
      exact hnone ('&', "&amp;") List.mem_cons_self hm

/-- The text that an attribute stands for: the five entities are replaced, all else is kept. -/
def readEntities : List Char → List Char
  | [] => []
  | '&' :: 'a' :: 'm' :: 'p' :: ';' :: rest => '&' :: readEntities rest
  | '&' :: 'l' :: 't' :: ';' :: rest => '<' :: readEntities rest
  | '&' :: 'g' :: 't' :: ';' :: rest => '>' :: readEntities rest
  | '&' :: 'q' :: 'u' :: 'o' :: 't' :: ';' :: rest => '"' :: readEntities rest
  | '&' :: '#' :: 'x' :: '2' :: '7' :: ';' :: rest => Char.ofNat 0x27 :: readEntities rest
  | c :: rest => c :: readEntities rest

def unescape (s : String) : String := String.ofList (readEntities s.toList)

theorem readEntities_cons {c : Char} (h : c ≠ '&') (rest : List Char) :
    readEntities (c :: rest) = c :: readEntities rest := by
  conv_lhs => unfold readEntities
  split <;> simp_all

theorem readEntities_entity {e : Char × String} (he : e ∈ entities) (rest : List Char) :
    readEntities (e.2.toList ++ rest) = e.1 :: readEntities rest := by
  simp only [entities, List.mem_cons, List.not_mem_nil, or_false] at he
  rcases he with rfl | rfl | rfl | rfl | rfl <;> rfl

theorem unescape_escape (s : String) : unescape (escape s) = s := by
  have hread : ∀ cs : List Char, readEntities (cs.flatMap escapeChar) = cs := by
    intro cs
    induction cs with
    | nil => rfl
    | cons c cs ih =>
      rw [List.flatMap_cons]
      rcases escapeChar_cases c with ⟨e, he, rfl, hc⟩ | ⟨hnone, hc⟩
      · rw [hc, readEntities_entity he, ih]
      · have hamp : c ≠ '&' := fun h => hnone ('&', "&amp;") List.mem_cons_self h.symm
        rw [hc, List.singleton_append, readEntities_cons hamp, ih]
  rw [unescape, toList_escape, hread, String.ofList_toList]

/-! ## The attribute in the page -/

/-- What stands behind the first occurrence of a text. -/
def behindFirst? (mark : List Char) : List Char → Option (List Char)
  | [] => none
  | c :: rest => if mark <+: c :: rest then some ((c :: rest).drop mark.length) else behindFirst? mark rest

/-- The value of the attribute for the address: what stands between the first `action="` of a page and the next
quote. -/
def actionOf (page : String) : Option String :=
  (behindFirst? "action=\"".toList page.toList).map fun cs => String.ofList (cs.takeWhile (· != '"'))

theorem eq_of_behindFirst? {mark cs behind : List Char} (h : behindFirst? mark cs = some behind) :
    ∃ front, cs = front ++ mark ++ behind := by
  induction cs with
  | nil => cases h
  | cons c cs ih =>
    rw [behindFirst?] at h
    split at h
    · next hp =>
      cases h
      exact ⟨[], (List.prefix_iff_eq_append.mp hp).symm⟩
    · obtain ⟨front, rfl⟩ := ih h
      exact ⟨c :: front, rfl⟩

/-- Where a text that ends with its first occurrence of a mark goes on, that occurrence stays the first. -/
theorem behindFirst?_append {mark cs : List Char} (h : behindFirst? mark cs = some []) (rest : List Char) :
    behindFirst? mark (cs ++ rest) = some rest := by
  induction cs with
  | nil => cases h
  | cons c cs ih =>
    obtain ⟨front, hfront⟩ := eq_of_behindFirst? h
    have hlength : mark.length ≤ (c :: cs).length := by
      rw [hfront]
      simp
    have hbegins : mark <+: c :: cs ++ rest ↔ mark <+: c :: cs :=
      ⟨fun hp => List.prefix_of_prefix_length_le hp (List.prefix_append _ _) hlength,
        fun hp => hp.trans (List.prefix_append _ _)⟩
    rw [List.cons_append] at hbegins
    rw [behindFirst?] at h
    rw [List.cons_append, behindFirst?]
    split at h
    · next hp =>
      have hdrop : (c :: cs).length ≤ mark.length := List.drop_eq_nil_iff.mp (Option.some.inj h)
      rw [if_pos (hbegins.mpr hp), ← List.cons_append, List.drop_append_of_le_length hlength, Option.some.inj h]
      rfl
    · next hp =>
      rw [if_neg fun hp' => hp (hbegins.mp hp')]
      exact ih h

theorem behindFirst?_opening : behindFirst? "action=\"".toList opening.toList = some [] := by
  unfold opening
  simp only [String.toList_append]
  decide +kernel

theorem closing_quote (flow : Flow) : ∃ rest, (closing flow).toList = '"' :: rest := by
  unfold closing
  simp only [String.toList_append]
  exact ⟨_, rfl⟩

/-- The attribute ends with the escaped address, since no quote is left in it. -/
theorem actionOf_render (flow : Flow) (action : String) : actionOf (render flow action) = some (escape action) := by
  have hquote : ∀ c ∈ (escape action).toList, (c != '"') = true := by
    intro c hc
    have hmark := mark_of_mem_escape hc ('"', "&quot;") (by decide)
    rw [bne_iff_ne]
    rintro rfl
    exact absurd (hmark rfl) (by decide)
  obtain ⟨rest, hclosing⟩ := closing_quote flow
  have hpage : (render flow action).toList = opening.toList ++ ((escape action).toList ++ '"' :: rest) := by
    rw [render, String.toList_append, String.toList_append, hclosing, List.append_assoc]
  rw [actionOf, hpage, behindFirst?_append behindFirst?_opening, Option.map_some,
    List.takeWhile_append_of_pos hquote, List.takeWhile_cons_of_neg (by decide), List.append_nil, String.ofList_toList]

/-- The field for the password tells the flow. -/
theorem closing_injective {flow flow' : Flow} (h : closing flow = closing flow') : flow = flow' := by
  have hfield := congrArg String.toList h
  simp only [closing, String.toList_append, List.append_left_inj, List.append_right_inj] at hfield
  cases flow <;> cases flow'
  · rfl
  · exact absurd hfield (by decide)
  · exact absurd hfield (by decide)
  · rfl

/-- Two pages are one only if they are of one flow and post to one address. -/
theorem render_inj {flow flow' : Flow} {action action' : String} :
    render flow action = render flow' action' ↔ flow = flow' ∧ action = action' := by
  constructor
  · intro h
    have hvalue : escape action = escape action' :=
      Option.some.inj ((actionOf_render flow action).symm.trans ((congrArg actionOf h).trans (actionOf_render flow' action')))
    have haction : action = action' := by
      rw [← unescape_escape action, hvalue, unescape_escape]
    subst haction
    have hpage := congrArg String.toList h
    simp only [render, String.toList_append, List.append_right_inj] at hpage
    exact ⟨closing_injective (String.toList_inj.mp hpage), rfl⟩
  · rintro ⟨rfl, rfl⟩
    rfl

/-- The page is the same for all addresses but for the escaped address in it, which keeps within its quotes and from
which the address can be read back. -/
theorem action_stays_inside (flow : Flow) (action : String) :
    render flow action = opening ++ escape action ++ closing flow ∧
    (∀ c ∈ (escape action).toList, c ≠ '<' ∧ c ≠ '>' ∧ c ≠ '"' ∧ c.toNat ≠ 0x27) ∧
    (∀ behind, '&' :: behind <:+ (escape action).toList →
      ∃ entity ∈ ["&amp;", "&lt;", "&gt;", "&quot;", "&#x27;"], entity.toList <+: '&' :: behind) ∧
    unescape (escape action) = action ∧
    (actionOf (render flow action)).map unescape = some action ∧
    ∀ flow' action', render flow action = render flow' action' ↔ flow = flow' ∧ action = action' := by
  refine ⟨rfl, fun c hc => ?_, fun behind hs => ?_, unescape_escape action, ?_, fun _ _ => render_inj⟩
  · have hmark := mark_of_mem_escape hc
    have hne : ∀ e ∈ entities, e.1 ≠ '&' → c ≠ e.1 := fun e he hamp heq => hamp (heq ▸ hmark e he heq.symm)
    refine ⟨hne ('<', "&lt;") (by decide) (by decide), hne ('>', "&gt;") (by decide) (by decide),
      hne ('"', "&quot;") (by decide) (by decide), fun hquote => ?_⟩
    refine hne (Char.ofNat 0x27, "&#x27;") (by decide) (by decide) ?_
    rw [← Char.ofNat_toNat c, hquote]
  · obtain ⟨e, he, hprefix⟩ := entitiesOnly_escape action behind hs
    exact ⟨e.2, List.mem_map_of_mem (f := Prod.snd) he, hprefix⟩
  · rw [actionOf_render, Option.map_some, unescape_escape]

/-- An address that tries to end its attribute, and one that holds an entity already. -/
example : escape "/\"><b>" = "/&quot;&gt;&lt;b&gt;" ∧ escape "/?a=1&lt;=2" = "/?a=1&amp;lt;=2" := by decide +kernel

end LoginPage
end LoginRehearsal
