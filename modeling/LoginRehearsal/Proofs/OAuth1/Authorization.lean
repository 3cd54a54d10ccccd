import LoginRehearsal.Proofs.OAuth1.HeaderItems

/-!
# The header there and back

A header is written as items between commas, each a name and a quoted value, both escaped. None of the marks
that the reader cuts at, and no blank, is part of an escaped text, so the items are found as they were
written. The realm is written raw; it stays one item as long as it holds no comma, and is dropped.

* `parameters_render`: a header is read as the parameters that it was written from, in their order.
-/
namespace LoginRehearsal

namespace Authorization

/-! ## One item -/

/-- One parameter as it stands in the header. -/
def itemChars (p : String × String) : List Char :=
  (Percent.encode p.1).toList ++ '=' :: '"' :: ((Percent.encode p.2).toList ++ ['"'])

theorem toList_renderItem (p : String × String) : (renderItem p).toList = itemChars p := by
  simp [renderItem, itemChars]

/-- No blank is written into an item. -/
theorem not_blank_itemChars (p : String × String) : ∀ c ∈ itemChars p, isBlank c = false := by
  intro c hc
  simp only [itemChars, List.mem_append, List.mem_cons, List.not_mem_nil, or_false] at hc
  rcases hc with hc | rfl | rfl | hc | rfl
  · exact isBlank_of_isCodeChar (Percent.isCodeChar_of_mem hc)
  · rfl
  · rfl
  · exact isBlank_of_isCodeChar (Percent.isCodeChar_of_mem hc)
  · rfl

theorem no_comma_itemChars (p : String × String) : ',' ∉ itemChars p := by
  have hname := Percent.not_mem_encode (c := ',') (by decide) p.1
  have hvalue := Percent.not_mem_encode (c := ',') (by decide) p.2
  simp [itemChars, hname, hvalue]

/-- Whether a name could be read as that of a realm. -/
def namesRealm (name : String) : Bool :=
  (Percent.encode name).toList.map Char.toLower == ['r', 'e', 'a', 'l', 'm']

/-- Escapes do not hide the name of a realm: a name that is read as one is one, in some letter case. -/
theorem namesRealm_of_toLower {name : String} (h : name.toLower ≠ "realm") : namesRealm name = false := by
  rw [namesRealm, beq_eq_false_iff_ne]
  intro hm
  have hpct : '%' ∉ (Percent.encode name).toList := by
    intro hp
    have hl := List.mem_map_of_mem (f := Char.toLower) hp
    rw [hm] at hl
    exact absurd hl (by decide)
  rw [Percent.encode_eq_self hpct, ← String.toList_map] at hm
  exact h (String.toList_inj.mp hm)

/-- A name that begins as those of the protocol do is not that of a realm. -/
theorem namesRealm_of_oauth {name : String}
    (h : ['o', 'a', 'u', 't', 'h', '_'].isPrefixOf name.toList = true) : namesRealm name = false := by
  rw [List.isPrefixOf_iff_prefix] at h
  obtain ⟨rest, hrest⟩ := h
  refine namesRealm_of_toLower fun hl => ?_
  have hm : (name.map Char.toLower).toList = ['r', 'e', 'a', 'l', 'm'] := congrArg String.toList hl
  rw [String.toList_map, ← hrest] at hm
  exact absurd (List.cons.inj hm).1 (by decide)

theorem readItem_itemChars {p : String × String} (h : namesRealm p.1 = false) :
    readItem (itemChars p) = .ok (some p) := by
  have hname : trimBlank (Percent.encode p.1).toList = (Percent.encode p.1).toList :=
    trimBlank_spelled (Percent.spells_encode p.1)
  have hvalue : unquoted ('"' :: ((Percent.encode p.2).toList ++ ['"'])) = (Percent.encode p.2).toList :=
    unquoted_spelled (Percent.spells_encode p.2) (.inr rfl)
  refine readItem_spelled ?_ ?_ (Percent.not_mem_encode (by decide) p.1) ?_
  · rw [hname]
    exact Percent.spells_encode p.1
  · rw [hvalue]
    exact Percent.spells_encode p.2
  · rw [isRealmName, hname]
    exact h

theorem readItems_itemChars {params : Parameters} (h : ∀ p ∈ params, namesRealm p.1 = false) :
    readItems [] (params.map itemChars) = .ok params := by
  induction params with
  | nil => rfl
  | cons p params ih =>
    rw [List.map_cons, readItems_cons, readItem_itemChars (h p List.mem_cons_self),
      ih fun q hq => h q (List.mem_cons_of_mem _ hq)]
    rfl

/-! ## The whole header -/

/-- The realm as it stands in the header. -/
def realmChars (realm : String) : List Char :=
  ['r', 'e', 'a', 'l', 'm', '=', '"'] ++ (realm.toList ++ ['"'])

/-- The items of a header as they were written. -/
def written (realm : Option String) (params : Parameters) : List (List Char) :=
  realm.toList.map realmChars ++ params.map itemChars

theorem toList_render (realm : Option String) (params : Parameters) :
    (render realm params).toList =
      ['O', 'A', 'u', 't', 'h', ' '] ++ [',', ' '].intercalate (written realm params) := by
  have hi : params.map (String.toList ∘ renderItem) = params.map itemChars :=
    List.map_congr_left fun p _ => by rw [Function.comp_apply, toList_renderItem]
  unfold render
  rw [String.toList_append, String.toList_intercalate, List.map_append, List.map_map, hi]
  cases realm with
  | none => rfl
  | some text =>
    have ht : (("realm=\"" ++ text ++ "\"") : String).toList = realmChars text := by simp [realmChars]
    rw [List.map_singleton, ht]
    rfl

theorem listOf?_render (realm : Option String) (params : Parameters) :
    listOf? (render realm params) = some (' ' :: [',', ' '].intercalate (written realm params)) := by
  have ho : isBlank 'O' = false := by decide
  rw [listOf?, toList_render, List.cons_append, List.dropWhile_cons_of_neg (by simp [ho])]
  rfl

theorem trimBlank_realmChars (realm : String) : trimBlank (realmChars realm) = realmChars realm := by
  have h : realmChars realm =
      'r' :: ((['e', 'a', 'l', 'm', '=', '"'] ++ realm.toList) ++ ['"']) := by simp [realmChars]
  rw [trimBlank, h, trimBoth_of_ends (by decide) (by decide)]

/-- Items between commas come back as they were written, the blank in front of each cut off. -/
theorem items_intercalate {parts : List (List Char)} (hc : ∀ q ∈ parts, ',' ∉ q)
    (ht : ∀ q ∈ parts, trimBlank q = q) (hne : ∀ q ∈ parts, q ≠ []) :
    items ([',', ' '].intercalate parts) = parts := by
  induction parts with
  | nil => decide
  | cons q parts ih =>
    have hq : items q = [q] := by
      rw [items_of_no_comma (hc q List.mem_cons_self), ht q List.mem_cons_self, if_neg (hne q List.mem_cons_self)]
    rw [items_intercalate_cons, hq, ih (fun r hr => hc r (List.mem_cons_of_mem _ hr))
      (fun r hr => ht r (List.mem_cons_of_mem _ hr)) (fun r hr => hne r (List.mem_cons_of_mem _ hr))]
    rfl

theorem items_written {realm : Option String} {params : Parameters}
    (h : ∀ text, realm = some text → ',' ∉ text.toList) :
    items (' ' :: [',', ' '].intercalate (written realm params)) = written realm params := by
  have hm : ∀ q ∈ written realm params,
      (∃ text, realm = some text ∧ realmChars text = q) ∨ ∃ p, itemChars p = q := by
    intro q hq
    rw [written, List.mem_append, List.mem_map, List.mem_map] at hq
    rcases hq with ⟨text, ht, rfl⟩ | ⟨p, -, rfl⟩
    · exact .inl ⟨text, Option.mem_toList.mp ht, rfl⟩
    · exact .inr ⟨p, rfl⟩
  rw [items_cons_blank (by decide)]
  apply items_intercalate
  · intro q hq
    rcases hm q hq with ⟨text, ht, rfl⟩ | ⟨p, rfl⟩
    · simp [realmChars, h text ht]
    · exact no_comma_itemChars p
  · intro q hq
    rcases hm q hq with ⟨text, -, rfl⟩ | ⟨p, rfl⟩
    · exact trimBlank_realmChars text
    · exact trimBoth_of_forall (not_blank_itemChars p)
  · intro q hq
    rcases hm q hq with ⟨text, -, rfl⟩ | ⟨p, rfl⟩
    · simp [realmChars]
    · simp [itemChars]

theorem readItems_written {realm : Option String} {params : Parameters}
    (h : ∀ p ∈ params, namesRealm p.1 = false) : readItems [] (written realm params) = .ok params := by
  cases realm with
  | none => exact readItems_itemChars h
  | some text =>
    have hw : written (some text) params =
        (['r', 'e', 'a', 'l', 'm'] ++ '=' :: '"' :: (text.toList ++ ['"'])) :: params.map itemChars := rfl
    rw [hw, readItems, readItem_realm]
    exact readItems_itemChars h

/-- A header is read as the parameters that it was written from. -/
theorem parameters_render {realm : Option String} {params : Parameters}
    (hr : ∀ text, realm = some text → ',' ∉ text.toList) (h : ∀ p ∈ params, namesRealm p.1 = false) :
    parameters (render realm params) = .ok params := by
  simp only [parameters, listOf?_render, items_written hr]
  exact readItems_written h

end Authorization
end LoginRehearsal
