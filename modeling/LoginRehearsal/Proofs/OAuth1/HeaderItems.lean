import LoginRehearsal.OAuth1.Request
import LoginRehearsal.Proofs.Text.Blank
import LoginRehearsal.Proofs.Text.Percent
import LoginRehearsal.Proofs.Text.Split

/-!
# A header item by item

A header is cut at its commas, and what is read of it is read piece by piece: an item gives a parameter, or
nothing if it is a realm, or the refusal that ends the reading. Blanks around an item, its name and its value
make no difference.

* `readItem_cut`: what an item with an `=` comes to.
* `readItem_spelled`: an item whose name and value are spelled gives a parameter.
* `items_append_comma`: a comma keeps the items on its two sides apart.
* `readItems_append`: two lists of items are read one after the other.
* `readItem_eq_none_iff`, `readItems_eq_nil_iff`: what gives no parameter are realms.
* `readItems_malformed`: one item that is refused refuses the list.
-/
namespace LoginRehearsal

namespace Authorization

/-! ## Blanks -/

theorem isBlank_equals : isBlank '=' = false := by decide

theorem isBlank_ascii : ∀ n, n < 0x80 → Percent.isCodeChar (Char.ofNat n) = true →
    isBlank (Char.ofNat n) = false := by decide

theorem isBlank_of_isCodeChar {c : Char} (h : Percent.isCodeChar c = true) : isBlank c = false := by
  have := isBlank_ascii c.toNat (Percent.lt_of_isCodeChar h)
  rw [Char.ofNat_toNat] at this
  exact this h

/-! ## One item -/

/-- Whether a name, as it stands in the header, is that of a realm. -/
def isRealmName (name : List Char) : Bool := (trimBlank name).map Char.toLower == ['r', 'e', 'a', 'l', 'm']

/-- A value without the blanks and the quotes around it. -/
def unquoted (value : List Char) : List Char := trimBoth (· == '"') (trimBlank value)

section

variable {name value item : List Char}

/-- An item is cut at its first `=`. A realm is passed over, whatever it is; all else is decoded, the name
first. -/
theorem readItem_cut (h : '=' ∉ name) : readItem (name ++ '=' :: value) =
    if isRealmName name then .ok none
    else (do
      let key ← decode (trimBlank name)
      let text ← decode (unquoted value)
      pure (some (key, text))) := by
  simp only [readItem, splitFirst?_append_of_not_mem h, isRealmName, beq_iff_eq, unquoted]

theorem readItem_uncut (h : '=' ∉ item) :
    readItem item = .error (.malformed ("bad parameter " ++ String.ofList item)) := by
  simp only [readItem, splitFirst?_of_not_mem h]

/-- The blanks around an item belong neither to its name nor to its value. -/
theorem readItem_trimBlank (h : '=' ∉ name) :
    readItem (trimBlank (name ++ '=' :: value)) = readItem (name ++ '=' :: value) := by
  have hn : '=' ∉ name.dropWhile isBlank := fun hm => h ((List.dropWhile_sublist isBlank).mem hm)
  have hname : trimBlank (name.dropWhile isBlank) = trimBlank name := trimBoth_dropWhile
  have hvalue : trimBlank (dropRight isBlank value) = trimBlank value := trimBoth_dropRight
  rw [trimBlank, trimBoth_append_mark isBlank_equals, readItem_cut hn, readItem_cut h, isRealmName, isRealmName,
    unquoted, unquoted, hname, hvalue]

/-- Every item that is refused is refused as malformed. -/
theorem readItem_error {refusal : Refusal} (h : readItem item = .error refusal) :
    ∃ reason, refusal = .malformed reason := by
  have hd : ∀ {cs : List Char} {e : Refusal}, decode cs = .error e → ∃ reason, e = .malformed reason := by
    intro cs e hd
    unfold decode at hd
    split at hd
    · cases hd
    · cases hd
      exact ⟨_, rfl⟩
  by_cases hm : '=' ∈ item
  · obtain ⟨name, value, rfl, hn⟩ := List.eq_append_cons_of_mem hm
    rw [readItem_cut hn] at h
    split at h
    · cases h
    · cases hkey : decode (trimBlank name) with
      | error e =>
        rw [hkey] at h
        cases h
        exact hd hkey
      | ok key =>
        cases htext : decode (unquoted value) with
        | error e =>
          rw [hkey, htext] at h
          cases h
          exact hd htext
        | ok text =>
          rw [hkey, htext] at h
          cases h
  · rw [readItem_uncut hm] at h
    cases h
    exact ⟨_, rfl⟩

/-- Whether an item is a realm. -/
def isRealmItem (item : List Char) : Bool :=
  match splitFirst? (· == '=') item with
  | some (name, _) => isRealmName name
  | none => false

theorem isRealmItem_cut (h : '=' ∉ name) : isRealmItem (name ++ '=' :: value) = isRealmName name := by
  simp only [isRealmItem, splitFirst?_append_of_not_mem h]

theorem readItem_eq_none_iff : readItem item = .ok none ↔ isRealmItem item = true := by
  by_cases hm : '=' ∈ item
  · obtain ⟨name, value, rfl, hn⟩ := List.eq_append_cons_of_mem hm
    rw [readItem_cut hn, isRealmItem_cut hn]
    cases isRealmName name with
    | true => simp
    | false =>
      rw [if_neg (by decide)]
      cases decode (trimBlank name) with
      | error e => simp [bind, Except.bind]
      | ok key => cases decode (unquoted value) <;> simp [bind, Except.bind, pure, Except.pure]
  · rw [readItem_uncut hm]
    simp [isRealmItem, splitFirst?_of_not_mem hm]

end

/-! ## Spelled names and values -/

section

variable {bs : Bytes} {cs quoted name value : List Char}

theorem not_mem_spelled {c : Char} (h : Percent.Spells bs cs) (hc : Percent.isCodeChar c = false) : c ∉ cs := by
  intro hm
  rw [h.isCodeChar_of_mem c hm] at hc
  cases hc

theorem trimBlank_spelled (h : Percent.Spells bs cs) : trimBlank cs = cs :=
  trimBoth_of_forall fun c hc => isBlank_of_isCodeChar (h.isCodeChar_of_mem c hc)

/-- The quotes around a spelled value come off, and nothing else. -/
theorem unquoted_spelled (h : Percent.Spells bs cs) (hq : quoted = cs ∨ quoted = '"' :: (cs ++ ['"'])) :
    unquoted quoted = cs := by
  have hno : ∀ c ∈ cs, (c == '"') = false := beq_of_not_mem (not_mem_spelled h (by decide))
  rw [unquoted]
  rcases hq with rfl | rfl
  · rw [trimBlank_spelled h, trimBoth_of_forall hno]
  · rw [trimBlank, trimBoth_of_ends (by decide) (by decide)]
    exact trimBoth_quoted (p := (· == '"')) rfl hno

theorem decode_spelled {s : String} (h : Percent.Spells (Utf8.encode s) cs) : decode cs = .ok s := by
  rw [decode, Percent.decode?_spelled h]

/-- An item gives the parameter that its name and its value spell. -/
theorem readItem_spelled {p : String × String} (hn : Percent.Spells (Utf8.encode p.1) (trimBlank name))
    (hv : Percent.Spells (Utf8.encode p.2) (unquoted value)) (hcut : '=' ∉ name) (hr : isRealmName name = false) :
    readItem (name ++ '=' :: value) = .ok (some p) := by
  rw [readItem_cut hcut, hr, decode_spelled hn, decode_spelled hv]
  rfl

theorem readItem_realm (text : List Char) : readItem (['r', 'e', 'a', 'l', 'm'] ++ '=' :: text) = .ok none := by
  rw [readItem_cut (by decide), if_pos (by decide)]

end

/-! ## The list of items -/

theorem items_append_comma (before behind : List Char) :
    items (before ++ ',' :: behind) = items before ++ items behind := by
  rw [items, splitOn_append_cons (p := (· == ',')) before behind rfl, List.map_append, List.filter_append]
  rfl

/-- Without a comma there is one item, or none if all is blank. -/
theorem items_of_no_comma {list : List Char} (h : ',' ∉ list) :
    items list = if trimBlank list = [] then [] else [trimBlank list] := by
  rw [items, splitOn_of_not_mem h, List.map_singleton]
  split
  · next he => rw [he]; rfl
  · next he => simpa using he

/-- A blank in front of the list makes no difference. -/
theorem items_cons_blank {c : Char} (hb : isBlank c = true) (list : List Char) : items (c :: list) = items list := by
  have hc : (c == ',') = false := by
    rw [beq_eq_false_iff_ne]
    rintro rfl
    exact absurd hb (by decide)
  obtain ⟨piece, others, hs, hcons⟩ := splitOn_cons_other (· == ',') c list hc
  have ht : trimBlank (c :: piece) = trimBlank piece := by
    rw [trimBlank, trimBoth, List.dropWhile_cons_of_pos hb]
    rfl
  rw [items, items, hs, hcons, List.map_cons, List.map_cons, ht]

/-- Joined texts are read one after the other. -/
theorem items_intercalate_cons (part : List Char) (parts : List (List Char)) :
    items ([',', ' '].intercalate (part :: parts)) = items part ++ items ([',', ' '].intercalate parts) := by
  cases parts with
  | nil =>
    have hn : items [] = [] := by decide
    rw [List.intercalate_singleton, List.intercalate_nil, hn, List.append_nil]
  | cons next parts =>
    have hj : [',', ' '].intercalate (part :: next :: parts) =
        part ++ ',' :: ' ' :: [',', ' '].intercalate (next :: parts) := by
      simp [List.intercalate_cons_cons]
    rw [hj, items_append_comma, items_cons_blank (by decide)]

theorem readItems_found (found : Parameters) (list : List (List Char)) :
    readItems found list = (readItems [] list).map (found.reverse ++ ·) := by
  induction list generalizing found with
  | nil => simp [readItems, Except.map]
  | cons item list ih =>
    rw [readItems, readItems]
    cases readItem item with
    | error e => rfl
    | ok p =>
      cases p with
      | none => exact ih found
      | some p =>
        simp only
        rw [ih (p :: found), ih [p]]
        cases readItems [] list <;> simp [Except.map]

/-- The first item comes first, unless it is a realm. -/
theorem readItems_cons (item : List Char) (list : List (List Char)) :
    readItems [] (item :: list) = (do
      let p ← readItem item
      let params ← readItems [] list
      pure (p.toList ++ params)) := by
  rw [readItems]
  cases readItem item with
  | error e => rfl
  | ok p =>
    cases p with
    | none => cases readItems [] list <;> simp [bind, Except.bind, pure, Except.pure]
    | some p =>
      simp only
      rw [readItems_found]
      cases readItems [] list <;> simp [bind, Except.bind, pure, Except.pure, Except.map]

theorem readItems_append (items₁ items₂ : List (List Char)) :
    readItems [] (items₁ ++ items₂) = (do
      let first ← readItems [] items₁
      let second ← readItems [] items₂
      pure (first ++ second)) := by
  induction items₁ with
  | nil => cases h : readItems [] items₂ <;> simp [readItems, bind, Except.bind, pure, Except.pure, h]
  | cons item items₁ ih =>
    rw [List.cons_append, readItems_cons, readItems_cons, ih]
    cases readItem item <;> cases readItems [] items₁ <;> cases readItems [] items₂ <;>
      simp [bind, Except.bind, pure, Except.pure]

/-- A list without parameters is one of realms. -/
theorem readItems_eq_nil_iff {list : List (List Char)} :
    readItems [] list = .ok [] ↔ ∀ item ∈ list, isRealmItem item = true := by
  induction list with
  | nil => simp [readItems]
  | cons item list ih =>
    rw [readItems_cons, List.forall_mem_cons, ← readItem_eq_none_iff, ← ih]
    cases readItem item with
    | error e => simp [bind, Except.bind]
    | ok p => cases p <;> cases readItems [] list <;> simp [bind, Except.bind, pure, Except.pure]

/-- One item that is refused refuses the list, whatever the others are. -/
theorem readItems_malformed {list : List (List Char)} {item : List Char} {refusal : Refusal} (hm : item ∈ list)
    (h : readItem item = .error refusal) : ∃ reason, readItems [] list = .error (.malformed reason) := by
  induction list with
  | nil => cases hm
  | cons first list ih =>
    rw [readItems_cons]
    cases hf : readItem first with
    | error e =>
      obtain ⟨reason, rfl⟩ := readItem_error hf
      exact ⟨reason, rfl⟩
    | ok p =>
      rw [List.mem_cons] at hm
      rcases hm with rfl | hm
      · rw [h] at hf
        cases hf
      · obtain ⟨reason, hr⟩ := ih hm
        exact ⟨reason, by rw [hr]; rfl⟩

end Authorization
end LoginRehearsal
