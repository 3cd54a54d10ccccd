import LoginRehearsal.Proofs.OAuth1.Scheme

/-!
# Every spelling of a header

Clients write the same parameters in many ways: with blanks around commas, names and values, with quotes or
without, with more escapes than there need be and digits of either case, with empty items and with realms in
between. `SpelledList` says which texts stand for which parameters; the reader gives these parameters for each of
them. An item that stands for nothing refuses the header, wherever it stands.

* `SpelledItem`, `SpelledList`: the texts of items and of lists of them.
* `Faulty`: the items that stand for nothing.
* `readItems_spelled`, `readItems_faulty`: what the reader makes of them.
* `header_spellings`: the request that arrives, or its refusal.
-/
namespace LoginRehearsal

namespace Authorization

/-! ## Items as they may be written -/

/-- A text with nothing but blanks around it. -/
def Padded (core text : List Char) : Prop :=
  ∃ front back, (∀ c ∈ front, isBlank c = true) ∧ (∀ c ∈ back, isBlank c = true) ∧ text = front ++ (core ++ back)

/-- What may stand between two commas, and the parameter that it stands for, if any. -/
inductive SpelledItem : Option (String × String) → List Char → Prop where
  | blank {text : List Char} (h : Padded [] text) : SpelledItem none text
  | realm {name left text : List Char} (hname : name.map Char.toLower = ['r', 'e', 'a', 'l', 'm'])
    (hleft : Padded name left) (htext : ',' ∉ text) : SpelledItem none (left ++ '=' :: text)
  | parameter {key value : String} {name spelled quoted left right : List Char}
    (hname : Percent.Spells (Utf8.encode key) name) (hrealm : name.map Char.toLower ≠ ['r', 'e', 'a', 'l', 'm'])
    (hvalue : Percent.Spells (Utf8.encode value) spelled)
    (hquoted : quoted = spelled ∨ quoted = '"' :: (spelled ++ ['"']))
    (hleft : Padded name left) (hright : Padded quoted right) :
    SpelledItem (some (key, value)) (left ++ '=' :: right)

/-- Items between commas, and the parameters that they stand for. -/
inductive SpelledList : Parameters → List Char → Prop where
  | last {p : Option (String × String)} {text : List Char} (h : SpelledItem p text) : SpelledList p.toList text
  | cons {p : Option (String × String)} {params : Parameters} {text list : List Char} (h : SpelledItem p text)
    (hl : SpelledList params list) : SpelledList (p.toList ++ params) (text ++ ',' :: list)

/-- Items that stand for nothing: those without an `=` that are not blank, and those other than realms whose name
or value is no text once it is decoded. -/
inductive Faulty : List Char → Prop where
  | uncut {item : List Char} {c : Char} (hc : c ∈ item) (hb : isBlank c = false) (h : '=' ∉ item) : Faulty item
  | name {name value : List Char} (h : '=' ∉ name) (hr : isRealmName name = false)
    (hd : ∀ s, Percent.decodeBytes (Utf8.encodeChars (trimBlank name)) ≠ Utf8.encode s) :
    Faulty (name ++ '=' :: value)
  | value {name value : List Char} (h : '=' ∉ name) (hr : isRealmName name = false)
    (hd : ∀ s, Percent.decodeBytes (Utf8.encodeChars (unquoted value)) ≠ Utf8.encode s) :
    Faulty (name ++ '=' :: value)

/-! ## What the reader makes of them -/

theorem Padded.trimBlank_eq {core text : List Char} (h : Padded core text) : trimBlank text = trimBlank core := by
  obtain ⟨front, back, hf, hb, rfl⟩ := h
  exact trimBoth_append hf hb

/-- Padding adds no mark. -/
theorem Padded.not_mem {core text : List Char} {c : Char} (h : Padded core text) (hc : isBlank c = false)
    (hn : c ∉ core) : c ∉ text := by
  obtain ⟨front, back, hf, hb, rfl⟩ := h
  have hfront : c ∉ front := fun hm => by
    rw [hf c hm] at hc
    cases hc
  have hback : c ∉ back := fun hm => by
    rw [hb c hm] at hc
    cases hc
  simp [hfront, hn, hback]

theorem isBlank_comma : isBlank ',' = false := by decide

/-- The name of a realm holds no mark, in any letter case. -/
theorem not_mem_realmName {name : List Char} {c : Char} (h : name.map Char.toLower = ['r', 'e', 'a', 'l', 'm'])
    (hc : c.toLower ∉ ['r', 'e', 'a', 'l', 'm']) : c ∉ name := by
  intro hm
  have hl := List.mem_map_of_mem (f := Char.toLower) hm
  rw [h] at hl
  exact hc hl

theorem Padded.unquoted_eq {core text : List Char} (h : Padded core text) : unquoted text = unquoted core := by
  rw [unquoted, h.trimBlank_eq, unquoted]

/-- One item that has its `=` is the only item of its text. -/
theorem items_cut {name value : List Char} (hn : ',' ∉ name) (hv : ',' ∉ value) :
    items (name ++ '=' :: value) = [trimBlank (name ++ '=' :: value)] := by
  have hc : ',' ∉ name ++ '=' :: value := by simp [hn, hv]
  rw [items_of_no_comma hc, if_neg]
  rw [trimBlank, trimBoth_append_mark isBlank_equals]
  simp

/-- However an item is spelled, it is one item and gives its parameter. -/
theorem readItems_spelledItem {p : Option (String × String)} {text : List Char} (h : SpelledItem p text) :
    readItems [] (items text) = .ok p.toList := by
  cases h with
  | blank h =>
    have hc : ',' ∉ text := h.not_mem isBlank_comma (by simp)
    rw [items_of_no_comma hc, if_pos (by rw [h.trimBlank_eq]; rfl)]
    rfl
  | @realm name left text hname hleft htext =>
    have hcut : '=' ∉ left := hleft.not_mem isBlank_equals (not_mem_realmName hname (by decide))
    have hcomma : ',' ∉ left := hleft.not_mem isBlank_comma (not_mem_realmName hname (by decide))
    have hblank : trimBlank name = name := trimBoth_of_forall fun c hc => by
      refine not_blank_of_toLower ['r', 'e', 'a', 'l', 'm'] (by decide) ?_
      rw [← hname]
      exact List.mem_map_of_mem hc
    have hr : isRealmName left = true := by
      rw [isRealmName, hleft.trimBlank_eq, hblank, hname]
      rfl
    rw [items_cut hcomma htext, readItems, readItem_trimBlank hcut, readItem_cut hcut, if_pos hr]
    rfl
  | @parameter key value name spelled quoted left right hname hrealm hvalue hquoted hleft hright =>
    have hcut : '=' ∉ left := hleft.not_mem isBlank_equals (not_mem_spelled hname (by decide))
    have hcomma : ',' ∉ left := hleft.not_mem isBlank_comma (not_mem_spelled hname (by decide))
    have hcomma' : ',' ∉ right := by
      refine hright.not_mem isBlank_comma ?_
      have hs := not_mem_spelled hvalue (c := ',') (by decide)
      rcases hquoted with rfl | rfl
      · exact hs
      · simp [hs]
    have htrim : trimBlank left = name := by rw [hleft.trimBlank_eq, trimBlank_spelled hname]
    have hunquoted : unquoted right = spelled := by rw [hright.unquoted_eq, unquoted_spelled hvalue hquoted]
    have hr : isRealmName left = false := by
      rw [isRealmName, htrim, beq_eq_false_iff_ne]
      exact hrealm
    have hitem : readItem (left ++ '=' :: right) = .ok (some (key, value)) :=
      readItem_spelled (htrim ▸ hname) (hunquoted ▸ hvalue) hcut hr
    rw [items_cut hcomma hcomma', readItems, readItem_trimBlank hcut, hitem]
    rfl

/-- A list gives the parameters of its items, in their order. -/
theorem readItems_spelled {params : Parameters} {list : List Char} (h : SpelledList params list) :
    readItems [] (items list) = .ok params := by
  induction h with
  | last h => exact readItems_spelledItem h
  | cons h _ ih =>
    rw [items_append_comma, readItems_append, readItems_spelledItem h, ih]
    rfl

theorem decode_eq_error {cs : List Char}
    (h : ∀ s, Percent.decodeBytes (Utf8.encodeChars cs) ≠ Utf8.encode s) : ∃ e, decode cs = .error e := by
  cases hd : Percent.decode? cs with
  | error e => exact ⟨.malformed e.message, by rw [decode, hd]⟩
  | ok s => exact absurd (Utf8.decode?_eq_ok_iff.mp hd) (h s)

/-- A faulty item is refused, in whatever blanks it stands. -/
theorem readItem_faulty {item : List Char} (h : Faulty item) : ∃ e, readItem (trimBlank item) = .error e := by
  cases h with
  | uncut hc hb h =>
    have hs : (trimBlank item).Sublist item := by
      rw [trimBlank, trimBoth, dropRight]
      exact (List.reverse_sublist.mpr (List.dropWhile_sublist _)).trans
        (by rw [List.reverse_reverse]; exact List.dropWhile_sublist _)
    exact ⟨_, readItem_uncut fun hm => h (hs.mem hm)⟩
  | name h hr hd =>
    obtain ⟨e, he⟩ := decode_eq_error hd
    rw [readItem_trimBlank h, readItem_cut h, hr, he]
    exact ⟨e, rfl⟩
  | @value name value h hr hd =>
    obtain ⟨e, he⟩ := decode_eq_error hd
    rw [readItem_trimBlank h, readItem_cut h, hr, he]
    cases decode (trimBlank name) with
    | error e' => exact ⟨e', rfl⟩
    | ok key => exact ⟨e, rfl⟩

theorem trimBlank_faulty {item : List Char} (h : Faulty item) : trimBlank item ≠ [] := by
  have hmark : ∀ {a b : List Char} {m : Char}, isBlank m = false → trimBlank (a ++ m :: b) ≠ [] := fun hm => by
    rw [trimBlank, trimBoth_append_mark hm]
    simp
  cases h with
  | uncut hc hb h =>
    obtain ⟨a, b, rfl⟩ := List.append_of_mem hc
    exact hmark hb
  | name h hr hd => exact hmark isBlank_equals
  | value h hr hd => exact hmark isBlank_equals

/-- A list with a faulty item is refused, whatever its other items are. -/
theorem readItems_faulty {list item : List Char} (hm : item ∈ splitOn (· == ',') list) (h : Faulty item) :
    ∃ reason, readItems [] (items list) = .error (.malformed reason) := by
  obtain ⟨e, he⟩ := readItem_faulty h
  refine readItems_malformed ?_ he
  rw [items, List.mem_filter]
  exact ⟨List.mem_map_of_mem hm, by simpa using trimBlank_faulty h⟩

end Authorization

namespace OAuthRequest

open Authorization

/-- However a client spells its parameters, they arrive in their order and in front of all others. A faulty item
refuses the request, wherever it stands and whatever else was sent. -/
theorem header_spellings {lead word : List Char} (hlead : ∀ c ∈ lead, isBlank c = true)
    (hword : word.map Char.toLower = ['o', 'a', 'u', 't', 'h']) (httpMethod : String) (u : Url)
    (body : Option String) :
    (∀ params list, SpelledList params list →
      ofParts httpMethod u (some (String.ofList (lead ++ (word ++ ' ' :: list)))) body =
        .ok ⟨httpMethod.toUpper, u, params ++ u.parameters ++ Form.readText (body.getD "")⟩) ∧
    ∀ list item, item ∈ splitOn (· == ',') list → Faulty item →
      ∃ reason, ofParts httpMethod u (some (String.ofList (lead ++ (word ++ ' ' :: list)))) body =
        .error (.malformed reason) := by
  have hread : ∀ list : List Char, parameters (String.ofList (lead ++ (word ++ ' ' :: list))) =
      readItems [] (items list) := parameters_padded hlead hword
  refine ⟨fun params list h => ?_, fun list item hm h => ?_⟩
  · simp only [ofParts, hread, readItems_spelled h]
    rfl
  · obtain ⟨reason, hr⟩ := readItems_faulty hm h
    refine ⟨reason, ?_⟩
    simp only [ofParts, hread, hr]
    rfl

/-- Small digits, needless blanks, quotes in one item only, an empty item, a realm with marks in it and an item
without name and value; and a byte that is no text. -/
theorem header_spellings_of_clients :
    let lead := [' ', '\t']
    let word := ['o', 'A', 'u', 'T', 'H']
    let u : Url := ⟨"http", some ⟨"", none, .name "localhost", some 5121⟩, .segments ["a"], some "q=1", none⟩
    (∀ c ∈ lead, isBlank c = true) ∧ word.map Char.toLower = ['o', 'a', 'u', 't', 'h'] ∧
      ofParts "post" u (some " \toAuTH  %c3%A9%3d = \"b%25\" , ,Realm = x=y;\"z , =") (some "z=2") =
        .ok ⟨"POST", u, [("é=", "b%"), ("", ""), ("q", "1"), ("z", "2")]⟩ ∧
      ∃ reason, ofParts "post" u (some " \toAuTH a=1, realm=x, b=%e9") (some "z=2") =
        .error (.malformed reason) := by
  intro lead word u
  have hlead : ∀ c ∈ lead, isBlank c = true := by simp [lead, isBlank]
  have hword : word.map Char.toLower = ['o', 'a', 'u', 't', 'h'] := by decide
  have hpadded : ∀ core, Padded core (' ' :: (core ++ [' '])) := fun core =>
    ⟨[' '], [' '], by simp [isBlank], by simp [isBlank], rfl⟩
  have hafter : ∀ core, Padded core (core ++ [' ']) := fun core => ⟨[], [' '], by simp, by simp [isBlank], rfl⟩
  have hbefore : ∀ core, Padded core (' ' :: core) := fun core => ⟨[' '], [], by simp [isBlank], by simp, by simp⟩
  have hbare : ∀ core, Padded core core := fun core => ⟨[], [], by simp, by simp, by simp⟩
  have hname : Percent.Spells (Utf8.encode "é=") "%c3%A9%3d".toList :=
    .cons (b := 0xC3) (.escaped (.inr rfl) (.inl rfl)) (.cons (b := 0xA9) (.escaped (.inl rfl) (.inl rfl))
      (.cons (b := 0x3D) (.escaped (.inl rfl) (.inr rfl)) .nil))
  have hvalue : Percent.Spells (Utf8.encode "b%") "b%25".toList :=
    .cons (b := 0x62) (.plain rfl) (.cons (b := 0x25) (.escaped (.inl rfl) (.inl rfl)) .nil)
  have hfirst := SpelledItem.parameter hname (by decide) hvalue (.inr rfl) (hpadded _) (hpadded _)
  have hmarks : ',' ∉ " x=y;\"z ".toList := by decide
  have hrealm := SpelledItem.realm (by decide) (hafter "Realm".toList) hmarks
  have hno : Percent.Spells (Utf8.encode "") [] := .nil
  have hempty := SpelledItem.parameter hno (by decide) hno (.inl rfl) (hbefore _) (hbare _)
  have hlist := SpelledList.cons hfirst (.cons (.blank (hbefore [])) (.cons hrealm (.last hempty)))
  have hfaulty : Faulty " b=%e9".toList := by
    have hname : '=' ∉ " b".toList := by decide
    have hd : ∀ s, Percent.decodeBytes (Utf8.encodeChars (unquoted "%e9".toList)) ≠ Utf8.encode s := fun s hs => by
      have hread := Utf8.decode?_eq_ok_iff.mpr hs
      have he : Utf8.decode? (Percent.decodeBytes (Utf8.encodeChars (unquoted "%e9".toList))) =
          .error (.incomplete 0) := by decide +kernel
      rw [he] at hread
      cases hread
    exact .value hname (by decide) hd
  obtain ⟨hgood, hbad⟩ := header_spellings hlead hword "post" u (some "z=2")
  refine ⟨hlead, hword, ?_, hbad "a=1, realm=x, b=%e9".toList _ (by decide) hfaulty⟩
  have hsent : ofParts "post" u (some " \toAuTH  %c3%A9%3d = \"b%25\" , ,Realm = x=y;\"z , =") (some "z=2") = _ :=
    hgood _ _ hlist
  rw [hsent]
  decide +kernel

end OAuthRequest
end LoginRehearsal
