import LoginRehearsal.Proofs.Text.Percent
import LoginRehearsal.Proofs.Text.Split
import LoginRehearsal.Text.Form

/-!
# Forms there and back

A space is written as `+`, and a `+` as an escape; so the reader may turn every `+` into a space before it
looks at the escapes. Neither `&` nor `=` is ever written as itself.

* `decode_encode`: a name or a value is read as it was written.
* `decode_strict`: so it is in the strict code of signatures, too.
* `readText_render`: a form is read as the fields that it was written from, in their order.
* `decode_eq_self_iff`: which texts are read as they stand.
* `readText_eq_singleton_iff`: so which values may be written without the code.
-/
namespace LoginRehearsal
namespace Form

/-! ## One byte -/

/-- What the reader makes of a byte before it looks at the escapes. -/
def unplus (b : UInt8) : UInt8 := if b = 0x2B then 0x20 else b

theorem decode_eq (bs : Bytes) :
    decode bs = Utf8.decodeLossy (Percent.decodeBytes (bs.map unplus)) := rfl

/-- A byte that stands for itself is ASCII and none of `%`, `+`, `&` and `=`. -/
theorem isPlain_bounds {b : UInt8} (h : isPlain b = true) :
    b.toNat < 0x80 ∧ b ≠ 0x25 ∧ b ≠ 0x2B ∧ b ≠ 0x26 ∧ b ≠ 0x3D := by
  simp only [isPlain, Bool.or_eq_true, beq_iff_eq] at h
  rcases h with (((h | rfl) | rfl) | rfl) | rfl
  · have hn : b.toNat < 0x80 ∧ b.toNat ≠ 0x25 ∧ b.toNat ≠ 0x2B ∧ b.toNat ≠ 0x26 ∧ b.toNat ≠ 0x3D := by
      simp only [Percent.isAlphanumeric, Bool.or_eq_true, Bool.and_eq_true, decide_eq_true_eq] at h
      omega
    refine ⟨hn.1, ?_, ?_, ?_, ?_⟩ <;> rintro rfl <;> simp at hn
  all_goals decide

theorem hexDigit_bounds : ∀ n, n < 16 →
    let b := UInt8.ofNat (Percent.hexDigit n).toNat
    unplus b = b ∧ b ≠ 0x26 ∧ b ≠ 0x3D := by decide

/-- The bytes that a byte of a name or a value is written as. -/
theorem encodeChars_encodeByte (b : UInt8) :
    Utf8.encodeChars (encodeByte b) =
      if isPlain b then [b] else if b = 0x20 then [0x2B] else Utf8.encodeChars (Percent.escapeByte b) := by
  unfold encodeByte
  split
  · next h =>
    rw [← Percent.encodeChar_ofByte (isPlain_bounds h).1]
    simp [Utf8.encodeChars]
  · split <;> rfl

/-- No separator is written as itself. -/
theorem no_separator_encodeByte (b : UInt8) :
    ∀ y ∈ Utf8.encodeChars (encodeByte b), y ≠ 0x26 ∧ y ≠ 0x3D := by
  intro y hy
  rw [encodeChars_encodeByte] at hy
  split at hy
  · next h =>
    obtain ⟨-, -, -, hamp, heq⟩ := isPlain_bounds h
    rw [List.mem_singleton] at hy
    exact hy ▸ ⟨hamp, heq⟩
  · split at hy
    · rw [List.mem_singleton] at hy
      exact hy ▸ by decide
    · obtain ⟨hhi, hlo⟩ := Percent.digits_lt b
      rw [Percent.encodeChars_escapeByte] at hy
      simp only [List.mem_cons, List.not_mem_nil, or_false] at hy
      rcases hy with rfl | rfl | rfl
      · decide
      · exact (hexDigit_bounds _ hhi).2
      · exact (hexDigit_bounds _ hlo).2

/-- One byte is read as it was written, with whatever follows it. -/
theorem decodeBytes_encodeByte (b : UInt8) (rest : Bytes) :
    Percent.decodeBytes ((Utf8.encodeChars (encodeByte b)).map unplus ++ rest) =
      b :: Percent.decodeBytes rest := by
  rw [encodeChars_encodeByte]
  split
  · next h =>
    obtain ⟨-, hpct, hplus, -, -⟩ := isPlain_bounds h
    simp only [List.map_cons, List.map_nil, unplus, if_neg hplus, List.cons_append, List.nil_append]
    exact Percent.decodeBytes_cons hpct rest
  · split
    · next h =>
      subst h
      exact Percent.decodeBytes_cons (by decide) rest
    · obtain ⟨hhi, hlo⟩ := Percent.digits_lt b
      have hu : (Utf8.encodeChars (Percent.escapeByte b)).map unplus =
          Utf8.encodeChars (Percent.escapeByte b) := by
        rw [Percent.encodeChars_escapeByte]
        simp only [List.map_cons, List.map_nil, (hexDigit_bounds _ hhi).1, (hexDigit_bounds _ hlo).1]
        rfl
      rw [hu, Percent.decodeBytes_escapeByte]

/-! ## Names and values -/

theorem decodeBytes_encode (bs : Bytes) :
    Percent.decodeBytes ((Utf8.encodeChars (bs.flatMap encodeByte)).map unplus) = bs := by
  induction bs with
  | nil => rfl
  | cons b bs ih =>
    rw [List.flatMap_cons, Utf8.encodeChars_append, List.map_append, decodeBytes_encodeByte, ih]

theorem decode_encode (s : String) : decode (Utf8.encodeChars (encode s)) = s := by
  rw [decode_eq, encode, decodeBytes_encode, Utf8.decodeLossy_encode]

theorem no_separator_encode (s : String) :
    ∀ y ∈ Utf8.encodeChars (encode s), y ≠ 0x26 ∧ y ≠ 0x3D := by
  intro y hy
  rw [encode, Utf8.encodeChars, List.flatMap_assoc, List.mem_flatMap] at hy
  obtain ⟨b, -, hb⟩ := hy
  exact no_separator_encodeByte b y hb

/-- The characters of a name or a value as it is written. -/
theorem mem_encode {s : String} {c : Char} (h : c ∈ encode s) : Percent.isCodeChar c = true ∨ c = '+' ∨ c = '*' := by
  rw [encode, List.mem_flatMap] at h
  obtain ⟨b, -, hc⟩ := h
  unfold encodeByte at hc
  split at hc
  · next hplain =>
    rw [List.mem_singleton] at hc
    by_cases hstar : b = 0x2A
    · subst hstar
      exact .inr (.inr hc)
    · have hfree : Percent.isUnreserved b = true := by
        simp only [isPlain, beq_eq_false_iff_ne.mpr hstar, Bool.or_false] at hplain
        simp only [Percent.isUnreserved, hplain, Bool.true_or]
      exact .inl (hc ▸ Percent.isCodeChar_ofByte hfree)
  · split at hc
    · exact .inr (.inl (List.mem_singleton.mp hc))
    · obtain ⟨hhi, hlo⟩ := Percent.digits_lt b
      simp only [Percent.escapeByte, List.mem_cons, List.not_mem_nil, or_false] at hc
      left
      rcases hc with rfl | rfl | rfl
      · rfl
      · exact Percent.isCodeChar_hexDigit _ hhi
      · exact Percent.isCodeChar_hexDigit _ hlo

/-! ## Fields -/

theorem encodeChars_renderField (f : String × String) :
    Utf8.encodeChars (renderField f) =
      Utf8.encodeChars (encode f.1) ++ 0x3D :: Utf8.encodeChars (encode f.2) := by
  rw [renderField, Utf8.encodeChars_append]
  rfl

/-- The first `=` stands between name and value. -/
theorem readField_append {name : Bytes} (h : 0x3D ∉ name) (value : Bytes) :
    readField (name ++ 0x3D :: value) = some (decode name, decode value) := by
  have hs : splitFirst? (· == 0x3D) (name ++ 0x3D :: value) = some (name, value) :=
    splitFirst?_append_of_not_mem h
  have hne : (name ++ 0x3D :: value).isEmpty = false := by simp
  rw [readField, hne, hs]
  simp only [Bool.false_eq_true, if_false]

/-- A name and a value with `=` between them are one field, escaped or not. -/
theorem readText_field {name value : List Char} (hname : '&' ∉ name ∧ '=' ∉ name) (hvalue : '&' ∉ value) :
    readText (String.ofList (name ++ '=' :: value)) =
      [(decode (Utf8.encodeChars name), decode (Utf8.encodeChars value))] := by
  have hbytes : Utf8.encode (String.ofList (name ++ '=' :: value)) =
      Utf8.encodeChars name ++ 0x3D :: Utf8.encodeChars value := by
    rw [Utf8.encode, String.toList_ofList, Utf8.encodeChars_append]
    rfl
  have hpiece : (0x26 : UInt8) ∉ Utf8.encodeChars name ++ 0x3D :: Utf8.encodeChars value := by
    rw [List.mem_append, List.mem_cons, not_or, not_or]
    exact ⟨Utf8.not_mem_encodeChars (c := '&') (by decide) hname.1, by decide,
      Utf8.not_mem_encodeChars (c := '&') (by decide) hvalue⟩
  rw [readText, hbytes, read, splitOn_of_not_mem hpiece, List.filterMap_cons,
    readField_append (Utf8.not_mem_encodeChars (c := '=') (by decide) hname.2)]
  rfl

theorem readField_renderField (f : String × String) :
    readField (Utf8.encodeChars (renderField f)) = some f := by
  rw [encodeChars_renderField, readField_append fun hm => (no_separator_encode f.1 _ hm).2 rfl, decode_encode,
    decode_encode]

theorem no_ampersand_renderField (f : String × String) :
    ∀ y ∈ Utf8.encodeChars (renderField f), (y == 0x26) = false := by
  intro y hy
  rw [encodeChars_renderField, List.mem_append, List.mem_cons] at hy
  rcases hy with hy | rfl | hy
  · exact beq_false_of_ne (no_separator_encode f.1 y hy).1
  · rfl
  · exact beq_false_of_ne (no_separator_encode f.2 y hy).1

theorem encodeChars_joinWith (parts : List (List Char)) :
    Utf8.encodeChars (joinWith '&' parts) = [0x26].intercalate (parts.map Utf8.encodeChars) := by
  rw [joinWith_eq_intercalate]
  induction parts with
  | nil => rfl
  | cons part parts ih =>
    cases parts with
    | nil => simp
    | cons next parts =>
      rw [List.intercalate_cons_cons, Utf8.encodeChars_append, Utf8.encodeChars_append, ih]
      simp only [List.map_cons, List.intercalate_cons_cons]
      rfl

/-- The pieces of a form that is not empty are its fields. -/
theorem splitOn_fields (f : String × String) (fields : List (String × String)) :
    splitOn (· == 0x26) (Utf8.encodeChars (joinWith '&' ((f :: fields).map renderField))) =
      (f :: fields).map fun g => Utf8.encodeChars (renderField g) := by
  rw [encodeChars_joinWith, List.map_map, List.map_cons,
    splitOn_intercalate (t := []) rfl (by simp)]
  · simp [Function.comp_def]
  · intro q hq
    rw [← List.map_cons (f := Utf8.encodeChars ∘ renderField), List.mem_map] at hq
    obtain ⟨g, -, rfl⟩ := hq
    rw [Function.comp_apply]
    exact no_ampersand_renderField g

/-- Two forms with an `&` between them are one form. -/
theorem render_append {fields others : List (String × String)} (hf : fields ≠ []) (ho : others ≠ []) :
    render fields ++ "&" ++ render others = render (fields ++ others) := by
  rw [← String.toList_inj, String.toList_append, String.toList_append]
  simp only [render, String.toList_ofList]
  rw [List.map_append, joinWith_append '&' (by simpa using hf) (by simpa using ho), List.append_assoc]
  rfl

/-- What is no character of a code and none of the marks of the format is in no form. -/
theorem not_mem_render {c : Char} (hcode : Percent.isCodeChar c = false) (hmark : c ∉ ['+', '*', '=', '&'])
    (fields : List (String × String)) : c ∉ (render fields).toList := by
  simp only [List.mem_cons, List.not_mem_nil, or_false, not_or] at hmark
  have hpart : ∀ s, c ∉ encode s := fun s hc => by
    rcases mem_encode hc with h | h | h
    · rw [hcode] at h
      cases h
    · exact hmark.1 h
    · exact hmark.2.1 h
  have hfield : ∀ f, c ∉ renderField f := fun f => by
    rw [renderField, List.mem_append, List.mem_cons, not_or, not_or]
    exact ⟨hpart f.1, hmark.2.2.1, hpart f.2⟩
  rw [render, String.toList_ofList]
  cases fields with
  | nil => exact List.not_mem_nil
  | cons f fields =>
    rw [List.map_cons, joinWith, List.mem_append, List.mem_flatMap, not_or]
    refine ⟨hfield f, ?_⟩
    rintro ⟨part, hp, hc⟩
    obtain ⟨g, -, rfl⟩ := List.mem_map.mp hp
    rcases List.mem_cons.mp hc with hc | hc
    · exact hmark.2.2.2 hc
    · exact hfield g hc

/-- A form is read as the fields that it was written from. -/
theorem readText_render (fields : List (String × String)) : readText (render fields) = fields := by
  rw [readText, Utf8.encode, render, String.toList_ofList, read]
  cases fields with
  | nil => rfl
  | cons f fields =>
    have hf : (readField ∘ fun g => Utf8.encodeChars (renderField g)) = some := by
      funext g
      rw [Function.comp_apply, readField_renderField]
    rw [splitOn_fields, List.filterMap_map, hf, List.filterMap_some]

/-! ## The strict code -/

theorem decode_strict (s : String) : decode (Utf8.encode (Percent.encode s)) = s := by
  have hplus : (Utf8.encode (Percent.encode s)).map unplus = Utf8.encode (Percent.encode s) := by
    refine (List.map_congr_left fun y hy => if_neg ?_).trans (List.map_id _)
    rintro rfl
    exact Utf8.not_mem_encodeChars (c := '+') (by decide) (Percent.not_mem_encode rfl s) hy
  have hbytes := Percent.decodeBytes_of_spells (Percent.spells_encode s)
  rw [decode_eq, hplus]
  exact (congrArg Utf8.decodeLossy hbytes).trans (Utf8.decodeLossy_encode s)

/-- One field with its name and its value in the strict code. -/
def strictField (f : String × String) : String := Percent.encode f.1 ++ "=" ++ Percent.encode f.2

theorem readText_strictField (f : String × String) : readText (strictField f) = [f] := by
  have htext : strictField f = String.ofList ((Percent.encode f.1).toList ++ '=' :: (Percent.encode f.2).toList) := by
    rw [← String.toList_inj]
    simp [strictField]
  have hmark : ∀ {c : Char}, Percent.isCodeChar c = false → ∀ s, c ∉ (Percent.encode s).toList := Percent.not_mem_encode
  rw [htext, readText_field ⟨hmark rfl f.1, hmark rfl f.1⟩ (hmark rfl f.2)]
  exact congrArg (fun g => [g]) (Prod.ext (decode_strict f.1) (decode_strict f.2))

/-- An `&` ends a field, whatever stands on its two sides. -/
theorem readText_append (s t : String) : readText (s ++ "&" ++ t) = readText s ++ readText t := by
  have hbytes : Utf8.encode (s ++ "&" ++ t) = Utf8.encode s ++ 0x26 :: Utf8.encode t := by
    rw [Utf8.encode_append, Utf8.encode_append, List.append_assoc, show Utf8.encode "&" = [0x26] from rfl,
      List.singleton_append]
  rw [readText, hbytes, read, splitOn_append_cons _ _ rfl, List.filterMap_append]
  rfl

/-! ## Texts that are read as they stand -/

/-- The character that the reader takes a character for, escapes apart. -/
def spaced (c : Char) : Char := if c = '+' then ' ' else c

theorem map_unplus_encodeChars (cs : List Char) :
    (Utf8.encodeChars cs).map unplus = Utf8.encodeChars (cs.map spaced) := by
  induction cs with
  | nil => rfl
  | cons c cs ih =>
    have hchar : (Utf8.encodeChar c).map unplus = Utf8.encodeChar (spaced c) := by
      by_cases hc : c = '+'
      · subst hc
        rfl
      · rw [spaced, if_neg hc]
        refine (List.map_congr_left fun b hb => if_neg ?_).trans (List.map_id _)
        rintro rfl
        exact hc (Utf8.eq_of_mem_encodeChar hb (by decide)).symm
    rw [Utf8.encodeChars_cons, List.map_append, hchar, ih, List.map_cons, Utf8.encodeChars_cons]

theorem decode_encodeChars (cs : List Char) :
    decode (Utf8.encodeChars cs) = Utf8.decodeLossy (Percent.decodeBytes (Utf8.encodeChars (cs.map spaced))) := by
  rw [decode_eq, map_unplus_encodeChars]

theorem length_decode_le (cs : List Char) :
    (decode (Utf8.encodeChars cs)).toList.length + (Percent.hasEscape (cs.map spaced)).toNat ≤ cs.length := by
  have h := Percent.length_scan_decodeBytes (cs.map spaced)
  rw [List.length_map] at h
  rw [decode_encodeChars, Utf8.decodeLossy, String.toList_ofList, List.length_map]
  exact h

/-- Whether a name or a value is read as it stands: it has no plus sign and no escape. -/
def StandsForItself (cs : List Char) : Prop := '+' ∉ cs ∧ Percent.hasEscape cs = false

instance (cs : List Char) : Decidable (StandsForItself cs) := inferInstanceAs (Decidable (_ ∧ _))

theorem map_spaced_eq_self {cs : List Char} : cs.map spaced = cs ↔ '+' ∉ cs := by
  constructor
  · intro h hplus
    rw [← h, List.mem_map] at hplus
    obtain ⟨c, -, hc⟩ := hplus
    unfold spaced at hc
    split at hc
    · cases hc
    · next hne => exact hne hc
  · intro h
    exact (List.map_congr_left fun c hc => if_neg fun heq : c = '+' => h (heq ▸ hc)).trans (List.map_id _)

/-- Nothing else is read as it stands, since whatever an escape stands for is shorter. -/
theorem decode_eq_self_iff {cs : List Char} : decode (Utf8.encodeChars cs) = String.ofList cs ↔ StandsForItself cs := by
  have hread : Percent.hasEscape (cs.map spaced) = false →
      decode (Utf8.encodeChars cs) = String.ofList (cs.map spaced) := fun hno => by
    have htext := Utf8.decodeLossy_encode (String.ofList (cs.map spaced))
    rw [Utf8.encode, String.toList_ofList] at htext
    rw [decode_encodeChars, Percent.decodeBytes_of_not_hasEscape hno, htext]
  constructor
  · intro h
    have hlength := length_decode_le cs
    rw [h, String.toList_ofList] at hlength
    have hno : Percent.hasEscape (cs.map spaced) = false := Bool.toNat_eq_zero.mp (by omega)
    rw [hread hno] at h
    have hmap : cs.map spaced = cs := String.ofList_injective h
    exact ⟨map_spaced_eq_self.mp hmap, hmap ▸ hno⟩
  · rintro ⟨hplus, hno⟩
    have hmap := map_spaced_eq_self.mpr hplus
    rw [hread (hmap.symm ▸ hno), hmap]

/-! ## Fields written by hand -/

/-- The front of a text, written behind a name, is read as the whole text only if it is that text, and only if
nothing in it means anything to the reader. -/
theorem readText_eq_singleton_iff {name value front : List Char} (hname : '&' ∉ name ∧ '=' ∉ name)
    (hread : StandsForItself name) (hfront : front <+: value) :
    readText (String.ofList (name ++ '=' :: front)) = [(String.ofList name, String.ofList value)] ↔
      front = value ∧ '&' ∉ value ∧ StandsForItself value := by
  have hsame : decode (Utf8.encodeChars name) = String.ofList name := decode_eq_self_iff.mpr hread
  constructor
  · intro h
    -- whatever stands in front of the first `&` is read alone, and what is read is no longer than what was written
    have hwhole : ∀ {piece : List Char}, piece <+: front →
        decode (Utf8.encodeChars piece) = String.ofList value → piece = value := fun {piece} hp hd => by
      have hlength := length_decode_le piece
      rw [hd, String.toList_ofList] at hlength
      exact (hp.trans hfront).eq_of_length_le (by omega)
    by_cases hamp : '&' ∈ front
    · obtain ⟨piece, rest, rfl, hpiece⟩ := List.eq_append_cons_of_mem hamp
      have htext : String.ofList (name ++ '=' :: (piece ++ '&' :: rest)) =
          String.ofList (name ++ '=' :: piece) ++ "&" ++ String.ofList rest := by
        rw [← String.toList_inj]
        simp
      rw [htext, readText_append, readText_field hname hpiece, hsame, List.singleton_append, List.cons.injEq,
        Prod.mk.injEq] at h
      have hp := hwhole (List.prefix_append _ _) h.1.2
      have hle := hfront.length_le
      rw [← hp, List.length_append, List.length_cons] at hle
      omega
    · rw [readText_field hname hamp, hsame, List.cons.injEq, Prod.mk.injEq] at h
      have hp := hwhole List.prefix_rfl h.1.2
      subst hp
      exact ⟨rfl, hamp, decode_eq_self_iff.mp h.1.2⟩
  · rintro ⟨rfl, hamp, hself⟩
    rw [readText_field hname hamp, hsame, decode_eq_self_iff.mpr hself]

end Form
end LoginRehearsal
