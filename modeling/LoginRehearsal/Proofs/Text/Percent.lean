import LoginRehearsal.Proofs.Text.Utf8
import LoginRehearsal.Text.Percent
import Mathlib.Data.List.Basic

/-!
# Percent-coding there and back

Every byte is written either as the character that it is or as an escape, and the decoder tells the two
apart by the `%`, which never stands for itself. So a text is read from whatever spelling, with escapes that
need not be and digits of either case, and the strict code of signatures, one of the spellings, is one to one.

* `decodeBytes_spelled`, `decodeBytes_of_spells`, `decode?_spelled`: the decoder undoes every spelling.
* `Spells.isCodeChar_of_mem`: which characters a spelling is made of. None of the marks that separate
  names, values and items is among them.
* `decode?_encodeBytes`, `decode?_encode`, `encode_injective`: the strict code.
* `encode_of_unreserved`: a text of unreserved characters is its own code.
* `encode_eq_self`: where there is no escape, a code is the text that it stands for.
* `decodeBytes_of_not_hasEscape`, `length_scan_decodeBytes`: any text without escapes is read as it stands, and one
  with an escape comes out shorter.
-/
namespace LoginRehearsal
namespace Percent

/-! ## Digits -/

theorem hexDigit_ascii : ∀ n, n < 16 → (hexDigit n).toNat < 0x80 := by decide

theorem hexValue_hexDigit : ∀ n, n < 16 → hexValue (UInt8.ofNat (hexDigit n).toNat) = some n := by
  decide

theorem digits_lt (b : UInt8) : b.toNat / 16 < 16 ∧ b.toNat % 16 < 16 := by
  have := b.toNat_lt
  omega

/-! ## Single bytes -/

theorem encodeChars_escapeByte (b : UInt8) :
    Utf8.encodeChars (escapeByte b) =
      [0x25, UInt8.ofNat (hexDigit (b.toNat / 16)).toNat, UInt8.ofNat (hexDigit (b.toNat % 16)).toNat] := by
  obtain ⟨hhi, hlo⟩ := digits_lt b
  rw [Utf8.encodeChars_ascii]
  · rfl
  · intro c hc
    simp only [escapeByte, List.mem_cons, List.not_mem_nil, or_false] at hc
    rcases hc with rfl | rfl | rfl
    · decide
    · exact hexDigit_ascii _ hhi
    · exact hexDigit_ascii _ hlo

/-- The UTF-8 form of a byte that stands for itself is that byte. -/
theorem encodeChar_ofByte {b : UInt8} (h : b.toNat < 0x80) :
    Utf8.encodeChar (Char.ofNat b.toNat) = [b] := by
  have hc : (Char.ofNat b.toNat).toNat = b.toNat := Utf8.toNat_ofNat_ascii h
  rw [Utf8.encodeChar_ascii (by omega), hc, UInt8.ofNat_toNat]

/-- What a class of bytes has to be for them to stand for themselves. -/
def Plain (keep : UInt8 → Bool) : Prop := ∀ b, keep b = true → b.toNat < 0x80 ∧ b ≠ 0x25

theorem isAlphanumeric_bounds {b : UInt8} (h : isAlphanumeric b = true) :
    b.toNat < 0x80 ∧ 0x30 ≤ b.toNat := by
  simp only [isAlphanumeric, Bool.or_eq_true, Bool.and_eq_true, decide_eq_true_eq] at h
  omega

theorem plain_isUnreserved : Plain isUnreserved := by
  intro b h
  simp only [isUnreserved, Bool.or_eq_true, beq_iff_eq] at h
  rcases h with (((h | rfl) | rfl) | rfl) | rfl
  · obtain ⟨hlt, hge⟩ := isAlphanumeric_bounds h
    refine ⟨hlt, ?_⟩
    rintro rfl
    exact absurd hge (by decide)
  all_goals decide

/-! ## Characters of a code -/

/-- The unreserved characters and `%`. -/
def isCodeChar (c : Char) : Bool := c == '%' || isUnreserved (UInt8.ofNat c.toNat) && c.toNat < 0x80

theorem lt_of_isCodeChar {c : Char} (h : isCodeChar c = true) : c.toNat < 0x80 := by
  simp only [isCodeChar, Bool.or_eq_true, beq_iff_eq, Bool.and_eq_true, decide_eq_true_eq] at h
  rcases h with rfl | ⟨-, h⟩
  · decide
  · exact h

/-- The code is visible text. -/
theorem visible_of_isCodeChar {c : Char} (h : isCodeChar c = true) : 0x20 ≤ c.toNat ∧ c.toNat < 0x7F := by
  have hlt := lt_of_isCodeChar h
  have hbyte : (UInt8.ofNat c.toNat).toNat = c.toNat := UInt8.toNat_ofNat_of_lt' (Nat.lt_trans hlt (by decide))
  simp only [isCodeChar, isUnreserved, isAlphanumeric, Bool.or_eq_true, beq_iff_eq, Bool.and_eq_true,
    decide_eq_true_eq, ← UInt8.toNat_inj, hbyte] at h
  rcases h with rfl | ⟨((((h | h) | h) | h) | h), -⟩
  · decide
  · omega
  all_goals
    rw [h]
    decide

theorem isCodeChar_hexDigit : ∀ n, n < 16 → isCodeChar (hexDigit n) = true := by decide

/-- A byte that may stand for itself has a character of the code. -/
theorem isCodeChar_ofByte {b : UInt8} (h : isUnreserved b = true) : isCodeChar (Char.ofNat b.toNat) = true := by
  obtain ⟨hlt, -⟩ := plain_isUnreserved b h
  have hn : (Char.ofNat b.toNat).toNat = b.toNat := Utf8.toNat_ofNat_ascii hlt
  simp only [isCodeChar, hn, UInt8.ofNat_toNat, h, hlt, decide_true, Bool.and_true, Bool.or_true]

/-- What is not among the characters of the code stands in the text already. -/
theorem mem_of_mem_encodeChars {keep : UInt8 → Bool} (hkeep : ∀ b, keep b = true → b.toNat < 0x80) {cs : List Char}
    {c : Char} (h : c ∈ encodeChars keep cs) (hc : isCodeChar c = false) : c ∈ cs := by
  rw [encodeChars, encodeBytes, List.mem_flatMap] at h
  obtain ⟨b, hb, hm⟩ := h
  split at hm
  · next hk =>
    rw [List.mem_singleton] at hm
    exact hm ▸ Utf8.mem_of_mem_encodeChars hb (hkeep b hk)
  · obtain ⟨hhi, hlo⟩ := digits_lt b
    simp only [escapeByte, List.mem_cons, List.not_mem_nil, or_false] at hm
    rcases hm with rfl | rfl | rfl
    · cases hc
    · rw [isCodeChar_hexDigit _ hhi] at hc
      cases hc
    · rw [isCodeChar_hexDigit _ hlo] at hc
      cases hc

/-! ## Every spelling of a byte string -/

/-- Whether a character is the hexadecimal digit of a value, in either letter case. -/
def IsDigit (c : Char) (n : Nat) : Prop := c = hexDigit n ∨ c = (hexDigit n).toLower

/-- The spellings of one byte: an unreserved one may stand for itself, and any may be escaped. -/
inductive SpellsByte (b : UInt8) : List Char → Prop where
  | plain (h : isUnreserved b = true) : SpellsByte b [Char.ofNat b.toNat]
  | escaped {hi lo : Char} (hhi : IsDigit hi (b.toNat / 16)) (hlo : IsDigit lo (b.toNat % 16)) :
    SpellsByte b ['%', hi, lo]

/-- The texts that spell a byte string, each byte in some way. -/
inductive Spells : Bytes → List Char → Prop where
  | nil : Spells [] []
  | cons {b : UInt8} {bs : Bytes} {cs rest : List Char} (hb : SpellsByte b cs) (h : Spells bs rest) :
    Spells (b :: bs) (cs ++ rest)

theorem hexDigit_toLower : ∀ n, n < 16 → (hexDigit n).toLower.toNat < 0x80 ∧
    hexValue (UInt8.ofNat (hexDigit n).toLower.toNat) = some n ∧ isCodeChar (hexDigit n).toLower = true := by
  decide

namespace IsDigit

variable {c : Char} {n : Nat}

theorem hexValue_eq (h : IsDigit c n) (hn : n < 16) : hexValue (UInt8.ofNat c.toNat) = some n := by
  rcases h with rfl | rfl
  · exact hexValue_hexDigit n hn
  · exact (hexDigit_toLower n hn).2.1

theorem isCodeChar (h : IsDigit c n) (hn : n < 16) : isCodeChar c = true := by
  rcases h with rfl | rfl
  · exact isCodeChar_hexDigit n hn
  · exact (hexDigit_toLower n hn).2.2

end IsDigit

theorem SpellsByte.isCodeChar_of_mem {b : UInt8} {cs : List Char} (h : SpellsByte b cs) :
    ∀ c ∈ cs, isCodeChar c = true := by
  obtain ⟨hhi, hlo⟩ := digits_lt b
  cases h with
  | plain h =>
    intro c hc
    rw [List.mem_singleton.mp hc]
    exact isCodeChar_ofByte h
  | escaped hi lo =>
    intro c hc
    simp only [List.mem_cons, List.not_mem_nil, or_false] at hc
    rcases hc with rfl | rfl | rfl
    · rfl
    · exact hi.isCodeChar hhi
    · exact lo.isCodeChar hlo

/-- Whatever the spelling is, it holds none of the marks that stand between texts. -/
theorem Spells.isCodeChar_of_mem {bs : Bytes} {cs : List Char} (h : Spells bs cs) :
    ∀ c ∈ cs, isCodeChar c = true := by
  induction h with
  | nil => simp
  | cons hb _ ih =>
    intro c hc
    rw [List.mem_append] at hc
    rcases hc with hc | hc
    · exact hb.isCodeChar_of_mem c hc
    · exact ih c hc

theorem decodeBytes_spelledByte {b : UInt8} {cs : List Char} (h : SpellsByte b cs) (rest : Bytes) :
    decodeBytes (Utf8.encodeChars cs ++ rest) = b :: decodeBytes rest := by
  have hascii : ∀ c ∈ cs, c.toNat < 0x80 := fun c hc => lt_of_isCodeChar (h.isCodeChar_of_mem c hc)
  rw [Utf8.encodeChars_ascii hascii]
  cases h with
  | plain h =>
    obtain ⟨hlt, hne⟩ := plain_isUnreserved b h
    rw [List.map_singleton, Utf8.toNat_ofNat_ascii hlt, UInt8.ofNat_toNat, List.singleton_append,
      decodeBytes_cons hne]
  | escaped hi lo =>
    obtain ⟨hhi, hlo⟩ := digits_lt b
    have hd := decodeBytes_escape (hi.hexValue_eq hhi) (lo.hexValue_eq hlo) rest
    rw [show b.toNat / 16 * 16 + b.toNat % 16 = b.toNat by omega, UInt8.ofNat_toNat] at hd
    exact hd

/-- The decoder undoes every spelling, with whatever follows it. -/
theorem decodeBytes_spelled {bs : Bytes} {cs : List Char} (h : Spells bs cs) (rest : Bytes) :
    decodeBytes (Utf8.encodeChars cs ++ rest) = bs ++ decodeBytes rest := by
  induction h with
  | nil => rfl
  | cons hb _ ih => rw [Utf8.encodeChars_append, List.append_assoc, decodeBytes_spelledByte hb, ih, List.cons_append]

theorem decodeBytes_of_spells {bs : Bytes} {cs : List Char} (h : Spells bs cs) :
    decodeBytes (Utf8.encodeChars cs) = bs := by
  have hd := decodeBytes_spelled h []
  rwa [List.append_nil, decodeBytes_nil, List.append_nil] at hd

theorem decode?_spelled {s : String} {cs : List Char} (h : Spells (Utf8.encode s) cs) : decode? cs = .ok s := by
  rw [decode?, decodeBytes_of_spells h, Utf8.decode?_encode]

/-- An escape is read as its byte. -/
theorem decodeBytes_escapeByte (b : UInt8) (rest : Bytes) :
    decodeBytes (Utf8.encodeChars (escapeByte b) ++ rest) = b :: decodeBytes rest :=
  decodeBytes_spelledByte (.escaped (.inl rfl) (.inl rfl)) rest

/-! ## The strict code -/

theorem encodeBytes_cons (keep : UInt8 → Bool) (b : UInt8) (bs : Bytes) : encodeBytes keep (b :: bs) =
    (if keep b then [Char.ofNat b.toNat] else escapeByte b) ++ encodeBytes keep bs := List.flatMap_cons

/-- The strict code is one of the spellings. -/
theorem spells_encodeBytes (bs : Bytes) : Spells bs (encodeBytes isUnreserved bs) := by
  induction bs with
  | nil => exact .nil
  | cons b bs ih =>
    rw [encodeBytes_cons]
    refine .cons ?_ ih
    split
    · next h => exact .plain h
    · exact .escaped (.inl rfl) (.inl rfl)

theorem spells_encode (s : String) : Spells (Utf8.encode s) (encode s).toList := by
  rw [encode, String.toList_ofList]
  exact spells_encodeBytes (Utf8.encode s)

/-- Whatever the bytes are, the reader gets them back, and they need not be text. -/
theorem decode?_encodeBytes (bs : Bytes) : decode? (encodeBytes isUnreserved bs) = Utf8.decode? bs := by
  rw [decode?, decodeBytes_of_spells (spells_encodeBytes bs)]

theorem decode?_encode (s : String) : decode? (encode s).toList = .ok s := decode?_spelled (spells_encode s)

theorem encode_injective {s t : String} (h : encode s = encode t) : s = t := by
  have hs := decode?_encode s
  rw [h, decode?_encode] at hs
  exact (Except.ok.inj hs).symm

theorem encode_append (s t : String) : encode (s ++ t) = encode s ++ encode t := by
  rw [← String.toList_inj, String.toList_append]
  simp [encode, encodeChars, encodeBytes]

theorem isCodeChar_of_mem {s : String} {c : Char} (h : c ∈ (encode s).toList) : isCodeChar c = true :=
  (spells_encode s).isCodeChar_of_mem c h

theorem ascii_encode (s : String) : ∀ c ∈ (encode s).toList, c.toNat < 0x80 := fun _ hc =>
  lt_of_isCodeChar (isCodeChar_of_mem hc)

/-- A character outside the code does not stand in a coded text. -/
theorem not_mem_encode {c : Char} (h : isCodeChar c = false) (s : String) : c ∉ (encode s).toList := by
  intro hc
  rw [isCodeChar_of_mem hc] at h
  cases h

/-! ## Texts that are their own code -/

theorem decodeBytes_append {bs : Bytes} (h : 0x25 ∉ bs) (rest : Bytes) :
    decodeBytes (bs ++ rest) = bs ++ decodeBytes rest := by
  induction bs with
  | nil => rfl
  | cons b bs ih =>
    rw [List.mem_cons, not_or] at h
    rw [List.cons_append, decodeBytes_cons (Ne.symm h.1), ih h.2, List.cons_append]

theorem decodeBytes_of_no_escape {bs : Bytes} (h : 0x25 ∉ bs) : decodeBytes bs = bs := by
  have hd := decodeBytes_append h []
  rwa [List.append_nil, decodeBytes_nil, List.append_nil] at hd

/-- A code without an escape is the text itself. -/
theorem encode_eq_self {s : String} (h : '%' ∉ (encode s).toList) : encode s = s := by
  have hbytes : 0x25 ∉ Utf8.encodeChars (encode s).toList :=
    Utf8.not_mem_encodeChars (by decide : '%'.toNat < 0x80) h
  have hd := decode?_encode s
  rw [decode?, decodeBytes_of_no_escape hbytes,
    show Utf8.encodeChars (encode s).toList = Utf8.encode (encode s) from rfl, Utf8.decode?_encode] at hd
  exact Except.ok.inj hd

/-- The unreserved characters stand for themselves. -/
theorem encode_of_unreserved {s : String}
    (h : ∀ c ∈ s.toList, c.toNat < 0x80 ∧ isUnreserved (UInt8.ofNat c.toNat) = true) : encode s = s := by
  have hchar : ∀ c ∈ s.toList, (if isUnreserved (UInt8.ofNat c.toNat) then
      [Char.ofNat (UInt8.ofNat c.toNat).toNat] else escapeByte (UInt8.ofNat c.toNat)) = [c] := by
    intro c hc
    obtain ⟨hlt, hkeep⟩ := h c hc
    rw [if_pos hkeep, UInt8.toNat_ofNat_of_lt' (Nat.lt_trans hlt (by decide)), Char.ofNat_toNat]
  rw [encode, encodeChars, Utf8.encodeChars_ascii fun c hc => (h c hc).1, encodeBytes, List.flatMap_map,
    List.flatMap_congr hchar, List.flatMap_singleton', String.ofList_toList]

/-! ## Escapes in a text -/

/-- Whether a character is a hexadecimal digit, in either letter case. -/
def isHexDigit (c : Char) : Bool := c.toNat < 0x80 && (hexValue (UInt8.ofNat c.toNat)).isSome

/-- Whether a text begins with `%` and two hexadecimal digits. -/
def startsWithEscape : List Char → Bool
  | '%' :: hi :: lo :: _ => isHexDigit hi && isHexDigit lo
  | _ => false

/-- Whether `%` with two hexadecimal digits behind it stands anywhere in a text. -/
def hasEscape : List Char → Bool
  | [] => false
  | c :: cs => startsWithEscape (c :: cs) || hasEscape cs

theorem lt_of_hexValue {b : UInt8} {n : Nat} (h : hexValue b = some n) : b.toNat < 0x80 := by
  unfold hexValue at h
  dsimp only at h
  repeat' split at h
  all_goals first | omega | cases h

/-- Where the bytes of a text begin with a digit, the text does. -/
theorem eq_cons_of_hexValue {cs : List Char} {b : UInt8} {bs : Bytes} {n : Nat} (hcs : Utf8.encodeChars cs = b :: bs)
    (hb : hexValue b = some n) : ∃ c rest, cs = c :: rest ∧ isHexDigit c = true ∧ bs = Utf8.encodeChars rest := by
  cases cs with
  | nil => cases hcs
  | cons c rest =>
    rw [Utf8.encodeChars_cons] at hcs
    by_cases ha : c.toNat < 0x80
    · rw [Utf8.encodeChar_ascii ha, List.singleton_append] at hcs
      obtain ⟨rfl, rfl⟩ := List.cons.inj hcs
      exact ⟨c, rest, rfl, by simp [isHexDigit, ha, hb], rfl⟩
    · obtain ⟨b', tail, hc⟩ : ∃ b' tail, Utf8.encodeChar c = b' :: tail := by
        unfold Utf8.encodeChar
        dsimp only
        repeat' split
        all_goals exact ⟨_, _, rfl⟩
      have hhigh := Utf8.high_of_mem_encodeChar (Nat.le_of_not_lt ha) b' (hc ▸ List.mem_cons_self)
      rw [hc, List.cons_append] at hcs
      have hlt := lt_of_hexValue hb
      rw [← (List.cons.inj hcs).1] at hlt
      omega

/-- A `%` stands for itself unless two digits follow. -/
theorem decodeBytes_percent {bs : Bytes}
    (h : ∀ b c rest hi lo, bs = b :: c :: rest → hexValue b = some hi → hexValue c ≠ some lo) :
    decodeBytes (0x25 :: bs) = 0x25 :: decodeBytes bs := by
  match bs with
  | [] => rfl
  | [b] => rfl
  | b :: c :: rest =>
    have hno : decodeBytes (0x25 :: b :: c :: rest) = decodeFrom [0x25] (b :: c :: rest) := by
      simp only [decodeBytes, decodeFrom, if_true]
      split
      · next hb hc => exact absurd hc (h b c rest _ _ rfl hb)
      · rfl
    rw [hno, decodeFrom_eq]
    rfl

/-- A character with which no escape begins stands for itself. -/
theorem decodeBytes_char {c : Char} {cs : List Char} (h : startsWithEscape (c :: cs) = false) :
    decodeBytes (Utf8.encodeChars (c :: cs)) = Utf8.encodeChar c ++ decodeBytes (Utf8.encodeChars cs) := by
  by_cases hc : c = '%'
  · subst hc
    refine decodeBytes_percent fun b d rest hi lo hbytes hb hd => ?_
    obtain ⟨x, more, rfl, hx, hrest⟩ := eq_cons_of_hexValue hbytes hb
    obtain ⟨y, more, rfl, hy, -⟩ := eq_cons_of_hexValue hrest.symm hd
    rw [startsWithEscape, hx, hy] at h
    cases h
  · rw [Utf8.encodeChars_cons]
    exact decodeBytes_append (fun hm => hc (Utf8.eq_of_mem_encodeChar hm (by decide)).symm) _

/-- An escape stands for one byte. -/
theorem decodeBytes_of_startsWithEscape {cs : List Char} (h : startsWithEscape cs = true) :
    ∃ hi lo rest b, cs = '%' :: hi :: lo :: rest ∧
      decodeBytes (Utf8.encodeChars cs) = b :: decodeBytes (Utf8.encodeChars rest) := by
  unfold startsWithEscape at h
  split at h
  · next hi lo rest =>
    simp only [isHexDigit, Bool.and_eq_true, decide_eq_true_eq] at h
    obtain ⟨⟨hhi, hvhi⟩, hlo, hvlo⟩ := h
    obtain ⟨m, hm⟩ := Option.isSome_iff_exists.mp hvhi
    obtain ⟨n, hn⟩ := Option.isSome_iff_exists.mp hvlo
    refine ⟨hi, lo, rest, UInt8.ofNat (m * 16 + n), rfl, ?_⟩
    rw [Utf8.encodeChars_cons, Utf8.encodeChars_cons, Utf8.encodeChars_cons, Utf8.encodeChar_ascii hhi,
      Utf8.encodeChar_ascii hlo]
    exact decodeBytes_escape hm hn _
  · cases h

/-- A text without escapes stands for itself. -/
theorem decodeBytes_of_not_hasEscape {cs : List Char} (h : hasEscape cs = false) :
    decodeBytes (Utf8.encodeChars cs) = Utf8.encodeChars cs := by
  induction cs with
  | nil => rfl
  | cons c cs ih =>
    rw [hasEscape, Bool.or_eq_false_iff] at h
    rw [decodeBytes_char h.1, ih h.2]
    rfl

/-- Reading makes no text longer, and one with an escape shorter. -/
theorem length_scan_decodeBytes (cs : List Char) :
    (Utf8.scan (decodeBytes (Utf8.encodeChars cs))).length + (hasEscape cs).toNat ≤ cs.length := by
  induction h : cs.length using Nat.strongRecOn generalizing cs with
  | _ n ih =>
    cases cs with
    | nil =>
      subst h
      simp [hasEscape, Utf8.encodeChars]
    | cons c cs =>
      cases hs : startsWithEscape (c :: cs) with
      | false =>
        have hrest := ih cs.length (h ▸ Nat.lt_succ_self _) cs rfl
        rw [decodeBytes_char hs, Utf8.scan_encodeChar, List.length_cons, hasEscape, hs, Bool.false_or, ← h,
          List.length_cons]
        omega
      | true =>
        obtain ⟨hi, lo, rest, b, hcs, hd⟩ := decodeBytes_of_startsWithEscape hs
        rw [hcs, List.length_cons, List.length_cons, List.length_cons] at h
        have hrest := ih rest.length (by omega) rest rfl
        have hmore := Utf8.length_scan_cons b (decodeBytes (Utf8.encodeChars rest))
        have hone := Bool.toNat_le (hasEscape (c :: cs))
        rw [hd]
        omega

end Percent
end LoginRehearsal
