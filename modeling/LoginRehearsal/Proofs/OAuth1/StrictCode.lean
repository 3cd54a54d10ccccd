import LoginRehearsal.OAuth1.Request
import LoginRehearsal.Proofs.Text.Percent

/-!
# The strict code and the reader of headers

Names and values are signed and sent in one form only (RFC 5849 §3.6): an unreserved character stands for itself,
and every other byte is escaped with upper-case digits. `Strict` says which texts have this form, without the
writer. They are the codes of all byte strings, and the reader of headers tells which of these are text: a strict
text that it refuses is the code of nothing, and one that it accepts is the code of what it gives.

* `strict_iff`: the strict texts are the codes of byte strings.
* `decode_eq_ok_iff_of_strict`: of a strict text, the reader gives the text that it is the code of.
* `strict_code_image`: the laws of writer and reader together.
-/
namespace LoginRehearsal

namespace Percent

/-! ## The form -/

/-- ASCII letters and digits, `-`, `.`, `_` and `~`. -/
def Unreserved (c : Char) : Prop :=
  ('0' ≤ c ∧ c ≤ '9') ∨ ('A' ≤ c ∧ c ≤ 'Z') ∨ ('a' ≤ c ∧ c ≤ 'z') ∨ c ∈ ['-', '.', '_', '~']

instance : DecidablePred Unreserved := fun c =>
  inferInstanceAs (Decidable (('0' ≤ c ∧ c ≤ '9') ∨ ('A' ≤ c ∧ c ≤ 'Z') ∨ ('a' ≤ c ∧ c ≤ 'z') ∨
    c ∈ ['-', '.', '_', '~']))

/-- The hexadecimal digits in upper case, each in the place of its value. -/
def upperDigits : List Char := ['0', '1', '2', '3', '4', '5', '6', '7', '8', '9', 'A', 'B', 'C', 'D', 'E', 'F']

/-- Texts of unreserved characters and of `%` with two upper-case digits, where no escape stands for a byte that is
an unreserved character. The reader takes such an escape too, but `encode` never gives it. -/
inductive Strict : List Char → Prop where
  | nil : Strict []
  | plain {c : Char} {cs : List Char} (hc : Unreserved c) (h : Strict cs) : Strict (c :: cs)
  | escaped {b : UInt8} {hi lo : Char} {cs : List Char} (hb : ¬Unreserved (Char.ofNat b.toNat))
    (hhi : upperDigits[b.toNat / 16]? = some hi) (hlo : upperDigits[b.toNat % 16]? = some lo) (h : Strict cs) :
    Strict ('%' :: hi :: lo :: cs)

/-! ## Characters and bytes -/

theorem unreserved_iff_toNat {c : Char} : Unreserved c ↔
    (0x30 ≤ c.toNat ∧ c.toNat ≤ 0x39) ∨ (0x41 ≤ c.toNat ∧ c.toNat ≤ 0x5A) ∨ (0x61 ≤ c.toNat ∧ c.toNat ≤ 0x7A) ∨
      c.toNat = 0x2D ∨ c.toNat = 0x2E ∨ c.toNat = 0x5F ∨ c.toNat = 0x7E := by
  simp only [Unreserved, List.mem_cons, List.not_mem_nil, or_false, ← Char.toNat_inj]
  rfl

theorem Unreserved.lt {c : Char} (h : Unreserved c) : c.toNat < 0x80 := by
  rw [unreserved_iff_toNat] at h
  omega

/-- The bytes that the writer keeps are those of unreserved characters. -/
theorem isUnreserved_iff {b : UInt8} : isUnreserved b = true ↔ Unreserved (Char.ofNat b.toNat) := by
  have hb : (Char.ofNat b.toNat).toNat = b.toNat := by
    have := b.toNat_lt
    exact Utf8.toNat_ofNat (by omega) (by omega)
  rw [unreserved_iff_toNat, hb]
  simp only [isUnreserved, isAlphanumeric, Bool.or_eq_true, Bool.and_eq_true, decide_eq_true_eq, beq_iff_eq,
    ← UInt8.toNat_inj, or_assoc]
  rfl

theorem upperDigits_hexDigit : ∀ n, n < 16 → upperDigits[n]? = some (hexDigit n) := by decide

/-! ## Codes of byte strings -/

theorem strict_encodeBytes (bs : Bytes) : Strict (encodeBytes isUnreserved bs) := by
  induction bs with
  | nil => exact .nil
  | cons b bs ih =>
    rw [encodeBytes_cons]
    split
    · next hb => exact .plain (isUnreserved_iff.mp hb) ih
    · next hb =>
      obtain ⟨hhi, hlo⟩ := digits_lt b
      exact .escaped (mt isUnreserved_iff.mpr hb) (upperDigits_hexDigit _ hhi) (upperDigits_hexDigit _ hlo) ih

theorem strict_encode (s : String) : Strict (encode s).toList := by
  rw [encode, String.toList_ofList]
  exact strict_encodeBytes (Utf8.encode s)

/-- Each item of a strict text is the code of one byte. -/
theorem Strict.exists_bytes {cs : List Char} (h : Strict cs) : ∃ bs, encodeBytes isUnreserved bs = cs := by
  induction h with
  | nil => exact ⟨[], rfl⟩
  | @plain c cs hc _ ih =>
    obtain ⟨bs, rfl⟩ := ih
    have hbyte : (UInt8.ofNat c.toNat).toNat = c.toNat := Utf8.toNat_byte_ascii hc.lt
    have hkeep : isUnreserved (UInt8.ofNat c.toNat) = true := by
      rw [isUnreserved_iff, hbyte, Char.ofNat_toNat]
      exact hc
    refine ⟨UInt8.ofNat c.toNat :: bs, ?_⟩
    rw [encodeBytes_cons, if_pos hkeep, hbyte, Char.ofNat_toNat]
    rfl
  | @escaped b hi lo cs hb hhi hlo _ ih =>
    obtain ⟨bs, rfl⟩ := ih
    obtain ⟨hhi', hlo'⟩ := digits_lt b
    rw [upperDigits_hexDigit _ hhi', Option.some.injEq] at hhi
    rw [upperDigits_hexDigit _ hlo', Option.some.injEq] at hlo
    refine ⟨b :: bs, ?_⟩
    rw [encodeBytes_cons, if_neg (mt isUnreserved_iff.mp hb), escapeByte, hhi, hlo]
    rfl

theorem strict_iff {cs : List Char} : Strict cs ↔ ∃ bs, encodeBytes isUnreserved bs = cs := by
  constructor
  · exact Strict.exists_bytes
  · rintro ⟨bs, rfl⟩
    exact strict_encodeBytes bs

end Percent

namespace Authorization

open Percent

/-! ## What the reader accepts -/

theorem decode_eq_ok_iff {cs : List Char} {s : String} : decode cs = .ok s ↔ Percent.decode? cs = .ok s := by
  unfold decode
  cases Percent.decode? cs <;> simp

/-- The bytes of a strict text are found whatever they are, and are text if they are the UTF-8 form of one. -/
theorem decode_eq_ok_iff_of_strict {e s : String} (h : Strict e.toList) :
    decode e.toList = .ok s ↔ encode s = e := by
  obtain ⟨bs, hbs⟩ := strict_iff.mp h
  rw [decode_eq_ok_iff, ← hbs, decode?_encodeBytes, Utf8.decode?_eq_ok_iff]
  constructor
  · rintro rfl
    rw [← String.toList_inj, ← hbs, encode, String.toList_ofList]
    rfl
  · rintro rfl
    have hd := decode?_encode s
    rw [← hbs, decode?_encodeBytes, Utf8.decode?_eq_ok_iff] at hd
    exact hd

/-- The code of a text is strict and is read as that text, and the code of two texts, one behind the other, is that
of the first with that of the second behind it. Among the strict texts, the codes are those that the reader accepts,
and each is the code of what the reader gives. -/
theorem strict_code_image (s t : String) :
    Strict (encode s).toList ∧ decode (encode s).toList = .ok s ∧ encode (s ++ t) = encode s ++ encode t ∧
      ∀ e : String, Strict e.toList →
        ((∃ u, encode u = e) ↔ ∃ u, decode e.toList = .ok u) ∧ ∀ u, decode e.toList = .ok u → encode u = e := by
  have hstrict : Strict (encode s).toList := strict_encode s
  refine ⟨hstrict, (decode_eq_ok_iff_of_strict hstrict).mpr rfl, encode_append s t, fun e he => ⟨?_, fun u hu => ?_⟩⟩
  · exact exists_congr fun u => (decode_eq_ok_iff_of_strict he).symm
  · exact (decode_eq_ok_iff_of_strict he).mp hu

/-- Three bytes that are a character, and three that would be a surrogate and are refused. -/
theorem strict_code_image_of_surrogate :
    Strict "%E2%82%AC~".toList ∧ encode "€~" = "%E2%82%AC~" ∧ Strict "%ED%A0%80".toList ∧
      ¬∃ u, encode u = "%ED%A0%80" := by
  have heuro : Strict "%E2%82%AC~".toList :=
    .escaped (b := 0xE2) (by decide) rfl rfl (.escaped (b := 0x82) (by decide) rfl rfl
      (.escaped (b := 0xAC) (by decide) rfl rfl (.plain (by decide) .nil)))
  have hsurrogate : Strict "%ED%A0%80".toList :=
    .escaped (b := 0xED) (by decide) rfl rfl (.escaped (b := 0xA0) (by decide) rfl rfl
      (.escaped (b := 0x80) (by decide) rfl rfl .nil))
  obtain ⟨-, -, -, himage⟩ := strict_code_image "€" "~"
  refine ⟨heuro, (himage _ heuro).2 "€~" (by decide +kernel), hsurrogate, fun hcode => ?_⟩
  have hread : decode "%ED%A0%80".toList =
      .error (.malformed "invalid utf-8 sequence of 1 bytes from index 0") := by decide +kernel
  obtain ⟨u, hu⟩ := (himage _ hsurrogate).1.mp hcode
  rw [hread] at hu
  cases hu

end Authorization
end LoginRehearsal
