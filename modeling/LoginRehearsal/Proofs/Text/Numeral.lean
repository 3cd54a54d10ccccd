import LoginRehearsal.Text.Numeral

/-!
# Numerals by their value

`readNat` reads digit by digit and stops at the first fault. What it accepts is said here without that
order: a plus sign or none, then one or more digits, whose value is not above the bound.

* `natural?`: the number that a text spells, of any size.
* `readNat_eq_ok_iff`: `readNat` in these terms.
* `readInt_of_readNat`: what `readNat` accepts, `readInt` accepts.
* `natural?_decimal`: every number is spelled by its decimal numeral.
-/
namespace LoginRehearsal
namespace Numeral

/-- A text without the plus sign in front of it. -/
def unsigned (s : String) : List Char :=
  match s.toList with
  | '+' :: digits => digits
  | digits => digits

/-- The number that a text spells with a plus sign or none and at least one ASCII digit. -/
def natural? (s : String) : Option Nat :=
  if unsigned s ≠ [] ∧ (unsigned s).all Char.isDigit then some (Nat.ofDigitChars 10 (unsigned s) 0)
  else none

/-! ## Digits -/

theorem digitValue_of_isDigit {c : Char} (h : c.isDigit = true) : digitValue c = some (c.toNat - 0x30) := by
  have hd : 0x30 ≤ c.toNat ∧ c.toNat ≤ 0x39 := Char.isDigit_iff_toNat.mp h
  rw [digitValue, if_pos hd]

theorem digitValue_of_not_isDigit {c : Char} (h : ¬c.isDigit = true) : digitValue c = none := by
  rw [digitValue, if_neg]
  exact fun hd => h (Char.isDigit_iff_toNat.mpr hd)

theorem le_ofDigitChars (cs : List Char) (value : Nat) : value ≤ Nat.ofDigitChars 10 cs value := by
  have h : Nat.ofDigitChars 10 cs value = 10 ^ cs.length * value + Nat.ofDigitChars 10 cs 0 :=
    Nat.ofDigitChars_eq_ofDigitChars_zero
  have hp : value ≤ 10 ^ cs.length * value := Nat.le_mul_of_pos_left _ (Nat.pow_pos (by decide))
  omega

/-- A value never falls when a digit is put behind it, so the first excess is not made up for. -/
theorem readDigits_eq_ok_iff {greatest value n : Nat} {overflow : Fault} {cs : List Char}
    (hv : value ≤ greatest) :
    readDigits greatest overflow value cs = .ok n ↔
      cs.all Char.isDigit ∧ Nat.ofDigitChars 10 cs value = n ∧ n ≤ greatest := by
  induction cs generalizing value with
  | nil =>
    simp only [readDigits, Except.ok.injEq, List.all_nil, Nat.ofDigitChars_nil, true_and]
    exact ⟨fun h => ⟨h, h ▸ hv⟩, fun h => h.1⟩
  | cons c cs ih =>
    rw [List.all_cons, Nat.ofDigitChars_cons]
    by_cases hd : c.isDigit = true
    · simp only [readDigits, digitValue_of_isDigit hd, hd, Bool.true_and, Nat.mul_comm 10 value]
      by_cases hb : value * 10 + (c.toNat - 0x30) ≤ greatest
      · rw [if_pos hb, ih hb]
        rfl
      · rw [if_neg hb]
        simp only [reduceCtorEq, false_iff]
        rintro ⟨-, hn, hle⟩
        have := le_ofDigitChars cs (value * 10 + (c.toNat - 0x30))
        have hn' : Nat.ofDigitChars 10 cs (value * 10 + (c.toNat - 0x30)) = n := hn
        omega
    · simp only [readDigits, digitValue_of_not_isDigit hd, hd, Bool.false_and]
      simp

/-! ## Whole numerals -/

theorem readNat_eq_readDigits (greatest : Nat) {s : String} (h : unsigned s ≠ []) :
    readNat greatest s = readDigits greatest .tooLarge 0 (unsigned s) := by
  unfold unsigned readNat at *
  generalize s.toList = cs at *
  match cs with
  | [] => exact absurd rfl h
  | ['+'] => exact absurd rfl h
  | '+' :: d :: digits => rfl
  | c :: digits =>
    by_cases hc : c = '+'
    · subst hc
      cases digits with
      | nil => exact absurd rfl h
      | cons d digits => rfl
    · split
      all_goals simp_all

theorem readNat_of_unsigned_nil (greatest : Nat) {s : String} (h : unsigned s = []) :
    ∃ fault, readNat greatest s = .error fault := by
  unfold unsigned readNat at *
  split at h
  · next h' =>
    subst h
    rw [h']
    exact ⟨_, rfl⟩
  · rw [h]
    exact ⟨_, rfl⟩

theorem readNat_eq_ok_iff {greatest n : Nat} {s : String} :
    readNat greatest s = .ok n ↔ natural? s = some n ∧ n ≤ greatest := by
  by_cases hne : unsigned s = []
  · obtain ⟨fault, hf⟩ := readNat_of_unsigned_nil greatest hne
    simp [hf, natural?, hne]
  · rw [readNat_eq_readDigits greatest hne, readDigits_eq_ok_iff (Nat.zero_le _), natural?]
    by_cases hd : (unsigned s).all Char.isDigit = true
    · rw [if_pos ⟨hne, hd⟩, Option.some.injEq]
      exact ⟨fun h => h.2, fun h => ⟨hd, h⟩⟩
    · rw [if_neg fun h => hd h.2]
      exact ⟨fun h => absurd h.1 hd, fun h => by cases h.1⟩

theorem readNat_mono {greatest greatest' n : Nat} {s : String} (hle : greatest ≤ greatest')
    (h : readNat greatest s = .ok n) : readNat greatest' s = .ok n := by
  rw [readNat_eq_ok_iff] at *
  exact ⟨h.1, Nat.le_trans h.2 hle⟩

/-- A natural number is read as a whole number, too. -/
theorem readInt_of_readNat {lowest greatest n : Nat} {s : String} (h : readNat greatest s = .ok n) :
    readInt lowest greatest s = .ok n := by
  unfold readNat at h
  unfold readInt
  generalize s.toList = cs at *
  split at h
  · cases h
  · cases h
  · next digits hne =>
    cases digits with
    | nil => exact absurd rfl hne
    | cons d digits => simp [h, Except.map]
  · next hempty hplus hsigned =>
    split
    · exact absurd rfl hempty
    · exact absurd rfl hplus
    · cases h
    · next digits _ => exact absurd rfl (hsigned digits)
    · next digits _ => simp [readDigits, digitValue] at h
    · simp [h, Except.map]

/-! ## Decimal numerals -/

theorem unsigned_decimal (n : Nat) : unsigned (decimal n) = Nat.toDigits 10 n := by
  unfold unsigned decimal
  rw [String.toList_ofList]
  split
  · next digits h =>
    have hp : '+' ∈ Nat.toDigits 10 n := by rw [h]; exact List.mem_cons_self
    exact absurd (Nat.isDigit_of_mem_toDigits (by decide) (by decide) hp) (by decide)
  · rfl

theorem digit_of_mem_decimal {n : Nat} {c : Char} (h : c ∈ (decimal n).toList) :
    0x30 ≤ c.toNat ∧ c.toNat ≤ 0x39 := by
  rw [decimal, String.toList_ofList] at h
  exact Char.isDigit_iff_toNat.mp (Nat.isDigit_of_mem_toDigits (by decide) (by decide) h)

theorem natural?_decimal (n : Nat) : natural? (decimal n) = some n := by
  have hd : (Nat.toDigits 10 n).all Char.isDigit = true := by
    rw [List.all_eq_true]
    exact fun c hc => Nat.isDigit_of_mem_toDigits (by decide) (by decide) hc
  rw [natural?, unsigned_decimal, if_pos ⟨Nat.toDigits_ne_nil, hd⟩, Nat.ofDigitChars_ten_toDigits]

theorem decimal_injective {m n : Nat} (h : decimal m = decimal n) : m = n := by
  have hm := natural?_decimal m
  rw [h, natural?_decimal] at hm
  exact (Option.some.inj hm).symm

end Numeral
end LoginRehearsal
