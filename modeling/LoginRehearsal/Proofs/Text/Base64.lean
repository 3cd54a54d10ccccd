import LoginRehearsal.Proofs.Text.Utf8
import LoginRehearsal.Text.Base64

/-!
# Base64, one spelling each

Every byte string has one spelling: the reader gives back what was written, and reads nothing else. Bits
left over and padding are where another spelling could hide; the reader takes neither.

* `decode?_eq_some_iff`: reading accepts exactly what writing produces.
* `length_encode`: every three bytes begun are four characters.
-/
namespace LoginRehearsal
namespace Base64

/-! ## Digits -/

theorem value?_digit : ∀ n, n < 64 → value? (digit n) = some n := by decide

theorem digit_ne_pad : ∀ n, n < 64 → digit n ≠ '=' := by decide

theorem ofNat_toNat_of_eq {c : Char} {n : Nat} (h : c.toNat = n) : Char.ofNat n = c := by
  rw [← h, Char.ofNat_toNat]

/-- A character has a value only as the digit of it. -/
theorem eq_digit_of_value? {c : Char} {n : Nat} (h : value? c = some n) : n < 64 ∧ c = digit n := by
  simp only [value?] at h
  split at h
  · simp only [Option.some.injEq] at h
    refine ⟨by omega, ?_⟩
    rw [digit, if_pos (by omega), ofNat_toNat_of_eq (c := c) (by omega)]
  · split at h
    · simp only [Option.some.injEq] at h
      refine ⟨by omega, ?_⟩
      rw [digit, if_neg (by omega), if_pos (by omega), ofNat_toNat_of_eq (c := c) (by omega)]
    · split at h
      · simp only [Option.some.injEq] at h
        refine ⟨by omega, ?_⟩
        rw [digit, if_neg (by omega), if_neg (by omega), if_pos (by omega),
          ofNat_toNat_of_eq (c := c) (by omega)]
      · split at h
        · next hc =>
          simp only [Option.some.injEq] at h
          subst h hc
          decide
        · split at h
          · next hc =>
            simp only [Option.some.injEq] at h
            subst h hc
            decide
          · cases h

/-! ## Groups -/

theorem ofNat_eq_of_toNat {b : UInt8} {n : Nat} (h : n = b.toNat) : UInt8.ofNat n = b := by
  rw [h, UInt8.ofNat_toNat]

theorem decode?_one {x y : Nat} (hx : x < 64) (hy : y < 64) (h : y % 16 = 0) :
    decode? [digit x, digit y, '=', '='] = some [UInt8.ofNat (x * 4 + y / 16)] := by
  rw [decode?]
  simp only [value?_digit x hx, value?_digit y hy, Option.bind_eq_bind, Option.bind_some, if_pos h]

theorem decode?_two {x y z : Nat} (hx : x < 64) (hy : y < 64) (hz : z < 64) (h : z % 4 = 0) :
    decode? [digit x, digit y, digit z, '='] =
      some [UInt8.ofNat (x * 4 + y / 16), UInt8.ofNat (y % 16 * 16 + z / 4)] := by
  rw [decode?]
  · simp only [value?_digit x hx, value?_digit y hy, value?_digit z hz, Option.bind_eq_bind,
      Option.bind_some, if_pos h]
  · exact digit_ne_pad z hz

theorem decode?_three {x y z w : Nat} (hx : x < 64) (hy : y < 64) (hz : z < 64) (hw : w < 64)
    (rest : List Char) :
    decode? (digit x :: digit y :: digit z :: digit w :: rest) = (decode? rest).map fun bytes =>
      UInt8.ofNat (x * 4 + y / 16) :: UInt8.ofNat (y % 16 * 16 + z / 4) ::
        UInt8.ofNat (z % 4 * 64 + w) :: bytes := by
  rw [decode?]
  · simp only [value?_digit x hx, value?_digit y hy, value?_digit z hz, value?_digit w hw]
    cases decode? rest <;> rfl
  · intro hc _ _
    exact digit_ne_pad z hz hc
  · intro hd _
    exact digit_ne_pad w hw hd

/-! ## There and back -/

theorem decode?_encode (bs : Bytes) : decode? (encode bs) = some bs := by
  fun_induction encode bs with
  | case1 => rfl
  | case2 a =>
    have ha := a.toNat_lt
    rw [decode?_one (by omega) (by omega) (by omega), ofNat_eq_of_toNat (b := a) (by omega)]
  | case3 a b =>
    have ha := a.toNat_lt
    have hb := b.toNat_lt
    rw [decode?_two (by omega) (by omega) (by omega) (by omega),
      ofNat_eq_of_toNat (b := a) (by omega), ofNat_eq_of_toNat (b := b) (by omega)]
  | case4 a b c rest ih =>
    have ha := a.toNat_lt
    have hb := b.toNat_lt
    have hc := c.toNat_lt
    rw [decode?_three (by omega) (by omega) (by omega) (by omega), ih,
      ofNat_eq_of_toNat (b := a) (by omega), ofNat_eq_of_toNat (b := b) (by omega),
      ofNat_eq_of_toNat (b := c) (by omega)]
    rfl

/-- A text that is read is the spelling of what it is read as. -/
theorem eq_encode_of_decode? {cs : List Char} {bs : Bytes} (h : decode? cs = some bs) :
    cs = encode bs := by
  fun_induction decode? cs generalizing bs with
  | case1 =>
    cases h
    rfl
  | case2 a b =>
    simp only [Option.bind_eq_bind, Option.bind_eq_some_iff, Option.ite_none_right_eq_some,
      Option.some.injEq] at h
    obtain ⟨x, hx, y, hy, h0, rfl⟩ := h
    obtain ⟨hx, rfl⟩ := eq_digit_of_value? hx
    obtain ⟨hy, rfl⟩ := eq_digit_of_value? hy
    simp only [encode, UInt8.toNat_ofNat_of_lt' (show x * 4 + y / 16 < 0x100 by omega)]
    rw [show (x * 4 + y / 16) / 4 = x by omega, show (x * 4 + y / 16) % 4 * 16 = y by omega]
  | case3 a b c _ =>
    simp only [Option.bind_eq_bind, Option.bind_eq_some_iff, Option.ite_none_right_eq_some,
      Option.some.injEq] at h
    obtain ⟨x, hx, y, hy, z, hz, h0, rfl⟩ := h
    obtain ⟨hx, rfl⟩ := eq_digit_of_value? hx
    obtain ⟨hy, rfl⟩ := eq_digit_of_value? hy
    obtain ⟨hz, rfl⟩ := eq_digit_of_value? hz
    simp only [encode, UInt8.toNat_ofNat_of_lt' (show x * 4 + y / 16 < 0x100 by omega),
      UInt8.toNat_ofNat_of_lt' (show y % 16 * 16 + z / 4 < 0x100 by omega)]
    rw [show (x * 4 + y / 16) / 4 = x by omega,
      show (x * 4 + y / 16) % 4 * 16 + (y % 16 * 16 + z / 4) / 16 = y by omega,
      show (y % 16 * 16 + z / 4) % 16 * 4 = z by omega]
  | case4 a b c d rest _ _ ih =>
    simp only [Option.bind_eq_bind, Option.bind_eq_some_iff, Option.some.injEq] at h
    obtain ⟨x, hx, y, hy, z, hz, w, hw, bytes, hb, rfl⟩ := h
    obtain ⟨hx, rfl⟩ := eq_digit_of_value? hx
    obtain ⟨hy, rfl⟩ := eq_digit_of_value? hy
    obtain ⟨hz, rfl⟩ := eq_digit_of_value? hz
    obtain ⟨hw, rfl⟩ := eq_digit_of_value? hw
    rw [ih hb]
    simp only [encode, UInt8.toNat_ofNat_of_lt' (show x * 4 + y / 16 < 0x100 by omega),
      UInt8.toNat_ofNat_of_lt' (show y % 16 * 16 + z / 4 < 0x100 by omega),
      UInt8.toNat_ofNat_of_lt' (show z % 4 * 64 + w < 0x100 by omega)]
    rw [show (x * 4 + y / 16) / 4 = x by omega,
      show (x * 4 + y / 16) % 4 * 16 + (y % 16 * 16 + z / 4) / 16 = y by omega,
      show (y % 16 * 16 + z / 4) % 16 * 4 + (z % 4 * 64 + w) / 64 = z by omega,
      show (z % 4 * 64 + w) % 64 = w by omega]
  | case5 => cases h

theorem decode?_eq_some_iff {cs : List Char} {bs : Bytes} : decode? cs = some bs ↔ cs = encode bs :=
  ⟨eq_encode_of_decode?, fun h => h ▸ decode?_encode bs⟩

/-- Bytes are spelled in groups of four characters, the last one filled up. -/
theorem length_encode (bs : Bytes) : (encode bs).length = (bs.length + 2) / 3 * 4 := by
  fun_induction encode bs with
  | case1 => rfl
  | case2 a => simp
  | case3 a b => simp
  | case4 a b c rest ih =>
    simp only [List.length_cons, ih]
    omega

end Base64
end LoginRehearsal
