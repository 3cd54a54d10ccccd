import LoginRehearsal.Text.Utf8
import Mathlib.Data.List.Basic

/-!
# Text through UTF-8 and back

`encode` writes one to four bytes for a character; `scan` reads pieces of bytes. Each character that
was written is one piece, whatever stands behind it, so all that is read of a written text is that text.

* `scan_encodeChars`: the scan of a written text, with more bytes behind it.
* `decode?_encode`, `decodeLossy_encode`: both readers give the written text.
* `encode_injective`: two texts have two spellings.
* `decode?_eq_ok_iff`: the strict reader accepts the written texts only.
* `length_scan_cons`: the tolerant reader makes at most one character of a byte.
* `encodeChars_ascii`: ASCII text is written byte for character, and `lex_encodeChars_iff`: it is in the order of
  its bytes.
-/
namespace LoginRehearsal
namespace Utf8

/-! ## The bytes of one character -/

theorem lead_ascii {n : Nat} (h : n < 0x80) : lead (UInt8.ofNat n) = some (n, 0) := by
  simp only [lead, UInt8.toNat_ofNat_of_lt' (show n < 0x100 by omega)]
  rw [if_pos h]

theorem lead_two {n : Nat} (h1 : 2 ≤ n) (h2 : n < 0x20) :
    lead (UInt8.ofNat (0xC0 + n)) = some (n, 1) := by
  simp only [lead, UInt8.toNat_ofNat_of_lt' (show 0xC0 + n < 0x100 by omega)]
  rw [if_neg (by omega), if_neg (by omega), if_pos (by omega), Nat.add_sub_cancel_left]

theorem lead_three {n : Nat} (h : n < 0x10) : lead (UInt8.ofNat (0xE0 + n)) = some (n, 2) := by
  simp only [lead, UInt8.toNat_ofNat_of_lt' (show 0xE0 + n < 0x100 by omega)]
  rw [if_neg (by omega), if_neg (by omega), if_neg (by omega), if_pos (by omega),
    Nat.add_sub_cancel_left]

theorem lead_four {n : Nat} (h : n < 5) : lead (UInt8.ofNat (0xF0 + n)) = some (n, 3) := by
  simp only [lead, UInt8.toNat_ofNat_of_lt' (show 0xF0 + n < 0x100 by omega)]
  rw [if_neg (by omega), if_neg (by omega), if_neg (by omega), if_neg (by omega), if_pos (by omega),
    Nat.add_sub_cancel_left]

theorem toNat_tail (n : Nat) : (UInt8.ofNat (0x80 + n % 64)).toNat = 0x80 + n % 64 :=
  UInt8.toNat_ofNat_of_lt' (show _ < 0x100 by omega)

theorem isContinuation_tail (n : Nat) : isContinuation (UInt8.ofNat (0x80 + n % 64)) = true := by
  simp only [isContinuation, toNat_tail, Bool.and_eq_true, decide_eq_true_eq]
  omega

theorem follow_tail (value seen need n : Nat) (rest : Bytes) :
    follow value seen (need + 1) (UInt8.ofNat (0x80 + n % 64) :: rest) =
      follow (value * 64 + n % 64) (seen + 1) need rest := by
  simp only [follow, isContinuation_tail, if_true, toNat_tail, Nat.add_sub_cancel_left]

theorem secondFits_two {n : Nat} (h1 : 0x80 ≤ n) (h2 : n < 0x800) :
    secondFits (UInt8.ofNat (0xC0 + n / 64)) (UInt8.ofNat (0x80 + n % 64)) = true := by
  simp only [secondFits, UInt8.toNat_ofNat_of_lt' (show 0xC0 + n / 64 < 0x100 by omega)]
  rw [if_neg (by omega), if_neg (by omega), if_neg (by omega), if_neg (by omega)]
  exact isContinuation_tail n

/-- The second of three bytes keeps out overlong forms and surrogates. -/
theorem secondFits_three {n : Nat} (h1 : 0x800 ≤ n) (h2 : n < 0x10000)
    (hs : ¬(0xD800 ≤ n ∧ n < 0xE000)) :
    secondFits (UInt8.ofNat (0xE0 + n / 4096)) (UInt8.ofNat (0x80 + n / 64 % 64)) = true := by
  simp only [secondFits, UInt8.toNat_ofNat_of_lt' (show 0xE0 + n / 4096 < 0x100 by omega), toNat_tail,
    isContinuation]
  repeat' split
  all_goals simp only [Bool.and_eq_true, decide_eq_true_eq]; omega

/-- The second of four bytes keeps out overlong forms and values above U+10FFFF. -/
theorem secondFits_four {n : Nat} (h1 : 0x10000 ≤ n) (h2 : n < 0x110000) :
    secondFits (UInt8.ofNat (0xF0 + n / 262144)) (UInt8.ofNat (0x80 + n / 4096 % 64)) = true := by
  simp only [secondFits, UInt8.toNat_ofNat_of_lt' (show 0xF0 + n / 262144 < 0x100 by omega), toNat_tail,
    isContinuation]
  repeat' split
  all_goals simp only [Bool.and_eq_true, decide_eq_true_eq]; omega

theorem encodeChars_cons (c : Char) (cs : List Char) : encodeChars (c :: cs) = encodeChar c ++ encodeChars cs :=
  List.flatMap_cons

/-! ## The scan -/

theorem valid_toNat (c : Char) : c.toNat < 0x110000 ∧ ¬(0xD800 ≤ c.toNat ∧ c.toNat < 0xE000) := by
  have := c.valid
  simp only [UInt32.isValidChar, Nat.isValidChar] at this
  show c.val.toNat < _ ∧ ¬(_ ≤ c.val.toNat ∧ c.val.toNat < _)
  omega

/-- One character is one piece of the scan, whatever follows it. -/
theorem scan_encodeChar (c : Char) (rest : Bytes) :
    scan (encodeChar c ++ rest) = .char c :: scan rest := by
  obtain ⟨hmax, hsur⟩ := valid_toNat c
  have hc := Char.ofNat_toNat c
  generalize hn : c.toNat = n at *
  unfold encodeChar
  simp only [hn]
  split
  · next h =>
    rw [List.singleton_append, scan_cons]
    simp only [head, lead_ascii h, hc]
  · split
    · next h0 h =>
      simp only [List.cons_append, List.nil_append]
      rw [scan_cons]
      simp only [head, lead_two (show 2 ≤ n / 64 by omega) (by omega),
        secondFits_two (show 0x80 ≤ n by omega) h, if_true, toNat_tail, Nat.add_sub_cancel_left, follow]
      rw [show n / 64 * 64 + n % 64 = n by omega, hc]
    · split
      · next h0 h =>
        simp only [List.cons_append, List.nil_append]
        rw [scan_cons]
        simp only [head, lead_three (show n / 4096 < 0x10 by omega),
          secondFits_three (show 0x800 ≤ n by omega) h hsur, if_true, toNat_tail,
          Nat.add_sub_cancel_left, follow_tail]
        simp only [follow]
        rw [show (n / 4096 * 64 + n / 64 % 64) * 64 + n % 64 = n by omega, hc]
      · simp only [List.cons_append, List.nil_append]
        rw [scan_cons]
        simp only [head, lead_four (show n / 262144 < 5 by omega),
          secondFits_four (show 0x10000 ≤ n by omega) hmax, if_true, toNat_tail,
          Nat.add_sub_cancel_left, follow_tail]
        simp only [follow]
        rw [show ((n / 262144 * 64 + n / 4096 % 64) * 64 + n / 64 % 64) * 64 + n % 64 = n by omega, hc]

theorem scan_encodeChars (cs : List Char) (rest : Bytes) :
    scan (encodeChars cs ++ rest) = cs.map .char ++ scan rest := by
  induction cs with
  | nil => rfl
  | cons c cs ih =>
    rw [encodeChars_cons, List.append_assoc, scan_encodeChar, ih]
    rfl

/-! ## Both readers -/

theorem collect_chars (index : Nat) (found cs : List Char) :
    collect index found (cs.map .char) = .ok (found.reverse ++ cs) := by
  induction cs generalizing index found with
  | nil => simp [collect]
  | cons c cs ih => simp [collect, ih]

/-- Text survives the wire. -/
theorem decode?_encode (s : String) : decode? (encode s) = .ok s := by
  have h := scan_encodeChars s.toList []
  simp only [List.append_nil, scan_nil] at h
  simp [decode?, encode, h, collect_chars, Except.map]

theorem decodeLossy_encode (s : String) : decodeLossy (encode s) = s := by
  have h := scan_encodeChars s.toList []
  simp only [List.append_nil, scan_nil] at h
  simp [decodeLossy, encode, h, Piece.toChar, Function.comp_def]

theorem encode_injective {s t : String} (h : encode s = encode t) : s = t := by
  have := decode?_encode s
  rw [h, decode?_encode] at this
  exact (Except.ok.inj this).symm

/-! ## ASCII -/

theorem toNat_ofNat_ascii {n : Nat} (h : n < 0x80) : (Char.ofNat n).toNat = n := by
  have hv : n.isValidChar := .inl (by omega)
  rw [Char.ofNat, dif_pos hv]
  rfl

theorem encodeChar_ascii {c : Char} (h : c.toNat < 0x80) : encodeChar c = [UInt8.ofNat c.toNat] := by
  simp only [encodeChar, if_pos h]

theorem encodeChars_ascii {cs : List Char} (h : ∀ c ∈ cs, c.toNat < 0x80) :
    encodeChars cs = cs.map fun c => UInt8.ofNat c.toNat := by
  induction cs with
  | nil => rfl
  | cons c cs ih =>
    have ht := ih fun d hd => h d (List.mem_cons_of_mem _ hd)
    rw [encodeChars_cons, encodeChar_ascii (h c List.mem_cons_self), ht]
    rfl

theorem toNat_byte_ascii {c : Char} (h : c.toNat < 0x80) : (UInt8.ofNat c.toNat).toNat = c.toNat :=
  UInt8.toNat_ofNat_of_lt' (Nat.lt_trans h (by decide))

/-- ASCII texts are in the order of their bytes. -/
theorem lex_encodeChars_iff {a b : List Char} (ha : ∀ c ∈ a, c.toNat < 0x80) (hb : ∀ c ∈ b, c.toNat < 0x80) :
    List.Lex (· < ·) (encodeChars a) (encodeChars b) ↔ List.Lex (· < ·) a b := by
  rw [encodeChars_ascii ha, encodeChars_ascii hb]
  induction a generalizing b with
  | nil => cases b <;> simp
  | cons c a ih =>
    cases b with
    | nil => simp
    | cons d b =>
      have hc : (UInt8.ofNat c.toNat).toNat = c.toNat := toNat_byte_ascii (ha c List.mem_cons_self)
      have hd : (UInt8.ofNat d.toNat).toNat = d.toNat := toNat_byte_ascii (hb d List.mem_cons_self)
      have hlt : UInt8.ofNat c.toNat < UInt8.ofNat d.toNat ↔ c < d := by
        rw [UInt8.lt_iff_toNat_lt, hc, hd]
        rfl
      have heq : UInt8.ofNat c.toNat = UInt8.ofNat d.toNat ↔ c = d := by
        rw [← UInt8.toNat_inj, hc, hd, Char.toNat_inj]
      have hrest := ih (fun x hx => ha x (List.mem_cons_of_mem _ hx)) fun x hx => hb x (List.mem_cons_of_mem _ hx)
      rw [List.map_cons, List.map_cons, List.cons_lex_cons_iff, List.cons_lex_cons_iff, hlt, heq, hrest]

/-- The bytes of a character that is not ASCII are not ASCII either. -/
theorem high_of_mem_encodeChar {c : Char} (h : 0x80 ≤ c.toNat) : ∀ b ∈ encodeChar c, 0x80 ≤ b.toNat := by
  have hmax := (valid_toNat c).1
  have htail : ∀ n, 0x80 ≤ (UInt8.ofNat (0x80 + n % 64)).toNat := fun n => by
    rw [toNat_tail]
    exact Nat.le_add_right _ _
  have hlead : ∀ n, 0x80 ≤ n → n < 0x100 → 0x80 ≤ (UInt8.ofNat n).toNat := fun n hn hn' => by
    rwa [UInt8.toNat_ofNat_of_lt' hn']
  rw [encodeChar, if_neg (Nat.not_lt.mpr h)]
  split
  · simp only [List.forall_mem_cons, List.not_mem_nil, false_imp_iff, implies_true, and_true]
    exact ⟨hlead _ (by omega) (by omega), htail _⟩
  · split
    · simp only [List.forall_mem_cons, List.not_mem_nil, false_imp_iff, implies_true, and_true]
      exact ⟨hlead _ (by omega) (by omega), htail _, htail _⟩
    · simp only [List.forall_mem_cons, List.not_mem_nil, false_imp_iff, implies_true, and_true]
      exact ⟨hlead _ (by omega) (by omega), htail _, htail _, htail _⟩

/-- An ASCII byte of a character is that character. -/
theorem eq_of_mem_encodeChar {c : Char} {b : UInt8} (hb : b ∈ encodeChar c) (hlt : b.toNat < 0x80) :
    Char.ofNat b.toNat = c := by
  by_cases ha : c.toNat < 0x80
  · rw [encodeChar_ascii ha, List.mem_singleton] at hb
    rw [hb, toNat_byte_ascii ha, Char.ofNat_toNat]
  · have := high_of_mem_encodeChar (Nat.le_of_not_lt ha) b hb
    omega

/-- An ASCII byte of a text is one of its characters. -/
theorem mem_of_mem_encodeChars {cs : List Char} {b : UInt8} (hb : b ∈ encodeChars cs) (hlt : b.toNat < 0x80) :
    Char.ofNat b.toNat ∈ cs := by
  rw [encodeChars, List.mem_flatMap] at hb
  obtain ⟨c, hc, hb⟩ := hb
  rw [eq_of_mem_encodeChar hb hlt]
  exact hc

theorem not_mem_encodeChars {c : Char} {cs : List Char} (hc : c.toNat < 0x80) (h : c ∉ cs) :
    UInt8.ofNat c.toNat ∉ encodeChars cs := by
  intro hm
  have hmem := mem_of_mem_encodeChars hm (lt_of_eq_of_lt (toNat_byte_ascii hc) hc)
  rw [toNat_byte_ascii hc, Char.ofNat_toNat] at hmem
  exact h hmem

@[simp] theorem encodeChars_append (a b : List Char) :
    encodeChars (a ++ b) = encodeChars a ++ encodeChars b := List.flatMap_append

theorem encode_append (s t : String) : encode (s ++ t) = encode s ++ encode t := by
  rw [encode, String.toList_append, encodeChars_append]
  rfl

/-! ## Nothing else is accepted -/

theorem toNat_ofNat {n : Nat} (h : n < 0x110000) (hs : ¬(0xD800 ≤ n ∧ n < 0xE000)) :
    (Char.ofNat n).toNat = n := by
  have hv : n.isValidChar := by
    simp only [Nat.isValidChar]
    omega
  rw [Char.ofNat, dif_pos hv]
  rfl

theorem eq_ofNat {b : UInt8} {n : Nat} (h : b.toNat = n) : UInt8.ofNat n = b := by
  rw [← h, UInt8.ofNat_toNat]

theorem isContinuation_iff {b : UInt8} : isContinuation b = true ↔ 0x80 ≤ b.toNat ∧ b.toNat < 0xC0 := by
  rw [isContinuation, Bool.and_eq_true, decide_eq_true_eq, decide_eq_true_eq]

/-- What a lead byte says: its bits of the value, and how many bytes are due. -/
theorem lead_eq_some {b : UInt8} {value need : Nat} (h : lead b = some (value, need)) :
    (b.toNat = value ∧ value < 0x80 ∧ need = 0) ∨
    (b.toNat = 0xC0 + value ∧ 2 ≤ value ∧ value < 0x20 ∧ need = 1) ∨
    (b.toNat = 0xE0 + value ∧ value < 0x10 ∧ need = 2) ∨
    (b.toNat = 0xF0 + value ∧ value < 5 ∧ need = 3) := by
  simp only [lead] at h
  repeat' split at h
  all_goals simp only [Option.some.injEq, Prod.mk.injEq, reduceCtorEq] at h
  all_goals omega

/-- The range of a second byte, and where a lead byte narrows it. -/
theorem secondFits_bounds {b b1 : UInt8} (h : secondFits b b1 = true) :
    (0x80 ≤ b1.toNat ∧ b1.toNat < 0xC0) ∧ (b.toNat = 0xE0 → 0xA0 ≤ b1.toNat) ∧
      (b.toNat = 0xED → b1.toNat < 0xA0) ∧ (b.toNat = 0xF0 → 0x90 ≤ b1.toNat) ∧
      (b.toNat = 0xF4 → b1.toNat < 0x90) := by
  simp only [secondFits, isContinuation] at h
  repeat' split at h
  all_goals
    rw [Bool.and_eq_true, decide_eq_true_eq, decide_eq_true_eq] at h
    omega

/-- The value with the bits of continuation bytes behind it. -/
def gathered (value : Nat) (tail : Bytes) : Nat := tail.foldl (fun v b => v * 64 + (b.toNat - 0x80)) value

/-- A character that is finished took exactly the bytes that were due. -/
theorem follow_eq_char {value seen need : Nat} {bs rest : Bytes} {c : Char}
    (h : follow value seen need bs = (.char c, rest)) :
    ∃ tail, bs = tail ++ rest ∧ tail.length = need ∧ (∀ b ∈ tail, isContinuation b = true) ∧
      c = Char.ofNat (gathered value tail) := by
  induction need generalizing value seen bs with
  | zero =>
    cases h
    exact ⟨[], rfl, rfl, by simp, rfl⟩
  | succ need ih =>
    cases bs with
    | nil => cases h
    | cons b bs =>
      rw [follow] at h
      split at h
      · next hb =>
        obtain ⟨tail, rfl, hl, ht, hc⟩ := ih h
        refine ⟨b :: tail, rfl, by rw [List.length_cons, hl], List.forall_mem_cons.mpr ⟨hb, ht⟩, ?_⟩
        rw [hc, gathered, gathered, List.foldl_cons]
      · cases h

section

variable {b b1 b2 b3 : UInt8} {value : Nat}

theorem encodeChar_one (hb : b.toNat = value) (hv : value < 0x80) :
    encodeChar (Char.ofNat value) = [b] := by
  rw [encodeChar_ascii (by rwa [toNat_ofNat_ascii hv]), toNat_ofNat_ascii hv, eq_ofNat hb]

theorem encodeChar_two (hb : b.toNat = 0xC0 + value) (hv : 2 ≤ value ∧ value < 0x20)
    (h1 : secondFits b b1 = true) :
    encodeChar (Char.ofNat (value * 64 + (b1.toNat - 0x80))) = [b, b1] := by
  have h1 := secondFits_bounds h1
  rw [encodeChar, toNat_ofNat (by omega) (by omega)]
  rw [if_neg (by omega), if_pos (by omega), eq_ofNat (b := b) (by omega), eq_ofNat (b := b1) (by omega)]

/-- The second byte keeps the value out of the range of shorter forms and of surrogates. -/
theorem encodeChar_three (hb : b.toNat = 0xE0 + value) (hv : value < 0x10) (h1 : secondFits b b1 = true)
    (h2 : isContinuation b2 = true) :
    encodeChar (Char.ofNat ((value * 64 + (b1.toNat - 0x80)) * 64 + (b2.toNat - 0x80))) = [b, b1, b2] := by
  have h1 := secondFits_bounds h1
  rw [isContinuation_iff] at h2
  rw [encodeChar, toNat_ofNat (by omega) (by omega)]
  rw [if_neg (by omega), if_neg (by omega), if_pos (by omega), eq_ofNat (b := b) (by omega),
    eq_ofNat (b := b1) (by omega), eq_ofNat (b := b2) (by omega)]

theorem encodeChar_four (hb : b.toNat = 0xF0 + value) (hv : value < 5) (h1 : secondFits b b1 = true)
    (h2 : isContinuation b2 = true) (h3 : isContinuation b3 = true) :
    encodeChar (Char.ofNat (((value * 64 + (b1.toNat - 0x80)) * 64 + (b2.toNat - 0x80)) * 64 +
      (b3.toNat - 0x80))) = [b, b1, b2, b3] := by
  have h1 := secondFits_bounds h1
  rw [isContinuation_iff] at h2 h3
  rw [encodeChar, toNat_ofNat (by omega) (by omega)]
  rw [if_neg (by omega), if_neg (by omega), if_neg (by omega), eq_ofNat (b := b) (by omega),
    eq_ofNat (b := b1) (by omega), eq_ofNat (b := b2) (by omega), eq_ofNat (b := b3) (by omega)]

end

/-- A character that is read at the front has the bytes that it would be written as. -/
theorem head_eq_char {b : UInt8} {bs rest : Bytes} {c : Char} (h : head b bs = (.char c, rest)) :
    b :: bs = encodeChar c ++ rest := by
  unfold head at h
  split at h
  · cases h
  · next value hl =>
    cases h
    obtain ⟨hb, hv, -⟩ | ⟨-, -, -, h0⟩ | ⟨-, -, h0⟩ | ⟨-, -, h0⟩ := lead_eq_some hl
    · rw [encodeChar_one hb hv]
      rfl
    all_goals cases h0
  · next value need hl =>
    split at h
    · cases h
    · next b1 r1 =>
      split at h
      · next h1 =>
        obtain ⟨tail, rfl, hlen, ht, rfl⟩ := follow_eq_char h
        obtain ⟨-, -, h0⟩ | ⟨hb, hv, hv', h0⟩ | ⟨hb, hv, h0⟩ | ⟨hb, hv, h0⟩ := lead_eq_some hl
        · cases h0
        · cases h0
          obtain rfl := List.length_eq_zero_iff.mp hlen
          rw [gathered, List.foldl_nil, encodeChar_two hb ⟨hv, hv'⟩ h1]
          rfl
        · cases h0
          obtain ⟨b2, rfl⟩ := List.length_eq_one_iff.mp hlen
          rw [gathered, List.foldl_cons, List.foldl_nil, encodeChar_three hb hv h1 (ht b2 (by simp))]
          rfl
        · cases h0
          obtain ⟨b2, b3, rfl⟩ := List.length_eq_two.mp hlen
          rw [gathered, List.foldl_cons, List.foldl_cons, List.foldl_nil,
            encodeChar_four hb hv h1 (ht b2 (by simp)) (ht b3 (by simp))]
          rfl
      · cases h

theorem collect_eq_ok {pieces : List Piece} {index : Nat} {found cs : List Char}
    (h : collect index found pieces = .ok cs) :
    ∃ more : List Char, pieces = more.map .char ∧ cs = found.reverse ++ more := by
  induction pieces generalizing index found with
  | nil =>
    cases h
    exact ⟨[], rfl, (List.append_nil _).symm⟩
  | cons piece pieces ih =>
    cases piece with
    | char c =>
      obtain ⟨more, rfl, rfl⟩ := ih h
      exact ⟨c :: more, rfl, by simp⟩
    | broken length => cases h
    | cut length => cases h

/-- Bytes that scan as characters are the bytes of these characters. -/
theorem eq_encodeChars_of_scan {bs : Bytes} {cs : List Char} (h : scan bs = cs.map .char) :
    bs = encodeChars cs := by
  induction cs generalizing bs with
  | nil =>
    cases bs with
    | nil => rfl
    | cons b bs =>
      rw [scan_cons] at h
      cases h
  | cons c cs ih =>
    cases bs with
    | nil =>
      rw [scan_nil] at h
      cases h
    | cons b bs =>
      rw [scan_cons, List.map_cons] at h
      obtain ⟨hc, hrest⟩ := List.cons.inj h
      have hh : head b bs = (.char c, (head b bs).2) := Prod.ext hc rfl
      rw [head_eq_char hh, ih hrest]
      rfl

/-- The strict reader accepts what was written, and nothing else. -/
theorem decode?_eq_ok_iff {bs : Bytes} {s : String} : decode? bs = .ok s ↔ bs = encode s := by
  constructor
  · intro h
    cases hc : collect 0 [] (scan bs) with
    | error e =>
      rw [decode?, hc] at h
      cases h
    | ok cs =>
      rw [decode?, hc] at h
      cases h
      obtain ⟨more, hs, rfl⟩ := collect_eq_ok hc
      rw [eq_encodeChars_of_scan hs, encode, String.toList_ofList]
  · rintro rfl
    exact decode?_encode s

/-! ## How many characters are read -/

theorem scan_continuation {b : UInt8} (h : isContinuation b = true) (bs : Bytes) :
    scan (b :: bs) = .broken 1 :: scan bs := by
  rw [isContinuation_iff] at h
  have hlead : lead b = none := by
    simp only [lead]
    rw [if_neg (by omega), if_pos (by omega)]
  rw [scan_cons]
  simp only [head, hlead]

theorem length_scan_follow (value seen need : Nat) (bs : Bytes) :
    (scan (follow value seen need bs).2).length ≤ (scan bs).length := by
  induction need generalizing value seen bs with
  | zero => exact Nat.le_refl _
  | succ need ih =>
    cases bs with
    | nil => exact Nat.le_refl _
    | cons b bs =>
      rw [follow]
      split
      · next hb =>
        rw [scan_continuation hb, List.length_cons]
        exact Nat.le_succ_of_le (ih _ _ _)
      · exact Nat.le_refl _

/-- One byte more in front makes at most one character more. -/
theorem length_scan_cons (b : UInt8) (bs : Bytes) : (scan (b :: bs)).length ≤ (scan bs).length + 1 := by
  have hrest : (scan (head b bs).2).length ≤ (scan bs).length := by
    unfold head
    split
    · exact Nat.le_refl _
    · exact Nat.le_refl _
    · split
      · exact Nat.le_refl _
      · next b1 r1 =>
        split
        · next hb =>
          have hb1 : isContinuation b1 = true := isContinuation_iff.mpr (secondFits_bounds hb).1
          rw [scan_continuation hb1, List.length_cons]
          exact Nat.le_succ_of_le (length_scan_follow _ _ _ _)
        · exact Nat.le_refl _
  rw [scan_cons, List.length_cons]
  exact Nat.succ_le_succ hrest

end Utf8
end LoginRehearsal
