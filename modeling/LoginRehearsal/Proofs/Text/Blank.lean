import LoginRehearsal.Text.Blank
import Mathlib.Data.List.DropRight

/-!
# Trimming

What trimming leaves of a text, told from its ends.

* `trimBoth_of_ends`, `trimBoth_of_forall`: texts that stay as they are.
* `trimBoth_quoted`: quotes around a text that holds none come off, and nothing else.
* `trimBoth_append`: what is cut off at the ends may as well not be there.
* `trimBoth_append_mark`: a text with a mark inside is trimmed on both sides of it.
-/
namespace LoginRehearsal

theorem dropRight_append_of_pos {α : Type} {p : α → Bool} {a b : List α} (hb : ∀ x ∈ b, p x = true) :
    dropRight p (a ++ b) = dropRight p a := by
  rw [dropRight, List.reverse_append,
    List.dropWhile_append_of_pos fun x hx => hb x (List.mem_reverse.mp hx)]
  rfl

theorem dropRight_of_last {α : Type} {p : α → Bool} {a : List α} {z : α} (hz : p z = false) :
    dropRight p (a ++ [z]) = a ++ [z] := by
  rw [dropRight, List.reverse_append, List.reverse_singleton, List.singleton_append,
    List.dropWhile_cons_of_neg (by simp [hz])]
  simp

/-- Trimming leaves a text whose first and last characters stay. -/
theorem trimBoth_of_ends {p : Char → Bool} {a z : Char} {cs : List Char} (ha : p a = false)
    (hz : p z = false) : trimBoth p (a :: (cs ++ [z])) = a :: (cs ++ [z]) := by
  rw [trimBoth, List.dropWhile_cons_of_neg (by simp [ha]), ← List.cons_append, dropRight_of_last hz]

theorem trimBoth_of_forall {p : Char → Bool} {cs : List Char} (h : ∀ c ∈ cs, p c = false) :
    trimBoth p cs = cs := by
  have hd : cs.dropWhile p = cs := by
    cases cs with
    | nil => rfl
    | cons c cs => exact List.dropWhile_cons_of_neg (by simp [h c List.mem_cons_self])
  have hr : cs.reverse.dropWhile p = cs.reverse := by
    cases hcs : cs.reverse with
    | nil => rfl
    | cons c rest =>
      have hm : c ∈ cs := List.mem_reverse.mp (hcs ▸ List.mem_cons_self)
      exact List.dropWhile_cons_of_neg (by simp [h c hm])
  rw [trimBoth, hd, dropRight, hr, List.reverse_reverse]

/-- Quotes are taken off a text that holds none. -/
theorem trimBoth_quoted {p : Char → Bool} {q : Char} {cs : List Char} (hq : p q = true)
    (h : ∀ c ∈ cs, p c = false) : trimBoth p (q :: (cs ++ [q])) = cs := by
  have hs := trimBoth_of_forall h
  rw [trimBoth] at hs ⊢
  rw [List.dropWhile_cons_of_pos hq]
  cases cs with
  | nil => simp [hq, dropRight]
  | cons c cs =>
    have hc : p c = false := h c List.mem_cons_self
    rw [List.dropWhile_cons_of_neg (by simp [hc])] at hs
    rw [List.cons_append, List.dropWhile_cons_of_neg (by simp [hc]), ← List.cons_append,
      dropRight_append_of_pos (by simp [hq]), hs]

/-! ## Trimming on both sides of a mark -/

section

variable {p : Char → Bool} {a b cs : List Char} {m : Char}

theorem dropWhile_append_mark (hm : p m = false) :
    (a ++ m :: b).dropWhile p = a.dropWhile p ++ m :: b := by
  rw [List.dropWhile_append]
  split
  · next h =>
    rw [List.isEmpty_iff] at h
    rw [h, List.dropWhile_cons_of_neg (by simp [hm]), List.nil_append]
  · rfl

theorem dropRight_append_mark (hm : p m = false) :
    dropRight p (a ++ m :: b) = a ++ m :: dropRight p b := by
  have hr : (a ++ m :: b).reverse = b.reverse ++ m :: a.reverse := by simp
  rw [dropRight, hr, dropWhile_append_mark hm]
  simp [dropRight]

theorem dropRight_of_forall (h : ∀ c ∈ cs, p c = true) : dropRight p cs = [] := by
  have := dropRight_append_of_pos (a := []) h
  rwa [List.nil_append] at this

/-- It does not matter from which end a text is trimmed first. -/
theorem dropWhile_dropRight (cs : List Char) : (dropRight p cs).dropWhile p = dropRight p (cs.dropWhile p) := by
  cases h : cs.dropWhile p with
  | nil =>
    rw [dropRight_of_forall (List.dropWhile_eq_nil_iff.mp h)]
    rfl
  | cons m rest =>
    have hm : p m = false := by
      have := List.head_dropWhile_not p (l := cs) (by simp [h])
      simpa [h] using this
    conv_lhs => rw [← List.takeWhile_append_dropWhile (p := p) (l := cs), h]
    rw [dropRight_append_mark hm, dropWhile_append_mark hm]
    have hd := dropRight_append_mark (a := []) (b := rest) hm
    rw [List.nil_append, List.nil_append] at hd
    rw [hd, List.dropWhile_eq_nil_iff.mpr fun c hc => List.mem_takeWhile_imp hc, List.nil_append]

/-- A mark in the middle keeps apart what is trimmed at the two ends. -/
theorem trimBoth_append_mark (hm : p m = false) :
    trimBoth p (a ++ m :: b) = a.dropWhile p ++ m :: dropRight p b := by
  rw [trimBoth, dropWhile_append_mark hm, dropRight_append_mark hm]

theorem trimBoth_dropWhile : trimBoth p (cs.dropWhile p) = trimBoth p cs := by
  rw [trimBoth, List.dropWhile_idempotent, trimBoth]

theorem trimBoth_dropRight : trimBoth p (dropRight p cs) = trimBoth p cs := by
  have hr : dropRight p (dropRight p (cs.dropWhile p)) = dropRight p (cs.dropWhile p) := by
    simp [dropRight, List.dropWhile_idempotent]
  rw [trimBoth, dropWhile_dropRight, hr, trimBoth]

/-- What is cut off at the ends may as well not have been there. -/
theorem trimBoth_append (ha : ∀ c ∈ a, p c = true) (hb : ∀ c ∈ b, p c = true) :
    trimBoth p (a ++ (cs ++ b)) = trimBoth p cs := by
  rw [trimBoth, List.dropWhile_append_of_pos ha, List.dropWhile_append, trimBoth]
  split
  · next h =>
    rw [List.isEmpty_iff] at h
    rw [h, List.dropWhile_eq_nil_iff.mpr hb]
  · exact dropRight_append_of_pos hb

end

end LoginRehearsal
