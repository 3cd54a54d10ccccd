import LoginRehearsal.Text.Split

/-!
# Splitting what was joined

Parts that hold no separator come back when their joined text is split.

* `splitOn_append`, `splitFirst?_append`: the first separator ends the first part.
* `splitOn_of_forall`, `splitFirst?_of_forall`: without one nothing is cut.
* `splitOn_append_cons`: any separator ends a part.
* `mem_of_mem_splitOn`, `eq_of_splitFirst?`: what is cut was in one piece before.
* `splitFirst?_append_of_not_mem`: the cut at one mark.
* `append_cons_inj`: so both parts are told by the whole.
* `splitOn_intercalate`: splitting undoes joining.
-/
namespace LoginRehearsal

variable {α : Type} {p : α → Bool} {x : α} {a b : List α}

theorem splitOn_of_forall (h : ∀ y ∈ a, p y = false) : splitOn p a = [a] := by
  induction a with
  | nil => rfl
  | cons y a ih =>
    obtain ⟨piece, others, hs, hc⟩ := splitOn_cons_other p y a (h y List.mem_cons_self)
    rw [ih fun z hz => h z (List.mem_cons_of_mem _ hz)] at hs
    obtain ⟨rfl, rfl⟩ := List.cons.inj hs
    exact hc

theorem splitOn_append (ha : ∀ y ∈ a, p y = false) (hx : p x = true) :
    splitOn p (a ++ x :: b) = a :: splitOn p b := by
  induction a with
  | nil => exact splitOn_cons_sep p x b hx
  | cons y a ih =>
    obtain ⟨piece, others, hs, hc⟩ := splitOn_cons_other p y (a ++ x :: b) (ha y List.mem_cons_self)
    rw [ih fun z hz => ha z (List.mem_cons_of_mem _ hz)] at hs
    obtain ⟨rfl, rfl⟩ := List.cons.inj hs
    exact hc

theorem splitFirst?_append (ha : ∀ y ∈ a, p y = false) (hx : p x = true) :
    splitFirst? p (a ++ x :: b) = some (a, b) := by
  have h : ∀ y ∈ a, (!p y) = true := fun y hy => by rw [ha y hy]; rfl
  rw [splitFirst?, List.dropWhile_append_of_pos h, List.takeWhile_append_of_pos h,
    List.dropWhile_cons_of_neg (by simp [hx]), List.takeWhile_cons_of_neg (by simp [hx])]
  simp

theorem splitFirst?_of_forall (ha : ∀ y ∈ a, p y = false) : splitFirst? p a = none := by
  have h : a.dropWhile (fun y => !p y) = [] := by
    induction a with
    | nil => rfl
    | cons y a ih =>
      rw [List.dropWhile_cons_of_pos (by rw [ha y List.mem_cons_self]; rfl)]
      exact ih fun z hz => ha z (List.mem_cons_of_mem _ hz)
  rw [splitFirst?, h]

/-- Every separator keeps the pieces on its two sides apart. -/
theorem splitOn_append_cons (a b : List α) (hx : p x = true) :
    splitOn p (a ++ x :: b) = splitOn p a ++ splitOn p b := by
  induction a with
  | nil => exact splitOn_cons_sep p x b hx
  | cons y a ih =>
    cases hy : p y with
    | true => rw [List.cons_append, splitOn_cons_sep p y _ hy, splitOn_cons_sep p y _ hy, ih, List.cons_append]
    | false =>
      obtain ⟨piece, others, hs, hc⟩ := splitOn_cons_other p y (a ++ x :: b) hy
      obtain ⟨piece', others', hs', hc'⟩ := splitOn_cons_other p y a hy
      rw [ih, hs', List.cons_append] at hs
      obtain ⟨rfl, rfl⟩ := List.cons.inj hs
      rw [List.cons_append, hc, hc', List.cons_append]

theorem mem_of_mem_splitOn : ∀ piece ∈ splitOn p a, ∀ x ∈ piece, x ∈ a := by
  induction a with
  | nil => simp
  | cons y ys ih =>
    intro piece hp x hx
    cases hy : p y with
    | true =>
      rw [splitOn_cons_sep p y ys hy, List.mem_cons] at hp
      rcases hp with rfl | hp
      · cases hx
      · exact List.mem_cons_of_mem _ (ih piece hp x hx)
    | false =>
      obtain ⟨first, others, hs, hc⟩ := splitOn_cons_other p y ys hy
      rw [hc, List.mem_cons] at hp
      rw [hs] at ih
      rcases hp with rfl | hp
      · rcases List.mem_cons.mp hx with rfl | hx
        · exact List.mem_cons_self
        · exact List.mem_cons_of_mem _ (ih first List.mem_cons_self x hx)
      · exact List.mem_cons_of_mem _ (ih piece (List.mem_cons_of_mem _ hp) x hx)

/-- A cut leaves the two parts and the separator between them. -/
theorem eq_of_splitFirst? {front behind : List α} (h : splitFirst? p a = some (front, behind)) :
    ∃ x, a = front ++ x :: behind ∧ p x = true := by
  unfold splitFirst? at h
  split at h
  · cases h
  · next x rest hd =>
    cases h
    have hx := List.head?_dropWhile_not (fun x => !p x) a
    have hparts := List.takeWhile_append_dropWhile (p := fun x => !p x) (l := a)
    rw [hd] at hx hparts
    exact ⟨x, hparts.symm, by simpa using hx⟩

section

variable [BEq α] [LawfulBEq α]

theorem beq_of_not_mem (h : x ∉ a) : ∀ y ∈ a, (y == x) = false := fun _ hy => beq_false_of_ne fun he => h (he ▸ hy)

theorem splitOn_of_not_mem (h : x ∉ a) : splitOn (· == x) a = [a] := splitOn_of_forall (beq_of_not_mem h)

theorem splitFirst?_append_of_not_mem (h : x ∉ a) : splitFirst? (· == x) (a ++ x :: b) = some (a, b) :=
  splitFirst?_append (p := (· == x)) (beq_of_not_mem h) (beq_self_eq_true x)

theorem splitFirst?_of_not_mem (h : x ∉ a) : splitFirst? (· == x) a = none :=
  splitFirst?_of_forall (beq_of_not_mem h)

/-- Two lists that are cut at the same first mark have equal parts. -/
theorem append_cons_inj {a' b' : List α} (h : x ∉ a) (h' : x ∉ a') (he : a ++ x :: b = a' ++ x :: b') :
    a = a' ∧ b = b' := by
  have hc := splitFirst?_append_of_not_mem (b := b) h
  rw [he, splitFirst?_append_of_not_mem h'] at hc
  obtain ⟨h1, h2⟩ := Prod.mk.inj (Option.some.inj hc)
  exact ⟨h1.symm, h2.symm⟩

end

/-! ## Joined parts -/

theorem append_intercalate (sep tail part : List α) (parts : List (List α)) :
    tail ++ sep.intercalate (part :: parts) = sep.intercalate ((tail ++ part) :: parts) := by
  cases parts with
  | nil => simp
  | cons next parts => simp [List.intercalate_cons_cons]

/-- Splitting undoes joining. The parts may be joined by more than the separator: the text `t` behind it then
stands at the front of every part but the first. -/
theorem splitOn_intercalate {t : List α} (hx : p x = true) (ht : ∀ y ∈ t, p y = false)
    {part : List α} {parts : List (List α)} (h : ∀ q ∈ part :: parts, ∀ y ∈ q, p y = false) :
    splitOn p ((x :: t).intercalate (part :: parts)) = part :: parts.map (t ++ ·) := by
  induction parts generalizing part with
  | nil => simpa using splitOn_of_forall (h part List.mem_cons_self)
  | cons next parts ih =>
    -- `t` counts as the front of the next part, so the induction is over any first part
    have hn : ∀ q ∈ (t ++ next) :: parts, ∀ y ∈ q, p y = false := by
      intro q hq y hy
      simp only [List.mem_cons] at hq h
      rcases hq with rfl | hq
      · rw [List.mem_append] at hy
        rcases hy with hy | hy
        · exact ht y hy
        · exact h next (.inr (.inl rfl)) y hy
      · exact h q (.inr (.inr hq)) y hy
    rw [List.intercalate_cons_cons, List.append_assoc, List.cons_append,
      splitOn_append (h part List.mem_cons_self) hx, append_intercalate, ih hn]
    rfl

theorem joinWith_cons_cons (c : Char) (part next : List Char) (parts : List (List Char)) :
    joinWith c (part :: next :: parts) = part ++ c :: joinWith c (next :: parts) := by
  simp [joinWith]

theorem joinWith_append (c : Char) {a b : List (List Char)} (ha : a ≠ []) (hb : b ≠ []) :
    joinWith c (a ++ b) = joinWith c a ++ c :: joinWith c b := by
  obtain ⟨part, parts, rfl⟩ := List.exists_cons_of_ne_nil ha
  obtain ⟨next, others, rfl⟩ := List.exists_cons_of_ne_nil hb
  simp [joinWith]

theorem joinWith_eq_intercalate (c : Char) (parts : List (List Char)) :
    joinWith c parts = [c].intercalate parts := by
  cases parts with
  | nil => rfl
  | cons part parts =>
    induction parts generalizing part with
    | nil => simp [joinWith]
    | cons next parts ih =>
      rw [joinWith_cons_cons, ih, List.intercalate_cons_cons, List.append_assoc]
      rfl

end LoginRehearsal
