import LoginRehearsal.OAuth1.Refusal

/-!
# Checks in order

A decision is described by the list of its checks, each with the refusal that it gives where it does not
hold. All of them hold, or there is a first that does not, and never both; so a list says what the answer
is for every input.

* `Check.Granted`, `Check.Refused`: all checks hold; a refusal is that of the first which does not.
* `Check.Decides`: a computation answers as a list of checks says.
* `Check.Decides.bind`: the checks of a computation and of what follows it, one list behind the other.
* `Check.Decides.eq_ok_iff`, `Check.Decides.eq_error_iff`: when it answers what.
-/
namespace LoginRehearsal

/-- A condition, and the refusal where it does not hold. -/
structure Check where
  holds : Prop
  refusal : Refusal

namespace Check

/-- All checks hold. -/
def Granted (checks : List Check) : Prop := ∀ c ∈ checks, c.holds

/-- The first check that does not hold gives the refusal `e`. -/
def Refused (checks : List Check) (e : Refusal) : Prop :=
  ∃ before c later, checks = before ++ c :: later ∧ Granted before ∧ ¬c.holds ∧ c.refusal = e

variable {c : Check} {cs ds : List Check} {e : Refusal}

theorem granted_nil : Granted [] := fun _ h => absurd h List.not_mem_nil

theorem granted_cons : Granted (c :: cs) ↔ c.holds ∧ Granted cs := by
  unfold Granted
  rw [List.forall_mem_cons]

theorem granted_append : Granted (cs ++ ds) ↔ Granted cs ∧ Granted ds := by
  unfold Granted
  rw [List.forall_mem_append]

theorem not_refused_nil : ¬Refused [] e := by
  rintro ⟨before, c, later, h, -⟩
  cases before <;> cases h

theorem refused_cons : Refused (c :: cs) e ↔ (¬c.holds ∧ c.refusal = e) ∨ (c.holds ∧ Refused cs e) := by
  constructor
  · rintro ⟨before, d, later, h, hb, hd, he⟩
    cases before with
    | nil =>
      obtain ⟨rfl, rfl⟩ := List.cons.inj h
      exact .inl ⟨hd, he⟩
    | cons d' before =>
      obtain ⟨rfl, rfl⟩ := List.cons.inj h
      obtain ⟨hc, hb⟩ := granted_cons.mp hb
      exact .inr ⟨hc, before, d, later, rfl, hb, hd, he⟩
  · rintro (⟨hc, he⟩ | ⟨hc, before, d, later, rfl, hb, hd, he⟩)
    · exact ⟨[], c, cs, rfl, granted_nil, hc, he⟩
    · exact ⟨c :: before, d, later, rfl, granted_cons.mpr ⟨hc, hb⟩, hd, he⟩

theorem refused_append : Refused (cs ++ ds) e ↔ Refused cs e ∨ (Granted cs ∧ Refused ds e) := by
  induction cs with
  | nil => simp [not_refused_nil, granted_nil]
  | cons c cs ih =>
    rw [List.cons_append, refused_cons, refused_cons, granted_cons, ih, and_or_left, or_assoc, and_assoc]

/-- The first check that does not hold is found, unless all hold. -/
theorem granted_or_refused (cs : List Check) : Granted cs ∨ ∃ e, Refused cs e := by
  induction cs with
  | nil => exact .inl granted_nil
  | cons c cs ih =>
    by_cases hc : c.holds
    · rcases ih with ih | ⟨e, he⟩
      · exact .inl (granted_cons.mpr ⟨hc, ih⟩)
      · exact .inr ⟨e, refused_cons.mpr (.inr ⟨hc, he⟩)⟩
    · exact .inr ⟨c.refusal, refused_cons.mpr (.inl ⟨hc, rfl⟩)⟩

/-- The refusal of checks that do not all hold is one of theirs, and its check does not hold. -/
theorem Refused.exists_mem (h : Refused cs e) : ∃ c ∈ cs, ¬c.holds ∧ c.refusal = e := by
  obtain ⟨before, c, later, rfl, -, hc, he⟩ := h
  exact ⟨c, List.mem_append_right _ List.mem_cons_self, hc, he⟩

/-! ## Computations -/

section Decides

variable {α β : Type} {x : Except Refusal α} {f : α → Except Refusal β} {a : α} {b : β}

/-- A computation gives `a` where all checks hold, and else the refusal of the first that does not. -/
structure Decides (x : Except Refusal α) (checks : List Check) (a : α) : Prop where
  ok : Granted checks → x = .ok a
  error : ∀ e, Refused checks e → x = .error e

theorem Decides.pure (a : α) : Decides (.ok a) [] a :=
  ⟨fun _ => rfl, fun _ h => absurd h not_refused_nil⟩

/-- What follows has to be told only for the case that the checks before it hold. -/
theorem Decides.bind (hx : Decides x cs a) (hf : Granted cs → Decides (f a) ds b) :
    Decides (x >>= f) (cs ++ ds) b := by
  constructor
  · intro h
    obtain ⟨hc, hd⟩ := granted_append.mp h
    rw [hx.ok hc]
    exact (hf hc).ok hd
  · intro e h
    rcases refused_append.mp h with hc | ⟨hc, hd⟩
    · rw [hx.error e hc]
      rfl
    · rw [hx.ok hc]
      exact (hf hc).error e hd

/-- A check that holds may stand in front. -/
theorem Decides.passed (hc : c.holds) (hx : Decides x cs a) : Decides x (c :: cs) a := by
  constructor
  · intro h
    exact hx.ok (granted_cons.mp h).2
  · intro e h
    rcases refused_cons.mp h with ⟨hn, -⟩ | ⟨-, h⟩
    · exact absurd hc hn
    · exact hx.error e h

/-- A check in front that does not hold gives its refusal. -/
theorem Decides.failed (hc : ¬c.holds) (hx : x = .error c.refusal) : Decides x (c :: cs) a := by
  constructor
  · intro h
    exact absurd (granted_cons.mp h).1 hc
  · intro e h
    rcases refused_cons.mp h with ⟨-, rfl⟩ | ⟨h, -⟩
    · exact hx
    · exact absurd h hc

/-- A check in front of a computation. -/
theorem Decides.guard {p : Prop} [Decidable p] (hx : p → Decides x cs a) :
    Decides (if p then x else .error e) (⟨p, e⟩ :: cs) a := by
  by_cases hp : p
  · rw [if_pos hp]
    exact (hx hp).passed hp
  · rw [if_neg hp]
    exact .failed hp rfl

/-- A check that is the whole computation. -/
theorem Decides.check {p : Prop} [Decidable p] (a : α) :
    Decides (if p then .ok a else .error e) [⟨p, e⟩] a :=
  .guard fun _ => .pure a

theorem Decides.eq_ok_iff (h : Decides x cs a) {a' : α} : x = .ok a' ↔ Granted cs ∧ a' = a := by
  constructor
  · intro hx
    rcases granted_or_refused cs with hc | ⟨e, he⟩
    · rw [h.ok hc] at hx
      exact ⟨hc, (Except.ok.inj hx).symm⟩
    · rw [h.error e he] at hx
      cases hx
  · rintro ⟨hc, rfl⟩
    exact h.ok hc

theorem Decides.eq_error_iff (h : Decides x cs a) : x = .error e ↔ Refused cs e := by
  constructor
  · intro hx
    rcases granted_or_refused cs with hc | ⟨e', he⟩
    · rw [h.ok hc] at hx
      cases hx
    · rw [h.error e' he] at hx
      exact Except.error.inj hx ▸ he
  · exact h.error e

end Decides

end Check
end LoginRehearsal
