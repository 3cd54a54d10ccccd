/-!
# Cutting and joining

Lists cut at separators, and parts joined by one.

* `splitOn`: all the pieces between separators, empty ones included.
* `splitFirst?`: the parts before and after the first separator.
* `joinWith`: parts with a separator between them.
-/
namespace LoginRehearsal

/-- The pieces of a list between the members of class `p`, one more than there are such members. -/
def splitOn {α : Type} (p : α → Bool) (xs : List α) : List (List α) :=
  xs.foldr (fun x pieces =>
    if p x then [] :: pieces
    else match pieces with
      | [] => [[x]]
      | piece :: others => (x :: piece) :: others) [[]]

@[simp] theorem splitOn_nil {α : Type} (p : α → Bool) : splitOn p [] = [[]] := rfl

theorem splitOn_cons_sep {α : Type} (p : α → Bool) (x : α) (xs : List α) (h : p x = true) :
    splitOn p (x :: xs) = [] :: splitOn p xs := by
  simp [splitOn, h]

theorem splitOn_cons_other {α : Type} (p : α → Bool) (x : α) (xs : List α) (h : p x = false) :
    ∃ piece others, splitOn p xs = piece :: others ∧
      splitOn p (x :: xs) = (x :: piece) :: others := by
  cases hs : splitOn p xs with
  | nil =>
    exfalso
    cases xs with
    | nil => simp at hs
    | cons y ys =>
      simp only [splitOn, List.foldr_cons] at hs
      split at hs
      · cases hs
      · split at hs <;> cases hs
  | cons piece others =>
    refine ⟨piece, others, rfl, ?_⟩
    have : splitOn p (x :: xs) = match splitOn p xs with
      | [] => [[x]]
      | piece :: others => (x :: piece) :: others := by
      simp [splitOn, h]
    rw [this, hs]

/-- The parts before and after the first member of class `p`, if there is one. -/
def splitFirst? {α : Type} (p : α → Bool) (xs : List α) : Option (List α × List α) :=
  match xs.dropWhile (fun x => !p x) with
  | [] => none
  | _ :: rest => some (xs.takeWhile (fun x => !p x), rest)

/-- Parts joined by a separator. -/
def joinWith (separator : Char) : List (List Char) → List Char
  | [] => []
  | part :: parts => part ++ parts.flatMap (separator :: ·)

end LoginRehearsal
