/-!
# Keyed lists

Finite maps as lists of pairs in the order of their keys, each key once.

* `Keyed.get?`, `Keyed.insert`: look-up, and writing over an entry.
* `Keyed.merge`: writing over many entries.
* `Keyed.get?_eq_none_iff`: where nothing is found.
* `Keyed.get?_insert`, `Keyed.get?_merge`: what is found after a write, and after many.
-/
namespace LoginRehearsal

/-- Pairs of key and value in the order of the keys. -/
abbrev Keyed (κ : Type) (α : Type) := List (κ × α)

namespace Keyed

variable {κ α : Type} [DecidableEq κ] [LT κ] [DecidableLT κ]

/-- The value of a key. -/
def get? (m : Keyed κ α) (k : κ) : Option α := (m.find? (·.1 = k)).map (·.2)

/-- Writes the value of a key. -/
def insert (m : Keyed κ α) (k : κ) (v : α) : Keyed κ α :=
  match m with
  | [] => [(k, v)]
  | (k', v') :: rest =>
    if k = k' then (k, v) :: rest
    else if k < k' then (k, v) :: (k', v') :: rest
    else (k', v') :: insert rest k v

/-- Writes the entries of another map over those of the first. -/
def merge (m entries : Keyed κ α) : Keyed κ α := entries.foldl (fun m e => insert m e.1 e.2) m

omit [LT κ] [DecidableLT κ] in
@[simp] theorem get?_nil (k : κ) : get? ([] : Keyed κ α) k = none := rfl

omit [LT κ] [DecidableLT κ] in
theorem get?_cons (e : κ × α) (m : Keyed κ α) (k : κ) :
    get? (e :: m) k = if e.1 = k then some e.2 else get? m k := by
  by_cases h : e.1 = k <;> simp [get?, h]

omit [LT κ] [DecidableLT κ] in
/-- Nothing is found just where the key does not stand. -/
theorem get?_eq_none_iff {m : Keyed κ α} {k : κ} : get? m k = none ↔ k ∉ m.map (·.1) := by
  induction m with
  | nil => simp
  | cons e rest ih =>
    rw [get?_cons, List.map_cons, List.mem_cons, not_or, ← ih, eq_comm (a := k)]
    by_cases h : e.1 = k <;> simp [h]

/-- A written entry is found, and no other entry changes. -/
theorem get?_insert (m : Keyed κ α) (k k' : κ) (v : α) :
    get? (insert m k v) k' = if k = k' then some v else get? m k' := by
  induction m with
  | nil => simp [insert, get?_cons]
  | cons e rest ih =>
    obtain ⟨l, w⟩ := e
    simp only [insert]
    split
    · next h => subst h; simp only [get?_cons]; split <;> rfl
    · split
      · simp only [get?_cons]
      · next hne _ =>
        simp only [get?_cons, ih]
        by_cases hl : l = k'
        · subst hl; simp [hne]
        · simp [hl]

omit [LT κ] [DecidableLT κ] in
theorem get?_append (m m' : Keyed κ α) (k : κ) : get? (m ++ m') k = (get? m k).or (get? m' k) := by
  induction m with
  | nil => rfl
  | cons e rest ih =>
    rw [List.cons_append, get?_cons, get?_cons, ih]
    split <;> rfl

/-- After a merge the last entry of a key is found, or what was there before. -/
theorem get?_merge (m entries : Keyed κ α) (k : κ) :
    get? (merge m entries) k = (get? entries.reverse k).or (get? m k) := by
  induction entries generalizing m with
  | nil => rfl
  | cons e rest ih =>
    have hmerge : merge m (e :: rest) = merge (insert m e.1 e.2) rest := rfl
    rw [hmerge, ih, get?_insert, List.reverse_cons, get?_append, Option.or_assoc, get?_cons]
    split <;> rfl

/-- A key is missing after a merge just if it was missing on both sides. -/
theorem get?_merge_eq_none (m entries : Keyed κ α) (k : κ) :
    get? (merge m entries) k = none ↔ get? m k = none ∧ get? entries k = none := by
  rw [get?_merge, Option.or_eq_none_iff, get?_eq_none_iff, get?_eq_none_iff, List.map_reverse,
    List.mem_reverse, ← get?_eq_none_iff, and_comm]

theorem merge_append (m entries others : Keyed κ α) :
    merge m (entries ++ others) = merge (merge m entries) others :=
  List.foldl_append

end Keyed
end LoginRehearsal
