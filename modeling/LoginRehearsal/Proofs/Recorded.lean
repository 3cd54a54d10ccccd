import Mathlib.Data.List.Basic
import Mathlib.Data.List.Induction

/-!
# Runs that are written down

A system goes from state to state by events, and of every event something is written down, the latest first.
What a state has come to is then told by what is written.

* `Recorded.run`: a state that events lead to, with what is written down on the way.
* `Recorded.run_induction`: what holds at the beginning and is kept by every event holds after any run.
* `Recorded.history_suffix`: nothing that was written is ever changed.
-/
namespace LoginRehearsal

/-- A state and what has been written down on the way to it. -/
structure Recorded (σ τ : Type) where
  state : σ
  history : List τ

namespace Recorded

variable {σ ε τ : Type} {step : σ → ε → τ × σ} {start : σ}

/-- One more event. -/
def next (step : σ → ε → τ × σ) (x : Recorded σ τ) (event : ε) : Recorded σ τ :=
  ⟨(step x.state event).2, (step x.state event).1 :: x.history⟩

/-- The events of a list, the first one first. -/
def run (step : σ → ε → τ × σ) (start : σ) (events : List ε) : Recorded σ τ :=
  events.foldl (next step) ⟨start, []⟩

theorem run_concat (events : List ε) (event : ε) :
    run step start (events ++ [event]) = next step (run step start events) event :=
  List.foldl_concat (next step) ⟨start, []⟩ event events

theorem run_induction {motive : Recorded σ τ → Prop} (events : List ε) (begins : motive ⟨start, []⟩)
    (keeps : ∀ x event, motive x → motive (next step x event)) : motive (run step start events) := by
  induction events using List.reverseRecOn with
  | nil => exact begins
  | append_singleton events event ih =>
    rw [run_concat]
    exact keeps _ event ih

theorem history_suffix (events later : List ε) :
    (run step start events).history <:+ (run step start (events ++ later)).history := by
  induction later using List.reverseRecOn with
  | nil =>
    refine ⟨[], ?_⟩
    rw [List.append_nil, List.nil_append]
  | append_singleton later event ih =>
    rw [← List.append_assoc, run_concat]
    exact ih.trans (List.suffix_cons _ _)

end Recorded
end LoginRehearsal
