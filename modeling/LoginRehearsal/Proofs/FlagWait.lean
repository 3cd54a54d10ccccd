import LoginRehearsal.Signals
import Mathlib.Data.List.Nodup

/-!
# Waiting for a flag

A waiter looks at the flag when it begins, and after that only when a change has been announced. Nothing is
lost by that: between two looks the flag is unset as far as the waiter knows (`Cell.Idle`), so the next
`set` is a change, is announced, and is found. A `clear` of the unset flag is not announced; a pulse is, and
the waiter finds the flag unset again.

* `Cell.Idle.poll_act`: what a waiter finds after one action.
* `Cell.Idle.waitFrom_ends`: how its wait ends under any schedule, by induction on it.
* `Cell.wait_sees_first_set`: what a wait answers, when it ends, and the flag that it leaves.
-/
namespace LoginRehearsal
namespace Flag

/-- Actions at so many milliseconds after a wait begins. -/
abbrev Schedule := List (Nat × FlagAction)

/-- The schedules that a wait of some length is about: everything happens after it begins, one thing at a
time, and nothing just when the timeout is over. -/
structure Schedule.Timely (timeout : Nat) (schedule : Schedule) : Prop where
  later : ∀ a ∈ schedule, 0 < a.1
  apart : (schedule.map Prod.fst).Nodup
  avoids : ∀ a ∈ schedule, a.1 ≠ timeout

theorem Schedule.Timely.eq_of_time {timeout : Nat} {schedule : Schedule} (h : schedule.Timely timeout)
    {a b : Nat × FlagAction} (ha : a ∈ schedule) (hb : b ∈ schedule) (ht : a.1 = b.1) : a = b :=
  List.inj_on_of_nodup_map h.apart ha hb ht

/-- The flag at a time under a schedule: what the last action up to then has left, or what it was if there
was none. -/
def Schedule.Leaves (schedule : Schedule) (value : Bool) (time : Nat) (flag : Bool) : Prop :=
  (∀ a ∈ schedule, a.1 ≤ time → (∀ b ∈ schedule, b.1 ≤ time → b.1 ≤ a.1) → flag = after a.2) ∧
    ((∀ a ∈ schedule, time < a.1) → flag = value)

/-- How the wait for an unset flag ends: with the first `set` before the timeout, or at the timeout. -/
inductive Ends (timeout : Nat) (schedule : Schedule) : Waited → Prop
  | set {time : Nat} (hmem : (time, .set) ∈ schedule) (hlt : time < timeout)
      (hfirst : ∀ other, (other, .set) ∈ schedule → time ≤ other) : Ends timeout schedule ⟨true, time, true⟩
  | timeout (hnone : ∀ time, (time, .set) ∈ schedule → timeout ≤ time) :
      Ends timeout schedule ⟨false, timeout, false⟩

theorem byTime_iff {a b : Nat × FlagAction} : byTime a b = true ↔ a.1 ≤ b.1 := by
  simp only [byTime, decide_eq_true_eq]

theorem byTime_trans (a b c : Nat × FlagAction) (hab : byTime a b = true) (hbc : byTime b c = true) :
    byTime a c = true := by
  rw [byTime_iff] at hab hbc ⊢
  omega

theorem byTime_total (a b : Nat × FlagAction) : (byTime a b || byTime b a) = true := by
  rw [Bool.or_eq_true, byTime_iff, byTime_iff]
  omega

theorem after_of_ne_set {a : FlagAction} (h : a ≠ .set) : after a = false := by
  cases a with
  | set => exact absurd rfl h
  | clear => rfl
  | pulse => rfl

variable {timeout : Nat} {schedule : Schedule} {w : Waited}

/-- The order of a schedule does not matter to the end. -/
theorem Ends.perm {other : Schedule} (hp : schedule.Perm other) (h : Ends timeout schedule w) :
    Ends timeout other w := by
  cases h with
  | set hmem hlt hfirst =>
    exact .set (hp.mem_iff.mp hmem) hlt fun time hm => hfirst time (hp.mem_iff.mpr hm)
  | timeout hnone => exact .timeout fun time hm => hnone time (hp.mem_iff.mpr hm)

/-- What happens first and is no `set` does not matter to the end. -/
theorem Ends.cons {time : Nat} {a : FlagAction} (ha : a ≠ .set) (h : Ends timeout schedule w) :
    Ends timeout ((time, a) :: schedule) w := by
  have hset : ∀ other, (other, FlagAction.set) ∈ (time, a) :: schedule ↔ (other, .set) ∈ schedule := by
    intro other
    simp [Ne.symm ha]
  cases h with
  | set hmem hlt hfirst =>
    exact .set ((hset _).mpr hmem) hlt fun other hm => hfirst other ((hset other).mp hm)
  | timeout hnone => exact .timeout fun other hm => hnone other ((hset other).mp hm)

theorem Ends.seen_iff (h : Ends timeout schedule w) :
    w.seen = true ↔ ∃ time < timeout, (time, .set) ∈ schedule := by
  cases h with
  | @set time hmem hlt hfirst => exact iff_of_true rfl ⟨time, hlt, hmem⟩
  | timeout hnone =>
    refine iff_of_false Bool.false_ne_true ?_
    rintro ⟨time, hlt, hmem⟩
    have hge : timeout ≤ time := hnone time hmem
    omega

theorem Ends.first_set (h : Ends timeout schedule w) (hseen : w.seen = true) :
    (w.elapsed, .set) ∈ schedule ∧ ∀ time, (time, .set) ∈ schedule → w.elapsed ≤ time := by
  cases h with
  | set hmem hlt hfirst => exact ⟨hmem, hfirst⟩
  | timeout hnone => cases hseen

theorem Ends.timed_out (h : Ends timeout schedule w) (hseen : w.seen = false) :
    w.elapsed = timeout ∧ w.flag = false := by
  cases h with
  | set hmem hlt hfirst => cases hseen
  | timeout hnone => exact ⟨rfl, rfl⟩

/-- Nothing but a `set` is done at the moment when a wait ends. -/
theorem Ends.elapsed_ne (hs : schedule.Timely timeout) (h : Ends timeout schedule w) {a : Nat × FlagAction}
    (ha : a ∈ schedule) (hother : a.2 ≠ .set) : w.elapsed ≠ a.1 := by
  cases h with
  | set hmem hlt hfirst =>
    intro htime
    have heq := hs.eq_of_time hmem ha htime
    rw [← heq] at hother
    exact hother rfl
  | timeout hnone => exact Ne.symm (hs.avoids a ha)

/-- The end tells the flag: a `set` that ends the wait was done last, and without one before the timeout the
flag has stayed unset. -/
theorem Ends.leaves (hs : schedule.Timely timeout) (h : Ends timeout schedule w) :
    schedule.Leaves false w.elapsed w.flag := by
  cases h with
  | @set time hmem hlt hfirst =>
    constructor
    · intro a ha hle hlast
      have hge : time ≤ a.1 := hlast _ hmem (Nat.le_refl time)
      have heq : a = (time, .set) := hs.eq_of_time ha hmem (Nat.le_antisymm hle hge)
      rw [heq]
      rfl
    · intro hall
      exact absurd (hall _ hmem) (Nat.lt_irrefl time)
  | timeout hnone =>
    constructor
    · intro a ha hle _
      have hother : a.2 ≠ .set := by
        intro hset
        have hge : timeout ≤ a.1 := hnone a.1 (by rw [← hset]; exact ha)
        exact hs.avoids a ha (Nat.le_antisymm hle hge)
      exact (after_of_ne_set hother).symm
    · intro _
      rfl

namespace Cell

variable {c : Cell} {known : Nat}

/-! ## One action -/

@[simp] theorem value_act (c : Cell) (a : FlagAction) : (c.act a).value = after a := by
  cases a <;> rfl

/-- A waiter that goes on waiting: the flag is unset, and no change has been announced since it looked. -/
structure Idle (c : Cell) (known : Nat) : Prop where
  unset : c.value = false
  current : c.announced = known

theorem look_of_set (h : c.value = true) : c.look = .found := by
  simp [look, h]

theorem look_of_unset (h : c.value = false) : c.look = .waiting c.announced := by
  simp [look, h]

/-- Without news a waiter does not look. -/
theorem poll_of_current (h : c.announced = known) : c.poll known = .waiting known := by
  simp [poll, h]

theorem poll_of_news (h : c.announced ≠ known) : c.poll known = c.look := by
  simp [poll, h]

/-- A `set` is found, and after anything else the waiter is idle again, whether it has been woken up for it
or not. -/
theorem Idle.poll_act (h : c.Idle known) (a : FlagAction) :
    (a = .set ∧ (c.act a).poll known = .found) ∨
    (a ≠ .set ∧ ∃ known', (c.act a).poll known = .waiting known' ∧ (c.act a).Idle known') := by
  obtain ⟨hunset, hcurrent⟩ := h
  cases a with
  | set =>
    left
    have hannounced : (c.act .set).announced = known + 1 := by
      simp [act, Cell.set, modify, hunset, hcurrent]
    have hnews : (c.act .set).announced ≠ known := by omega
    refine ⟨rfl, ?_⟩
    rw [poll_of_news hnews, look_of_set (value_act c .set)]
  | clear =>
    right
    have hannounced : (c.act .clear).announced = known := by
      simp [act, clear, modify, hunset, hcurrent]
    exact ⟨by decide, known, poll_of_current hannounced, value_act c .clear, hannounced⟩
  | pulse =>
    right
    -- announced twice: once when it was set, once when that was taken back
    have hannounced : (c.act .pulse).announced = known + 2 := by
      simp [act, Cell.set, clear, modify, hunset, hcurrent]
    have hnews : (c.act .pulse).announced ≠ known := by omega
    refine ⟨by decide, (c.act .pulse).announced, ?_, value_act c .pulse, rfl⟩
    rw [poll_of_news hnews, look_of_unset (value_act c .pulse)]

/-- When the timeout is over, an idle waiter has found nothing, and the flag is still unset. -/
theorem Idle.expire_eq (h : c.Idle known) (timeout : Nat) : c.expire timeout known = ⟨false, timeout, false⟩ := by
  simp [expire, poll_of_current h.current, h.unset]

/-! ## A whole wait -/

/-- The wait of an idle waiter, under a schedule in the order of its times. -/
theorem Idle.waitFrom_ends (h : c.Idle known) (hsorted : schedule.Pairwise fun a b => a.1 ≤ b.1) :
    Ends timeout schedule (waitFrom timeout c known schedule) := by
  induction schedule generalizing c known with
  | nil =>
    rw [waitFrom, h.expire_eq]
    exact .timeout fun time hm => absurd hm List.not_mem_nil
  | cons first rest ih =>
    obtain ⟨time, a⟩ := first
    obtain ⟨hfirst, hrest⟩ := List.pairwise_cons.mp hsorted
    rw [waitFrom]
    by_cases ht : timeout ≤ time
    · -- what comes later in the list comes later in time, too
      rw [if_pos ht, h.expire_eq]
      refine .timeout fun other hm => ?_
      rcases List.mem_cons.mp hm with heq | hm
      · cases heq
        exact ht
      · exact Nat.le_trans ht (hfirst _ hm)
    · rw [if_neg ht]
      rcases h.poll_act a with ⟨rfl, hpoll⟩ | ⟨ha, known', hpoll, hidle⟩
      · simp only [hpoll, value_act]
        refine .set List.mem_cons_self (Nat.lt_of_not_le ht) fun other hm => ?_
        rcases List.mem_cons.mp hm with heq | hm
        · cases heq
          exact Nat.le_refl time
        · exact hfirst _ hm
      · simp only [hpoll]
        exact (ih hidle hrest).cons ha

/-- The wait for a flag that is unset when it begins. -/
theorem wait_ends (h : c.value = false) (timeout : Nat) (schedule : Schedule) :
    Ends timeout schedule (c.wait timeout schedule) := by
  have hsorted : (schedule.mergeSort byTime).Pairwise fun a b => a.1 ≤ b.1 :=
    (List.pairwise_mergeSort byTime_trans byTime_total schedule).imp byTime_iff.mp
  have hidle : c.Idle c.announced := ⟨h, rfl⟩
  rw [wait, look_of_unset h]
  exact (hidle.waitFrom_ends hsorted).perm (List.mergeSort_perm _ _)

/-- The wait for a flag that is set when it begins. -/
theorem wait_of_set (h : c.value = true) (timeout : Nat) (schedule : Schedule) :
    c.wait timeout schedule = ⟨true, 0, true⟩ := by
  simp [wait, look_of_set h, h]

/-- A wait under any schedule of actions at different times. It answers whether the flag is set when it begins
or there is a `set` before the timeout; it ends at once in the first case, with the first such `set` in the
second, and at the timeout otherwise. Nothing but a `set` ends it early, the flag is unset after a wait that
answers no, and it is always what the last action has left. -/
theorem wait_sees_first_set (c : Cell) (hs : schedule.Timely timeout) :
    let w := c.wait timeout schedule
    (w.seen = true ↔ c.value = true ∨ ∃ time < timeout, (time, .set) ∈ schedule) ∧
    (c.value = true → w.elapsed = 0) ∧
    (c.value = false → w.seen = true → (w.elapsed, .set) ∈ schedule ∧
      ∀ time, (time, .set) ∈ schedule → w.elapsed ≤ time) ∧
    (w.seen = false → w.elapsed = timeout ∧ w.flag = false) ∧
    (∀ a ∈ schedule, a.2 ≠ .set → w.elapsed ≠ a.1) ∧
    schedule.Leaves c.value w.elapsed w.flag := by
  intro w
  cases hvalue : c.value with
  | true =>
    have hw : w = ⟨true, 0, true⟩ := wait_of_set hvalue timeout schedule
    have hlater : ∀ a ∈ schedule, 0 < a.1 := hs.later
    rw [hw]
    refine ⟨by simp, fun _ => rfl, by simp, by simp, ?_, ?_, fun _ => rfl⟩
    · intro a ha _
      exact Nat.ne_of_lt (hlater a ha)
    · intro a ha hle
      exact absurd (hlater a ha) (Nat.not_lt.mpr hle)
  | false =>
    have hends : Ends timeout schedule w := wait_ends hvalue timeout schedule
    refine ⟨?_, by simp, fun _ => hends.first_set, hends.timed_out, fun a ha => hends.elapsed_ne hs ha,
      hends.leaves hs⟩
    rw [hends.seen_iff]
    simp

/-- A pulse and a needless `clear` go by, and the wait ends with the `set` behind them. -/
theorem wait_sees_first_set_after_pulse :
    let c : Cell := ⟨false, 3⟩
    let schedule : Schedule := [(9, .clear), (4, .pulse), (7, .set), (5, .clear), (8, .set)]
    schedule.Timely 10 ∧ (c.wait 10 schedule).seen = true ∧ (c.wait 10 schedule).elapsed = 7 ∧
      (c.wait 10 schedule).flag = true := by
  intro c schedule
  have hs : schedule.Timely 10 := ⟨by decide, by decide, by decide⟩
  obtain ⟨hseen, -, hfirst, -, -, hleaves, -⟩ := wait_sees_first_set c hs
  have htrue : (c.wait 10 schedule).seen = true := hseen.mpr (.inr ⟨7, by decide, by decide⟩)
  obtain ⟨hmem, hle⟩ := hfirst rfl htrue
  have helapsed : (c.wait 10 schedule).elapsed = 7 := by
    have hseven : (c.wait 10 schedule).elapsed ≤ 7 := hle 7 (by decide)
    generalize (c.wait 10 schedule).elapsed = elapsed at hmem hseven
    simp only [schedule, List.mem_cons, Prod.mk.injEq, reduceCtorEq, and_false, and_true, List.not_mem_nil,
      or_false, false_or] at hmem
    omega
  refine ⟨hs, htrue, helapsed, ?_⟩
  rw [helapsed] at hleaves
  exact hleaves (7, .set) (by decide) (Nat.le_refl 7) (by decide)

end Cell
end Flag
end LoginRehearsal
