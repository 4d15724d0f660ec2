/-
**Bursts and windows of events.**

A history is the times of events, the latest first. A burst is a run of events with gaps shorter than
a width; the latest burst is what a counter sees that restarts after every longer gap.

* `burst` — the latest burst;
* `recent_burst` — what is recent, at a time from the latest event on, is in the latest burst;
* **`window_le_burst`** — a window of the width that holds the latest event holds at most its burst;
* **`burst_le_recent_iff`** — the burst has no more events than are recent exactly when all of it is
  recent.
-/

import Mathlib.Algebra.Order.Group.Defs
import Mathlib.Data.List.Basic

namespace Bursts

variable {α : Type*} [AddCommGroup α] [LinearOrder α]

/-- **The latest burst**: the events back to the first gap that is not shorter than the width. -/
def burst (width : α) : List α → List α
  | [] => []
  | [time] => [time]
  | time :: earlier :: rest =>
      if width ≤ time - earlier then [time] else time :: burst width (earlier :: rest)

/-- No event is later than the one before it. -/
def LatestFirst (times : List α) : Prop := times.Pairwise (· ≥ ·)

/-- The events less than the width before a time. -/
def recent (width now : α) (times : List α) : List α :=
  times.filter fun time => decide (now - time < width)

/-- The events from a time on, for the width. -/
def window (width start : α) (times : List α) : List α :=
  times.filter fun time => decide (start ≤ time ∧ time < start + width)

section Burst

variable {width time earlier now start : α} {times rest : List α}

theorem burst_of_gap (gap : width ≤ time - earlier) :
    burst width (time :: earlier :: rest) = [time] := if_pos gap

theorem burst_of_near (near : ¬ width ≤ time - earlier) :
    burst width (time :: earlier :: rest) = time :: burst width (earlier :: rest) := if_neg near

/-- A burst is the latest events. -/
theorem burst_initial (width : α) (times : List α) : burst width times <+: times := by
  induction times with
  | nil => exact List.prefix_rfl
  | cons time rest ih =>
    cases rest with
    | nil => exact List.prefix_rfl
    | cons earlier rest =>
      by_cases gap : width ≤ time - earlier
      · rw [burst_of_gap gap]
        exact ⟨_, rfl⟩
      · rw [burst_of_near gap]
        exact (List.prefix_cons_inj time).mpr ih

theorem burst_length_le (width : α) (times : List α) : (burst width times).length ≤ times.length :=
  (burst_initial width times).length_le

/-- **One event more makes a burst longer by one at most.** -/
theorem burst_cons_le (width time : α) (rest : List α) :
    (burst width (time :: rest)).length ≤ (burst width rest).length + 1 := by
  cases rest with
  | nil => exact Nat.le_refl 1
  | cons earlier rest =>
    by_cases gap : width ≤ time - earlier
    · rw [burst_of_gap gap]
      exact Nat.succ_le_succ (Nat.zero_le _)
    · rw [burst_of_near gap]
      exact Nat.le_refl _

/-! ### Recent events -/

variable [IsOrderedAddMonoid α]

theorem recent_eq_nil (latestFirst : LatestFirst (earlier :: rest))
    (old : width ≤ now - earlier) : recent width now (earlier :: rest) = [] := by
  refine List.filter_eq_nil_iff.mpr fun time member => ?_
  have notLater : time ≤ earlier := by
    rcases List.mem_cons.mp member with rfl | member
    · exact le_refl _
    · exact (List.pairwise_cons.mp latestFirst).1 time member
  simpa using old.trans (sub_le_sub_left notLater now)

/-- **What is recent is in the burst**, at any time from the latest event on. -/
theorem recent_burst (latestFirst : LatestFirst times) (after : ∀ time ∈ times, time ≤ now) :
    recent width now (burst width times) = recent width now times := by
  induction times with
  | nil => rfl
  | cons time rest ih =>
    cases rest with
    | nil => rfl
    | cons earlier rest =>
      have restFirst := (List.pairwise_cons.mp latestFirst).2
      by_cases gap : width ≤ time - earlier
      · have old : width ≤ now - earlier :=
          gap.trans (sub_le_sub_right (after time List.mem_cons_self) earlier)
        have none := recent_eq_nil restFirst old
        rw [burst_of_gap gap]
        show recent width now [time] = recent width now ([time] ++ (earlier :: rest))
        rw [recent, recent, List.filter_append]
        exact ((congrArg _ none).trans (List.append_nil _)).symm
      · rw [burst_of_near gap]
        have later := ih restFirst fun time member => after time (List.mem_cons_of_mem _ member)
        simp only [recent, List.filter_cons] at later ⊢
        rw [later]

/-- **The burst has no more events than are recent exactly when all of it is recent.** -/
theorem burst_le_recent_iff (latestFirst : LatestFirst times)
    (after : ∀ time ∈ times, time ≤ now) :
    (burst width times).length ≤ (recent width now times).length ↔
      ∀ time ∈ burst width times, now - time < width := by
  rw [← recent_burst latestFirst after]
  constructor
  · intro enough time member
    have whole : recent width now (burst width times) = burst width times :=
      List.filter_sublist.eq_of_length_le enough
    have kept := List.filter_eq_self.mp whole time member
    simpa using kept
  · intro allRecent
    have whole : recent width now (burst width times) = burst width times :=
      List.filter_eq_self.mpr fun time member => by simpa using allRecent time member
    rw [whole]

/-! ### Windows -/

/-- **A window that holds the latest event holds no more than its burst.** -/
theorem window_le_burst (latestFirst : LatestFirst (time :: rest)) (within : time < start + width) :
    (window width start (time :: rest)).length ≤ (burst width (time :: rest)).length := by
  have after : ∀ other ∈ time :: rest, other ≤ time := by
    intro other member
    rcases List.mem_cons.mp member with rfl | member
    · exact le_refl _
    · exact (List.pairwise_cons.mp latestFirst).1 other member
  have inRecent : (window width start (time :: rest)).length ≤
      (recent width time (time :: rest)).length := by
    refine (List.monotone_filter_right _ fun other isWithin => ?_).length_le
    obtain ⟨since, _⟩ : start ≤ other ∧ other < start + width := by simpa using isWithin
    have near : time - other < width := by
      refine sub_lt_iff_lt_add'.mpr (within.trans_le ?_)
      exact add_le_add_left since width
    simpa using near
  refine inRecent.trans ?_
  rw [← recent_burst latestFirst after]
  exact List.length_filter_le _ _

end Burst

end Bursts
