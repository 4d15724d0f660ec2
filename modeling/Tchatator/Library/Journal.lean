/-
**Journals.**

A table whose rows have serial numbers is kept as a journal: new rows come in front, each with a
number that was not given before, and a row that is there is at most changed in some way that keeps
its number.

* `Grows` — a journal after some time;
* `Grows.refl`, `Grows.push`, `Grows.change` — what one operation does;
* **`Grows.trans`** — and a sequence of them;
* `Grows.kept` — no row is lost.
-/

import Mathlib.Algebra.Order.Group.Int
import Mathlib.Data.List.Forall2

namespace Journal

variable {ρ : Type*} {changes : ρ → ρ → Prop} {serial : ρ → Int} {low middle high : Int}
  {before between after : List ρ}

/-- **A journal grows**, while the numbers from `low` to `high` are given. -/
def Grows (changes : ρ → ρ → Prop) (serial : ρ → Int) (low high : Int) (before after : List ρ) :
    Prop :=
  ∃ fresh kept, after = fresh ++ kept ∧ List.Forall₂ changes before kept ∧
    (∀ row ∈ fresh, low < serial row ∧ serial row ≤ high) ∧
    fresh.Pairwise fun newer older => serial older < serial newer

theorem Grows.refl (keeps : ∀ row, changes row row) (low high : Int) (rows : List ρ) :
    Grows changes serial low high rows rows :=
  ⟨[], rows, rfl, List.forall₂_same.mpr fun row _ => keeps row, nofun, .nil⟩

/-- A row is added in front. -/
theorem Grows.push (keeps : ∀ row, changes row row) {row : ρ} (isNew : low < serial row)
    (given : serial row ≤ high) (rows : List ρ) :
    Grows changes serial low high rows (row :: rows) :=
  ⟨[row], rows, rfl, List.forall₂_same.mpr fun row _ => keeps row,
    fun _ member => List.mem_singleton.mp member ▸ ⟨isNew, given⟩, List.pairwise_singleton _ _⟩

/-- The rows are changed. -/
theorem Grows.change {update : ρ → ρ} (low high : Int)
    (updates : ∀ row ∈ before, changes row (update row)) :
    Grows changes serial low high before (before.map update) := by
  refine ⟨[], before.map update, rfl, ?_, nofun, .nil⟩
  rw [List.forall₂_map_right_iff]
  exact List.forall₂_same.mpr updates

/-- Rows that correspond to two parts are two parts. -/
theorem forall₂_append {first second rows : List ρ}
    (corresponds : List.Forall₂ changes (first ++ second) rows) :
    ∃ newFirst newSecond, rows = newFirst ++ newSecond ∧ List.Forall₂ changes first newFirst ∧
      List.Forall₂ changes second newSecond := by
  induction first generalizing rows with
  | nil => exact ⟨[], rows, rfl, .nil, corresponds⟩
  | cons row first ih =>
    obtain ⟨new, rest, changed, later, rfl⟩ := List.forall₂_cons_left_iff.mp corresponds
    obtain ⟨newFirst, newSecond, rfl, forFirst, forSecond⟩ := ih later
    exact ⟨new :: newFirst, newSecond, rfl, .cons changed forFirst, forSecond⟩

/-- Rows that correspond have the same numbers. -/
theorem map_serial {old new : List ρ}
    (keepsSerial : ∀ row changed, changes row changed → serial changed = serial row)
    (corresponds : List.Forall₂ changes old new) : new.map serial = old.map serial := by
  induction corresponds with
  | nil => rfl
  | cons changed _ ih => rw [List.map_cons, List.map_cons, ih, keepsSerial _ _ changed]

/-- Changes of corresponding rows compose. -/
theorem forall₂_trans {old once twice : List ρ}
    (composes : ∀ row once twice, changes row once → changes once twice → changes row twice)
    (first : List.Forall₂ changes old once) (second : List.Forall₂ changes once twice) :
    List.Forall₂ changes old twice := by
  induction first generalizing twice with
  | nil => exact second
  | cons changed _ ih =>
    obtain ⟨new, rest, changedAgain, later, rfl⟩ := List.forall₂_cons_left_iff.mp second
    exact .cons (composes _ _ _ changed changedAgain) (ih later)

/-- A row corresponds to another. -/
theorem exists_of_forall₂ {old new : List ρ} (corresponds : List.Forall₂ changes old new) {row : ρ}
    (member : row ∈ old) : ∃ changed ∈ new, changes row changed := by
  induction corresponds with
  | nil => cases member
  | cons changed _ ih =>
    rcases List.mem_cons.mp member with rfl | later
    · exact ⟨_, List.mem_cons_self, changed⟩
    · obtain ⟨other, inNew, isChanged⟩ := ih later
      exact ⟨other, List.mem_cons_of_mem _ inNew, isChanged⟩

/-- **A journal that grows twice grows.** -/
theorem Grows.trans (keepsSerial : ∀ row changed, changes row changed → serial changed = serial row)
    (composes : ∀ row once twice, changes row once → changes once twice → changes row twice)
    (lowest : low ≤ middle) (highest : middle ≤ high)
    (first : Grows changes serial low middle before between)
    (second : Grows changes serial middle high between after) :
    Grows changes serial low high before after := by
  obtain ⟨fresh, kept, rfl, corresponds, numbers, descending⟩ := first
  obtain ⟨newest, rest, rfl, later, newNumbers, newDescending⟩ := second
  obtain ⟨fresh', kept', rfl, freshLater, keptLater⟩ := forall₂_append later
  have sameNumbers := map_serial keepsSerial freshLater
  have numbers' : ∀ row ∈ fresh', low < serial row ∧ serial row ≤ middle := by
    intro row member
    have inNumbers : serial row ∈ fresh.map serial := sameNumbers ▸ List.mem_map_of_mem member
    obtain ⟨old, isFresh, sameNumber⟩ := List.mem_map.mp inNumbers
    rw [← sameNumber]
    exact numbers old isFresh
  refine ⟨newest ++ fresh', kept', (List.append_assoc _ _ _).symm, ?_, ?_, ?_⟩
  · exact forall₂_trans composes corresponds keptLater
  · intro row member
    rcases List.mem_append.mp member with isNewest | isFresh
    · exact ⟨lt_of_le_of_lt lowest (newNumbers row isNewest).1, (newNumbers row isNewest).2⟩
    · exact ⟨(numbers' row isFresh).1, (numbers' row isFresh).2.trans highest⟩
  · have ordered : (fresh.map serial).Pairwise fun newer older => older < newer :=
      List.pairwise_map.mpr descending
    rw [← sameNumbers] at ordered
    refine List.pairwise_append.mpr ⟨newDescending, List.pairwise_map.mp ordered, ?_⟩
    intro newer isNewest older isFresh
    exact lt_of_le_of_lt (numbers' older isFresh).2 (newNumbers newer isNewest).1

/-- **No row is lost.** -/
theorem Grows.kept (grows : Grows changes serial low high before after) {row : ρ}
    (member : row ∈ before) : ∃ changed ∈ after, changes row changed := by
  obtain ⟨fresh, kept, rfl, corresponds, _⟩ := grows
  obtain ⟨changed, isKept, isChanged⟩ := exists_of_forall₂ corresponds member
  exact ⟨changed, List.mem_append_right _ isKept, isChanged⟩

end Journal
