/-
**Rows with a unique key.**

A table is a list of rows whose keys are pairwise different. `rowWith key k rows` is the row with
key `k`; because keys are unique, finding a row with that key and having it in the table are the
same thing (`rowWith_eq_some_iff`), whatever the order of the rows.
-/

import Mathlib.Data.List.Nodup

namespace Keyed

variable {ρ κ : Type*} [DecidableEq κ]

/-- The first row with the given key. -/
def rowWith (key : ρ → κ) (k : κ) (rows : List ρ) : Option ρ :=
  rows.find? fun row => key row = k

/-- The keys are pairwise different. -/
def Unique (key : ρ → κ) (rows : List ρ) : Prop := (rows.map key).Nodup

instance (key : ρ → κ) (rows : List ρ) : Decidable (Unique key rows) :=
  inferInstanceAs (Decidable (List.Nodup _))

variable {key : ρ → κ} {k : κ} {row : ρ} {rows : List ρ}

theorem mem_of_rowWith (found : rowWith key k rows = some row) : row ∈ rows :=
  List.mem_of_find?_eq_some found

theorem key_of_rowWith (found : rowWith key k rows = some row) : key row = k := by
  have matched := List.find?_some found
  simpa using matched

theorem rowWith_eq_none_iff : rowWith key k rows = none ↔ ∀ row ∈ rows, key row ≠ k := by
  simp [rowWith]

omit [DecidableEq κ] in
/-- **A narrower search** that accepts the row found by a wider one finds the same row. -/
theorem find?_of_narrower {wide narrow : ρ → Bool} (narrower : ∀ row, narrow row → wide row)
    (found : rows.find? wide = some row) (accepted : narrow row) : rows.find? narrow = some row := by
  rw [List.find?_eq_some_iff_append] at found ⊢
  obtain ⟨_, before, after, isRows, noneBefore⟩ := found
  refine ⟨accepted, before, after, isRows, fun other member => ?_⟩
  have refused := noneBefore other member
  simp only [Bool.not_eq_true', Bool.eq_false_iff] at refused ⊢
  exact fun isNarrow => refused (narrower other isNarrow)

omit [DecidableEq κ] in
/-- Two rows of a keyed table with one key are one row. -/
theorem Unique.eq_of_key (unique : Unique key rows) {first second : ρ} (left : first ∈ rows)
    (right : second ∈ rows) (same : key first = key second) : first = second :=
  List.inj_on_of_nodup_map unique left right same

/-- **With unique keys, finding a row is having it.** -/
theorem Unique.rowWith_eq_some_iff (unique : Unique key rows) :
    rowWith key k rows = some row ↔ row ∈ rows ∧ key row = k := by
  constructor
  · exact fun found => ⟨mem_of_rowWith found, key_of_rowWith found⟩
  · rintro ⟨member, same⟩
    cases found : rowWith key k rows with
    | none => exact absurd same (rowWith_eq_none_iff.mp found row member)
    | some other =>
      have equal := unique.eq_of_key (mem_of_rowWith found) member
        ((key_of_rowWith found).trans same.symm)
      rw [equal]

/-- **With unique keys, the order of the rows does not matter.** -/
theorem Unique.rowWith_perm {others : List ρ} (unique : Unique key rows) (perm : others.Perm rows) :
    rowWith key k others = rowWith key k rows := by
  have othersUnique : Unique key others := ((perm.map key).nodup_iff).mpr unique
  apply Option.ext
  intro row
  rw [othersUnique.rowWith_eq_some_iff, unique.rowWith_eq_some_iff, perm.mem_iff]

/-- **With unique keys, the rows with the key of a row are that row.** -/
theorem Unique.filter_key (unique : Unique key rows) (member : row ∈ rows) :
    (rows.filter fun other => key other = key row) = [row] := by
  induction rows with
  | nil => cases member
  | cons head tail ih =>
    obtain ⟨fresh, uniqueTail⟩ := List.nodup_cons.mp unique
    rcases List.mem_cons.mp member with rfl | member
    · have others : (tail.filter fun other => key other = key row) = [] := by
        rw [List.filter_eq_nil_iff]
        intro other inTail same
        exact fresh (List.mem_map.mpr ⟨other, inTail, by simpa using same⟩)
      rw [List.filter_cons_of_pos (by simp), others]
    · have different : key head ≠ key row := fun same =>
        fresh (List.mem_map.mpr ⟨row, member, same.symm⟩)
      rw [List.filter_cons_of_neg (by simpa using different), ih uniqueTail member]

omit [DecidableEq κ] in
theorem unique_cons :
    Unique key (row :: rows) ↔ (∀ other ∈ rows, key other ≠ key row) ∧ Unique key rows := by
  simp only [Unique, List.map_cons, List.nodup_cons, List.mem_map, not_exists, not_and]

omit [DecidableEq κ] in
/-- A change of the rows that leaves every key alone leaves the keys unique. -/
theorem Unique.map {change : ρ → ρ} (unique : Unique key rows)
    (keeps : ∀ row, key (change row) = key row) : Unique key (rows.map change) := by
  have keys : (rows.map change).map key = rows.map key := by
    rw [List.map_map]
    exact List.map_congr_left fun row _ => keeps row
  rw [Unique, keys]
  exact unique

/-- And the row with a key is found where it was. -/
theorem rowWith_map (change : ρ → ρ) (keeps : ∀ row, key (change row) = key row) (k : κ)
    (rows : List ρ) : rowWith key k (rows.map change) = (rowWith key k rows).map change := by
  unfold rowWith
  rw [List.find?_map]
  have sameTest : (fun row => decide (key row = k)) ∘ change = fun row => decide (key row = k) := by
    funext row
    exact congrArg (fun found => decide (found = k)) (keeps row)
  rw [sameTest]

/-- A further row counts for its own key. -/
theorem length_filter_cons (key : ρ → κ) (k : κ) (row : ρ) (rows : List ρ) :
    ((row :: rows).filter fun other => key other = k).length =
      (rows.filter fun other => key other = k).length + if key row = k then 1 else 0 := by
  by_cases same : key row = k
  · rw [List.filter_cons_of_pos (by simpa using same), List.length_cons, if_pos same]
  · rw [List.filter_cons_of_neg (by simpa using same), if_neg same, Nat.add_zero]

end Keyed
