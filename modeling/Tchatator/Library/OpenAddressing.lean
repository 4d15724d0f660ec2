/-
**Tables with open addressing.**

A table has `size` slots, each empty or taken by an occupant; `order` gives the slots in which an
occupant may be, the first choice first, and visits each slot once. A search follows an order up to
the first slot that is empty or holds a hit.

* `Table` — the slots hold the given occupants, and no slot on the way to one is empty;
* **`search_hit`** — a search for an occupant that is there ends at its slot;
* **`search_empty`** — a search that nothing hits ends at an empty slot, when there are fewer
  occupants than slots;
* **`Table.take`** — an occupant may take the empty slot at which its search ends;
* `Table.slot_unique` — occupants with different keys are in different slots.
-/

import Mathlib.Data.List.Perm.Subperm
import Mathlib.Logic.Function.Basic

namespace OpenAddressing

variable {α : Type*}

/-! ### Searches -/

/-- The first slot of an order that is empty or holds a hit. -/
def search (slots : Nat → Option α) (hit : α → Bool) (order : List Nat) : Option Nat :=
  order.find? fun i => (slots i).all hit

/-- No slot of an order before the given one is empty. -/
def Reaches (slots : Nat → Option α) (order : List Nat) (i : Nat) : Prop :=
  ∃ passed rest, order = passed ++ i :: rest ∧ ∀ j ∈ passed, slots j ≠ none

/-- The slots hold the occupants, and each is reached by its order. -/
structure Table (size : Nat) (order : α → List Nat) (slots : Nat → Option α)
    (occupants : List α) : Prop where
  holds : ((List.range size).filterMap slots).Perm occupants
  reached : ∀ i occupant, slots i = some occupant → Reaches slots (order occupant) i

section Search

variable {size i : Nat} {order : List Nat} {slots : Nat → Option α} {hit : α → Bool}
  {occupant : α}

/-- A search stops at a slot when it stops there and nowhere before. -/
theorem search_append {passed rest : List Nat} (goesOn : ∀ j ∈ passed, (slots j).all hit = false)
    (stops : (slots i).all hit = true) : search slots hit (passed ++ i :: rest) = some i := by
  have nothingBefore : passed.find? (fun j => (slots j).all hit) = none :=
    List.find?_eq_none.mpr fun j member => by simp [goesOn j member]
  rw [search, List.find?_append, nothingBefore, Option.none_or]
  exact List.find?_cons_of_pos stops

/-- **A search ends at the only slot that holds a hit**, when it reaches it. -/
theorem search_hit (reached : Reaches slots order i) (isThere : slots i = some occupant)
    (isHit : hit occupant = true)
    (only : ∀ j other, j ∈ order → slots j = some other → hit other = true → j = i)
    (nodup : order.Nodup) : search slots hit order = some i := by
  obtain ⟨passed, rest, rfl, full⟩ := reached
  refine search_append (fun j member => ?_) (by rw [isThere]; exact isHit)
  obtain ⟨other, isOther⟩ := Option.ne_none_iff_exists'.mp (full j member)
  rw [isOther, Option.all_some, Bool.eq_false_iff]
  intro hits
  have same := only j other (List.mem_append_left _ member) isOther hits
  subst same
  exact (List.nodup_append.mp nodup).2.2 j member j List.mem_cons_self rfl

/-- Fewer occupants than slots leave a slot empty. -/
theorem exists_empty {occupants : List α}
    (holds : ((List.range size).filterMap slots).Perm occupants)
    (room : occupants.length < size) : ∃ i < size, slots i = none := by
  by_contra noneEmpty
  have full : ∀ i ∈ List.range size, (slots i).isSome = true := by
    intro i member
    by_contra empty
    exact noneEmpty ⟨i, List.mem_range.mp member, by simpa using empty⟩
  have asMany := List.filterMap_length_eq_length.mpr full
  rw [holds.length_eq, List.length_range] at asMany
  omega

/-- **A search that nothing hits ends at an empty slot.** -/
theorem search_empty (misses : ∀ j occupant, slots j = some occupant → hit occupant = false)
    (empty : ∃ i ∈ order, slots i = none) :
    ∃ i ∈ order, search slots hit order = some i ∧ slots i = none ∧ Reaches slots order i := by
  have stops : ∀ j, (slots j).all hit = true ↔ slots j = none := by
    intro j
    cases isThere : slots j with
    | none => simp
    | some occupant => simp [misses j occupant isThere]
  obtain ⟨e, member, isEmpty⟩ := empty
  have found : (search slots hit order).isSome = true :=
    List.find?_isSome.mpr ⟨e, member, (stops e).mpr isEmpty⟩
  obtain ⟨i, isFirst⟩ := Option.isSome_iff_exists.mp found
  obtain ⟨stopsThere, passed, rest, split, goesOn⟩ := List.find?_eq_some_iff_append.mp isFirst
  refine ⟨i, List.mem_of_find?_eq_some isFirst, isFirst, (stops i).mp stopsThere,
    passed, rest, split, fun j before isEmpty => ?_⟩
  have goes := goesOn j before
  simp only [(stops j).mpr isEmpty, Bool.not_true, Bool.false_eq_true] at goes

end Search

/-! ### Tables -/

section Tables

variable {size i j : Nat} {order : α → List Nat} {slots : Nat → Option α} {occupants : List α}
  {occupant other : α}

/-- A slot of an order that visits every slot of the table is one of them. -/
theorem mem_order (visits : (order occupant).Perm (List.range size)) :
    i ∈ order occupant ↔ i < size := by
  rw [visits.mem_iff, List.mem_range]

/-- The empty table. -/
theorem Table.empty (size : Nat) (order : α → List Nat) : Table size order (fun _ => none) [] := by
  refine ⟨?_, fun i occupant isThere => absurd isThere (by simp)⟩
  rw [List.filterMap_none]

/-- The occupants are in no order. -/
theorem Table.perm {others : List α} (table : Table size order slots occupants)
    (same : occupants.Perm others) : Table size order slots others :=
  ⟨table.holds.trans same, table.reached⟩

/-- What is in a slot is an occupant. -/
theorem Table.mem_occupants (table : Table size order slots occupants) (within : i < size)
    (isThere : slots i = some occupant) : occupant ∈ occupants :=
  table.holds.mem_iff.mp (List.mem_filterMap.mpr ⟨i, List.mem_range.mpr within, isThere⟩)

/-- An occupant is in a slot. -/
theorem Table.exists_slot (table : Table size order slots occupants)
    (member : occupant ∈ occupants) : ∃ i < size, slots i = some occupant := by
  obtain ⟨i, inRange, isThere⟩ := List.mem_filterMap.mp (table.holds.mem_iff.mpr member)
  exact ⟨i, List.mem_range.mp inRange, isThere⟩

/-- **Occupants with different keys are in different slots.** -/
theorem Table.slot_unique {κ : Type*} (table : Table size order slots occupants) (key : α → κ)
    (different : (occupants.map key).Nodup) (withinI : i < size) (withinJ : j < size)
    (isI : slots i = some occupant) (isJ : slots j = some other) (sameKey : key occupant = key other) :
    i = j := by
  have different : ((List.range size).filterMap slots).Pairwise fun a b => key a ≠ key b :=
    List.pairwise_map.mp ((table.holds.map key).nodup_iff.mpr different)
  rw [List.pairwise_filterMap, List.pairwise_iff_getElem] at different
  simp only [List.length_range, List.getElem_range] at different
  rcases Nat.lt_trichotomy i j with before | same | after
  · exact absurd sameKey (different i j withinI withinJ before _ isI _ isJ)
  · exact same
  · exact absurd sameKey.symm (different j i withinJ withinI after _ isJ _ isI)

/-- Filling one slot of a list of slots adds its occupant. -/
theorem filterMap_update {positions : List Nat} (nodup : positions.Nodup) (member : i ∈ positions)
    (empty : slots i = none) (occupant : α) :
    (positions.filterMap (Function.update slots i (some occupant))).Perm
      (positions.filterMap slots ++ [occupant]) := by
  obtain ⟨before, after, rfl⟩ := List.append_of_mem member
  obtain ⟨_, nodupAfter, apart⟩ := List.nodup_append.mp nodup
  have sameBefore : before.filterMap (Function.update slots i (some occupant)) =
      before.filterMap slots := by
    refine List.filterMap_congr fun j isBefore => Function.update_of_ne ?_ _ _
    exact apart j isBefore i List.mem_cons_self
  have sameAfter : after.filterMap (Function.update slots i (some occupant)) =
      after.filterMap slots := by
    refine List.filterMap_congr fun j isAfter => Function.update_of_ne ?_ _ _
    rintro rfl
    exact (List.nodup_cons.mp nodupAfter).1 isAfter
  rw [List.filterMap_append, List.filterMap_append, sameBefore,
    List.filterMap_cons_some (Function.update_self i (some occupant) slots), sameAfter,
    List.filterMap_cons_none empty, List.append_assoc]
  exact List.Perm.append_left _ (List.perm_append_singleton _ _).symm

/-- What was reached still is when a slot has been taken. -/
theorem Reaches.update {passed : List Nat} (reached : Reaches slots passed j) (i : Nat)
    (occupant : α) : Reaches (Function.update slots i (some occupant)) passed j := by
  obtain ⟨before, rest, split, full⟩ := reached
  refine ⟨before, rest, split, fun k member => ?_⟩
  by_cases isTaken : k = i
  · rw [isTaken, Function.update_self]
    exact Option.some_ne_none _
  · rw [Function.update_of_ne isTaken]
    exact full k member

/-- **An occupant takes the empty slot at which its search ends.** -/
theorem Table.take (table : Table size order slots occupants) (within : i < size)
    (empty : slots i = none) (reached : Reaches slots (order occupant) i) :
    Table size order (Function.update slots i (some occupant)) (occupants ++ [occupant]) := by
  constructor
  · have added := filterMap_update List.nodup_range (List.mem_range.mpr within) empty occupant
    exact added.trans (table.holds.append_right _)
  · intro j other isThere
    by_cases isTaken : j = i
    · subst isTaken
      rw [Function.update_self] at isThere
      obtain rfl := Option.some.inj isThere
      exact reached.update j _
    · rw [Function.update_of_ne isTaken] at isThere
      exact (table.reached j other isThere).update i occupant

/-- **In a table with room, a search that hits no occupant ends at an empty slot.** -/
theorem Table.search_room (table : Table size order slots occupants) (occupant : α)
    (visits : (order occupant).Perm (List.range size)) (room : occupants.length < size)
    {hit : α → Bool} (misses : ∀ other ∈ occupants, hit other = false)
    (outside : ∀ i, size ≤ i → slots i = none) :
    ∃ i < size, search slots hit (order occupant) = some i ∧ slots i = none ∧
      Reaches slots (order occupant) i := by
  obtain ⟨e, within, isEmpty⟩ := exists_empty table.holds room
  have missesAll : ∀ j other, slots j = some other → hit other = false := by
    intro j other isThere
    rcases Nat.lt_or_ge j size with inside | beyond
    · exact misses other (table.mem_occupants inside isThere)
    · rw [outside j beyond] at isThere
      exact absurd isThere (by simp)
  obtain ⟨i, member, found, empty, reached⟩ :=
    search_empty missesAll ⟨e, (mem_order visits).mpr within, isEmpty⟩
  exact ⟨i, (mem_order visits).mp member, found, empty, reached⟩

end Tables

end OpenAddressing
