/-
**Memory lists on the growing arrays of `stb_ds.h`.**

* `ArrayBlock.Valid` — a block is as its header says, holds the given elements, and has a capacity
  that growing gives;
* `arrput_spec`, `arrread_spec` — putting appends, reading returns, and neither leaves the block;
* **`memlstRun_dynArray`** — every sequence of calls does on the growing array what it does on the
  list of its elements: the same results, destructors and failed assertions, and no fault of memory;
* `spare` — twice the length, less the capacity: what has been saved for the next move;
* **`moved_le`** — all the moves of a run together copy at most two cells for each pointer added.
-/

import Mathlib.Algebra.Group.Nat.Even
import Mathlib.Data.List.Basic
import Tchatator.Model.DynArray
import Tchatator.Proof.Memlst

namespace Tchatator.Stbds

variable {α : Type}

/-! ### Arrays -/

/-- **The block is as its header says** and holds the elements. -/
structure ArrayBlock.Valid (block : ArrayBlock α) (elements : List α) : Prop where
  allocated : block.cells.length = block.capacity
  length : block.length = elements.length
  stored : ∀ i (within : i < elements.length), block.cells[i]? = some (some elements[i])
  doubled : ∃ k, block.capacity = 4 * 2 ^ k

/-- An array holds a list of elements; null, that of a null list. -/
def Represents : DynArray α → Option (List α) → Prop := Option.Rel ArrayBlock.Valid

section

variable {block : ArrayBlock α} {elements : List α} {array : DynArray α} {list : Option (List α)}

/-- The elements are within the block. -/
theorem ArrayBlock.Valid.length_le (valid : block.Valid elements) :
    elements.length ≤ block.capacity := by
  rcases Nat.eq_zero_or_pos elements.length with isEmpty | positive
  · omega
  · have last := valid.stored (elements.length - 1) (by omega)
    have within := (List.getElem?_eq_some_iff.mp last).1
    have allocated := valid.allocated
    omega

theorem ArrayBlock.Valid.four_le (valid : block.Valid elements) : 4 ≤ block.capacity := by
  obtain ⟨k, isCapacity⟩ := valid.doubled
  have := Nat.two_pow_pos k
  omega

@[simp]
theorem reallocCells_length (cells : List (Option α)) {count : Nat} (larger : cells.length ≤ count) :
    (reallocCells cells count).length = count := by
  rw [reallocCells, List.length_append, List.length_take, List.length_replicate]
  omega

/-- What is moved to a larger block is there. -/
theorem reallocCells_getElem? {cells : List (Option α)} {count i : Nat}
    (larger : cells.length ≤ count) (within : i < cells.length) :
    (reallocCells cells count)[i]? = cells[i]? := by
  rw [reallocCells, List.take_of_length_le larger, List.getElem?_append_left within]

/-- A block with room for one more element, after `stbds_arrmaybegrow`. -/
theorem arrmaybegrow_spec (represents : Represents array list) :
    ∃ block, arrmaybegrow array 1 = some block ∧ block.Valid (arrElements list) ∧
      block.length < block.capacity ∧
      (block.capacity = arrcap array ∨
        arrcap array = arrlenu array ∧ block.capacity = max 4 (2 * arrcap array)) := by
  cases represents with
  | none => exact ⟨_, rfl, ⟨rfl, rfl, fun i within => absurd within (Nat.not_lt_zero i), 0, rfl⟩,
      Nat.zero_lt_succ 3, .inr ⟨rfl, rfl⟩⟩
  | @some block elements valid =>
    by_cases full : block.capacity < block.length + 1
    · have fits := valid.length_le
      have atLeast := valid.four_le
      have length := valid.length
      have isFull : block.length = block.capacity := by omega
      have grown : arrmaybegrow (some block) 1 = some { block with
          capacity := 2 * block.capacity
          cells := reallocCells block.cells (2 * block.capacity) } := by
        simp only [arrmaybegrow, if_pos full, arrgrowf, arrlenu, arrcap, Nat.zero_lt_succ, if_true,
          if_neg (show ¬ block.length + 1 ≤ block.capacity by omega), increasedCapacity,
          if_pos (show block.length + 1 < 2 * block.capacity by omega)]
      have larger : block.cells.length ≤ 2 * block.capacity := by
        rw [valid.allocated]
        omega
      refine ⟨_, grown, ⟨reallocCells_length _ larger, length, ?_, ?_⟩, ?_,
        .inr ⟨isFull.symm, ?_⟩⟩
      · intro i within
        have isElement := valid.stored i within
        exact (reallocCells_getElem? larger (List.getElem?_eq_some_iff.mp isElement).1).trans isElement
      · obtain ⟨k, isCapacity⟩ := valid.doubled
        refine ⟨k + 1, ?_⟩
        show 2 * block.capacity = _
        rw [isCapacity, Nat.pow_succ]
        omega
      · show block.length < 2 * block.capacity
        omega
      · show 2 * block.capacity = max 4 (2 * block.capacity)
        omega
    · exact ⟨block, by simp only [arrmaybegrow, if_neg full], valid, by omega, .inl rfl⟩

/-- **Putting an element appends it**, within the block. -/
theorem arrput_spec (represents : Represents array list) (element : α) :
    ∃ after, arrput array element = .ok after ∧
      Represents after (Tchatator.arrput list element) ∧
      arrlenu after = arrlenu array + 1 ∧
      (arrcap after = arrcap array ∨
        arrcap array = arrlenu array ∧ arrcap after = max 4 (2 * arrcap array)) := by
  have length : arrlenu array = (arrElements list).length := by
    cases represents with
    | none => rfl
    | some valid => exact valid.length
  obtain ⟨block, grown, valid, room, capacity⟩ := arrmaybegrow_spec represents
  have inside : block.length < block.cells.length := by rwa [valid.allocated]
  have stored : arrput array element = .ok (some { block with
      length := block.length + 1
      cells := block.cells.set block.length (some element) }) := by
    simp only [arrput, grown, if_pos inside]
  refine ⟨_, stored, .some ⟨?_, ?_, ?_, valid.doubled⟩, ?_, capacity⟩
  · show (block.cells.set block.length (some element)).length = block.capacity
    rw [List.length_set, valid.allocated]
  · rw [List.length_append, List.length_singleton]
    exact congrArg Nat.succ valid.length
  · intro i within
    show (block.cells.set block.length (some element))[i]? = _
    rcases Nat.lt_or_ge i (arrElements list).length with before | atEnd
    · rw [List.getElem?_set_ne (by rw [valid.length]; omega), List.getElem_append_left before]
      exact valid.stored i before
    · have isLast : i = block.length := by
        rw [List.length_append, List.length_singleton] at within
        rw [valid.length]
        omega
      subst isLast
      rw [List.getElem?_set_self inside, List.getElem_append_right atEnd]
      simp
  · show block.length + 1 = _
    rw [valid.length, length]

/-- **Reading an element returns it.** -/
theorem arrread_spec (represents : Represents array list) {i : Nat}
    (within : i < (arrElements list).length) : arrread array i = .ok (arrElements list)[i] := by
  cases represents with
  | none => exact absurd within (Nat.not_lt_zero i)
  | some valid =>
    simp only [arrread, valid.stored i within]
    rfl

theorem arrlenu_spec (represents : Represents array list) :
    arrlenu array = (arrElements list).length := by
  cases represents with
  | none => rfl
  | some valid => exact valid.length

/-- Emptying an array keeps its block. -/
theorem arrsetlen_zero_spec (represents : Represents array list) :
    Represents (arrsetlen array 0) (Tchatator.arrsetlen list 0) ∧
      arrcap (arrsetlen array 0) = arrcap array ∧ arrlenu (arrsetlen array 0) = 0 := by
  cases represents with
  | none => exact ⟨.none, rfl, rfl⟩
  | some valid =>
    exact ⟨.some ⟨valid.allocated, rfl, fun i within => absurd within (Nat.not_lt_zero i),
      valid.doubled⟩, rfl, rfl⟩

end

/-! ### Memory lists -/

section

variable {π δ : Type}

/-- The elements of an array; null if it is null. -/
def contents (array : DynArray α) : Option (List α) :=
  array.map fun block => (block.cells.take block.length).filterMap id

theorem contents_of_represents {array : DynArray α} {list : Option (List α)}
    (represents : Represents array list) : contents array = list := by
  cases represents with
  | none => rfl
  | @some block elements valid =>
    have fits := valid.length_le
    have stored : block.cells.take block.length = elements.map some := by
      refine List.ext_getElem? fun i => ?_
      rw [List.getElem?_take, valid.length, List.getElem?_map]
      split
      · next within => rw [valid.stored i within, List.getElem?_eq_getElem within]; rfl
      · next beyond => rw [List.getElem?_eq_none (Nat.not_lt.mp beyond)]; rfl
    rw [contents, Option.map_some, stored, List.filterMap_map]
    exact congrArg some List.filterMap_some

/-- A call on an array, as a call on the list of its elements. -/
def MemlstArrayStep.onList (step : MemlstArrayStep π δ) : MemlstStep π δ :=
  ⟨step.returned, step.called, contents step.after⟩

/-- A run after a call that does on the array what it does on the list. -/
theorem map_cons_onList {step : MemlstArrayStep π δ} {abstract : MemlstStep π δ}
    {steps : Except ArrayFault (List (MemlstArrayStep π δ))}
    {abstracts : Except Fault (List (MemlstStep π δ))} (isFirst : step.onList = abstract)
    (others : steps.map (List.map MemlstArrayStep.onList) = abstracts.mapError ArrayFault.fault) :
    (steps.map (step :: ·)).map (List.map MemlstArrayStep.onList) =
      (abstracts.map (abstract :: ·)).mapError ArrayFault.fault := by
  cases steps with
  | error fault =>
    cases abstracts with
    | error _ => exact others
    | ok _ => cases others
  | ok steps =>
    cases abstracts with
    | error _ => cases others
    | ok abstracts =>
      obtain rfl : steps.map MemlstArrayStep.onList = abstracts := Except.ok.inj others
      rw [← isFirst]
      rfl

/-- Reading some cells in a row. -/
theorem mapM_range' (read : Nat → Except ArrayFault α) (elements : List α) (start : Nat)
    (reads : ∀ i (within : i < elements.length), read (start + i) = .ok elements[i]) :
    (List.range' start elements.length).mapM read = .ok elements := by
  induction elements generalizing start with
  | nil => rfl
  | cons element elements ih =>
    have first : read start = .ok element := reads 0 (Nat.zero_lt_succ _)
    have others : (List.range' (start + 1) elements.length).mapM read = .ok elements := by
      refine ih (start + 1) fun i within => ?_
      rw [Nat.add_assoc, Nat.add_comm 1 i]
      exact reads (i + 1) (Nat.succ_lt_succ within)
    rw [List.length_cons, List.range'_succ, List.mapM_cons, first, others]
    rfl

/-- **The loop of `memlst_collect` reads the elements.** -/
theorem collectEntries_spec {memlst : MemlstArray π δ} {list : Memlst π δ}
    (represents : Represents memlst list) : collectEntries memlst = .ok (arrElements list) := by
  rw [collectEntries, List.range_eq_range', arrlenu_spec represents]
  refine mapM_range' _ _ 0 fun i within => ?_
  rw [Nat.zero_add]
  exact arrread_spec represents within

theorem memlstCollect_spec {memlst : MemlstArray π δ} {list : Memlst π δ}
    (represents : Represents memlst list) :
    memlstCollect memlst = .ok (arrElements list, arrsetlen memlst 0) := by
  rw [memlstCollect, collectEntries_spec represents]
  rfl

/-! ### Moves -/

/-- The cells that the move of an array to a larger block copies. -/
def moved (before after : DynArray α) : Nat :=
  if arrcap before < arrcap after then arrcap before else 0

/-- What has been saved for the next move. -/
def spare (array : DynArray α) : Nat := 2 * arrlenu array - arrcap array

/-- What a call adds. -/
def added (op : MemlstOp π δ) : Nat := op.addition?.toList.length

/-- **A move is paid by what has been saved.** -/
theorem moved_arrput {array after : DynArray α} (length : arrlenu after = arrlenu array + 1)
    (capacity : arrcap after = arrcap array ∨
      arrcap array = arrlenu array ∧ arrcap after = max 4 (2 * arrcap array)) :
    moved array after + spare after ≤ spare array + 2 := by
  rw [moved, spare, spare, length]
  split <;> omega

/-- The cells that the moves of a run copy. -/
def movedInRun (memlst : MemlstArray π δ) : List (MemlstArrayStep π δ) → Nat
  | [] => 0
  | step :: steps => moved memlst step.after + movedInRun step.after steps

/-! ### Calls -/

variable [DecidableEq π]

theorem assertNew_range' {memlst : MemlstArray π δ} (entries : List (MemlstEntry π δ)) (start : Nat)
    (ptr : Option π)
    (reads : ∀ i (within : i < entries.length), arrread memlst (start + i) = .ok entries[i]) :
    assertNew memlst ptr (List.range' start entries.length) =
      if ∀ entry ∈ entries, entry.ptr ≠ ptr then .ok () else .error (.fault .assertion) := by
  induction entries generalizing start with
  | nil => simp [assertNew]
  | cons entry entries ih =>
    have first : arrread memlst start = .ok entry := reads 0 (Nat.zero_lt_succ _)
    rw [List.length_cons, List.range'_succ, assertNew, first]
    simp only [List.forall_mem_cons]
    by_cases same : entry.ptr = ptr
    · rw [if_neg (not_not_intro same), if_neg fun new => new.1 same]
    · rw [if_pos same]
      simp only [ne_eq, same, not_false_eq_true, true_and]
      refine ih (start + 1) fun i within => ?_
      rw [Nat.add_assoc, Nat.add_comm 1 i]
      exact reads (i + 1) (Nat.succ_lt_succ within)

/-- **The loop of `memlst_add` looks at the elements.** -/
theorem assertNew_spec {memlst : MemlstArray π δ} {list : Memlst π δ}
    (represents : Represents memlst list) (ptr : Option π) :
    assertNew memlst ptr (List.range (arrlenu memlst)) =
      if ∀ entry ∈ arrElements list, entry.ptr ≠ ptr then .ok ()
      else .error (.fault .assertion) := by
  rw [List.range_eq_range', arrlenu_spec represents]
  refine assertNew_range' _ 0 ptr fun i within => ?_
  rw [Nat.zero_add]
  exact arrread_spec represents within

/-- **A call on an array does what it does on the list**, and its move is paid. -/
theorem memlstStep_spec {memlst : MemlstArray π δ} {list : Memlst π δ}
    (represents : Represents memlst list) (op : MemlstOp π δ) :
    (∃ fault, memlstStep memlst op = .error (.fault fault) ∧
      Tchatator.memlstStep list op = .error fault) ∨
    ∃ step abstract, memlstStep memlst op = .ok step ∧ Tchatator.memlstStep list op = .ok abstract ∧
      step.onList = abstract ∧ Represents step.after abstract.after ∧
      moved memlst step.after + spare step.after ≤ spare memlst + 2 * added op := by
  have emptied := arrsetlen_zero_spec represents
  cases op with
  | add dtor ptr =>
    cases ptr with
    | none =>
      refine .inr ⟨⟨none, [], memlst⟩, ⟨none, [], list⟩, rfl, rfl, ?_, represents, ?_⟩
      · rw [MemlstArrayStep.onList, contents_of_represents represents]
      · simp [moved]
    | some ptr =>
      have looked := assertNew_spec represents (some ptr)
      by_cases isNew : ∀ entry ∈ arrElements list, entry.ptr ≠ some ptr
      · obtain ⟨after, put, representsAfter, length, capacity⟩ :=
          arrput_spec represents (⟨some ptr, dtor⟩ : MemlstEntry π δ)
        rw [if_pos isNew] at looked
        refine .inr ⟨⟨some ptr, [], after⟩,
          ⟨some ptr, [], Tchatator.arrput list ⟨some ptr, dtor⟩⟩, ?_, ?_, ?_, representsAfter,
          moved_arrput length capacity⟩
        · simp only [memlstStep, memlstAdd, if_neg (Option.some_ne_none ptr), looked, put]
          rfl
        · rw [Tchatator.memlstStep, memlstAdd_new isNew]
          rfl
        · rw [MemlstArrayStep.onList, contents_of_represents representsAfter]
      · rw [if_neg isNew] at looked
        refine .inl ⟨.assertion, ?_, ?_⟩
        · simp only [memlstStep, memlstAdd, if_neg (Option.some_ne_none ptr), looked]
          rfl
        · rw [Tchatator.memlstStep, Tchatator.memlstAdd, if_neg (Option.some_ne_none ptr),
            if_neg isNew]
          rfl
  | collect =>
    refine .inr ⟨⟨none, arrElements list, arrsetlen memlst 0⟩,
      ⟨none, arrElements list, Tchatator.arrsetlen list 0⟩, ?_, rfl, ?_, emptied.1, ?_⟩
    · rw [memlstStep, memlstCollect_spec represents]
      rfl
    · rw [MemlstArrayStep.onList, contents_of_represents emptied.1]
    · simp [moved, spare, emptied.2]
  | destroy =>
    refine .inr ⟨⟨none, arrElements list, none⟩, ⟨none, arrElements list, none⟩, ?_, rfl, rfl,
      .none, ?_⟩
    · rw [memlstStep, memlstDestroy, memlstCollect_spec represents]
      rfl
    · simp [moved, spare, arrlenu, arrcap]

/-- A run on an array does what it does on the list of its elements. -/
theorem memlstRun_onList {memlst : MemlstArray π δ} {list : Memlst π δ}
    (represents : Represents memlst list) (ops : List (MemlstOp π δ)) :
    (memlstRun memlst ops).map (List.map MemlstArrayStep.onList) =
      (Tchatator.memlstRun list ops).mapError ArrayFault.fault := by
  induction ops generalizing memlst list with
  | nil => rfl
  | cons op ops ih =>
    rcases memlstStep_spec represents op with ⟨fault, fails, failsOnList⟩ |
      ⟨step, abstract, stepped, steppedOnList, same, representsAfter, _⟩
    · simp only [memlstRun, Tchatator.memlstRun, fails, failsOnList]
      rfl
    · simp only [memlstRun, Tchatator.memlstRun, stepped, steppedOnList]
      exact map_cons_onList same (ih representsAfter)

/-- The moves of a run are paid by what has been saved and by what is added. -/
theorem movedInRun_le {memlst : MemlstArray π δ} {list : Memlst π δ}
    (represents : Represents memlst list) (ops : List (MemlstOp π δ))
    (steps : List (MemlstArrayStep π δ)) (ran : memlstRun memlst ops = .ok steps) :
    movedInRun memlst steps ≤ spare memlst + 2 * (ops.filterMap MemlstOp.addition?).length := by
  induction ops generalizing memlst list steps with
  | nil =>
    cases ran
    exact Nat.zero_le _
  | cons op ops ih =>
    rcases memlstStep_spec represents op with ⟨fault, fails, _⟩ |
      ⟨step, abstract, stepped, _, _, representsAfter, paid⟩
    · simp only [memlstRun, fails] at ran
      cases ran
    · simp only [memlstRun, stepped] at ran
      cases ranLater : memlstRun step.after ops with
      | error fault =>
        rw [ranLater] at ran
        cases ran
      | ok rest =>
        rw [ranLater] at ran
        obtain rfl : step :: rest = steps := Except.ok.inj ran
        have later := ih representsAfter rest ranLater
        have additions : ((op :: ops).filterMap MemlstOp.addition?).length =
            added op + (ops.filterMap MemlstOp.addition?).length := by
          rw [List.filterMap_cons, added]
          cases op.addition? with
          | none => exact (Nat.zero_add _).symm
          | some entry => exact Nat.add_comm _ 1
        rw [movedInRun, additions]
        omega

/-- **Memory lists are what their arrays hold**: every sequence of calls does on the growing array
what it does on the list of its elements, failed assertions included, and never touches a cell
outside a block or before something is stored in it. -/
theorem memlstRun_dynArray (ops : List (MemlstOp π δ)) :
    (memlstRun none ops).map (List.map MemlstArrayStep.onList) =
      (Tchatator.memlstRun memlstInit ops).mapError ArrayFault.fault :=
  memlstRun_onList Option.Rel.none ops

/-- **The moves of a run are paid by its additions**: they copy at most two cells for each. -/
theorem moved_le (ops : List (MemlstOp π δ)) (steps : List (MemlstArrayStep π δ))
    (ran : memlstRun none ops = .ok steps) :
    movedInRun none steps ≤ 2 * (ops.filterMap MemlstOp.addition?).length :=
  (movedInRun_le Option.Rel.none ops steps ran).trans (Nat.le_of_eq (Nat.zero_add _))

end

/-- Five additions, the last of which moves the array. -/
def fiveAdditions : List (MemlstOp Nat Unit) :=
  [.add () (some 1), .add () (some 2), .add () (some 3), .add () (some 4), .add () (some 5)]

theorem moved_le_fiveAdditions :
    ∃ steps, memlstRun none fiveAdditions = .ok steps ∧
      movedInRun none steps ≤ 2 * (fiveAdditions.filterMap MemlstOp.addition?).length :=
  ⟨_, rfl, moved_le fiveAdditions _ rfl⟩

end Tchatator.Stbds
