/-
**Memory lists** (`memlst.c`, and what it uses of `stb_ds.h`).

A memory list is a dynamic array, null until something is put in it. Pointers and destructors are of
any types here; a null pointer is `none`. What a `collect` does to the outside is the destructors it
calls, so it returns the entries whose destructor it calls on their pointer, in this order.
-/

import Tchatator.Model.Types

namespace Tchatator

/-! ### Dynamic arrays -/

section Arrays

variable {α : Type}

/-- The elements of a dynamic array: none if it is null. -/
def arrElements (array : Option (List α)) : List α := array.getD []

/-- `arrput`. -/
def arrput (array : Option (List α)) (element : α) : Option (List α) :=
  some (arrElements array ++ [element])

/-- `arrsetlen`, to a length that is not larger. A null array stays null. -/
def arrsetlen (array : Option (List α)) (length : Nat) : Option (List α) :=
  array.map (·.take length)

/-- `arrfree`: the array is null afterwards. -/
def arrfree (_array : Option (List α)) : Option (List α) := none

@[simp]
theorem arrElements_arrput (array : Option (List α)) (element : α) :
    arrElements (arrput array element) = arrElements array ++ [element] := rfl

@[simp]
theorem arrElements_arrsetlen_zero (array : Option (List α)) :
    arrElements (arrsetlen array 0) = [] := by
  cases array <;> rfl

@[simp]
theorem arrElements_arrfree (array : Option (List α)) : arrElements (arrfree array) = [] := rfl

end Arrays

/-! ### Memory lists -/

/-- `struct memlst`. -/
structure MemlstEntry (π δ : Type) where
  ptr : Option π
  dtor : δ
deriving DecidableEq

/-- `memlst_t *`. -/
abbrev Memlst (π δ : Type) := Option (List (MemlstEntry π δ))

section

variable {π δ : Type}

/-- `memlst_init`. -/
def memlstInit : Memlst π δ := none

/-- `memlst_collect`: the entries whose destructor is called, and the list. -/
def memlstCollect (memlst : Memlst π δ) : List (MemlstEntry π δ) × Memlst π δ :=
  (arrElements memlst, arrsetlen memlst 0)

/-- `memlst_destroy`. -/
def memlstDestroy (memlst : Memlst π δ) : List (MemlstEntry π δ) × Memlst π δ :=
  let (called, memlst) := memlstCollect memlst
  (called, arrfree memlst)

variable [DecidableEq π]

/-- `memlst_add`: what it returns, and the list. -/
def memlstAdd (memlst : Memlst π δ) (dtor : δ) (ptr : Option π) :
    Except Fault (Option π × Memlst π δ) :=
  if ptr = none then .ok (none, memlst)
  else if ∀ entry ∈ arrElements memlst, entry.ptr ≠ ptr then .ok (ptr, arrput memlst ⟨ptr, dtor⟩)
  else .error .assertion

/-! ### Runs -/

/-- A call on a memory list. -/
inductive MemlstOp (π δ : Type)
  | add (dtor : δ) (ptr : Option π)
  | collect
  | destroy

/-- What a call leaves: what it returns, the entries whose destructor it calls, and the list. -/
structure MemlstStep (π δ : Type) where
  returned : Option π
  called : List (MemlstEntry π δ)
  after : Memlst π δ

/-- One call. -/
def memlstStep (memlst : Memlst π δ) : MemlstOp π δ → Except Fault (MemlstStep π δ)
  | .add dtor ptr => (memlstAdd memlst dtor ptr).map fun (returned, after) => ⟨returned, [], after⟩
  | .collect =>
      let (called, after) := memlstCollect memlst
      .ok ⟨none, called, after⟩
  | .destroy =>
      let (called, after) := memlstDestroy memlst
      .ok ⟨none, called, after⟩

/-- **A sequence of calls on one list.** -/
def memlstRun : Memlst π δ → List (MemlstOp π δ) → Except Fault (List (MemlstStep π δ))
  | _, [] => .ok []
  | memlst, op :: ops =>
      match memlstStep memlst op with
      | .error fault => .error fault
      | .ok step => (memlstRun step.after ops).map (step :: ·)

end

end Tchatator
