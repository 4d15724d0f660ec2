/-
**Dynamic arrays** (`stb_ds.h`), and memory lists over them (`memlst.c`).

An array is null or a block of memory: a header with a length and a capacity, and the cells after it.
The macros do not check what they are given, so a read or a store outside the block, or through a
null pointer, is a fault here, and so is the read of a cell that nothing has been stored in. The
allocator never fails: `stb_ds.h` does not check what it returns.
-/

import Tchatator.Model.Memlst

namespace Tchatator.Stbds

/-! ### Arrays -/

/-- What a C program must not do with an array, and the faults of the code that uses it. -/
inductive ArrayFault
  /-- The header or a cell of a null pointer. -/
  | nullPointer
  /-- A cell outside the block. -/
  | outOfBounds
  /-- A cell that nothing has been stored in. -/
  | uninitialised
  | fault (fault : Fault)
deriving DecidableEq

/-- `stbds_array_header`, less the two fields of hash maps, and the cells after it. -/
structure ArrayBlock (α : Type) where
  length : Nat
  capacity : Nat
  cells : List (Option α)
deriving DecidableEq

/-- `T *`, an array. -/
abbrev DynArray (α : Type) := Option (ArrayBlock α)

section

variable {α : Type}

/-- `stbds_arrlenu`. -/
def arrlenu (array : DynArray α) : Nat :=
  match array with
  | none => 0
  | some block => block.length

/-- `stbds_arrcap`. -/
def arrcap (array : DynArray α) : Nat :=
  match array with
  | none => 0
  | some block => block.capacity

/-- `STBDS_REALLOC`: what fits of the old cells, and new ones. -/
def reallocCells (cells : List (Option α)) (count : Nat) : List (Option α) :=
  cells.take count ++ List.replicate (count - cells.length) none

/-- What `stbds_arrgrowf` makes of a capacity that is too small. -/
def increasedCapacity (capacity minCap : Nat) : Nat :=
  if minCap < 2 * capacity then 2 * capacity else if minCap < 4 then 4 else minCap

/-- `stbds_arrgrowf`. -/
def arrgrowf (array : DynArray α) (addlen minCap : Nat) : DynArray α :=
  let minLen := arrlenu array + addlen
  let minCap := if minCap < minLen then minLen else minCap
  if minCap ≤ arrcap array then array
  else
    let minCap := increasedCapacity (arrcap array) minCap
    match array with
    | none => some { length := 0, capacity := minCap, cells := reallocCells [] minCap }
    | some block =>
        some { block with capacity := minCap, cells := reallocCells block.cells minCap }

/-- `stbds_arrmaybegrow`. -/
def arrmaybegrow (array : DynArray α) (n : Nat) : DynArray α :=
  match array with
  | none => arrgrowf array n 0
  | some block => if block.capacity < block.length + n then arrgrowf array n 0 else array

/-- `stbds_arrput`. -/
def arrput (array : DynArray α) (element : α) : Except ArrayFault (DynArray α) :=
  match arrmaybegrow array 1 with
  | none => .error .nullPointer
  | some block =>
      if block.length < block.cells.length then
        .ok (some { block with
          length := block.length + 1
          cells := block.cells.set block.length (some element) })
      else .error .outOfBounds

/-- `stbds_arrsetlen`. -/
def arrsetlen (array : DynArray α) (length : Nat) : DynArray α :=
  let array := if arrcap array < length then arrgrowf array 0 length else array
  match array with
  | none => none
  | some block => some { block with length := length }

/-- `stbds_arrfree`. -/
def arrfree (_array : DynArray α) : DynArray α := none

/-- `array[i]`, read. -/
def arrread (array : DynArray α) (i : Nat) : Except ArrayFault α :=
  match array with
  | none => .error .nullPointer
  | some block =>
      match block.cells[i]? with
      | none => .error .outOfBounds
      | some none => .error .uninitialised
      | some (some element) => .ok element

end

/-! ### Memory lists -/

section

variable {π δ : Type}

/-- `memlst_t *`, as an array. -/
abbrev MemlstArray (π δ : Type) := DynArray (MemlstEntry π δ)

/-- The loop of `memlst_collect`: the entries whose destructor is called. -/
def collectEntries (memlst : MemlstArray π δ) : Except ArrayFault (List (MemlstEntry π δ)) :=
  (List.range (arrlenu memlst)).mapM (arrread memlst)

/-- `memlst_collect`. -/
def memlstCollect (memlst : MemlstArray π δ) :
    Except ArrayFault (List (MemlstEntry π δ) × MemlstArray π δ) :=
  (collectEntries memlst).map fun called => (called, arrsetlen memlst 0)

/-- `memlst_destroy`. -/
def memlstDestroy (memlst : MemlstArray π δ) :
    Except ArrayFault (List (MemlstEntry π δ) × MemlstArray π δ) :=
  (memlstCollect memlst).map fun (called, memlst) => (called, arrfree memlst)

variable [DecidableEq π]

/-- The loop of `memlst_add`: no entry has the pointer. -/
def assertNew (memlst : MemlstArray π δ) (ptr : Option π) : List Nat → Except ArrayFault Unit
  | [] => .ok ()
  | i :: rest =>
      match arrread memlst i with
      | .error fault => .error fault
      | .ok entry =>
          if entry.ptr ≠ ptr then assertNew memlst ptr rest else .error (.fault .assertion)

/-- `memlst_add`. -/
def memlstAdd (memlst : MemlstArray π δ) (dtor : δ) (ptr : Option π) :
    Except ArrayFault (Option π × MemlstArray π δ) :=
  if ptr = none then .ok (none, memlst)
  else
    match assertNew memlst ptr (List.range (arrlenu memlst)) with
    | .error fault => .error fault
    | .ok () => (arrput memlst ⟨ptr, dtor⟩).map fun memlst => (ptr, memlst)

/-- What a call leaves: what it returns, the entries whose destructor it calls, and the array. -/
structure MemlstArrayStep (π δ : Type) where
  returned : Option π
  called : List (MemlstEntry π δ)
  after : MemlstArray π δ

/-- One call. -/
def memlstStep (memlst : MemlstArray π δ) :
    MemlstOp π δ → Except ArrayFault (MemlstArrayStep π δ)
  | .add dtor ptr => (memlstAdd memlst dtor ptr).map fun (returned, after) => ⟨returned, [], after⟩
  | .collect => (memlstCollect memlst).map fun (called, after) => ⟨none, called, after⟩
  | .destroy => (memlstDestroy memlst).map fun (called, after) => ⟨none, called, after⟩

/-- **A sequence of calls on one list.** -/
def memlstRun (memlst : MemlstArray π δ) :
    List (MemlstOp π δ) → Except ArrayFault (List (MemlstArrayStep π δ))
  | [] => .ok []
  | op :: ops =>
      match memlstStep memlst op with
      | .error fault => .error fault
      | .ok step => (memlstRun step.after ops).map (step :: ·)

end

end Tchatator.Stbds
