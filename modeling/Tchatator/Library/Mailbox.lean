/-
**Mailboxes.**

A message system, seen by its readers: for every reader a list of items, newest first. There are
two events: an item is delivered at the front of one box, or the item with some key is discarded
from every box.

* **`discard_deliver`** — discarding what has just been delivered undoes the delivery, provided that
  its key is new;
* `filter_insertionSort` — a box that is read off a table by sorting loses exactly what the table
  loses: removing rows and sorting commute, whenever the order tells the rows of the table apart.
-/

import Mathlib.Data.List.Sort

namespace Mailbox

section Boxes

variable {ι μ κ : Type*} [DecidableEq ι] [DecidableEq κ] (key : μ → κ)

/-- Put an item at the front of a box. -/
def deliver (box : ι) (item : μ) (boxes : ι → List μ) : ι → List μ :=
  Function.update boxes box (item :: boxes box)

/-- Take the items with a key out of every box. -/
def discard (k : κ) (boxes : ι → List μ) : ι → List μ :=
  fun box => (boxes box).filter fun item => key item ≠ k

/-- What can happen to the boxes. -/
inductive Event (ι μ κ : Type*)
  | deliver (box : ι) (item : μ)
  | discard (k : κ)

/-- **The machine of the boxes**: an event happens to them, or none. -/
def happen (boxes : ι → List μ) : Option (Event ι μ κ) → ι → List μ
  | none => boxes
  | some (.deliver box item) => deliver box item boxes
  | some (.discard k) => discard key k boxes

variable {key} {box reader : ι} {item : μ} {boxes : ι → List μ} {k : κ}

omit [DecidableEq κ] in
theorem deliver_same : deliver box item boxes box = item :: boxes box :=
  Function.update_self _ _ _

omit [DecidableEq κ] in
theorem deliver_other (other : reader ≠ box) : deliver box item boxes reader = boxes reader :=
  Function.update_of_ne other _ _

omit [DecidableEq ι] in
/-- Discarding a key that no item has changes nothing. -/
theorem discard_of_fresh (fresh : ∀ box, ∀ item ∈ boxes box, key item ≠ k) :
    discard key k boxes = boxes := by
  funext box
  exact List.filter_eq_self.mpr fun item member => by simpa using fresh box item member

/-- **Discarding undoes delivering.** -/
theorem discard_deliver (key : μ → κ) (box : ι) (item : μ)
    (fresh : ∀ reader, ∀ other ∈ boxes reader, key other ≠ key item) :
    discard key (key item) (deliver box item boxes) = boxes := by
  refine Eq.trans ?_ (discard_of_fresh fresh)
  funext reader
  by_cases same : reader = box
  · subst same
    simp [discard, deliver_same]
  · simp [discard, deliver_other same]

end Boxes

/-- **Removing rows and sorting commute.** -/
theorem filter_insertionSort {α : Type*} (r : α → α → Prop) [DecidableRel r] [Std.Total r]
    [IsTrans α r] (keep : α → Bool) {rows : List α}
    (antisymm : ∀ first ∈ rows, ∀ second ∈ rows, r first second → r second first →
      first = second) :
    (rows.filter keep).insertionSort r = (rows.insertionSort r).filter keep := by
  have perm : ((rows.filter keep).insertionSort r).Perm ((rows.insertionSort r).filter keep) :=
    (List.perm_insertionSort r _).trans ((List.perm_insertionSort r rows).filter keep).symm
  refine List.Perm.eq_of_pairwise ?_ (List.pairwise_insertionSort r _)
    ((List.pairwise_insertionSort r rows).filter _) perm
  intro first second inLeft inRight
  have firstInRows : first ∈ rows :=
    (List.mem_filter.mp ((List.mem_insertionSort r).mp inLeft)).1
  have secondInRows : second ∈ rows :=
    (List.mem_insertionSort r).mp (List.mem_filter.mp inRight).1
  exact antisymm first firstInRows second secondInRows

end Mailbox
