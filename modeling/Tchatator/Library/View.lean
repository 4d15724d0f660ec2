/-
**Views with `instead of` triggers.**

A view lists the rows it shows of a state, and has three triggers that are fired instead of an
insert, an update and a delete of one row: each returns the state it leaves, or raises. A statement
fires a trigger for each of its rows, and it is atomic: one that raises leaves the state as it was.

* `View.Step` — a statement takes a state to a state; the rows it updates or deletes are rows of
  the view, each once, in whatever order they are found;
* **`View.Step.invariant`** — what the triggers preserve, a statement preserves;
* `View.PutGet` — the update of a row succeeds, and afterwards the view shows the new row in its
  place and every other row as before.
-/

import Mathlib.Data.List.Nodup

namespace Tchatator

/-- A view of states `σ`, with rows `ρ`; `ν` is what a trigger calls `new`. -/
structure View (σ ν ρ : Type*) where
  rows : σ → List ρ
  onInsert : σ → ν → Option σ
  onUpdate : σ → ρ × ν → Option σ
  onDelete : σ → ρ → Option σ

/-- A statement on a view, with the rows its triggers are fired for. -/
inductive ViewStatement (ν ρ : Type*)
  | insert (rows : List ν)
  | update (rows : List (ρ × ν))
  | delete (rows : List ρ)

namespace View

variable {σ ν ρ : Type*} (view : View σ ν ρ)

/-- What a statement leaves, or `none` when it raises. -/
def execute (state : σ) : ViewStatement ν ρ → Option σ
  | .insert rows => rows.foldlM view.onInsert state
  | .update rows => rows.foldlM view.onUpdate state
  | .delete rows => rows.foldlM view.onDelete state

/-- The rows a statement finds are rows of the view, each once. -/
def Finds (state : σ) : ViewStatement ν ρ → Prop
  | .insert _ => True
  | .update rows => (rows.map Prod.fst).Nodup ∧ ∀ row ∈ rows, row.1 ∈ view.rows state
  | .delete rows => rows.Nodup ∧ ∀ row ∈ rows, row ∈ view.rows state

instance [DecidableEq ρ] (state : σ) :
    (statement : ViewStatement ν ρ) → Decidable (view.Finds state statement)
  | .insert _ => .isTrue trivial
  | .update rows => inferInstanceAs (Decidable (_ ∧ ∀ row ∈ rows, row.1 ∈ view.rows state))
  | .delete rows => inferInstanceAs (Decidable (_ ∧ ∀ row ∈ rows, row ∈ view.rows state))

/-- **One statement, which is atomic.** -/
def Step (before : σ) (statement : ViewStatement ν ρ) (after : σ) : Prop :=
  view.Finds before statement ∧ after = (view.execute before statement).getD before

/-- **The update of one row is a put-get**, and leaves every other row alone. -/
def PutGet (shown : ν → Option ρ) (state : σ) (old : ρ) (new : ν) : Prop :=
  ∃ row after, shown new = some row ∧ view.execute state (.update [(old, new)]) = some after ∧
    ∀ other, other ∈ view.rows after ↔ other = row ∨ (other ∈ view.rows state ∧ other ≠ old)

variable {view}

/-- What a trigger preserves, firing it for row after row preserves. -/
theorem foldlM_invariant {τ : Type*} {trigger : σ → τ → Option σ} {Inv : σ → Prop}
    (preserved : ∀ state row after, trigger state row = some after → Inv state → Inv after)
    {rows : List τ} {state after : σ} (fired : rows.foldlM trigger state = some after)
    (holds : Inv state) : Inv after := by
  induction rows generalizing state with
  | nil =>
    cases fired
    exact holds
  | cons row rest ih =>
    rw [List.foldlM_cons] at fired
    obtain ⟨next, first, later⟩ := Option.bind_eq_some_iff.mp fired
    exact ih later (preserved state row next first holds)

/-- **What the triggers of a view preserve, its statements preserve.** -/
theorem Step.invariant (Inv : σ → Prop)
    (onInsert : ∀ state row after, view.onInsert state row = some after → Inv state → Inv after)
    (onUpdate : ∀ state row after, view.onUpdate state row = some after → Inv state → Inv after)
    (onDelete : ∀ state row after, view.onDelete state row = some after → Inv state → Inv after)
    {before after : σ} {statement : ViewStatement ν ρ} (step : view.Step before statement after)
    (holds : Inv before) : Inv after := by
  obtain ⟨_, rfl⟩ := step
  cases executed : view.execute before statement with
  | none => exact holds
  | some after =>
    show Inv after
    cases statement with
    | insert rows => exact foldlM_invariant onInsert executed holds
    | update rows => exact foldlM_invariant onUpdate executed holds
    | delete rows => exact foldlM_invariant onDelete executed holds

/-- The update of one row fires one trigger. -/
theorem execute_update_single (state : σ) (old : ρ) (new : ν) :
    view.execute state (.update [(old, new)]) = view.onUpdate state (old, new) := by
  show [(old, new)].foldlM view.onUpdate state = _
  rw [List.foldlM_cons]
  exact Option.bind_fun_some _

end View

end Tchatator
