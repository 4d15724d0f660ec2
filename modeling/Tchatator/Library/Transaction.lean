/-
**Transactions over a store.**

A store has a content, which a transaction commits or rolls back, and more, which it does not
(`Part`): what a sequence has drawn stays drawn. A statement that fails leaves the content as it was
and aborts its transaction: no later statement is executed, and to commit is to roll back.

* `Statement` — carries the proof that it leaves the content when it fails;
* `Body` — statements, each chosen by the answers to those before it, and a value;
* `run_of_failed`, **`run_failed_iff`** — a transaction is aborted when a statement fails: the induction
  is on the body;
* `commit_of_kept`, `commit_of_failed`, `content_rollback` — what a transaction leaves.
-/

import Mathlib.Data.Option.Basic

namespace Transactions

/-- The content of a store. -/
structure Part (σ δ : Type*) where
  content : σ → δ
  replace : δ → σ → σ
  content_replace : ∀ kept store, content (replace kept store) = kept

/-- A statement: its answer, or none if it fails, and the store. -/
structure Statement {σ δ : Type*} (part : Part σ δ) (ρ : Type*) where
  run : σ → Option ρ × σ
  failed_keeps : ∀ store, (run store).1 = none →
    part.content (run store).2 = part.content store

/-- An open transaction. -/
structure Transaction (σ : Type*) where
  working : σ
  failed : Bool

/-- A program that runs in a transaction. -/
inductive Body {σ δ : Type*} (part : Part σ δ) (ρ τ : Type*)
  | ret (value : τ)
  | exec (statement : Statement part ρ) (next : Option ρ → Body part ρ τ)

section

variable {σ δ ρ τ : Type*} {part : Part σ δ}

/-- `BEGIN`. -/
def start (store : σ) : Transaction σ := { working := store, failed := false }

/-- Execute a statement in a transaction. -/
def Transaction.exec (transaction : Transaction σ) (statement : Statement part ρ) :
    Option ρ × Transaction σ :=
  if transaction.failed then (none, transaction)
  else
    let (answer, after) := statement.run transaction.working
    (answer, { working := after, failed := answer.isNone })

/-- Run a body in a transaction. -/
def Body.run : Body part ρ τ → Transaction σ → τ × Transaction σ
  | .ret value, transaction => (value, transaction)
  | .exec statement next, transaction =>
      let (answer, after) := transaction.exec statement
      (next answer).run after

/-- **A statement of a body fails**, when the body runs on a store. -/
def Body.Fails : Body part ρ τ → σ → Prop
  | .ret _, _ => False
  | .exec statement next, store =>
      (statement.run store).1 = none ∨ (next (statement.run store).1).Fails (statement.run store).2

/-- `ROLLBACK`: what is not content stays as the transaction left it. -/
def rollback (part : Part σ δ) (store : σ) (transaction : Transaction σ) : σ :=
  part.replace (part.content store) transaction.working

/-- `COMMIT`: a transaction that failed is rolled back. -/
def commit (part : Part σ δ) (store : σ) (transaction : Transaction σ) : σ :=
  if transaction.failed then rollback part store transaction else transaction.working

variable {store : σ} {transaction : Transaction σ}

@[simp]
theorem content_rollback (part : Part σ δ) (store : σ) (transaction : Transaction σ) :
    part.content (rollback part store transaction) = part.content store :=
  part.content_replace _ _

theorem commit_of_kept (part : Part σ δ) (kept : transaction.failed = false) :
    commit part store transaction = transaction.working := by
  rw [commit, kept]
  rfl

theorem commit_of_failed (part : Part σ δ) (failed : transaction.failed = true) :
    commit part store transaction = rollback part store transaction := if_pos failed

/-- **An aborted transaction executes nothing more.** -/
theorem run_of_failed (failed : transaction.failed = true) (body : Body part ρ τ) :
    (body.run transaction).2 = transaction := by
  induction body generalizing transaction with
  | ret value => rfl
  | exec statement next ih =>
    have aborted : transaction.exec statement = (none, transaction) := if_pos failed
    rw [Body.run, aborted]
    exact ih none failed

/-- **A transaction is aborted exactly when a statement of its body has failed.** -/
theorem run_failed_iff (body : Body part ρ τ) (store : σ) :
    (body.run (start store)).2.failed = true ↔ body.Fails store := by
  induction body generalizing store with
  | ret value => exact iff_of_false Bool.false_ne_true id
  | exec statement next ih =>
    rcases answered : statement.run store with ⟨answer, after⟩
    have executed : (start store).exec statement =
        (answer, { working := after, failed := answer.isNone }) := by
      simp only [Transaction.exec, start, answered]
      rfl
    rw [Body.run, executed, Body.Fails, answered]
    cases answer with
    | none =>
      refine iff_of_true ?_ (Or.inl rfl)
      rw [run_of_failed rfl]
      rfl
    | some answer =>
      rw [or_iff_right (Option.some_ne_none answer)]
      exact ih (some answer) after

end

end Transactions
