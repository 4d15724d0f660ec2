/-
**What a transaction reports** (`db_transaction`).

* `bodyStatus`, `bodyTransaction` — what the body returns, and what it leaves of its transaction;
* `dbTransaction_outcome` — the database ends as the body left it, or as it was;
* `TransactionHonest` — the status is `errstatus_ok` exactly when the body returned it and its changes
  are in the database, which otherwise is as before;
* **`transactionHonest_iff`** — unless the body returns `errstatus_ok` after a statement of it has
  failed and another has changed something.
-/

import Tchatator.Model.TestData
import Tchatator.Model.Transaction

namespace Tchatator

open Transactions

/-- What the body returns. -/
def bodyStatus (world : World) (body : TransactionFn) : Errstatus := (body.run (start world)).1

/-- The transaction after the body. -/
def bodyTransaction (world : World) (body : TransactionFn) : Transaction World :=
  (body.run (start world)).2

/-- The body returned `errstatus_ok`, and all its changes are in the database afterwards. -/
def BodyDurable (world : World) (body : TransactionFn) (after : World) : Prop :=
  bodyStatus world body = .ok ∧ after.db = (bodyTransaction world body).working.db

/-- **A transaction reports what it has done.** -/
structure TransactionHonest (up : CommandUp) (world : World) (body : TransactionFn) : Prop where
  ok_iff : (dbTransaction up world body).1 = .ok ↔
    BodyDurable world body (dbTransaction up world body).2
  otherwise : ¬ BodyDurable world body (dbTransaction up world body).2 →
    (dbTransaction up world body).2.db = world.db

section

variable {up : CommandUp} {world : World} {body : TransactionFn}

/-- **The outcomes of a transaction** whose commands are executed: the status is the body's, and the
database is as the body left it if no statement failed and the body returned `errstatus_ok`. -/
theorem dbTransaction_outcome (executed : ∀ command, up command = true) :
    (dbTransaction up world body).1 = bodyStatus world body ∧
      ((bodyStatus world body = .ok ∧ ¬ body.Fails world ∧
          (dbTransaction up world body).2 = (bodyTransaction world body).working) ∨
        ((bodyStatus world body ≠ .ok ∨ body.Fails world) ∧
          (dbTransaction up world body).2.db = world.db)) := by
  have succeeds (command : TransactionCommand) : up.resultStatus command = .commandOk :=
    if_pos (executed command)
  have whole : dbTransaction up world body = (bodyStatus world body,
      endTransaction up (endCommand (bodyStatus world body)) world (bodyTransaction world body)) := by
    simp only [dbTransaction, succeeds, ne_eq, not_true, if_false]
    rfl
  rw [whole]
  refine ⟨rfl, ?_⟩
  by_cases returned : bodyStatus world body = .ok
  · have commits : endTransaction up (endCommand (bodyStatus world body)) world
        (bodyTransaction world body) = commit tablesPart world (bodyTransaction world body) := by
      rw [returned]
      exact if_pos ⟨executed .commit, rfl⟩
    rw [commits]
    by_cases fails : body.Fails world
    · have failed : (bodyTransaction world body).failed = true := (run_failed_iff body world).mpr fails
      rw [commit_of_failed tablesPart failed]
      exact Or.inr ⟨Or.inr fails, content_rollback tablesPart world (bodyTransaction world body)⟩
    · have kept : (bodyTransaction world body).failed = false :=
        Bool.eq_false_iff.mpr fun failed => fails ((run_failed_iff body world).mp failed)
      exact Or.inl ⟨returned, fails, commit_of_kept tablesPart kept⟩
  · have rollsBack : endTransaction up (endCommand (bodyStatus world body)) world
        (bodyTransaction world body) = rollback tablesPart world (bodyTransaction world body) := by
      refine if_neg fun commits => ?_
      have isRollback : endCommand (bodyStatus world body) = .rollback := if_neg returned
      cases isRollback.symm.trans commits.2
    rw [rollsBack]
    exact Or.inr ⟨Or.inl returned, content_rollback tablesPart world (bodyTransaction world body)⟩

/-- **A transaction is honest** unless its body returns `errstatus_ok` after a statement has failed and
another has changed the tables. -/
theorem transactionHonest_iff (executed : ∀ command, up command = true) :
    TransactionHonest up world body ↔
      bodyStatus world body ≠ .ok ∨ ¬ body.Fails world ∨
        (bodyTransaction world body).working.db = world.db := by
  obtain ⟨sameStatus, outcome⟩ : (dbTransaction up world body).1 = bodyStatus world body ∧ _ :=
    dbTransaction_outcome executed
  constructor
  · intro honest
    rcases outcome with ⟨_, kept, _⟩ | ⟨aborted, unchanged⟩
    · exact Or.inr (Or.inl kept)
    · by_cases returned : bodyStatus world body = .ok
      · have durable := honest.ok_iff.mp (sameStatus.trans returned)
        exact Or.inr (Or.inr (durable.2.symm.trans unchanged))
      · exact Or.inl returned
  · intro condition
    constructor
    · rw [sameStatus]
      refine ⟨fun returned => ⟨returned, ?_⟩, And.left⟩
      rcases outcome with ⟨_, _, isWorking⟩ | ⟨aborted, unchanged⟩
      · rw [isWorking]
      · rcases condition with refused | kept | noChange
        · exact absurd returned refused
        · rcases aborted with refused | failed
          · exact absurd returned refused
          · exact absurd failed kept
        · rw [unchanged, noChange]
    · intro notDurable
      rcases outcome with ⟨returned, _, isWorking⟩ | ⟨_, unchanged⟩
      · exact absurd ⟨returned, congrArg World.db isWorking⟩ notDurable
      · exact unchanged

end

/-- The first member writes to a professional, and then to a user whom nobody knows: the foreign key
refuses it. The body does not look at the answers. -/
def sendTwice : TransactionFn :=
  .exec (sendMsgStatement 0 1003 1001 (clit "salut")) fun _ =>
    .exec (sendMsgStatement 0 1003 9999 (clit "salut")) fun _ => .ret .ok

/-- The same, if the body returns what the second answer says. -/
def sendTwiceOrFail : TransactionFn :=
  .exec (sendMsgStatement 0 1003 1001 (clit "salut")) fun _ =>
    .exec (sendMsgStatement 0 1003 9999 (clit "salut")) fun answer =>
      .ret (if answer.isNone then .handled else .ok)

theorem sendTwiceOrFail_honest : TransactionHonest (fun _ => true) testWorld sendTwiceOrFail :=
  (transactionHonest_iff fun _ => rfl).mpr (Or.inl (by decide))

/-- The transaction reports `errstatus_ok`, and the first message is lost. -/
theorem sendTwice_not_honest :
    (dbTransaction (fun _ => true) testWorld sendTwice).1 = .ok ∧
      (dbTransaction (fun _ => true) testWorld sendTwice).2.db = testWorld.db ∧
      ¬ TransactionHonest (fun _ => true) testWorld sendTwice := by
  have reported : (dbTransaction (fun _ => true) testWorld sendTwice).1 = .ok := by decide
  have unchanged : (dbTransaction (fun _ => true) testWorld sendTwice).2.db = testWorld.db := by
    decide
  refine ⟨reported, unchanged, fun honest => ?_⟩
  have kept := unchanged.symm.trans (honest.ok_iff.mp reported).2
  exact absurd kept (by decide)

end Tchatator
