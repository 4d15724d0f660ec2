/-
**A transaction of the data layer** (`db_transaction`).

PostgreSQL executes the body's statements in the transaction and takes `COMMIT` for a successful
command also where a statement has failed and it rolls back (`Transactions.commit`). The commands
may themselves not be executed (`CommandUp`).
-/

import Tchatator.Library.Transaction
import Tchatator.Model.Db

namespace Tchatator

open Transactions

/-- A rollback restores the tables, and not the sequence. -/
def tablesPart : Part World Db :=
  { content := World.db
    replace := fun db world => { world with db := db }
    content_replace := fun _ _ => rfl }

/-- The commands that `db_transaction` issues. -/
inductive TransactionCommand
  | begin
  | commit
  | rollback
deriving DecidableEq

/-- `PQresultStatus` of a command. -/
inductive ExecStatusType
  | commandOk
  | fatalError
deriving DecidableEq

/-- Which commands are executed. -/
abbrev CommandUp := TransactionCommand → Bool

/-- `PQresultStatus` of `PQexec` of a command. -/
def CommandUp.resultStatus (up : CommandUp) (command : TransactionCommand) : ExecStatusType :=
  if up command then .commandOk else .fatalError

/-- A `transaction_fn`, with its context. Its statements answer integers. -/
abbrev TransactionFn := Body tablesPart Int Errstatus

/-- The command that ends a transaction. -/
def endCommand (res : Errstatus) : TransactionCommand := if res = .ok then .commit else .rollback

/-- What a command that ends a transaction leaves. A transaction that is left open is rolled back with
its connection. -/
def endTransaction (up : CommandUp) (command : TransactionCommand) (world : World)
    (transaction : Transaction World) : World :=
  if up command ∧ command = .commit then commit tablesPart world transaction
  else rollback tablesPart world transaction

/-- `db_transaction`: the status, and the database once the transaction has ended. -/
def dbTransaction (up : CommandUp) (world : World) (body : TransactionFn) : Errstatus × World :=
  if up.resultStatus .begin ≠ .commandOk then (.handled, world)
  else
    let (res, transaction) := body.run (start world)
    let after := endTransaction up (endCommand res) world transaction
    if up.resultStatus (endCommand res) ≠ .commandOk then (.handled, after) else (res, after)

/-! ### Statements -/

theorem sendMsg_failed_keeps {now : Int} {world : World} {sender recipient : Int}
    {content : CString} (failed : (sendMsg now world sender recipient content).1 = none) :
    (sendMsg now world sender recipient content).2.db = world.db := by
  unfold sendMsg at failed ⊢
  split at failed
  · cases failed
  · rename_i passes
    rw [if_neg passes]
    unfold insertMsg World.nextval at failed ⊢
    by_cases drawn : world.lastMsgId < 2147483647
    · simp only [if_pos drawn] at failed ⊢
      split at failed
      · rfl
      · cases failed
    · rw [if_neg drawn]

/-- The statement of `db_send_msg`. -/
def sendMsgStatement (now sender recipient : Int) (content : CString) : Statement tablesPart Int :=
  { run := fun world => sendMsg now world sender recipient content
    failed_keeps := fun _ => sendMsg_failed_keeps }

end Tchatator
