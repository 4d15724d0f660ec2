/-
**The test for a prior contact** (`db_count_msg`, and the invariant `pro_responds_client` of `send`).

* `CountsContact` — the count of the messages from a member to a professional is their number, the
  test of a `send` passes exactly when there is one, and never when the count fails;
* `contactTestPasses` — the test always passes: the count is the number of rows of a count, and `-1`
  is not `0`;
* **`countsContact_iff`** — so the contract holds exactly when the query is executed and there is one
  message.
-/

import Tchatator.Model.TestData
import Tchatator.Proof.Evaluation

namespace Tchatator

/-- The number of messages from a sender to a recipient that are not deleted. A message without a
sender is root's, whose identifier is `0`. -/
def messageCount (db : Db) (senderId recipientId : Int) : Nat :=
  (db.1.msgs.filter fun row => row.deletedAge = none ∧ row.userIdSender.getD 0 = senderId ∧
    row.userIdRecipient = some recipientId).length

/-- **The test passes**: a professional's `send` to a member stores no broken `pro_responds_client`. -/
def ContactTestPasses (moment : Moment) (db : Db) (proId memberId : Int) : Prop :=
  checkInvariants moment db ⟨rolePro, proId⟩ roleMember memberId ⟨.action .send, false, .zero⟩ ≠
    failInvariant ⟨.action .send, false, .zero⟩ "pro_responds_client"

/-- **The contract of the count and of the test.** -/
structure CountsContact (moment : Moment) (db : Db) (proId memberId : Int) : Prop where
  counts : moment.up .countMsg = true →
    dbCountMsg moment db memberId proId = messageCount db memberId proId
  contacted : moment.up .countMsg = true →
    (ContactTestPasses moment db proId memberId ↔ 0 < messageCount db memberId proId)
  failed : moment.up .countMsg = false → ¬ ContactTestPasses moment db proId memberId

section

variable (moment : Moment) (db : Db) (proId memberId : Int)

/-- **The test always passes**, whatever the messages and whether or not they were counted. -/
theorem contactTestPasses : ContactTestPasses moment db proId memberId := by
  have counted := dbCountMsg_ne_zero moment db memberId proId
  have names : lit "no_send_self" ≠ lit "pro_responds_client" := by decide
  unfold ContactTestPasses
  simp only [checkInvariants, counted, or_false]
  by_cases self : proId = memberId
  · simp [self, failInvariant, names, roleMember, rolePro]
  · simp [self, failInvariant, roleMember, rolePro]

/-- The count is one. -/
theorem dbCountMsg_of_executed (executed : moment.up .countMsg = true) :
    dbCountMsg moment db memberId proId = 1 := by
  rw [dbCountMsg, if_pos executed]
  rfl

/-- **The contract holds exactly when the messages are counted and there is one.** -/
theorem countsContact_iff :
    CountsContact moment db proId memberId ↔
      moment.up .countMsg = true ∧ messageCount db memberId proId = 1 := by
  have passes := contactTestPasses moment db proId memberId
  constructor
  · intro contract
    have executed : moment.up .countMsg = true := by
      by_contra down
      exact contract.failed (by simpa using down) passes
    have isOne := (contract.counts executed).symm.trans
      (dbCountMsg_of_executed moment db proId memberId executed)
    exact ⟨executed, by exact_mod_cast isOne⟩
  · rintro ⟨executed, isOne⟩
    refine ⟨fun _ => ?_, fun _ => ?_, fun down => ?_⟩
    · rw [dbCountMsg_of_executed moment db proId memberId executed, isOne]
      rfl
    · exact iff_of_true passes (by rw [isOne]; exact Nat.one_pos)
    · cases executed.symm.trans down

end

/-- A professional writes to a member who never wrote: nothing is broken. -/
theorem pro1_contacted_by_nobody :
    messageCount useTestDataUsers 1003 1001 = 0 ∧
      ¬ CountsContact (allUp 0) useTestDataUsers 1001 1003 := by
  refine ⟨by decide, fun contract => ?_⟩
  have passes := contactTestPasses (allUp 0) useTestDataUsers 1001 1003
  exact absurd ((contract.contacted rfl).mp passes) (by decide)

end Tchatator
