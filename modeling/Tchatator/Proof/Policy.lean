/-
**Who may write to whom** (the invariants of `send`).

* `ObeysPolicy` — the three documented invariants, of a row of `_msg` in the database it is added
  to, in terms of the view `"user"` and of the messages that are not deleted;
* `PolicyBypassed` — a handled `send` that is inserted although its users break one of them;
* **`run_obeysPolicy_iff`** — the rows a run of requests inserts obey the invariants exactly when no
  step of the run is such a `send`. No check of the server stops one: `fail_invariant` does not
  return, and the count of the messages from a member to a professional is never read.
-/

import Tchatator.Model.TestData
import Tchatator.Proof.Evaluation
import Tchatator.Proof.Runs

namespace Tchatator

open Keyed

/-! ### The documented invariants -/

/-- The role the view `"user"` gives to a user. -/
def roleOf (db : Db) (userId : Int) : Option Nat :=
  (rowWith UserViewRow.userId userId db.1.userView).bind UserViewRow.role

/-- The member has a message to the professional that is not deleted. -/
def Contacted (db : Db) (memberId proId : Int) : Prop :=
  ∃ row ∈ db.1.msgView, row.userIdSender = some memberId ∧ row.userIdRecipient = some proId

instance (db : Db) (memberId proId : Int) : Decidable (Contacted db memberId proId) :=
  inferInstanceAs (Decidable (∃ row ∈ db.1.msgView, _ ∧ _))

/-- **The documented invariants.** A message without a sender is root's, whose identifier is `0`. -/
structure ObeysPolicy (db : Db) (row : MsgRow) : Prop where
  noSendSelf : row.userIdRecipient ≠ some (row.userIdSender.getD 0)
  clientSendPro : ∀ sender ∈ row.userIdSender, roleOf db sender = some roleMember →
    ∃ recipient ∈ row.userIdRecipient, roleOf db recipient = some rolePro
  proRespondsClient : ∀ sender ∈ row.userIdSender, roleOf db sender = some rolePro →
    ∃ recipient ∈ row.userIdRecipient,
      roleOf db recipient = some roleMember ∧ Contacted db recipient sender

/-- **The rows a handled `send` inserts obey the invariants**, at the moment of insertion. -/
def SendObeys (handled : Exchange) : Prop :=
  handled.action.type = .action .send →
    ∀ row ∈ handled.after.db.1.msgs, row ∉ handled.before.db.1.msgs →
      ObeysPolicy handled.before.db row

/-! ### The sends that break them -/

/-- The two users of a message break an invariant. -/
def BreaksPolicy (db : Db) (senderId recipientId : Int) : Prop :=
  senderId = recipientId ∨ senderId ≠ 0 ∧
    (roleOf db senderId = some roleMember ∧ roleOf db recipientId ≠ some rolePro ∨
      roleOf db senderId = some rolePro ∧
        (roleOf db recipientId ≠ some roleMember ∨ ¬ Contacted db recipientId senderId))

instance (db : Db) (senderId recipientId : Int) : Decidable (BreaksPolicy db senderId recipientId) :=
  inferInstanceAs (Decidable (_ ∨ _ ∧ (_ ∧ _ ∨ _ ∧ (_ ∨ ¬ _))))

/-- **A `send` is inserted although its users break an invariant.** -/
def PolicyBypassed (host : Host) (cfg : Cfg) (handled : Exchange) : Prop :=
  ∃ constr destUserId content user destRole,
    handled.action = .send constr destUserId content ∧
    SendInserts host cfg handled.moment handled.before constr destUserId content user destRole ∧
    BreaksPolicy handled.before.db user.id destUserId

section

variable {host : Host} {cfg : Cfg} {moment : Moment} {world : World}

/-- A new message obeys the invariants exactly when its users do not break them. -/
theorem obeysPolicy_newMsgRow {now msgId senderId recipientId : Int} {content : CString} {db : Db} :
    ObeysPolicy db (newMsgRow now msgId senderId recipientId content) ↔
      ¬ BreaksPolicy db senderId recipientId := by
  by_cases isRoot : senderId = 0
  · subst isRoot
    constructor
    · rintro ⟨noSendSelf, _, _⟩ (self | ⟨notRoot, _⟩)
      · exact noSendSelf (congrArg some self.symm)
      · exact notRoot rfl
    · intro kept
      refine ⟨fun self => kept (Or.inl (Option.some.inj self).symm), ?_, ?_⟩
      · rintro _ ⟨⟩
      · rintro _ ⟨⟩
  · have sender : (newMsgRow now msgId senderId recipientId content).userIdSender = some senderId :=
      if_neg isRoot
    constructor
    · rintro ⟨noSendSelf, clientSendPro, proRespondsClient⟩
      rw [sender] at noSendSelf clientSendPro proRespondsClient
      rintro (self | ⟨_, ⟨isMember, notPro⟩ | ⟨isPro, refused⟩⟩)
      · exact noSendSelf (congrArg some self.symm)
      · obtain ⟨_, ⟨⟩, isPro⟩ := clientSendPro senderId rfl isMember
        exact notPro isPro
      · obtain ⟨_, ⟨⟩, isMember, contacted⟩ := proRespondsClient senderId rfl isPro
        rcases refused with notMember | notContacted
        · exact notMember isMember
        · exact notContacted contacted
    · intro kept
      refine ⟨?_, ?_, ?_⟩
      · rw [sender]
        exact fun self => kept (Or.inl (Option.some.inj self).symm)
      · rw [sender]
        rintro _ ⟨⟩ isMember
        refine ⟨recipientId, rfl, ?_⟩
        by_contra notPro
        exact kept (Or.inr ⟨isRoot, Or.inl ⟨isMember, notPro⟩⟩)
      · rw [sender]
        rintro _ ⟨⟩ isPro
        refine ⟨recipientId, rfl, ?_⟩
        by_contra refused
        exact kept (Or.inr ⟨isRoot, Or.inr ⟨isPro, not_and_or.mp refused⟩⟩)

/-- The new rows after an insertion are the row inserted. -/
theorem Inserted.new_iff {now : Int} {after : World} {sender recipient : Int} {content : CString}
    (insertable : Insertable world sender recipient)
    (inserted : Inserted now world after sender recipient content) (row : MsgRow) :
    row ∈ after.db.1.msgs ∧ row ∉ world.db.1.msgs ↔
      row = newMsgRow now world.nextMsgId sender recipient content := by
  rw [inserted.tables]
  constructor
  · rintro ⟨member, new⟩
    rcases List.mem_cons.mp member with same | old
    · exact same
    · exact absurd old new
  · rintro rfl
    exact ⟨List.mem_cons_self, fun old => insertable.fresh _ old rfl⟩

/-- **One evaluation**: a `send` obeys the invariants unless it is inserted against one. -/
theorem sendObeys_iff (action : Action) :
    SendObeys (exchange host cfg moment world action) ↔
      ¬ PolicyBypassed host cfg (exchange host cfg moment world action) := by
  constructor
  · rintro obeys ⟨constr, destUserId, content, user, destRole, isSend, inserts, breaks⟩
    have isAction : action = .send constr destUserId content := isSend
    subst isAction
    obtain ⟨after, evaluated, inserted⟩ := send_of_inserts inserts
    have isAfter : (exchange host cfg moment world
        (.send constr destUserId content)).after = after := congrArg Prod.snd evaluated
    obtain ⟨member, new⟩ := (inserted.new_iff inserts.accepts.insertable _).mpr rfl
    have obeyed := obeys rfl _ (by rw [isAfter]; exact member) new
    exact obeysPolicy_newMsgRow.mp obeyed breaks
  · intro kept isSend row member new
    rcases database_outcomes host cfg moment world action with
      untouched | ⟨constr, destUserId, content, user, destRole, isAction, inserts, inserted⟩ |
        ⟨_, _, _, _, _, isRm, _, _⟩
    · rw [exchange, untouched.tables] at member
      exact absurd member new
    · rw [(inserted.new_iff inserts.accepts.insertable row).mp ⟨member, new⟩]
      refine obeysPolicy_newMsgRow.mpr fun breaks => kept ?_
      exact ⟨constr, destUserId, content, user, destRole, isAction, inserts, breaks⟩
    · rw [exchange, isRm] at isSend
      cases isSend

/-- **Every row inserted along a run obeys the documented invariants exactly when no step of the
run inserts a message whose users break them.** -/
theorem run_obeysPolicy_iff (host : Host) (cfg : Cfg) (world : World) (requests : List Request) :
    (∀ handled ∈ (runRequests host cfg world requests).1, SendObeys handled) ↔
      ∀ handled ∈ (runRequests host cfg world requests).1, ¬ PolicyBypassed host cfg handled := by
  refine forall₂_congr fun handled member => ?_
  rw [(exchange_of_run member).1]
  exact sendObeys_iff handled.action

/-- A member asks to write to another member. -/
def memberToMemberRequest : Json :=
  .object [(clit "do", .string (lit "send")), (clit "with", .object
    [(clit "constr", .string (lit "123e4567-e89b-12d3-a456-426614174000¤member1_mdp")),
      (clit "content", .string (lit "salut")), (clit "dest", .int 1004)])]

/-- A professional asks to write to a member who never wrote to anybody. -/
def proFirstRequest : Json :=
  .object [(clit "do", .string (lit "send")), (clit "with", .object
    [(clit "constr", .string (lit "bb1b5a1f-a482-4858-8c6b-f4746481cffa¤pro1_mdp")),
      (clit "content", .string (lit "salut")), (clit "dest", .int 1003)])]

/-- The test users break both of the invariants about roles, each in a run of one request. -/
theorem test_users_bypass_policy :
    (¬ ∀ handled ∈ (runRequests testHost testCfg testWorld
        [⟨fun _ => allUp 0, memberToMemberRequest⟩]).1, SendObeys handled) ∧
    ¬ ∀ handled ∈ (runRequests testHost testCfg testWorld
        [⟨fun _ => allUp 0, proFirstRequest⟩]).1, SendObeys handled := by
  constructor
  · intro obeys
    have obeyed := obeys (act testHost testCfg (allUp 0) testWorld memberToMemberRequest).2
      List.mem_cons_self (by decide) (newMsgRow 0 1 1003 1004 (clit "salut")) (by decide)
      (by decide)
    exact obeysPolicy_newMsgRow.mp obeyed (by decide)
  · intro obeys
    have obeyed := obeys (act testHost testCfg (allUp 0) testWorld proFirstRequest).2
      List.mem_cons_self (by decide) (newMsgRow 0 1 1001 1003 (clit "salut")) (by decide)
      (by decide)
    exact obeysPolicy_newMsgRow.mp obeyed (by decide)

end

end Tchatator
