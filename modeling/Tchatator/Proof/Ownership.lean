/-
**Who may remove a message** (the invariant `owns_msg` of `rm`).

* `MayRemove` — the user is an administrator, root included, or the sender of the message;
* `OwnershipHeld` — what the invariant asks of one handled action: a message that becomes deleted is
  one its user may remove, and an `rm` of any other message is an error that leaves `_msg` alone;
* **`ownership_iff`** — an action meets it unless it is an `rm` that marks a message its user may
  not remove, and so does a run. The branch `rm` never looks at the sender of the message.
-/

import Tchatator.Model.TestData
import Tchatator.Proof.Evaluation
import Tchatator.Proof.Runs

namespace Tchatator

open Keyed

/-! ### The documented invariant -/

/-- `owns_msg`. -/
def MayRemove (user : UserIdentity) (row : MsgRow) : Prop :=
  user.role = roleAdmin ∨ row.userIdSender = some user.id

instance (user : UserIdentity) (row : MsgRow) : Decidable (MayRemove user row) :=
  inferInstanceAs (Decidable (_ ∨ _))

/-- A message becomes deleted. -/
def BecomesDeleted (handled : Exchange) (row : MsgRow) : Prop :=
  row ∈ handled.before.db.1.msgs ∧ row.deletedAge = none ∧
    ∃ later ∈ handled.after.db.1.msgs, later.msgId = row.msgId ∧ later.deletedAge ≠ none

/-- **What `owns_msg` asks of a handled action.** -/
structure OwnershipHeld (host : Host) (cfg : Cfg) (handled : Exchange) : Prop where
  /-- A message that becomes deleted is one the user of the action may remove. -/
  deleted : ∀ row, BecomesDeleted handled row → ∃ constr user,
    handled.action.constr? = some constr ∧
      dbVerifyUserConstr host cfg handled.moment handled.before.db .indeterminate constr =
        .ok (.ok, user) ∧ MayRemove user row
  /-- An `rm` of a message its user may not remove is an error and changes no message. -/
  refused : ∀ constr msgId user, handled.action = .rm constr msgId →
    dbVerifyUserConstr host cfg handled.moment handled.before.db .indeterminate constr =
      .ok (.ok, user) →
    ∀ row ∈ handled.before.db.1.msgs, row.msgId = msgId → ¬ MayRemove user row →
      (∃ rep, handled.response = .ok rep ∧ rep.type = .error) ∧
        handled.after.db.1.msgs = handled.before.db.1.msgs

/-- **An `rm` marks a message that its user may not remove.** -/
def RemovesUnowned (host : Host) (cfg : Cfg) (handled : Exchange) : Prop :=
  ∃ constr msgId user row, handled.action = .rm constr msgId ∧
    RmRemoves host cfg handled.moment handled.before constr msgId user row ∧ ¬ MayRemove user row

section

variable {host : Host} {cfg : Cfg} {moment : Moment} {world : World} {action : Action}

/-! ### What becomes deleted -/

/-- A message that is marked becomes deleted. -/
theorem Removed.becomesDeleted {after : World} {row : MsgRow} {age : Int}
    (visible : row ∈ world.db.1.msgView) (removed : Removed world after row.msgId age) :
    ∃ later ∈ after.db.1.msgs, later.msgId = row.msgId ∧ later.deletedAge ≠ none := by
  obtain ⟨member, _⟩ := mem_msgView.mp visible
  refine ⟨markDeleted row.msgId age row, ?_, markDeleted_msgId _ _ _, ?_⟩
  · rw [removed.tables]
    exact List.mem_map_of_mem member
  · simp [markDeleted]

/-- No other message becomes deleted. -/
theorem Removed.only {after : World} {marked row later : MsgRow} {age : Int}
    (removed : Removed world after marked.msgId age) (isMarked : marked ∈ world.db.1.msgs)
    (member : row ∈ world.db.1.msgs) (notDeleted : row.deletedAge = none)
    (inAfter : later ∈ after.db.1.msgs) (sameId : later.msgId = row.msgId)
    (isDeleted : later.deletedAge ≠ none) : row = marked := by
  rw [removed.tables] at inAfter
  obtain ⟨old, inMsgs, rfl⟩ := List.mem_map.mp inAfter
  rw [markDeleted_msgId] at sameId
  obtain rfl := world.db.2.msgPkey.eq_of_key inMsgs member sameId
  by_cases same : old.msgId = marked.msgId
  · exact world.db.2.msgPkey.eq_of_key inMsgs isMarked same
  · rw [markDeleted_other same] at isDeleted
    exact absurd notDeleted isDeleted

/-- Nothing becomes deleted where no message changes. -/
theorem not_becomesDeleted_of_subset {handled : Exchange} {row : MsgRow}
    (kept : ∀ later ∈ handled.after.db.1.msgs, later ∈ handled.before.db.1.msgs ∨
      ∀ old ∈ handled.before.db.1.msgs, old.msgId ≠ later.msgId) :
    ¬ BecomesDeleted handled row := by
  rintro ⟨member, notDeleted, later, inAfter, sameId, isDeleted⟩
  rcases kept later inAfter with old | fresh
  · obtain rfl := handled.before.db.2.msgPkey.eq_of_key old member sameId
    exact isDeleted notDeleted
  · exact fresh row member sameId.symm

/-- Only an `rm` that marks a message makes one deleted. -/
theorem removes_of_becomesDeleted {row : MsgRow}
    (becomes : BecomesDeleted (exchange host cfg moment world action) row) :
    ∃ constr user, action = .rm constr row.msgId ∧
      RmRemoves host cfg moment world constr row.msgId user row := by
  rcases database_outcomes host cfg moment world action with
    untouched | ⟨constr, destUserId, content, user, destRole, _, inserts, inserted⟩ |
      ⟨constr, msgId, user, marked, age, isRm, removes, removed⟩
  · refine absurd becomes (not_becomesDeleted_of_subset fun later inAfter => Or.inl ?_)
    rw [exchange, untouched.tables] at inAfter
    exact inAfter
  · refine absurd becomes (not_becomesDeleted_of_subset fun later inAfter => ?_)
    rw [exchange, inserted.tables] at inAfter
    rcases List.mem_cons.mp inAfter with rfl | old
    · exact Or.inr inserts.accepts.insertable.fresh
    · exact Or.inl old
  · obtain ⟨verified, rfl, accepts⟩ := removes
    obtain ⟨member, notDeleted, later, inAfter, sameId, isDeleted⟩ := becomes
    obtain rfl := removed.only (mem_msgView.mp accepts.visible).1 member notDeleted inAfter
      sameId isDeleted
    exact ⟨constr, user, isRm, verified, rfl, accepts⟩

/-! ### The exact condition -/

/-- An `rm` that marks a message its user may not remove breaks the invariant. -/
theorem not_held_of_removesUnowned
    (removes : RemovesUnowned host cfg (exchange host cfg moment world action)) :
    ¬ OwnershipHeld host cfg (exchange host cfg moment world action) := by
  rintro ⟨deleted, _⟩
  obtain ⟨constr, msgId, user, row, isRm, removes, unowned⟩ := removes
  have isAction : action = .rm constr msgId := isRm
  subst isAction
  obtain ⟨age, after, evaluated, removed⟩ := rm_of_removes removes
  obtain ⟨verified, rfl, accepts⟩ := removes
  obtain ⟨member, notDeleted⟩ := mem_msgView.mp accepts.visible
  have isAfter : (exchange host cfg moment world (.rm constr row.msgId)).after = after :=
    congrArg Prod.snd evaluated
  obtain ⟨_, other, ⟨⟩, alsoVerified, mayRemove⟩ := deleted row
    ⟨member, notDeleted, by rw [isAfter]; exact removed.becomesDeleted accepts.visible⟩
  have sameUser : user = other := by
    simpa using verified.symm.trans alsoVerified
  rw [sameUser] at unowned
  exact unowned mayRemove

/-- Any other action meets the invariant. -/
theorem held_of_not_removesUnowned
    (kept : ¬ RemovesUnowned host cfg (exchange host cfg moment world action)) :
    OwnershipHeld host cfg (exchange host cfg moment world action) := by
  refine ⟨fun row becomes => ?_, fun constr msgId user isRm verified row member sameId unowned => ?_⟩
  · obtain ⟨constr, user, rfl, removes⟩ := removes_of_becomesDeleted becomes
    refine ⟨constr, user, rfl, removes.verified, ?_⟩
    by_contra unowned
    exact kept ⟨constr, row.msgId, user, row, rfl, removes, unowned⟩
  · have isAction : action = .rm constr msgId := isRm
    subst isAction
    -- The row with the identifier is the only one the statement could mark.
    have refuses : ∀ other, other.msgId = msgId → ¬ DeleteAccepts moment world other := by
      intro other sameAsOther accepts
      have isOther : row = other := world.db.2.msgPkey.eq_of_key member
        (mem_msgView.mp accepts.visible).1 (sameId.trans sameAsOther.symm)
      rw [isOther] at unowned
      exact kept ⟨constr, msgId, user, other, rfl, ⟨verified, sameAsOther, accepts⟩, unowned⟩
    obtain ⟨status, failed⟩ := rm_of_refuses msgId verified refuses
    refine ⟨⟨_, congrArg Prod.fst failed, rfl⟩, ?_⟩
    have unchanged : (exchange host cfg moment world (.rm constr msgId)).after = world :=
      congrArg Prod.snd failed
    rw [unchanged]
    rfl

/-- **An action meets `owns_msg` exactly when it is no `rm` that marks a message its user may not
remove; a run meets it exactly when no step of it is.** -/
theorem ownership_iff (host : Host) (cfg : Cfg) :
    (∀ moment world action,
      OwnershipHeld host cfg (exchange host cfg moment world action) ↔
        ¬ RemovesUnowned host cfg (exchange host cfg moment world action)) ∧
    ∀ world requests,
      (∀ handled ∈ (runRequests host cfg world requests).1, OwnershipHeld host cfg handled) ↔
        ∀ handled ∈ (runRequests host cfg world requests).1, ¬ RemovesUnowned host cfg handled := by
  have single : ∀ moment world action,
      OwnershipHeld host cfg (exchange host cfg moment world action) ↔
        ¬ RemovesUnowned host cfg (exchange host cfg moment world action) :=
    fun moment world action =>
      ⟨fun held removes => not_held_of_removesUnowned removes held, held_of_not_removesUnowned⟩
  refine ⟨single, fun world requests => forall₂_congr fun handled member => ?_⟩
  rw [(exchange_of_run member).1]
  exact single _ _ _

/-- A member removes a message of another. -/
theorem member2_removes_of_member1 :
    ¬ OwnershipHeld testHost testCfg
      (exchange testHost testCfg (allUp 1000000) worldWithMessage (.rm constrMember2 1)) := by
  refine not_held_of_removesUnowned ⟨constrMember2, 1, ⟨roleMember, 1004⟩,
    newMsgRow 0 1 1003 1001 (clit "salut"), rfl, ⟨?_, rfl, rfl, ?_, ?_⟩, ?_⟩
  · show dbVerifyUserConstr testHost testCfg (allUp 1000000) worldWithMessage.db .indeterminate
      constrMember2 = _
    decide
  · show newMsgRow 0 1 1003 1001 (clit "salut") ∈ worldWithMessage.db.1.msgView
    decide
  · show Deletable 1000000 (newMsgRow 0 1 1003 1001 (clit "salut"))
    decide
  · decide

end

end Tchatator
