/-
**Updates through the views** (`_update_user`, `ftg_member_update`, `ftg_pro_update`,
`ftg_admin_update`, `ftg_msg_update`).

* `ClassUpdateLaw` — what an update of a row of `member`, `pro` or `admin` should do: put-get when it
  keeps `user_id`, an error when it does not;
* `MsgUpdateLaw` — what an update of a row of `msg` should do;
* **`update_laws_iff`** — the laws hold of an update exactly when it is one that should raise (or,
  for `msg`, is not of the content alone): the triggers of the three views of users call a
  procedure `update_user`, and there is only `_update_user`; that of `msg` assigns `edited_age`
  twice. Every update raises.
-/

import Tchatator.Model.TestData
import Tchatator.Model.Triggers

namespace Tchatator

/-! ### The views of users -/

section

variable {own new : Type}

/-- The row that a view shows for `new`, if its columns that are declared not null are given. -/
def NewClassRow.shown (columns : new → Option own) (row : NewClassRow new) :
    Option (ClassRow own) :=
  match row.userId, row.apiKey, columns row.columns with
  | some userId, some apiKey, some own => some ⟨userId, apiKey, row.passwordHash, own⟩
  | _, _, _ => none

/-- **The law of an update of a row of users.** `Clashes` are the violations of a uniqueness
constraint. -/
structure ClassUpdateLaw (view : View Db (NewClassRow new) (ClassRow own))
    (columns : new → Option own) (Clashes : Db → ClassRow own → NewClassRow new → Prop) (db : Db)
    (old : ClassRow own) (row : NewClassRow new) : Prop where
  keeps : row.userId = some old.userId → row.shown columns ≠ none → ¬ Clashes db old row →
    view.PutGet (NewClassRow.shown columns) db old row
  changes : row.userId ≠ some old.userId → view.execute db (.update [(old, row)]) = none

/-- There is no procedure `update_user`. -/
theorem callProcedure_update_user (db : Db) (old : ClassRow own) (row : NewClassRow new) :
    callProcedure "update_user" db old row = none := by
  simp [callProcedure, procedures]

/-- **An update of a row of users raises.** -/
theorem ftgUpdate_raises (updateClass : Db → NewClassRow new → Option Db) (db : Db)
    (old : ClassRow own) (row : NewClassRow new) : ftgUpdate updateClass db (old, row) = none := by
  rw [ftgUpdate, callProcedure_update_user]
  rfl

/-- An update of users obeys its law when it should raise. -/
theorem classUpdateLaw_iff (view : View Db (NewClassRow new) (ClassRow own))
    (updateClass : Db → NewClassRow new → Option Db) (trigger : view.onUpdate = ftgUpdate updateClass)
    (columns : new → Option own) (Clashes : Db → ClassRow own → NewClassRow new → Prop) (db : Db)
    (old : ClassRow own) (row : NewClassRow new) :
    ClassUpdateLaw view columns Clashes db old row ↔
      row.userId ≠ some old.userId ∨ row.shown columns = none ∨ Clashes db old row := by
  have raises : view.execute db (.update [(old, row)]) = none := by
    rw [View.execute_update_single, trigger, ftgUpdate_raises]
  constructor
  · intro law
    by_contra allowed
    obtain ⟨sameUser, isShown, noClash⟩ : row.userId = some old.userId ∧
        row.shown columns ≠ none ∧ ¬ Clashes db old row := by tauto
    obtain ⟨_, after, _, succeeds, _⟩ := law.keeps sameUser isShown noClash
    cases raises.symm.trans succeeds
  · intro shouldRaise
    refine ⟨fun sameUser isShown noClash => ?_, fun _ => raises⟩
    rcases shouldRaise with changed | notShown | clash
    · exact absurd sameUser changed
    · exact absurd notShown isShown
    · exact absurd clash noClash

end

/-- The columns that `member` adds, if `user_name` is given. -/
def NewMemberColumns.shown (columns : NewMemberColumns) : Option MemberColumns :=
  columns.userName.map fun userName => ⟨userName, columns.fullBlockExpiresAt⟩

/-- The new name is that of another member. -/
def UserNameTaken (db : Db) (old : ClassRow MemberColumns) (row : NewClassRow NewMemberColumns) :
    Prop :=
  ∃ other ∈ db.1.members, other.userId ≠ old.userId ∧ row.columns.userName = some other.userName

/-- The law of an update of `member`. -/
def MemberUpdateLaw : Db → ClassRow MemberColumns → NewClassRow NewMemberColumns → Prop :=
  ClassUpdateLaw Views.member NewMemberColumns.shown UserNameTaken

/-- The law of an update of `pro`. -/
def ProUpdateLaw : Db → ClassRow CString → NewClassRow (Option CString) → Prop :=
  ClassUpdateLaw Views.pro id fun _ _ _ => False

/-- The law of an update of `admin`. -/
def AdminUpdateLaw : Db → ClassRow Unit → NewClassRow Unit → Prop :=
  ClassUpdateLaw Views.admin some fun _ _ _ => False

/-! ### The view `msg` -/

/-- The values of a row, as a trigger gets them. -/
def NewMsg.ofRow (row : MsgRow) : NewMsg :=
  { msgId := some row.msgId
    content := some row.content
    sentAt := some row.sentAt
    readAge := row.readAge
    editedAge := row.editedAge
    userIdSender := row.userIdSender
    userIdRecipient := row.userIdRecipient }

/-- An update of the content alone. -/
def ContentOnly (old : MsgRow) (new : NewMsg) : Prop :=
  ∃ content, new = .ofRow { old with content := content }

/-- An update of what identifies the message. -/
def ChangesIdentity (old : MsgRow) (new : NewMsg) : Prop :=
  new.msgId ≠ some old.msgId ∨ new.sentAt ≠ some old.sentAt ∨
    new.userIdSender ≠ old.userIdSender ∨ new.userIdRecipient ≠ old.userIdRecipient

/-- **The law of an update of `msg`.** -/
structure MsgUpdateLaw (now : Int) (db : Db) (old : MsgRow) (new : NewMsg) : Prop where
  edits : ∀ content, new = .ofRow { old with content := content } →
    ∃ after age, updateMsg now db old new = some after ∧ secondsDiff now old.sentAt = some age ∧
      { old with content := content, editedAge := some age } ∈ after.1.msgView
  changes : ChangesIdentity old new → updateMsg now db old new = none

/-- **An update of a message raises**: `edited_age` is assigned twice. -/
theorem updateMsg_raises (now : Int) (db : Db) (old : MsgRow) (new : NewMsg) :
    updateMsg now db old new = none := by
  have twice : ftgMsgUpdate now db.1 old new = none := by
    simp [ftgMsgUpdate, updateMsgRows, MsgAssignment.column]
  rw [updateMsg, twice]
  rfl

theorem msgUpdateLaw_iff (now : Int) (db : Db) (old : MsgRow) (new : NewMsg) :
    MsgUpdateLaw now db old new ↔ ¬ ContentOnly old new := by
  have raises := updateMsg_raises now db old new
  constructor
  · rintro law ⟨content, isContent⟩
    obtain ⟨after, _, succeeds, _⟩ := law.edits content isContent
    cases raises.symm.trans succeeds
  · exact fun other => ⟨fun content isContent => absurd ⟨content, isContent⟩ other, fun _ => raises⟩

/-! ### All views -/

/-- **The laws hold of an update exactly when it should raise**, or is an update of `msg` on which
they say nothing. -/
theorem update_laws_iff (db : Db) :
    (∀ old row, MemberUpdateLaw db old row ↔ row.userId ≠ some old.userId ∨
      row.shown NewMemberColumns.shown = none ∨ UserNameTaken db old row) ∧
    (∀ old row, ProUpdateLaw db old row ↔
      row.userId ≠ some old.userId ∨ row.shown id = none) ∧
    (∀ old row, AdminUpdateLaw db old row ↔
      row.userId ≠ some old.userId ∨ row.shown some = none) ∧
    ∀ now old new, MsgUpdateLaw now db old new ↔ ¬ ContentOnly old new := by
  refine ⟨fun old row => ?_, fun old row => ?_, fun old row => ?_, fun now old new => ?_⟩
  · exact classUpdateLaw_iff Views.member updateMember rfl NewMemberColumns.shown UserNameTaken
      db old row
  · have law := classUpdateLaw_iff Views.pro updatePro rfl id (fun _ _ _ => False) db old row
    rwa [or_false] at law
  · have law := classUpdateLaw_iff Views.admin (fun db _ => some db) rfl some
      (fun _ _ _ => False) db old row
    rwa [or_false] at law
  · exact msgUpdateLaw_iff now db old new

/-- A member changes their name, and a message is edited: both raise. -/
theorem rename_and_edit_raise :
    (¬ MemberUpdateLaw useTestDataUsers
      ⟨1003, apiKeyMember1, some member1Hash, ⟨clit "member1", none⟩⟩
      ⟨some 1003, some apiKeyMember1, some member1Hash, ⟨some (clit "member3"), none⟩⟩) ∧
    ¬ MsgUpdateLaw 1000000 worldWithMessage.db (newMsgRow 0 1 1003 1001 (clit "salut"))
      (.ofRow (newMsgRow 0 1 1003 1001 (clit "bonjour"))) := by
  constructor
  · intro law
    have free : ¬ ∃ other ∈ useTestDataUsers.1.members,
        other.userId ≠ 1003 ∧ some (clit "member3") = some other.userName := by decide
    obtain ⟨_, _, _, succeeds, _⟩ := law.keeps rfl nofun free
    cases succeeds
  · intro law
    obtain ⟨_, _, succeeds, _⟩ := law.edits (clit "bonjour") rfl
    rw [updateMsg_raises] at succeeds
    cases succeeds

end Tchatator
