/-
**What the two writing statements do** (`db_send_msg`, `db_rm_msg`).

Each statement has three outcomes, each under its own condition on the database before it:

* `sendMsg_cases` — a message fails, is refused or is accepted; `dbSendMsg_of_fails`,
  `dbSendMsg_of_blocked` and `dbSendMsg_of_accepts` — the first two are error statuses, with the
  tables as before, and the last adds one row under the next identifier of the sequence
  (`Inserted`);
* `dbRmMsg_of_fails`, `dbRmMsg_of_invisible`, `dbRmMsg_of_accepts` — a deletion fails, finds
  nothing, or marks the one visible row with the identifier (`Removed`); `dbRmMsg_of_refuses` joins
  the first two.

A proof about an action uses these, and never looks into a statement, a constraint or a trigger.
-/

import Tchatator.Model.Db

namespace Tchatator

open Keyed

/-! ### Adding a row -/

/-- A new message satisfies the constraints of `_msg` when its users exist and differ. -/
theorem msgAdmissible_newMsgRow {tables : Tables} {now msgId sender recipient : Int}
    {content : CString} :
    tables.MsgAdmissible (newMsgRow now msgId sender recipient content) ↔
      (sender ≠ 0 → tables.HasUser sender) ∧ tables.HasUser recipient ∧
        (sender ≠ 0 → sender ≠ recipient) := by
  by_cases isRoot : sender = 0
  · constructor
    · intro admissible
      exact ⟨fun notRoot => absurd isRoot notRoot, admissible.fkUserRecipient _ rfl,
        fun notRoot => absurd isRoot notRoot⟩
    · rintro ⟨_, exists', _⟩
      refine ⟨by simp [newMsgRow], by simp [newMsgRow], by simp [newMsgRow, isRoot], ?_,
        by simp [newMsgRow, isRoot]⟩
      rintro _ ⟨⟩
      exact exists'
  · constructor
    · intro admissible
      have different := admissible.senderNeRecipient
      rw [Ternary.compare_passes] at different
      refine ⟨fun _ => admissible.fkUserSender _ (by simp [newMsgRow, isRoot]),
        admissible.fkUserRecipient _ rfl, fun _ => ?_⟩
      simpa [newMsgRow, isRoot] using different
    · rintro ⟨senderExists, exists', distinct⟩
      refine ⟨by simp [newMsgRow], by simp [newMsgRow], ?_, ?_, ?_⟩
      · simpa [newMsgRow, isRoot] using senderExists isRoot
      · rintro _ ⟨⟩
        exact exists'
      · rw [Ternary.compare_passes]
        simpa [newMsgRow, isRoot] using distinct isRoot

/-- The identifier the sequence gives next. -/
def World.nextMsgId (world : World) : Int := world.lastMsgId + 1

/-- **The database has room for a message** from one user to another. -/
structure Insertable (world : World) (sender recipient : Int) : Prop where
  drawn : world.lastMsgId < 2147483647
  fresh : ∀ row ∈ world.db.1.msgs, row.msgId ≠ world.nextMsgId
  senderExists : sender ≠ 0 → world.db.1.HasUser sender
  recipientExists : world.db.1.HasUser recipient
  distinct : sender ≠ 0 → sender ≠ recipient

/-- The tables after `_insert_msg`. -/
def tablesWith (now : Int) (world : World) (sender recipient : Int) (content : CString) : Tables :=
  { world.db.1 with
    msgs := newMsgRow now world.nextMsgId sender recipient content :: world.db.1.msgs }

theorem tablesWith_admissible_iff {now : Int} {world : World} {sender recipient : Int}
    {content : CString} (drawn : world.lastMsgId < 2147483647) :
    (tablesWith now world sender recipient content).Admissible ↔
      Insertable world sender recipient := by
  constructor
  · intro admissible
    have keys := (unique_cons.mp admissible.msgPkey).1
    obtain ⟨senderExists, recipientExists, distinct⟩ :=
      msgAdmissible_newMsgRow.mp (admissible.msgRows _ List.mem_cons_self)
    exact ⟨drawn, keys, senderExists, recipientExists, distinct⟩
  · intro insertable
    refine world.db.2.withMsgs (unique_cons.mpr ⟨insertable.fresh, world.db.2.msgPkey⟩) ?_
    intro row member
    rcases List.mem_cons.mp member with rfl | old
    · exact msgAdmissible_newMsgRow.mpr
        ⟨insertable.senderExists, insertable.recipientExists, insertable.distinct⟩
    · exact world.db.2.msgRows row old

/-- No message was added: at most a value of the sequence was drawn. -/
structure Untouched (world after : World) : Prop where
  tables : after.db = world.db
  sequence : world.lastMsgId ≤ after.lastMsgId

theorem Untouched.refl (world : World) : Untouched world world := ⟨rfl, Nat.le_refl _⟩

/-- **One message was added.** -/
structure Inserted (now : Int) (world after : World) (sender recipient : Int)
    (content : CString) : Prop where
  tables : after.db.1 = tablesWith now world sender recipient content
  sequence : after.lastMsgId = world.lastMsgId + 1

/-- A message that was added is a change of the tables. -/
theorem Inserted.changes {now : Int} {after : World} {sender recipient : Int} {content : CString}
    (inserted : Inserted now world after sender recipient content) : after.db ≠ world.db := by
  intro same
  have sameMsgs : after.db.1.msgs = world.db.1.msgs := by rw [same]
  rw [inserted.tables] at sameMsgs
  exact List.cons_ne_self _ _ sameMsgs

section Send

variable {moment : Moment} {world : World} {sender recipient : Int}

theorem insertMsg_of_insertable (now : Int) (content : CString) (insertable : Insertable world sender recipient) :
    ∃ after, insertMsg now world sender recipient content =
        (some world.nextMsgId, after) ∧
      Inserted now world after sender recipient content := by
  have admissible : (tablesWith now world sender recipient content).Admissible :=
    (tablesWith_admissible_iff insertable.drawn).mpr insertable
  refine ⟨{ db := ⟨_, admissible⟩, lastMsgId := world.lastMsgId + 1 }, ?_, rfl, rfl⟩
  have committed := Db.commit_of_admissible admissible
  unfold tablesWith World.nextMsgId at committed
  simp only [insertMsg, World.nextval, if_pos insertable.drawn, committed]
  rfl

theorem insertMsg_of_not_insertable (now : Int) (content : CString)
    (notInsertable : ¬ Insertable world sender recipient) :
    ∃ after, insertMsg now world sender recipient content = (none, after) ∧
      Untouched world after := by
  by_cases drawn : world.lastMsgId < 2147483647
  · have refused : Db.commit (tablesWith now world sender recipient content) = none :=
      Db.commit_eq_none_iff.mpr fun admissible =>
        notInsertable ((tablesWith_admissible_iff drawn).mp admissible)
    refine ⟨{ world with lastMsgId := world.lastMsgId + 1 }, ?_, rfl, Nat.le_succ _⟩
    unfold tablesWith World.nextMsgId at refused
    simp only [insertMsg, World.nextval, if_pos drawn, refused]
  · refine ⟨world, ?_, .refl world⟩
    rw [insertMsg, World.nextval, if_neg drawn]

/-- The test of `send_msg` that refuses a message. -/
def SendMsgRefuses (now : Int) (tables : Tables) (sender recipient : Int) : Prop :=
  (fullBlockTest now tables sender).Holds ∨ (singleBlockTest now tables sender recipient).Holds

instance (now : Int) (tables : Tables) (sender recipient : Int) :
    Decidable (SendMsgRefuses now tables sender recipient) :=
  inferInstanceAs (Decidable (_ ∨ _))

/-- **When `send_msg` accepts a message.** -/
structure SendMsgAccepts (moment : Moment) (world : World) (sender recipient : Int) : Prop where
  executed : moment.up .sendMsg = true
  notRefused : ¬ SendMsgRefuses moment.now world.db.1 sender recipient
  insertable : Insertable world sender recipient

/-- A refused message is answered with `errstatus_error`, and nothing is drawn. -/
theorem dbSendMsg_of_blocked (content : CString) (executed : moment.up .sendMsg = true)
    (blocked : SendMsgRefuses moment.now world.db.1 sender recipient) :
    dbSendMsg moment world sender recipient content = (Errstatus.error.code, world) := by
  rw [dbSendMsg, if_pos executed, sendMsg, if_pos ((Ternary.or_holds _ _).mpr blocked)]
  rfl

/-- **An accepted message is added**, under the identifier returned. -/
theorem dbSendMsg_of_accepts (content : CString)
    (accepts : SendMsgAccepts moment world sender recipient) :
    ∃ after, dbSendMsg moment world sender recipient content = (world.nextMsgId, after) ∧
      Inserted moment.now world after sender recipient content := by
  obtain ⟨after, inserted, isInserted⟩ :=
    insertMsg_of_insertable moment.now content accepts.insertable
  refine ⟨after, ?_, isInserted⟩
  rw [dbSendMsg, if_pos accepts.executed, sendMsg,
    if_neg (fun holds => accepts.notRefused ((Ternary.or_holds _ _).mp holds)), inserted]

/-- **When `send_msg` is not executed, or raises.** -/
def SendMsgFails (moment : Moment) (world : World) (sender recipient : Int) : Prop :=
  moment.up .sendMsg = false ∨
    (¬ SendMsgRefuses moment.now world.db.1 sender recipient ∧ ¬ Insertable world sender recipient)

/-- A message fails, is refused, or is accepted. -/
theorem sendMsg_cases (moment : Moment) (world : World) (sender recipient : Int) :
    SendMsgFails moment world sender recipient ∨
      (moment.up .sendMsg = true ∧ SendMsgRefuses moment.now world.db.1 sender recipient) ∨
      SendMsgAccepts moment world sender recipient := by
  by_cases executed : moment.up .sendMsg = true
  · by_cases blocked : SendMsgRefuses moment.now world.db.1 sender recipient
    · exact Or.inr (Or.inl ⟨executed, blocked⟩)
    · by_cases insertable : Insertable world sender recipient
      · exact Or.inr (Or.inr ⟨executed, blocked, insertable⟩)
      · exact Or.inl (Or.inr ⟨blocked, insertable⟩)
  · exact Or.inl (Or.inl (by simpa using executed))

/-- A statement that fails leaves the tables alone. -/
theorem dbSendMsg_of_fails (content : CString) (fails : SendMsgFails moment world sender recipient) :
    ∃ after, dbSendMsg moment world sender recipient content = (Errstatus.handled.code, after) ∧
      Untouched world after := by
  by_cases executed : moment.up .sendMsg = true
  · rcases fails with down | ⟨notRefused, notInsertable⟩
    · cases down.symm.trans executed
    · obtain ⟨after, raised, untouched⟩ :=
        insertMsg_of_not_insertable moment.now content notInsertable
      refine ⟨after, ?_, untouched⟩
      rw [dbSendMsg, if_pos executed, sendMsg,
        if_neg (fun holds => notRefused ((Ternary.or_holds _ _).mp holds)), raised]
  · exact ⟨world, by rw [dbSendMsg, if_neg executed], .refl world⟩

end Send

/-! ### Marking a row -/

/-- What the trigger does to one row. -/
def markDeleted (msgId age : Int) (row : MsgRow) : MsgRow :=
  if row.msgId = msgId then { row with deletedAge := some age } else row

@[simp]
theorem markDeleted_msgId (msgId age : Int) (row : MsgRow) :
    (markDeleted msgId age row).msgId = row.msgId := by
  unfold markDeleted
  split <;> rfl

@[simp]
theorem markDeleted_sentAt (msgId age : Int) (row : MsgRow) :
    (markDeleted msgId age row).sentAt = row.sentAt := by
  unfold markDeleted
  split <;> rfl

theorem markDeleted_other {msgId age : Int} {row : MsgRow} (other : row.msgId ≠ msgId) :
    markDeleted msgId age row = row := if_neg other

/-- **A visible message can be deleted**: its age is a 32-bit number of seconds, later than its
other ages. -/
def Deletable (now : Int) (row : MsgRow) : Prop :=
  ∃ age ∈ secondsDiff now row.sentAt, (Ternary.compare (· > ·) (some age) row.readAge).Passes ∧
    (Ternary.compare (· > ·) (some age) row.editedAge).Passes

instance (now : Int) (row : MsgRow) : Decidable (Deletable now row) :=
  inferInstanceAs (Decidable (∃ age ∈ secondsDiff now row.sentAt, _))

/-- The tables after the trigger has marked a message. -/
def tablesWithout (world : World) (msgId age : Int) : Tables :=
  { world.db.1 with msgs := world.db.1.msgs.map (markDeleted msgId age) }

/-- **One message was marked as deleted.** -/
structure Removed (world after : World) (msgId age : Int) : Prop where
  tables : after.db.1 = tablesWithout world msgId age
  sequence : after.lastMsgId = world.lastMsgId

section Remove

variable {moment : Moment} {world : World} {row : MsgRow} {age : Int}

theorem mem_msgView {tables : Tables} {row : MsgRow} :
    row ∈ tables.msgView ↔ row ∈ tables.msgs ∧ row.deletedAge = none := by
  simp [Tables.msgView]

theorem msgView_unique (db : Db) : Unique MsgRow.msgId db.1.msgView :=
  db.2.msgPkey.sublist (List.filter_sublist.map MsgRow.msgId)

theorem tablesWithout_admissible_iff (member : row ∈ world.db.1.msgs) :
    (tablesWithout world row.msgId age).Admissible ↔
      (Ternary.compare (· > ·) (some age) row.readAge).Passes ∧
        (Ternary.compare (· > ·) (some age) row.editedAge).Passes := by
  have marked : markDeleted row.msgId age row = { row with deletedAge := some age } := if_pos rfl
  constructor
  · intro admissible
    have inTables : { row with deletedAge := some age } ∈ (tablesWithout world row.msgId age).msgs :=
      List.mem_map.mpr ⟨row, member, marked⟩
    have checks := admissible.msgRows _ inTables
    exact ⟨checks.deletedGtRead, checks.deletedGtModified⟩
  · rintro ⟨gtRead, gtModified⟩
    refine world.db.2.withMsgs (world.db.2.msgPkey.map fun _ => markDeleted_msgId _ _ _) ?_
    intro changed inTables
    obtain ⟨old, inMsgs, rfl⟩ := List.mem_map.mp inTables
    have checks := world.db.2.msgRows old inMsgs
    by_cases same : old.msgId = row.msgId
    · obtain rfl := world.db.2.msgPkey.eq_of_key inMsgs member same
      rw [marked]
      exact ⟨gtRead, gtModified, checks.fkUserSender, checks.fkUserRecipient,
        checks.senderNeRecipient⟩
    · rw [markDeleted_other same]
      exact checks

/-- The visible messages with the identifier of a visible message are that message. -/
theorem visible_eq_singleton (visible : row ∈ world.db.1.msgView) :
    (world.db.1.msgView.filter fun other => other.msgId = row.msgId) = [row] :=
  (msgView_unique world.db).filter_key visible

/-- The trigger marks a visible message, when its age can be computed. -/
theorem ftgMsgDelete_visible (now : Int) (visible : row ∈ world.db.1.msgView) :
    ftgMsgDelete now world.db.1 row =
      (secondsDiff now row.sentAt).map fun age => tablesWithout world row.msgId age := by
  obtain ⟨member, notDeleted⟩ := mem_msgView.mp visible
  have found : rowWith MsgRow.msgId row.msgId world.db.1.msgs = some row :=
    world.db.2.msgPkey.rowWith_eq_some_iff.mpr ⟨member, rfl⟩
  rw [ftgMsgDelete, found]
  show (if row.deletedAge.isNone = true then _ else _) = _
  rw [if_pos (by rw [notDeleted]; rfl)]
  rfl

theorem deleteMsg_visible (now : Int) (visible : row ∈ world.db.1.msgView) :
    deleteMsg now world row.msgId =
      (secondsDiff now row.sentAt).bind fun age =>
        (Db.commit (tablesWithout world row.msgId age)).map fun db =>
          (1, { world with db := db }) := by
  rw [deleteMsg, visible_eq_singleton visible]
  show ((ftgMsgDelete now world.db.1 row).bind some).bind _ = _
  rw [ftgMsgDelete_visible now visible]
  cases secondsDiff now row.sentAt <;> rfl

/-- Deleting a message that is not visible deletes nothing. -/
theorem deleteMsg_invisible (now : Int) {msgId : Int}
    (invisible : ∀ row ∈ world.db.1.msgView, row.msgId ≠ msgId) :
    deleteMsg now world msgId = some (0, world) := by
  have none' : (world.db.1.msgView.filter fun row => row.msgId = msgId) = [] := by
    rw [List.filter_eq_nil_iff]
    intro row visible same
    exact invisible row visible (by simpa using same)
  rw [deleteMsg, none']
  show (Db.commit world.db.1).map (fun db => (0, { world with db := db })) = _
  rw [Db.commit_of_admissible world.db.2]
  rfl

/-- **When `delete from msg` deletes a message.** -/
structure DeleteAccepts (moment : Moment) (world : World) (row : MsgRow) : Prop where
  executed : moment.up .rmMsg = true
  visible : row ∈ world.db.1.msgView
  deletable : Deletable moment.now row

/-- **An accepted deletion marks the message.** -/
theorem dbRmMsg_of_accepts (accepts : DeleteAccepts moment world row) :
    ∃ age after, dbRmMsg moment world row.msgId = (.ok, after) ∧
      Removed world after row.msgId age := by
  obtain ⟨age, isAge, checks⟩ := accepts.deletable
  obtain ⟨member, _⟩ := mem_msgView.mp accepts.visible
  have admissible := (tablesWithout_admissible_iff member).mpr checks
  refine ⟨age, { world with db := ⟨_, admissible⟩ }, ?_, rfl, rfl⟩
  rw [dbRmMsg, if_pos accepts.executed, deleteMsg_visible _ accepts.visible,
    Option.mem_def.mp isAge, Option.bind_some, Db.commit_of_admissible admissible]
  rfl

/-- **When `delete from msg` is not executed, or raises.** -/
def RmMsgFails (moment : Moment) (world : World) (msgId : Int) : Prop :=
  moment.up .rmMsg = false ∨
    ∃ row ∈ world.db.1.msgView, row.msgId = msgId ∧ ¬ Deletable moment.now row

/-- A statement that fails changes nothing. -/
theorem dbRmMsg_of_fails {msgId : Int} (fails : RmMsgFails moment world msgId) :
    dbRmMsg moment world msgId = (.handled, world) := by
  by_cases executed : moment.up .rmMsg = true
  · rcases fails with down | ⟨row, visible, rfl, notDeletable⟩
    · cases down.symm.trans executed
    · obtain ⟨member, _⟩ := mem_msgView.mp visible
      have raised : deleteMsg moment.now world row.msgId = none := by
        rw [deleteMsg_visible _ visible]
        rcases computed : secondsDiff moment.now row.sentAt with _ | age
        · rfl
        · rw [Option.bind_some, Db.commit_eq_none_iff.mpr]
          · rfl
          · exact fun admissible => notDeletable
              ⟨age, computed, (tablesWithout_admissible_iff member).mp admissible⟩
      rw [dbRmMsg, if_pos executed, raised]
  · rw [dbRmMsg, if_neg executed]

/-- A message that is not there is reported, and nothing changes. -/
theorem dbRmMsg_of_invisible {msgId : Int} (executed : moment.up .rmMsg = true)
    (invisible : ∀ row ∈ world.db.1.msgView, row.msgId ≠ msgId) :
    dbRmMsg moment world msgId = (.error, world) := by
  rw [dbRmMsg, if_pos executed, deleteMsg_invisible _ invisible]
  rfl

/-- **A deletion that is not accepted changes nothing.** -/
theorem dbRmMsg_of_refuses {msgId : Int}
    (refuses : ∀ row, row.msgId = msgId → ¬ DeleteAccepts moment world row) :
    ∃ status, dbRmMsg moment world msgId = (status, world) ∧ status ≠ .ok := by
  by_cases fails : RmMsgFails moment world msgId
  · exact ⟨.handled, dbRmMsg_of_fails fails, by decide⟩
  · have executed : moment.up .rmMsg = true := by
      by_contra down
      exact fails (Or.inl (by simpa using down))
    refine ⟨.error, dbRmMsg_of_invisible executed fun row visible sameId => ?_, by decide⟩
    have deletable : Deletable moment.now row := by
      by_contra notDeletable
      exact fails (Or.inr ⟨row, visible, sameId, notDeletable⟩)
    exact refuses row sameId ⟨executed, visible, deletable⟩

end Remove

end Tchatator
