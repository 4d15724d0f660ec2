/-
**Reading a row of `_msg`** (`db_get_msg`, `db_get_inbox`, `msg_to_json_object`).

* `pqRecvTimestamp_exact_iff` — the unsigned division is the floor from 2000 on, and nowhere before;
* `ageOf_pqRecvOrZero_iff` — an age is read as it is unless the event came within a second;
* `ReadFaithfully`, `EncodedFaithfully` — a record, and its JSON, say what the row says;
  `lookup_msgToJsonObject` — the JSON has an age exactly when the record has one;
* `dbGetMsg_of_row`, `inbox_reads` — what each of the two readers makes of a row;
* **`rowRead_iff`** — both readers are faithful and agree exactly on the rows that are addressed to
  somebody, not older than 2000 and without an age of zero.
-/

import Tchatator.Model.ActionJson
import Tchatator.Proof.Inbox

namespace Tchatator

open Keyed

/-! ### Columns -/

/-- **The unsigned division is the floor exactly from 2000 on.** -/
theorem pqRecvTimestamp_exact_iff {timestamp : Int} (low : -9223372036854775808 ≤ timestamp)
    (high : timestamp ≤ 9223372036854775807) :
    pqRecvTimestamp timestamp = 946684800 + timestamp / 1000000 ↔ 0 ≤ timestamp := by
  unfold pqRecvTimestamp pgEpoch
  omega

/-- The age that a record gives, `0` if not relevant. -/
def ageOf (age : Int) : Option Int := if age = 0 then none else some age

theorem ageOf_pqRecvOrZero_iff {column : Option Int} :
    ageOf (pqRecvOrZero column) = column ↔ column ≠ some 0 := by
  cases column with
  | none => simp [ageOf, pqRecvOrZero]
  | some age =>
    by_cases isZero : age = 0 <;> simp [ageOf, pqRecvOrZero, isZero]

/-! ### Records and their JSON -/

/-- **A record says what a row says.** -/
structure ReadFaithfully (row : MsgRow) (msg : Msg) : Prop where
  id : msg.id = row.msgId
  content : msg.content = row.content
  sender : msg.userIdSender = row.userIdSender.getD 0
  recipient : row.userIdRecipient = some msg.userIdRecipient
  sentAt : msg.sentAt = 946684800 + row.sentAt / 1000000
  readAge : ageOf msg.readAge = row.readAge
  editedAge : ageOf msg.editedAge = row.editedAge
  deletedAge : ageOf msg.deletedAge = row.deletedAge

/-- **A JSON object says what a row says**: an age is there when the event occurred. -/
structure EncodedFaithfully (row : MsgRow) (jo : Json) : Prop where
  id : jsonObjectObjectGetEx jo (clit "msg_id") = some (.int row.msgId)
  content : jsonObjectObjectGetEx jo (clit "content") = some (.string row.content.1)
  sender : jsonObjectObjectGetEx jo (clit "sender") = some (.int (row.userIdSender.getD 0))
  recipient : jsonObjectObjectGetEx jo (clit "recipient") = row.userIdRecipient.map .int
  sentAt : jsonObjectObjectGetEx jo (clit "sent_at") =
    some (.int (946684800 + row.sentAt / 1000000))
  readAge : jsonObjectObjectGetEx jo (clit "read_age") = row.readAge.map .int
  editedAge : jsonObjectObjectGetEx jo (clit "edited_age") = row.editedAge.map .int
  deletedAge : jsonObjectObjectGetEx jo (clit "deleted_age") = row.deletedAge.map .int

/-- **The JSON of a record has an age exactly when the record has one.** -/
theorem lookup_msgToJsonObject (msg : Msg) :
    jsonObjectObjectGetEx (msgToJsonObject msg) (clit "read_age") =
        (ageOf msg.readAge).map .int ∧
      jsonObjectObjectGetEx (msgToJsonObject msg) (clit "edited_age") =
        (ageOf msg.editedAge).map .int ∧
      jsonObjectObjectGetEx (msgToJsonObject msg) (clit "deleted_age") =
        (ageOf msg.deletedAge).map .int := by
  unfold msgToJsonObject memberIf ageOf
  by_cases deleted : msg.deletedAge = 0 <;> by_cases read : msg.readAge = 0 <;>
    by_cases edited : msg.editedAge = 0 <;>
    simp only [deleted, read, edited, ne_eq, not_true, not_false_eq_true, if_true, if_false] <;>
    exact ⟨rfl, rfl, rfl⟩

/-- The JSON of a faithful record is faithful. -/
theorem ReadFaithfully.encoded {row : MsgRow} {msg : Msg} (faithful : ReadFaithfully row msg) :
    EncodedFaithfully row (msgToJsonObject msg) := by
  obtain ⟨readAge, editedAge, deletedAge⟩ := lookup_msgToJsonObject msg
  refine ⟨?_, ?_, ?_, ?_, ?_, ?_, ?_, ?_⟩
  · rw [← faithful.id]
    rfl
  · rw [← faithful.content]
    rfl
  · rw [← faithful.sender]
    rfl
  · rw [faithful.recipient]
    rfl
  · rw [← faithful.sentAt]
    rfl
  · rw [readAge, faithful.readAge]
  · rw [editedAge, faithful.editedAge]
  · rw [deletedAge, faithful.deletedAge]

/-! ### The two readers -/

section Readers

variable {host : Host} {db : Db} {row : MsgRow}

/-- The record that `db_get_msg` makes of a row. -/
def recordOf (host : Host) (row : MsgRow) : Msg :=
  { id := row.msgId
    content := row.content
    sentAt := pqRecvTimestamp row.sentAt
    readAge := pqRecvOrZero row.readAge
    editedAge := pqRecvOrZero row.editedAge
    deletedAge := pqRecvOrZero row.deletedAge
    userIdSender := pqRecvOrZero row.userIdSender
    userIdRecipient := pqRecvRecipient host row.userIdRecipient }

theorem dbGetMsg_of_row (inMsgs : row ∈ db.1.msgs) {start : Msg} (isId : start.id = row.msgId) :
    dbGetMsg host true db start = (.ok, recordOf host row) := by
  have selected : (db.1.msgs.filter fun other => other.msgId = row.msgId) = [row] :=
    db.2.msgPkey.filter_key inMsgs
  simp only [dbGetMsg, if_true, isId, selected]
  rw [getMsgRow, isId]
  rfl

/-- **On a row that is not deleted, the inbox makes the same record.** -/
theorem inboxMsg_eq_recordOf {recipient : Int} (kept : row.deletedAge = none)
    (addressed : row.userIdRecipient = some recipient) :
    inboxMsg recipient row = recordOf host row := by
  simp [inboxMsg, recordOf, kept, addressed, pqRecvOrZero, pqRecvRecipient]

/-- **What an inbox gives under the identifier of a row** is the record of the row. -/
theorem inbox_reads (inMsgs : row ∈ db.1.msgs) {moment : Moment} {limit offset recipient : Int}
    {outMsgs msgs : List Msg}
    (fetched : dbGetInbox moment db limit offset recipient outMsgs = (.ok, msgs)) {msg : Msg}
    (given : msg ∈ msgs) (isId : msg.id = row.msgId) :
    row.deletedAge = none ∧ msg = recordOf host row := by
  unfold dbGetInbox at fetched
  split at fetched
  · split at fetched
    · cases fetched
    · rename_i rows cut
      cases fetched
      obtain ⟨other, isOther, rfl⟩ := List.mem_map.mp given
      have inRows : other ∈ rows := List.mem_of_mem_take isOther
      unfold limitOffset at cut
      split at cut
      · cases cut
      · cases cut
        have inInbox := List.mem_of_mem_drop (List.mem_of_mem_take inRows)
        obtain ⟨alsoMsg, kept, addressed⟩ := mem_inboxRows.mp inInbox
        have same : other = row := db.2.msgPkey.eq_of_key alsoMsg inMsgs isId
        subst same
        exact ⟨kept, inboxMsg_eq_recordOf kept addressed⟩
  · cases fetched

/-- A row that is not deleted is in the inbox of its recipient. -/
theorem inbox_holds (inMsgs : row ∈ db.1.msgs) {moment : Moment}
    (executed : moment.up .getInbox = true) {recipient : Int} (kept : row.deletedAge = none)
    (addressed : row.userIdRecipient = some recipient) :
    ∃ limit msgs, dbGetInbox moment db limit 0 recipient [] = (.ok, msgs) ∧
      recordOf host row ∈ msgs := by
  have inInbox : row ∈ inboxRows db recipient := mem_inboxRows.mpr ⟨inMsgs, kept, addressed⟩
  have whole : limitOffset ((inboxRows db recipient).length : Int) 0 (inboxRows db recipient) =
      some (inboxRows db recipient) := by
    have notNegative : ¬ (((inboxRows db recipient).length : Int) < 0 ∨ (0 : Int) < 0) := by omega
    rw [limitOffset, if_neg notNegative]
    simp
  refine ⟨(inboxRows db recipient).length, (inboxRows db recipient).map (inboxMsg recipient), ?_,
    List.mem_map.mpr ⟨row, inInbox, inboxMsg_eq_recordOf kept addressed⟩⟩
  rw [dbGetInbox, if_pos executed, whole]
  simp

/-- **A record of a row is faithful** exactly on the rows that are addressed to somebody, not older
than 2000 and without an age of zero. -/
theorem recordOf_faithful_iff (low : -9223372036854775808 ≤ row.sentAt)
    (high : row.sentAt ≤ 9223372036854775807) :
    ReadFaithfully row (recordOf host row) ↔
      0 ≤ row.sentAt ∧ row.readAge ≠ some 0 ∧ row.editedAge ≠ some 0 ∧ row.deletedAge ≠ some 0 ∧
        row.userIdRecipient ≠ none := by
  constructor
  · intro faithful
    refine ⟨(pqRecvTimestamp_exact_iff low high).mp faithful.sentAt,
      ageOf_pqRecvOrZero_iff.mp faithful.readAge, ageOf_pqRecvOrZero_iff.mp faithful.editedAge,
      ageOf_pqRecvOrZero_iff.mp faithful.deletedAge, fun unaddressed => ?_⟩
    cases unaddressed.symm.trans faithful.recipient
  · rintro ⟨recent, read, edited, deleted, addressed⟩
    obtain ⟨recipient, isRecipient⟩ := Option.ne_none_iff_exists'.mp addressed
    refine ⟨rfl, rfl, rfl, ?_, (pqRecvTimestamp_exact_iff low high).mpr recent,
      ageOf_pqRecvOrZero_iff.mpr read, ageOf_pqRecvOrZero_iff.mpr edited,
      ageOf_pqRecvOrZero_iff.mpr deleted⟩
    rw [isRecipient, recordOf, isRecipient]
    rfl

end Readers

/-! ### Rows -/

/-- **Both readers read a row faithfully**, and so does the JSON of what they read: `db_get_msg` gives
the record of the row, and so does every inbox that gives a record with its identifier; if it is not
deleted, its recipient's inbox does. -/
def RowRead (host : Host) (db : Db) (row : MsgRow) : Prop :=
  ∃ msg, ReadFaithfully row msg ∧ EncodedFaithfully row (msgToJsonObject msg) ∧
    (∀ start : Msg, start.id = row.msgId → dbGetMsg host true db start = (.ok, msg)) ∧
    (∀ moment limit offset recipient outMsgs msgs,
      dbGetInbox moment db limit offset recipient outMsgs = (.ok, msgs) →
      ∀ other ∈ msgs, other.id = row.msgId → row.deletedAge = none ∧ other = msg) ∧
    (row.deletedAge = none → ∀ moment, moment.up .getInbox = true →
      ∃ limit recipient msgs, dbGetInbox moment db limit 0 recipient [] = (.ok, msgs) ∧ msg ∈ msgs)

/-- `db_get_msg` gives the record of a row, so that this is what must be faithful. -/
theorem RowRead.faithful {host : Host} {db : Db} {row : MsgRow} (inMsgs : row ∈ db.1.msgs)
    (read : RowRead host db row) : ReadFaithfully row (recordOf host row) := by
  obtain ⟨msg, faithful, _, gets, _⟩ := read
  cases (gets (recordOf host row) rfl).symm.trans (dbGetMsg_of_row inMsgs rfl)
  exact faithful

/-- **A row is read faithfully exactly when it is addressed to somebody, not older than 2000 and
without an age of zero.** -/
theorem rowRead_iff (host : Host) {db : Db} {row : MsgRow} (inMsgs : row ∈ db.1.msgs)
    (low : -9223372036854775808 ≤ row.sentAt) (high : row.sentAt ≤ 9223372036854775807) :
    RowRead host db row ↔
      0 ≤ row.sentAt ∧ row.readAge ≠ some 0 ∧ row.editedAge ≠ some 0 ∧ row.deletedAge ≠ some 0 ∧
        row.userIdRecipient ≠ none := by
  rw [← recordOf_faithful_iff low high]
  constructor
  · exact RowRead.faithful inMsgs
  · intro faithful
    refine ⟨recordOf host row, faithful, faithful.encoded, fun start => dbGetMsg_of_row inMsgs, ?_,
      fun kept moment executed => ?_⟩
    · intro moment limit offset recipient outMsgs msgs fetched other given isId
      exact inbox_reads inMsgs fetched given isId
    · obtain ⟨limit, msgs, fetched, given⟩ := inbox_holds inMsgs executed kept faithful.recipient
      exact ⟨limit, _, msgs, fetched, given⟩

/-- A message that was deleted in the second it was sent. -/
def deletedAtOnce : MsgRow :=
  { newMsgRow 0 1 1003 1001 (clit "salut") with deletedAge := some 0 }

/-- A message of 1999. -/
def oldMessage : MsgRow := newMsgRow (-1) 2 1003 1001 (clit "salut")

/-- The test users with both of them, and one that is neither. -/
def dbWithCorners : Db :=
  ⟨{ useTestDataUsers.1 with
      msgs := [deletedAtOnce, oldMessage, newMsgRow 0 3 1003 1001 (clit "salut")] }, by decide⟩

theorem recentMessage_read :
    RowRead testHost dbWithCorners (newMsgRow 0 3 1003 1001 (clit "salut")) :=
  (rowRead_iff testHost (by decide) (by decide) (by decide)).mpr (by decide)

/-- Neither the deleted message nor the old one is read faithfully. -/
theorem corners_not_read :
    (deletedAtOnce ∈ dbWithCorners.1.msgs ∧ ¬ RowRead testHost dbWithCorners deletedAtOnce) ∧
      oldMessage ∈ dbWithCorners.1.msgs ∧ ¬ RowRead testHost dbWithCorners oldMessage := by
  refine ⟨⟨by decide, fun read => ?_⟩, by decide, fun read => ?_⟩
  · exact absurd (RowRead.faithful (by decide) read).deletedAge (by decide)
  · exact absurd (RowRead.faithful (by decide) read).sentAt (by decide)

end Tchatator
