/-
**The views of users and their triggers** (`functions.sql`, `triggers/member.sql`,
`triggers/pro.sql`, `triggers/admin.sql`, and the update of `triggers/msg.sql`).

The three views of users differ in the columns they add to `_user`: each has its own insertion and
update of these, and the rest is shared. The columns of `new` are all nullable: a null value in a
column that is declared not null raises. Every statement inside a trigger checks the constraints it
may violate when it ends (`Db.commit`).

A procedure is looked up by its name when the call is executed (`callProcedure`).
-/

import Tchatator.Library.View
import Tchatator.Model.Sql

namespace Tchatator

open Keyed

/-! ### Rows -/

/-- A row of a view of users, with the columns of its own. -/
structure ClassRow (own : Type) where
  userId : Int
  apiKey : Uuid4
  passwordHash : Option CString
  columns : own
deriving DecidableEq

/-- What a trigger on a view of users calls `new`. -/
structure NewClassRow (own : Type) where
  userId : Option Int
  apiKey : Option Uuid4
  passwordHash : Option CString
  columns : own

/-- The columns of `member` that are not in `_user`. -/
structure MemberColumns where
  userName : CString
  fullBlockExpiresAt : Option Int
deriving DecidableEq

/-- The same in `new`. -/
structure NewMemberColumns where
  userName : Option CString
  fullBlockExpiresAt : Option Int

/-- A row of a class of users joined with its row of `_user`. -/
def joinUser {own : Type} (tables : Tables) (userId : Int) (columns : own) :
    Option (ClassRow own) :=
  (rowWith UserRow.userId userId tables.users).map fun user =>
    { userId := user.userId, apiKey := user.apiKey, passwordHash := user.passwordHash,
      columns := columns }

/-! ### Shared functions -/

/-- `if old.x <> new.x then raise`: the comparison with a null is null. -/
def raisesIfChanged (old new : Option Int) : Bool :=
  decide (Ternary.compare (· ≠ ·) old new).Holds

section

variable {own new : Type}

/-- `_insert_user`. -/
def insertUser (db : Db) (row : NewClassRow new) : Option (Db × NewClassRow new) :=
  match row.userId, row.apiKey with
  | some userId, some apiKey =>
      (Db.commit { db.1 with users := ⟨userId, apiKey, row.passwordHash⟩ :: db.1.users }).map
        fun db => (db, { row with userId := some userId })
  | _, _ => none

/-- `update _user set api_key = ..., password_hash = ... where user_id = ...`. -/
def updateUserRows (db : Db) (row : NewClassRow new) : Option Db :=
  if db.1.users.any fun user => decide (row.userId = some user.userId) then
    row.apiKey.bind fun apiKey =>
      Db.commit { db.1 with
        users := db.1.users.map fun user =>
          if row.userId = some user.userId then
            { user with apiKey := apiKey, passwordHash := row.passwordHash }
          else user }
  else some db

/-- `_update_user`. -/
def updateUser (db : Db) (old : ClassRow own) (row : NewClassRow new) : Option Db :=
  if raisesIfChanged (some old.userId) row.userId then none
  else updateUserRows db row

/-- The procedures that take `old` and `new`, by name. -/
def procedures : List (String × (Db → ClassRow own → NewClassRow new → Option Db)) :=
  [("_update_user", updateUser)]

/-- `call`: raises when there is no such procedure. -/
def callProcedure (name : String) (db : Db) (old : ClassRow own) (row : NewClassRow new) :
    Option Db :=
  match procedures.find? fun procedure => procedure.1 = name with
  | none => none
  | some procedure => procedure.2 db old row

end

namespace Tables

/-- `delete from _user where user_id = ...`, and what it deletes by `on delete cascade`. -/
def deleteUser (tables : Tables) (userId : Int) : Tables :=
  { users := tables.users.filter fun row => row.userId ≠ userId
    members := tables.members.filter fun row => row.userId ≠ userId
    pros := tables.pros.filter fun row => row.userId ≠ userId
    admins := tables.admins.filter fun row => row.userId ≠ userId
    msgs := tables.msgs.filter fun row =>
      row.userIdSender ≠ some userId ∧ row.userIdRecipient ≠ some userId
    singleBlocks := tables.singleBlocks.filter fun row =>
      row.userIdMember ≠ userId ∧ row.userIdPro ≠ userId }

variable {tables : Tables} {userId : Int}

theorem HasUser.deleteUser {other : Int} (hasUser : tables.HasUser other)
    (different : other ≠ userId) : (tables.deleteUser userId).HasUser other := by
  obtain ⟨row, member, rfl⟩ := hasUser
  exact ⟨row, List.mem_filter.mpr ⟨member, by simpa using different⟩, rfl⟩

theorem MsgAdmissible.deleteUser {row : MsgRow} (admissible : tables.MsgAdmissible row)
    (kept : row.userIdSender ≠ some userId ∧ row.userIdRecipient ≠ some userId) :
    (tables.deleteUser userId).MsgAdmissible row :=
  { admissible with
    fkUserSender := fun sender isSender =>
      (admissible.fkUserSender sender isSender).deleteUser fun same =>
        kept.1 (isSender.trans (congrArg some same))
    fkUserRecipient := fun recipient isRecipient =>
      (admissible.fkUserRecipient recipient isRecipient).deleteUser fun same =>
        kept.2 (isRecipient.trans (congrArg some same)) }

/-- **A deletion that cascades violates no constraint.** -/
theorem Admissible.deleteUser (admissible : tables.Admissible) (userId : Int) :
    (tables.deleteUser userId).Admissible := by
  have keptUnique : ∀ {ρ κ : Type} {key : ρ → κ} {rows : List ρ} (keep : ρ → Bool),
      Unique key rows → Unique key (rows.filter keep) := fun keep unique =>
    unique.sublist (List.filter_sublist.map _)
  exact
    { userPkey := keptUnique _ admissible.userPkey
      memberPkey := keptUnique _ admissible.memberPkey
      memberUserName := keptUnique _ admissible.memberUserName
      memberFkUser := fun row member => by
        obtain ⟨inTable, different⟩ := List.mem_filter.mp member
        exact (admissible.memberFkUser row inTable).deleteUser (by simpa using different)
      proPkey := keptUnique _ admissible.proPkey
      proFkUser := fun row member => by
        obtain ⟨inTable, different⟩ := List.mem_filter.mp member
        exact (admissible.proFkUser row inTable).deleteUser (by simpa using different)
      adminPkey := keptUnique _ admissible.adminPkey
      adminFkUser := fun row member => by
        obtain ⟨inTable, different⟩ := List.mem_filter.mp member
        exact (admissible.adminFkUser row inTable).deleteUser (by simpa using different)
      msgPkey := keptUnique _ admissible.msgPkey
      msgRows := fun row member => by
        obtain ⟨inTable, kept⟩ := List.mem_filter.mp member
        exact (admissible.msgRows row inTable).deleteUser (by simpa using kept)
      singleBlockPk := keptUnique _ admissible.singleBlockPk
      singleBlockFkMember := fun row member => by
        obtain ⟨inTable, kept⟩ := List.mem_filter.mp member
        obtain ⟨member, inMembers, same⟩ := admissible.singleBlockFkMember row inTable
        have different : row.userIdMember ≠ userId ∧ row.userIdPro ≠ userId := by simpa using kept
        exact ⟨member, List.mem_filter.mpr ⟨inMembers, by simpa [same] using different.1⟩, same⟩
      singleBlockFkPro := fun row member => by
        obtain ⟨inTable, kept⟩ := List.mem_filter.mp member
        obtain ⟨pro, inPros, same⟩ := admissible.singleBlockFkPro row inTable
        have different : row.userIdMember ≠ userId ∧ row.userIdPro ≠ userId := by simpa using kept
        exact ⟨pro, List.mem_filter.mpr ⟨inPros, by simpa [same] using different.2⟩, same⟩ }

end Tables

/-- The deletion of a user. -/
def Db.deleteUser (db : Db) (userId : Int) : Db :=
  ⟨db.1.deleteUser userId, db.2.deleteUser userId⟩

/-! ### Triggers on the views of users -/

section

variable {own new : Type}

/-- An `instead of insert` trigger: a row of `_user`, then one of the class. -/
def ftgInsert (insertClass : Db → NewClassRow new → Option Db) (db : Db) (row : NewClassRow new) :
    Option Db :=
  (insertUser db row).bind fun (db, row) => insertClass db row

/-- An `instead of update` trigger: the row of `_user`, then that of the class. -/
def ftgUpdate (updateClass : Db → NewClassRow new → Option Db) (db : Db)
    (rows : ClassRow own × NewClassRow new) : Option Db :=
  (callProcedure "update_user" db rows.1 rows.2).bind fun db => updateClass db rows.2

/-- An `instead of delete` trigger. -/
def ftgDelete (db : Db) (old : ClassRow own) : Option Db := some (db.deleteUser old.userId)

end

/-- `insert into _member (user_id, user_name)`. -/
def insertMember (db : Db) (row : NewClassRow NewMemberColumns) : Option Db :=
  match row.userId, row.columns.userName with
  | some userId, some userName =>
      Db.commit { db.1 with members := ⟨userId, userName, none⟩ :: db.1.members }
  | _, _ => none

/-- `update _member set user_name = ... where user_id = ...`. -/
def updateMember (db : Db) (row : NewClassRow NewMemberColumns) : Option Db :=
  if db.1.members.any fun member => decide (row.userId = some member.userId) then
    row.columns.userName.bind fun userName =>
      Db.commit { db.1 with
        members := db.1.members.map fun member =>
          if row.userId = some member.userId then { member with userName := userName }
          else member }
  else some db

/-- `insert into _pro (user_id, business_name)`. -/
def insertPro (db : Db) (row : NewClassRow (Option CString)) : Option Db :=
  match row.userId, row.columns with
  | some userId, some businessName =>
      Db.commit { db.1 with pros := ⟨userId, businessName⟩ :: db.1.pros }
  | _, _ => none

/-- `update _pro set business_name = ... where user_id = ...`. -/
def updatePro (db : Db) (row : NewClassRow (Option CString)) : Option Db :=
  if db.1.pros.any fun pro => decide (row.userId = some pro.userId) then
    row.columns.bind fun businessName =>
      Db.commit { db.1 with
        pros := db.1.pros.map fun pro =>
          if row.userId = some pro.userId then { pro with businessName := businessName } else pro }
  else some db

/-- `insert into _admin (user_id)`. -/
def insertAdmin (db : Db) (row : NewClassRow Unit) : Option Db :=
  row.userId.bind fun userId => Db.commit { db.1 with admins := ⟨userId⟩ :: db.1.admins }

namespace Views

/-- The view `member`. -/
def member : View Db (NewClassRow NewMemberColumns) (ClassRow MemberColumns) :=
  { rows := fun db => db.1.members.filterMap fun row =>
      joinUser db.1 row.userId ⟨row.userName, row.fullBlockExpiresAt⟩
    onInsert := ftgInsert insertMember
    onUpdate := ftgUpdate updateMember
    onDelete := ftgDelete }

/-- The view `pro`. -/
def pro : View Db (NewClassRow (Option CString)) (ClassRow CString) :=
  { rows := fun db => db.1.pros.filterMap fun row => joinUser db.1 row.userId row.businessName
    onInsert := ftgInsert insertPro
    onUpdate := ftgUpdate updatePro
    onDelete := ftgDelete }

/-- The view `admin`: its update trigger has nothing to do after the call. -/
def admin : View Db (NewClassRow Unit) (ClassRow Unit) :=
  { rows := fun db => db.1.admins.filterMap fun row => joinUser db.1 row.userId ()
    onInsert := ftgInsert insertAdmin
    onUpdate := ftgUpdate fun db _ => some db
    onDelete := ftgDelete }

end Views

/-! ### The update trigger of the view `msg` -/

/-- What the triggers on `msg` call `new`. -/
structure NewMsg where
  msgId : Option Int
  content : Option CString
  sentAt : Option Int
  readAge : Option Int
  editedAge : Option Int
  userIdSender : Option Int
  userIdRecipient : Option Int

/-- The columns of `_msg` that the trigger assigns. -/
inductive MsgColumn
  | content
  | readAge
  | editedAge
deriving DecidableEq

/-- An assignment in an `update _msg`. A value may be computed from the row, and may raise. -/
inductive MsgAssignment
  | content (value : Option CString)
  | readAge (value : Option Int)
  | editedAge (value : MsgRow → Option (Option Int))

def MsgAssignment.column : MsgAssignment → MsgColumn
  | .content _ => .content
  | .readAge _ => .readAge
  | .editedAge _ => .editedAge

/-- One assignment, to a row that some of the others may have changed already. -/
def MsgAssignment.assign (row changed : MsgRow) : MsgAssignment → Option MsgRow
  | .content value => value.map fun content => { changed with content := content }
  | .readAge value => some { changed with readAge := value }
  | .editedAge value => (value row).map fun editedAge => { changed with editedAge := editedAge }

/-- `update _msg set ... where msg_id = ...`: raises when it assigns a column twice. -/
def updateMsgRows (assignments : List MsgAssignment) (msgId : Int) (tables : Tables) :
    Option Tables :=
  if (assignments.map MsgAssignment.column).Nodup then
    (tables.msgs.mapM fun row =>
      if row.msgId = msgId then assignments.foldlM (MsgAssignment.assign row) row
      else some row).map fun msgs => { tables with msgs := msgs }
  else none

/-- `ftg_msg_update`. -/
def ftgMsgUpdate (now : Int) (tables : Tables) (old : MsgRow) (new : NewMsg) : Option Tables :=
  if raisesIfChanged (some old.msgId) new.msgId then none
  else if raisesIfChanged (some old.sentAt) new.sentAt then none
  else if raisesIfChanged old.userIdSender new.userIdSender then none
  else if raisesIfChanged old.userIdRecipient new.userIdRecipient then none
  else
    updateMsgRows
      [.editedAge fun row => (secondsDiff now row.sentAt).map some,
        .content new.content,
        .readAge new.readAge,
        .editedAge fun _ => some new.editedAge]
      old.msgId tables

/-- The update of one row of `msg`. -/
def updateMsg (now : Int) (db : Db) (old : MsgRow) (new : NewMsg) : Option Db :=
  (ftgMsgUpdate now db.1 old new).bind Db.commit

end Tchatator
