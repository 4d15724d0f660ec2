/-
**The tables** (`tables.sql`).

* `Tables` — the rows of the six tables. The order of a table's rows means nothing. A `timestamp`
  is its number of microseconds since 2000-01-01.
* `Tables.Admissible` — the declared constraints: primary keys, unique columns, foreign keys and
  the checks, read in SQL's three-valued logic.
* `Db` — tables that satisfy them. A statement computes the tables it would leave behind and
  `Db.commit`s them: a violated constraint is an error of the statement, and the database stays
  as it was.

`World` adds the `msg_id` sequence, which is not a row: a value once drawn is never given back, not
even when the statement that drew it fails.
-/

import Tchatator.Library.Keyed
import Tchatator.Library.Ternary
import Tchatator.Model.Types

namespace Tchatator

open Keyed

/-! ### Rows -/

/-- The timestamp `'infinity'`, later than every date. -/
def infinity : Int := 9223372036854775807

/-- A row of `_user`. -/
structure UserRow where
  userId : Int
  apiKey : Uuid4
  passwordHash : Option CString
deriving DecidableEq

/-- A row of `_member`. -/
structure MemberRow where
  userId : Int
  userName : CString
  fullBlockExpiresAt : Option Int
deriving DecidableEq

/-- A row of `_pro`. -/
structure ProRow where
  userId : Int
  businessName : CString
deriving DecidableEq

/-- A row of `_admin`. -/
structure AdminRow where
  userId : Int
deriving DecidableEq

/-- A row of `_msg`. The sender is null for root. -/
structure MsgRow where
  msgId : Int
  content : CString
  sentAt : Int
  readAge : Option Int
  editedAge : Option Int
  deletedAge : Option Int
  userIdSender : Option Int
  userIdRecipient : Option Int
deriving DecidableEq

/-- A row of `_single_block`. -/
structure SingleBlockRow where
  userIdMember : Int
  userIdPro : Int
  expiresAt : Int
deriving DecidableEq

/-- The tables. -/
structure Tables where
  users : List UserRow
  members : List MemberRow
  pros : List ProRow
  admins : List AdminRow
  msgs : List MsgRow
  singleBlocks : List SingleBlockRow
deriving DecidableEq

/-! ### Constraints -/

namespace Tables

/-- `references _user`. -/
def HasUser (tables : Tables) (userId : Int) : Prop :=
  ∃ row ∈ tables.users, row.userId = userId

instance (tables : Tables) (userId : Int) : Decidable (tables.HasUser userId) :=
  inferInstanceAs (Decidable (∃ row ∈ tables.users, row.userId = userId))

/-- The check constraints and foreign keys of one `_msg` row. -/
structure MsgAdmissible (tables : Tables) (row : MsgRow) : Prop where
  deletedGtRead : (Ternary.compare (· > ·) row.deletedAge row.readAge).Passes
  deletedGtModified : (Ternary.compare (· > ·) row.deletedAge row.editedAge).Passes
  fkUserSender : ∀ sender ∈ row.userIdSender, tables.HasUser sender
  fkUserRecipient : ∀ recipient ∈ row.userIdRecipient, tables.HasUser recipient
  senderNeRecipient :
    (Ternary.compare (· ≠ ·) row.userIdSender row.userIdRecipient).Passes

instance (tables : Tables) (row : MsgRow) : Decidable (tables.MsgAdmissible row) :=
  decidable_of_iff
    ((Ternary.compare (· > ·) row.deletedAge row.readAge).Passes ∧
      (Ternary.compare (· > ·) row.deletedAge row.editedAge).Passes ∧
      (∀ sender ∈ row.userIdSender, tables.HasUser sender) ∧
      (∀ recipient ∈ row.userIdRecipient, tables.HasUser recipient) ∧
      (Ternary.compare (· ≠ ·) row.userIdSender row.userIdRecipient).Passes)
    ⟨fun ⟨a, b, c, d, e⟩ => ⟨a, b, c, d, e⟩, fun ⟨a, b, c, d, e⟩ => ⟨a, b, c, d, e⟩⟩

/-- **The declared constraints.** -/
structure Admissible (tables : Tables) : Prop where
  userPkey : Unique UserRow.userId tables.users
  memberPkey : Unique MemberRow.userId tables.members
  memberUserName : Unique MemberRow.userName tables.members
  memberFkUser : ∀ row ∈ tables.members, tables.HasUser row.userId
  proPkey : Unique ProRow.userId tables.pros
  proFkUser : ∀ row ∈ tables.pros, tables.HasUser row.userId
  adminPkey : Unique AdminRow.userId tables.admins
  adminFkUser : ∀ row ∈ tables.admins, tables.HasUser row.userId
  msgPkey : Unique MsgRow.msgId tables.msgs
  msgRows : ∀ row ∈ tables.msgs, tables.MsgAdmissible row
  singleBlockPk :
    Unique (fun row => (row.userIdMember, row.userIdPro)) tables.singleBlocks
  singleBlockFkMember :
    ∀ row ∈ tables.singleBlocks, ∃ member ∈ tables.members, member.userId = row.userIdMember
  singleBlockFkPro :
    ∀ row ∈ tables.singleBlocks, ∃ pro ∈ tables.pros, pro.userId = row.userIdPro

instance (tables : Tables) : Decidable tables.Admissible :=
  decidable_of_iff
    (Unique UserRow.userId tables.users ∧ Unique MemberRow.userId tables.members ∧
      Unique MemberRow.userName tables.members ∧
      (∀ row ∈ tables.members, tables.HasUser row.userId) ∧
      Unique ProRow.userId tables.pros ∧ (∀ row ∈ tables.pros, tables.HasUser row.userId) ∧
      Unique AdminRow.userId tables.admins ∧
      (∀ row ∈ tables.admins, tables.HasUser row.userId) ∧
      Unique MsgRow.msgId tables.msgs ∧ (∀ row ∈ tables.msgs, tables.MsgAdmissible row) ∧
      Unique (fun row => (row.userIdMember, row.userIdPro)) tables.singleBlocks ∧
      (∀ row ∈ tables.singleBlocks,
        ∃ member ∈ tables.members, member.userId = row.userIdMember) ∧
      ∀ row ∈ tables.singleBlocks, ∃ pro ∈ tables.pros, pro.userId = row.userIdPro)
    ⟨fun ⟨a, b, c, d, e, f, g, h, i, j, k, l, m⟩ => ⟨a, b, c, d, e, f, g, h, i, j, k, l, m⟩,
      fun ⟨a, b, c, d, e, f, g, h, i, j, k, l, m⟩ => ⟨a, b, c, d, e, f, g, h, i, j, k, l, m⟩⟩

/-- Replacing the messages by rows that satisfy the constraints of `_msg` keeps the tables
admissible. -/
theorem Admissible.withMsgs {tables : Tables} (admissible : tables.Admissible)
    {msgs : List MsgRow} (pkey : Unique MsgRow.msgId msgs)
    (rows : ∀ row ∈ msgs, tables.MsgAdmissible row) :
    ({ tables with msgs := msgs } : Tables).Admissible :=
  { admissible with
    msgPkey := pkey
    msgRows := fun row member =>
      have old := rows row member
      ⟨old.deletedGtRead, old.deletedGtModified, old.fkUserSender, old.fkUserRecipient,
        old.senderNeRecipient⟩ }

end Tables

/-! ### The database -/

/-- A database: tables that satisfy the schema. -/
abbrev Db := {tables : Tables // tables.Admissible}

/-- The database without rows. -/
def Db.empty : Db := ⟨⟨[], [], [], [], [], []⟩, by decide⟩

/-- The end of a statement: accept the tables it leaves behind, or raise. -/
def Db.commit (tables : Tables) : Option Db :=
  if admissible : tables.Admissible then some ⟨tables, admissible⟩ else none

theorem Db.commit_of_admissible {tables : Tables} (admissible : tables.Admissible) :
    Db.commit tables = some ⟨tables, admissible⟩ := dif_pos admissible

theorem Db.commit_eq_none_iff {tables : Tables} :
    Db.commit tables = none ↔ ¬ tables.Admissible := by
  unfold Db.commit
  split <;> simp_all

theorem Db.eq_of_commit {tables : Tables} {db : Db} (committed : Db.commit tables = some db) :
    db.1 = tables := by
  unfold Db.commit at committed
  split at committed
  · cases committed
    rfl
  · cases committed

/-- The database and the last value drawn from the `msg_id` sequence. -/
structure World where
  db : Db
  lastMsgId : Nat
deriving DecidableEq

/-- `nextval` on the `msg_id` sequence of a `serial` column: it raises past the last 32-bit value,
and what it draws stays drawn. -/
def World.nextval (world : World) : Option (Int × World) :=
  if world.lastMsgId < 2147483647 then
    some (world.lastMsgId + 1, { world with lastMsgId := world.lastMsgId + 1 })
  else none

end Tchatator
