/-
**Views, functions and message triggers** (`views.sql`, `functions.sql`, `triggers/msg.sql`).

Each view is the list of its rows; `msg_ordered` is the only one whose order matters. A function
or statement that writes returns `none` where PostgreSQL raises: the tables are then those before
the call, but a drawn sequence value stays drawn, so the `World` after it is returned in both cases.
-/

import Mathlib.Data.List.Sort
import Tchatator.Model.Schema

namespace Tchatator

open Keyed

/-! ### Views -/

/-- A row of the view `"user"`. -/
structure UserViewRow where
  userId : Int
  apiKey : Uuid4
  passwordHash : Option CString
  role : Option Nat
  memberUserName : Option CString
  proBusinessName : Option CString
deriving DecidableEq

namespace Tables

/-- The row of the view `"user"` for one row of `_user`: each left join finds at most one row. -/
def userViewRow (tables : Tables) (user : UserRow) : UserViewRow :=
  let a := rowWith AdminRow.userId user.userId tables.admins
  let m := rowWith MemberRow.userId user.userId tables.members
  let p := rowWith ProRow.userId user.userId tables.pros
  { userId := user.userId
    apiKey := user.apiKey
    passwordHash := user.passwordHash
    role :=
      if a.isSome then some 0
      else if m.isSome then some 2
      else if p.isSome then some 4
      else none
    memberUserName := m.map MemberRow.userName
    proBusinessName := p.map ProRow.businessName }

/-- The view `"user"`. -/
def userView (tables : Tables) : List UserViewRow := tables.users.map tables.userViewRow

/-- The view `member`, the columns its queries read. -/
def memberView (tables : Tables) : List MemberRow :=
  tables.members.filter fun row => decide (tables.HasUser row.userId)

/-- The view `pro`, the columns its queries read. -/
def proView (tables : Tables) : List ProRow :=
  tables.pros.filter fun row => decide (tables.HasUser row.userId)

/-- The view `msg`: messages that are not deleted. -/
def msgView (tables : Tables) : List MsgRow := tables.msgs.filter fun row => row.deletedAge.isNone

end Tables

/-- `order by sent_at desc, msg_id desc`. -/
def NewestFirst (first second : MsgRow) : Prop :=
  second.sentAt < first.sentAt ∨ (first.sentAt = second.sentAt ∧ second.msgId ≤ first.msgId)

instance : DecidableRel NewestFirst := fun first second =>
  inferInstanceAs (Decidable (second.sentAt < first.sentAt ∨
    (first.sentAt = second.sentAt ∧ second.msgId ≤ first.msgId)))

instance : Std.Total NewestFirst where
  total first second := by unfold NewestFirst; omega

instance : IsTrans MsgRow NewestFirst where
  trans first second third := by unfold NewestFirst; omega

/-- The view `msg_ordered`. -/
def Tables.msgOrdered (tables : Tables) : List MsgRow :=
  tables.msgView.insertionSort NewestFirst

/-! ### Functions -/

/-- The timestamp `'-infinity'`. -/
def negInfinity : Int := -9223372036854775808

/-- A number of microseconds as a whole number of seconds, ties away from zero. -/
def roundSeconds (micros : Int) : Int :=
  if 0 ≤ micros then (micros + 500000) / 1000000 else -((-micros + 500000) / 1000000)

/-- `_seconds_diff`: raises on an infinite operand and past 32 bits. -/
def secondsDiff (t₁ t₂ : Int) : Option Int :=
  if t₁ = infinity ∨ t₁ = negInfinity ∨ t₂ = infinity ∨ t₂ = negInfinity then none
  else
    let seconds := roundSeconds (t₁ - t₂)
    if int32Min ≤ seconds ∧ seconds ≤ int32Max then some seconds else none

/-- The row `_insert_msg` adds; `0` is the root user, whose identifier is null. -/
def newMsgRow (now : Int) (msgId sender recipient : Int) (content : CString) : MsgRow :=
  { msgId := msgId
    content := content
    sentAt := now
    readAge := none
    editedAge := none
    deletedAge := none
    userIdSender := if sender = 0 then none else some sender
    userIdRecipient := some recipient }

/-- `_insert_msg`. -/
def insertMsg (now : Int) (world : World) (sender recipient : Int) (content : CString) :
    Option Int × World :=
  match world.nextval with
  | none => (none, world)
  | some (msgId, drawn) =>
      let row := newMsgRow now msgId sender recipient content
      match Db.commit { world.db.1 with msgs := row :: world.db.1.msgs } with
      | none => (none, drawn)
      | some db => (some msgId, { drawn with db := db })

/-- `select full_block_expires_at < localtimestamp from _member where user_id = p_user_id_sender`. -/
def fullBlockTest (now : Int) (tables : Tables) (sender : Int) : Ternary :=
  Ternary.compare (· < ·)
    ((rowWith MemberRow.userId sender tables.members).bind MemberRow.fullBlockExpiresAt) (some now)

/-- `select expires_at < localtimestamp from _single_block where user_id_member =
p_user_id_sender and user_id_pro = p_user_id_recipient`. -/
def singleBlockTest (now : Int) (tables : Tables) (sender recipient : Int) : Ternary :=
  Ternary.compare (· < ·)
    ((rowWith (fun row : SingleBlockRow => (row.userIdMember, row.userIdPro)) (sender, recipient)
      tables.singleBlocks).map SingleBlockRow.expiresAt) (some now)

/-- `send_msg`: `0` is `errstatus_error`. -/
def sendMsg (now : Int) (world : World) (sender recipient : Int) (content : CString) :
    Option Int × World :=
  if (Ternary.or (fullBlockTest now world.db.1 sender)
      (singleBlockTest now world.db.1 sender recipient)).Holds then (some 0, world)
  else insertMsg now world sender recipient content

/-! ### Deletion from the view `msg` -/

/-- `ftg_msg_delete`: assert that the row is not deleted yet, then mark it. -/
def ftgMsgDelete (now : Int) (tables : Tables) (old : MsgRow) : Option Tables :=
  match rowWith MsgRow.msgId old.msgId tables.msgs with
  | none => none
  | some row =>
      if row.deletedAge.isNone then
        (secondsDiff now row.sentAt).map fun age =>
          { tables with
            msgs := tables.msgs.map fun msg =>
              if msg.msgId = old.msgId then { msg with deletedAge := some age } else msg }
      else none

/-- `delete from msg where msg_id = $1`: the trigger fires for each row of the view, and the
command reports how many there were. -/
def deleteMsg (now : Int) (world : World) (msgId : Int) : Option (Nat × World) :=
  let rows := world.db.1.msgView.filter fun row => row.msgId = msgId
  (rows.foldlM (ftgMsgDelete now) world.db.1).bind fun tables =>
    (Db.commit tables).map fun db => (rows.length, { world with db := db })

end Tchatator
