/-
**The data layer** (`db.c`).

Each function issues one statement, or two for a name. `Moment.up` says which of them are executed
and answered while the server works on one action, and `Moment.now` is `localtimestamp`. A
statement that is not executed has no effect.

Results that share an integer with an error status are `Int`s, as in the source; records the source
fills through a pointer are passed in and returned.
-/

import Tchatator.Model.Cfg
import Tchatator.Model.Sql

namespace Tchatator

open Keyed

/-- The statements of the data layer, by the function that issues them. -/
inductive Query
  | verifyUserConstr
  | getUserRole
  | memberByName
  | proByName
  | getUser
  | countMsg
  | sendMsg
  | getInbox
  | rmMsg
deriving DecidableEq

/-- What the outside world does while one action is handled. -/
structure Moment where
  now : Int
  up : Query → Bool

/-! ### Reading columns -/

/-- `PQgetvalue` of a text column: an empty string for null. -/
def pqGetvalue (column : Option CString) : CString := column.getD (cstring [])

/-- `pq_recv_l` of a nullable column read without asking whether it is null. -/
def pqRecvRole (host : Host) (column : Option Nat) : Nat := column.getD host.nullField

/-- `PG_EPOCH`. -/
def pgEpoch : Int := 946684800

/-- `pq_recv_timestamp`: the division is unsigned. -/
def pqRecvTimestamp (timestamp : Int) : Int :=
  timestamp % 18446744073709551616 / 1000000 + pgEpoch

/-- `PQgetisnull(...) ? 0 : pq_recv_l(...)`. -/
def pqRecvOrZero (column : Option Int) : Int := column.getD 0

/-! ### Users -/

/-- `check_password`. -/
def checkPassword (bcrypt : Bcrypt) (password hash : Option CString) : Except Fault Bool :=
  match password, hash with
  | none, none => .ok true
  | none, some _ => .ok false
  | some _, none => .ok false
  | some password, some hash => passwordAccepted bcrypt (some password) hash

/-- `validate_db_role`. -/
def validateDbRole (role : Nat) : Bool :=
  !(role ≠ roleAdmin ∧ role ≠ roleMember ∧ role ≠ rolePro)

/-- The database half of `db_verify_user_constr`: the row read by the query, if it is executed. -/
def dbVerifyRow (host : Host) (outUser : UserIdentity) (constr : Constr) (row : UserViewRow) :
    Except Fault (Errstatus × UserIdentity) :=
  let outUser := { outUser with role := pqRecvRole host row.role }
  if validateDbRole outUser.role then
    match checkPassword host.bcrypt constr.password (some (pqGetvalue row.passwordHash)) with
    | .error fault => .error fault
    | .ok true => .ok (.ok, { outUser with id := row.userId })
    | .ok false => .ok (.error, outUser)
  else .ok (.handled, outUser)

/-- `select role,password_hash,user_id from "user" where api_key=$1`. -/
def selectByApiKey (db : Db) (apiKey : Uuid4) : List UserViewRow :=
  db.1.userView.filter fun row => row.apiKey = apiKey

/-- `db_verify_user_constr`: the status and `*out_user`. -/
def dbVerifyUserConstr (host : Host) (cfg : Cfg) (moment : Moment) (db : Db)
    (outUser : UserIdentity) (constr : Constr) : Except Fault (Errstatus × UserIdentity) :=
  match cfgVerifyRootConstr host.bcrypt cfg constr with
  | .error fault => .error fault
  | .ok true => .ok (.ok, { role := roleAdmin, id := 0 })
  | .ok false =>
      if moment.up .verifyUserConstr then
        match selectByApiKey db constr.apiKey with
        | [] => .ok (.error, outUser)
        | row :: _ => dbVerifyRow host outUser constr row
      else .ok (.handled, outUser)

/-- `db_get_user_role`: a role, or an error status. -/
def dbGetUserRole (host : Host) (moment : Moment) (db : Db) (userId : Int) : Int :=
  if moment.up .getUserRole then
    match db.1.userView.filter fun row => row.userId = userId with
    | [] => Errstatus.error.code
    | row :: _ =>
        let role := pqRecvRole host row.role
        if validateDbRole role then role else Errstatus.handled.code
  else Errstatus.handled.code

/-- `db_get_user_id_by_email`: the view `"user"` has no column `email`, so the statement is never
executed. -/
def dbGetUserIdByEmail (_email : CString) : Int := Errstatus.handled.code

/-- `db_get_user_id_by_name`. -/
def dbGetUserIdByName (moment : Moment) (db : Db) (name : CString) : Int :=
  if moment.up .memberByName then
    match db.1.memberView.filter fun row => row.userName = name with
    | [] =>
        if moment.up .proByName then
          match db.1.proView.filter fun row => row.businessName = name with
          | [row] => row.userId
          | _ => Errstatus.error.code
        else Errstatus.handled.code
    | row :: _ => row.userId
  else Errstatus.handled.code

/-- `db_get_user`: the status and `*p_user`. -/
def dbGetUser (host : Host) (moment : Moment) (db : Db) (user : User) : Errstatus × User :=
  if moment.up .getUser then
    match db.1.userView.filter fun row => row.userId = user.id with
    | [] => (.error, user)
    | row :: _ =>
        let user := { user with role := pqRecvRole host row.role, id := row.userId }
        if user.role = roleAdmin then (.ok, user)
        else if user.role = roleMember then
          (.ok, { user with name := .member (pqGetvalue row.memberUserName) })
        else if user.role = rolePro then
          (.ok, { user with name := .pro (pqGetvalue row.proBusinessName) })
        else (.handled, user)
  else (.handled, user)

/-! ### Messages -/

/-- `select count(*) from msg where coalesce(user_id_sender,0)=$1 and user_id_recipient=$2`: one
row, holding the count. -/
def selectCountMsg (db : Db) (senderId recipientId : Int) : List Nat :=
  [(db.1.msgView.filter fun row =>
    row.userIdSender.getD 0 = senderId ∧ row.userIdRecipient = some recipientId).length]

/-- `db_count_msg`: `PQntuples` of the result. -/
def dbCountMsg (moment : Moment) (db : Db) (senderId recipientId : Int) : Int :=
  if moment.up .countMsg then (selectCountMsg db senderId recipientId).length
  else Errstatus.handled.code

/-- `db_send_msg`: a message identifier, or an error status. -/
def dbSendMsg (moment : Moment) (world : World) (senderId recipientId : Int) (content : CString) :
    Int × World :=
  if moment.up .sendMsg then
    match sendMsg moment.now world senderId recipientId content with
    | (none, after) => (Errstatus.handled.code, after)
    | (some msgId, after) => (msgId, after)
  else (Errstatus.handled.code, world)

/-- The rows of `msg_ordered` addressed to a user. -/
def inboxRows (db : Db) (recipientId : Int) : List MsgRow :=
  db.1.msgOrdered.filter fun row => row.userIdRecipient = some recipientId

/-- `limit $2 offset $3`: raises on a negative operand. -/
def limitOffset {α : Type} (limit offset : Int) (rows : List α) : Option (List α) :=
  if limit < 0 ∨ offset < 0 then none else some ((rows.drop offset.toNat).take limit.toNat)

/-- One row of the inbox as a `msg_t`. -/
def inboxMsg (recipientId : Int) (row : MsgRow) : Msg :=
  { id := row.msgId
    content := row.content
    sentAt := pqRecvTimestamp row.sentAt
    readAge := pqRecvOrZero row.readAge
    editedAge := pqRecvOrZero row.editedAge
    deletedAge := 0
    userIdSender := pqRecvOrZero row.userIdSender
    userIdRecipient := recipientId }

/-- `db_get_inbox`: the status and `*out_msgs`. -/
def dbGetInbox (moment : Moment) (db : Db) (limit offset recipientId : Int) (outMsgs : List Msg) :
    Errstatus × List Msg :=
  if moment.up .getInbox then
    match limitOffset limit offset (inboxRows db recipientId) with
    | none => (.handled, outMsgs)
    | some rows => (.ok, (rows.take limit.toNat).map (inboxMsg recipientId))
  else (.handled, outMsgs)

/-- `pq_recv_l` of the recipient, read without asking whether it is null. -/
def pqRecvRecipient (host : Host) (column : Option Int) : Int := column.getD host.nullField

/-- One row of `_msg` as a `msg_t`. -/
def getMsgRow (host : Host) (msg : Msg) (row : MsgRow) : Msg :=
  { msg with
    content := row.content
    sentAt := pqRecvTimestamp row.sentAt
    readAge := pqRecvOrZero row.readAge
    editedAge := pqRecvOrZero row.editedAge
    deletedAge := pqRecvOrZero row.deletedAge
    userIdSender := pqRecvOrZero row.userIdSender
    userIdRecipient := pqRecvRecipient host row.userIdRecipient }

/-- `db_get_msg`: the status and `*p_msg`. No action calls it; its statement is executed or not. -/
def dbGetMsg (host : Host) (executed : Bool) (db : Db) (msg : Msg) : Errstatus × Msg :=
  if executed then
    match db.1.msgs.filter fun row => row.msgId = msg.id with
    | [] => (.error, msg)
    | row :: _ => (.ok, getMsgRow host msg row)
  else (.handled, msg)

/-- `db_rm_msg`. -/
def dbRmMsg (moment : Moment) (world : World) (msgId : Int) : Errstatus × World :=
  if moment.up .rmMsg then
    match deleteMsg moment.now world msgId with
    | none => (.handled, world)
    | some (count, after) => if count = 1 then (.ok, after) else (.error, after)
  else (.handled, world)

end Tchatator
