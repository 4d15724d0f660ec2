/-
**What an action takes, and what it releases** (`tchatator413.c`, `action-json.c`, `action.c`, `db.c`).

The functions between `tchatator413_interpret` and libpq once more, with the resources they handle:
the results of libpq, the copies of strings, and the array of an inbox. A resource that is registered
belongs to the memory list of the action. A string of a response that points into a resource is
borrowed from it. Memory is always there; a null pointer is never taken.

A function of this module does what the one of the same name does, which computes the values.
-/

import Tchatator.Library.Resources
import Tchatator.Model.Facade
import Tchatator.Model.Memlst

namespace Tchatator.Traced

open Resources

/-- The destructors that are registered. -/
inductive Dtor
  /-- `PQclear`. -/
  | pqClear
  | free
deriving DecidableEq

/-- A computation that handles resources, with the memory list of the action. -/
abbrev Tracing := Tracked (Memlst Nat Dtor) Fault

/-- What has just been taken is added to the memory list. -/
def register (dtor : Dtor) : Tracing Nat := do
  let resource ← acquire
  updateOwner fun mem => (memlstAdd mem dtor (some resource)).map Prod.snd
  return resource

/-- A statement whose result is cleared on every path, after its value has been read. -/
def cleared {α : Type} (value : Except Fault α) : Tracing α := passing value

/-! ### The data layer -/

/-- `db_verify_user_constr`: root is recognised without a statement. -/
def dbVerifyUserConstr (host : Host) (cfg : Cfg) (moment : Moment) (db : Db)
    (outUser : UserIdentity) (constr : Constr) : Tracing (Errstatus × UserIdentity) :=
  match cfgVerifyRootConstr host.bcrypt cfg constr with
  | .error fault => throw fault
  | .ok true => return (.ok, { role := roleAdmin, id := 0 })
  | .ok false => cleared (Tchatator.dbVerifyUserConstr host cfg moment db outUser constr)

/-- `db_get_user_role`. -/
def dbGetUserRole (host : Host) (moment : Moment) (db : Db) (userId : Int) : Tracing Int :=
  cleared (.ok (Tchatator.dbGetUserRole host moment db userId))

/-- `db_get_user_id_by_email`. -/
def dbGetUserIdByEmail (email : CString) : Tracing Int :=
  cleared (.ok (Tchatator.dbGetUserIdByEmail email))

/-- `db_get_user_id_by_name`: the first result is cleared before the second statement is issued. -/
def dbGetUserIdByName (moment : Moment) (db : Db) (name : CString) : Tracing Int := do
  if moment.up .memberByName ∧
      (db.1.memberView.filter fun row => row.userName = name).isEmpty = true then
    cleared (.ok ())
  cleared (.ok (Tchatator.dbGetUserIdByName moment db name))

/-- `db_get_user`: the name points into the result. -/
def dbGetUser (host : Host) (moment : Moment) (db : Db) (user : User) :
    Tracing (Errstatus × User) := do
  let result ← register .pqClear
  let (status, after) := Tchatator.dbGetUser host moment db user
  if after.name ≠ user.name then borrow result
  return (status, after)

/-- `db_count_msg`. -/
def dbCountMsg (moment : Moment) (db : Db) (senderId recipientId : Int) : Tracing Int :=
  cleared (.ok (Tchatator.dbCountMsg moment db senderId recipientId))

/-- `db_send_msg`: its result is neither cleared nor registered. -/
def dbSendMsg (moment : Moment) (world : World) (senderId recipientId : Int) (content : CString) :
    Tracing (Int × World) := do
  let _result ← acquire
  return Tchatator.dbSendMsg moment world senderId recipientId content

/-- `db_get_inbox`: the messages are in an array, and their contents in the result. -/
def dbGetInbox (moment : Moment) (db : Db) (limit offset recipientId : Int) (outMsgs : List Msg) :
    Tracing (Errstatus × List Msg) := do
  let result ← register .pqClear
  let (status, msgs) := Tchatator.dbGetInbox moment db limit offset recipientId outMsgs
  if status = .ok then
    let array ← register .free
    borrow array
    borrow result
  return (status, msgs)

/-- `db_rm_msg`. -/
def dbRmMsg (moment : Moment) (world : World) (msgId : Int) : Tracing (Errstatus × World) :=
  cleared (.ok (Tchatator.dbRmMsg moment world msgId))

/-! ### Arguments -/

section Arguments

/-- A part of `action_parse`, which may return with an error. -/
abbrev Parsing := ExceptT ActionError Tracing

/-- A part that takes nothing. -/
def takesNothing {α : Type} (value : Except ActionError α) : Parsing α := ExceptT.mk (pure value)

variable (kind : ActionKind) (joWith : Json)

/-- `getarg_string`: the string is copied. -/
def getargString (key : String) : Parsing Slice := do
  let slice ← takesNothing (Tchatator.getargString kind joWith key)
  let _copy ← register .free
  return slice

/-- `getarg_constr`: the password is copied, if there is one. -/
def getargConstr (key : String) : Parsing Constr := do
  let constr ← takesNothing (Tchatator.getargConstr kind joWith key)
  if constr.password ≠ none then
    let _copy ← register .free
  return constr

/-- `get_user_id`. -/
def getUserId (moment : Moment) (db : Db) (joUser : Json) : Tracing Int :=
  match joUser with
  | .int value =>
      let maybeUserId := clampInt32 value
      return if 0 < maybeUserId then maybeUserId else Errstatus.error.code
  | .string text =>
      if max emailLength pseudoLength < text.length then return Errstatus.error.code
      else
        let emailOrPseudo := cstring text
        if strchr emailOrPseudo 64 then dbGetUserIdByEmail emailOrPseudo
        else dbGetUserIdByName moment db emailOrPseudo
  | _ => return Errstatus.error.code

/-- `getarg_user`. -/
def getargUser (moment : Moment) (db : Db) (key : String) : Parsing Int := do
  let jo ← takesNothing (getargKey kind joWith key)
  let userId ← getUserId moment db jo
  if userId = Errstatus.error.code then
    takesNothing (failInvalid (argLoc kind key) jo (lit "invalid user key"))
  else if userId = Errstatus.handled.code then takesNothing failOther
  else return userId

end Arguments

/-! ### Actions -/

/-- The branch of one kind. -/
def parseWith (moment : Moment) (db : Db) (kind : ActionKind) (joWith : Json) : Parsing Action :=
  match kind with
  | .whois => do
      let constr ← getargConstr kind joWith "constr"
      let userId ← getargUser kind joWith moment db "user"
      return .whois constr userId
  | .send => do
      let constr ← getargConstr kind joWith "constr"
      let content ← getargString kind joWith "content"
      let dest ← getargUser kind joWith moment db "dest"
      return .send constr dest content
  | .motd => do
      let constr ← getargConstr kind joWith "constr"
      return .motd constr
  | .inbox => do
      let constr ← getargConstr kind joWith "constr"
      let page ← takesNothing (getargPage kind joWith "page")
      return .inbox constr page
  | .outbox => do
      let constr ← getargConstr kind joWith "constr"
      let page ← takesNothing (getargPage kind joWith "page")
      return .outbox constr page
  | .edit => do
      let constr ← getargConstr kind joWith "constr"
      let msgId ← takesNothing (getargInt kind joWith "msg_id")
      let newContent ← getargString kind joWith "new_content"
      return .edit constr msgId newContent
  | .rm => do
      let constr ← getargConstr kind joWith "constr"
      let msgId ← takesNothing (getargInt kind joWith "msg_id")
      return .rm constr msgId
  | .block => do
      let constr ← getargConstr kind joWith "constr"
      let userId ← getargUser kind joWith moment db "user"
      return .block constr userId
  | .unblock => do
      let constr ← getargConstr kind joWith "constr"
      let userId ← getargUser kind joWith moment db "user"
      return .unblock constr userId
  | .ban => do
      let constr ← getargConstr kind joWith "constr"
      let userId ← getargUser kind joWith moment db "user"
      return .ban constr userId
  | .unban => do
      let constr ← getargConstr kind joWith "constr"
      let userId ← getargUser kind joWith moment db "user"
      return .unban constr userId

/-- `action_parse`, up to the point where an error is stored. -/
def parseAction (moment : Moment) (db : Db) (jo : Json) : Parsing Action :=
  match jsonObjectObjectGetEx jo (clit "do") with
  | none => takesNothing (failMissingKey (lit "action.do"))
  | some joDo =>
      match jsonObjectGetStringStrict joDo with
      | none => takesNothing (failType (lit "action") joDo .string)
      | some actionName =>
          match jsonObjectObjectGetEx jo (clit "with") with
          | none => takesNothing (failMissingKey (lit "action.with"))
          | some joWith =>
              match actionIs (cstring actionName) with
              | none => takesNothing failOther
              | some kind => parseWith moment db kind joWith

/-- The action that is returned: an error is stored in it. -/
def storedAction : Except ActionError Action → Action
  | .error error => .error error
  | .ok action => action

/-- `action_parse`. -/
def actionParse (moment : Moment) (db : Db) (jo : Json) : Tracing Action := do
  let parsed ← (parseAction moment db jo).run
  return storedAction parsed

/-! ### Evaluation -/

/-- The opening of every branch. -/
def identified (host : Host) (cfg : Cfg) (moment : Moment) (world : World) (rep : Response)
    (constr : Constr) (allowedRoles : Nat) (branch : UserIdentity → Tracing (Response × World)) :
    Tracing (Response × World) := do
  match ← dbVerifyUserConstr host cfg moment world.db .indeterminate constr with
  | (.handled, _) => return (fail rep .internalServerError, world)
  | (.error, _) => return (fail rep .unauthorized, world)
  | (.ok, user) =>
      if user.role &&& allowedRoles = 0 then return (fail rep .forbidden, world) else branch user

/-- The three invariant checks of `send`: the messages are counted for a professional who writes to a
member. -/
def checkInvariants (moment : Moment) (db : Db) (user : UserIdentity) (destRole : Nat)
    (destUserId : Int) (rep : Response) : Tracing Response := do
  let rep := if user.id = destUserId then failInvariant rep "no_send_self" else rep
  let rep :=
    if user.role &&& roleMember ≠ 0 ∧ destRole &&& rolePro = 0 then
      failInvariant rep "client_send_pro"
    else rep
  if user.role &&& rolePro ≠ 0 then
    if destRole &&& roleMember = 0 then return failInvariant rep "pro_responds_client"
    else
      let count ← dbCountMsg moment db destUserId user.id
      return if count = 0 then failInvariant rep "pro_responds_client" else rep
  else return rep

/-- `send`, from the insertion on. -/
def sendAndReport (moment : Moment) (world : World) (rep : Response) (user : UserIdentity)
    (destUserId : Int) (content : Slice) : Tracing (Response × World) := do
  let (msgId, after) ← dbSendMsg moment world user.id destUserId content.val
  let rep := { rep with body := rep.body.storeMsgId msgId }
  if msgId = Errstatus.handled.code then return (fail rep .internalServerError, after)
  else if msgId = Errstatus.error.code then return (fail rep .forbidden, after)
  else return (rep, after)

/-- The branch `send`. -/
def evaluateSend (host : Host) (cfg : Cfg) (moment : Moment) (world : World) (rep : Response)
    (destUserId : Int) (content : Slice) (user : UserIdentity) : Tracing (Response × World) := do
  let destRole ← dbGetUserRole host moment world.db destUserId
  if destRole = Errstatus.handled.code then return (fail rep .internalServerError, world)
  else if destRole = Errstatus.error.code then return (fail rep .notFound, world)
  else if cfg.maxMsgLength < content.len then return (fail rep .payloadTooLarge, world)
  else
    let rep ← checkInvariants moment world.db user destRole.toNat destUserId rep
    sendAndReport moment world rep user destUserId content

/-- The branch `whois`. -/
def evaluateWhois (host : Host) (moment : Moment) (world : World) (rep : Response)
    (userId : Int) : Tracing (Response × World) := do
  match ← dbGetUser host moment world.db ⟨userId, 0, .unset⟩ with
  | (.handled, _) => return (fail rep .internalServerError, world)
  | (.error, _) => return (fail rep .notFound, world)
  | (.ok, user) => return ({ rep with body := .whois user }, world)

/-- The branch `inbox`. -/
def evaluateInbox (cfg : Cfg) (moment : Moment) (world : World) (rep : Response) (page : Int)
    (user : UserIdentity) : Tracing (Response × World) := do
  match ← dbGetInbox moment world.db cfg.pageInbox (wrap32 (cfg.pageInbox * (page - 1))) user.id []
    with
  | (.ok, msgs) => return ({ rep with body := .inbox msgs }, world)
  | _ => return (fail rep .internalServerError, world)

/-- The branch `rm`. -/
def evaluateRm (moment : Moment) (world : World) (rep : Response) (msgId : Int)
    (user : UserIdentity) : Tracing (Response × World) := do
  match ← dbRmMsg moment world msgId with
  | (.handled, after) => return (fail rep .internalServerError, after)
  | (.error, after) => return (fail rep .notFound, after)
  | (.ok, after) =>
      if user.role &&& roleAll = 0 then return (fail rep .forbidden, after)
      else return (rep, after)

/-- `action_evaluate`. -/
def actionEvaluate (host : Host) (cfg : Cfg) (moment : Moment) (world : World) (action : Action) :
    Tracing (Response × World) :=
  let rep : Response := { type := action.type, hasNextPage := false, body := .zero }
  match action with
  | .error error => return ({ rep with body := .error error }, world)
  | .whois constr userId =>
      identified host cfg moment world rep constr roleAll fun _ =>
        evaluateWhois host moment world rep userId
  | .send constr destUserId content =>
      identified host cfg moment world rep constr roleAll fun user =>
        evaluateSend host cfg moment world rep destUserId content user
  | .motd constr => identified host cfg moment world rep constr roleAll fun _ => return (rep, world)
  | .inbox constr page =>
      identified host cfg moment world rep constr roleAll fun user =>
        evaluateInbox cfg moment world rep page user
  | .outbox constr _ =>
      identified host cfg moment world rep constr roleAll fun _ => return (rep, world)
  | .edit constr _ _ =>
      identified host cfg moment world rep constr roleAll fun _ => return (rep, world)
  | .rm constr msgId =>
      identified host cfg moment world rep constr roleAll fun user =>
        evaluateRm moment world rep msgId user
  | .block constr _ =>
      identified host cfg moment world rep constr (roleAdmin ||| rolePro) fun _ =>
        return (rep, world)
  | .unblock constr _ =>
      identified host cfg moment world rep constr (roleAdmin ||| rolePro) fun _ =>
        return (rep, world)
  | .ban constr _ =>
      identified host cfg moment world rep constr (roleAdmin ||| rolePro) fun _ =>
        return (rep, world)
  | .unban constr _ =>
      identified host cfg moment world rep constr (roleAdmin ||| rolePro) fun _ =>
        return (rep, world)

/-! ### Requests -/

/-- The memory list of the action is null, and nothing is borrowed yet. -/
def startAct : Tracing Unit := modify fun log => (log.ownedBy memlstInit).forgotten

/-- `act`: the memory list goes out of scope when it returns. -/
def act (host : Host) (cfg : Cfg) (moment : Moment) (world : World) (joAction : Json) :
    Tracing (Json × World) := do
  startAct
  let action ← actionParse moment world.db joAction
  let (response, after) ← actionEvaluate host cfg moment world action
  useBorrowed
  let jo ← responseToJson host response
  return (jo, after)

/-- The loop over the elements of an array. -/
def interpretElements (host : Host) (cfg : Cfg) :
    List Json → (Nat → Moment) → World → List Json → Tracing (Json × World)
  | [], _, world, output => return (.array output, world)
  | .null :: _, _, _, _ => throw .assertion
  | joAction :: rest, moments, world, output => do
      let (jo, after) ← act host cfg (moments 0) world joAction
      interpretElements host cfg rest (fun index => moments (index + 1)) after (output ++ [jo])

/-- `tchatator413_interpret`. -/
def tchatator413Interpret (host : Host) (cfg : Cfg) (moments : Nat → Moment) (world : World)
    (joInput : Json) : Tracing (Json × World) :=
  match joInput with
  | .array elements => interpretElements host cfg elements moments world []
  | .object members => do
      let (jo, after) ← act host cfg (moments 0) world (.object members)
      return (.array [jo], after)
  | _ => do
      let jo ← responseToJson host (notARequest joInput)
      return (.array [jo], world)

end Tchatator.Traced
