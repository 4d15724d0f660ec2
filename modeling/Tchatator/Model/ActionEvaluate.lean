/-
**Evaluating an action** (`action_evaluate`, `action.c`).

The response is filled in place: `fail` stores an error and returns, `failInvariant` stores an error
and does *not* return, so the statements after it run on the response it left. Every branch opens
with the same switch on `db_verify_user_constr`, `identified`, with the roles of its action.
-/

import Tchatator.Model.Action
import Tchatator.Model.Db

namespace Tchatator

/-- What `action_evaluate` leaves: a response, or a stopped process; and the database. -/
abbrev Evaluation := Except Fault Response × World

/-- `response_for_rate_limit`. -/
def responseForRateLimit (nextRequestAt : Int) : Response :=
  { type := .error
    hasNextPage := false
    body := .error ⟨.rateLimit, .rateLimit nextRequestAt⟩ }

/-- `fail`: store an error status; the caller returns the response. -/
def fail (rep : Response) (status : Status) : Response :=
  { rep with type := .error, body := .error ⟨.other, .other status⟩ }

/-- `fail_invariant`: store a broken invariant; the caller goes on. -/
def failInvariant (rep : Response) (name : String) : Response :=
  { rep with type := .error, body := .error ⟨.invariant, .invariant (lit name)⟩ }

/-- The opening of every branch: identify the user, then `check_role(allowedRoles)`. -/
def identified (host : Host) (cfg : Cfg) (moment : Moment) (world : World) (rep : Response)
    (constr : Constr) (allowedRoles : Nat) (branch : UserIdentity → Evaluation) : Evaluation :=
  match dbVerifyUserConstr host cfg moment world.db .indeterminate constr with
  | .error fault => (.error fault, world)
  | .ok (.handled, _) => (.ok (fail rep .internalServerError), world)
  | .ok (.error, _) => (.ok (fail rep .unauthorized), world)
  | .ok (.ok, user) =>
      if user.role &&& allowedRoles = 0 then (.ok (fail rep .forbidden), world) else branch user

/-- The three invariant checks of `send`, each of which may store an error in the response. -/
def checkInvariants (moment : Moment) (db : Db) (user : UserIdentity) (destRole : Nat)
    (destUserId : Int) (rep : Response) : Response :=
  let rep := if user.id = destUserId then failInvariant rep "no_send_self" else rep
  let rep :=
    if user.role &&& roleMember ≠ 0 ∧ destRole &&& rolePro = 0 then
      failInvariant rep "client_send_pro"
    else rep
  if user.role &&& rolePro ≠ 0 ∧
      (destRole &&& roleMember = 0 ∨ dbCountMsg moment db destUserId user.id = 0) then
    failInvariant rep "pro_responds_client"
  else rep

/-- `send`, from the insertion on. -/
def sendAndReport (moment : Moment) (world : World) (rep : Response) (user : UserIdentity)
    (destUserId : Int) (content : Slice) : Evaluation :=
  let (msgId, after) := dbSendMsg moment world user.id destUserId content.val
  let rep := { rep with body := rep.body.storeMsgId msgId }
  if msgId = Errstatus.handled.code then (.ok (fail rep .internalServerError), after)
  else if msgId = Errstatus.error.code then (.ok (fail rep .forbidden), after)
  else (.ok rep, after)

/-- The branch `send`, once the user is identified. -/
def evaluateSend (host : Host) (cfg : Cfg) (moment : Moment) (world : World) (rep : Response)
    (destUserId : Int) (content : Slice) (user : UserIdentity) : Evaluation :=
  let destRole := dbGetUserRole host moment world.db destUserId
  if destRole = Errstatus.handled.code then (.ok (fail rep .internalServerError), world)
  else if destRole = Errstatus.error.code then (.ok (fail rep .notFound), world)
  else if cfg.maxMsgLength < content.len then (.ok (fail rep .payloadTooLarge), world)
  else
    let rep := checkInvariants moment world.db user destRole.toNat destUserId rep
    sendAndReport moment world rep user destUserId content

/-- The branch `whois`, once the user is identified. -/
def evaluateWhois (host : Host) (moment : Moment) (world : World) (rep : Response)
    (userId : Int) : Evaluation :=
  match dbGetUser host moment world.db ⟨userId, 0, .unset⟩ with
  | (.handled, _) => (.ok (fail rep .internalServerError), world)
  | (.error, _) => (.ok (fail rep .notFound), world)
  | (.ok, user) => (.ok { rep with body := .whois user }, world)

/-- The branch `inbox`, once the user is identified. The offset is a 32-bit product. -/
def evaluateInbox (cfg : Cfg) (moment : Moment) (world : World) (rep : Response) (page : Int)
    (user : UserIdentity) : Evaluation :=
  match dbGetInbox moment world.db cfg.pageInbox (wrap32 (cfg.pageInbox * (page - 1))) user.id []
    with
  | (.ok, msgs) => (.ok { rep with body := .inbox msgs }, world)
  | _ => (.ok (fail rep .internalServerError), world)

/-- The branch `rm`, once the user is identified. -/
def evaluateRm (moment : Moment) (world : World) (rep : Response) (msgId : Int)
    (user : UserIdentity) : Evaluation :=
  match dbRmMsg moment world msgId with
  | (.handled, after) => (.ok (fail rep .internalServerError), after)
  | (.error, after) => (.ok (fail rep .notFound), after)
  | (.ok, after) =>
      if user.role &&& roleAll = 0 then (.ok (fail rep .forbidden), after) else (.ok rep, after)

/-- `action_evaluate`. -/
def actionEvaluate (host : Host) (cfg : Cfg) (moment : Moment) (world : World) (action : Action) :
    Evaluation :=
  let rep : Response := { type := action.type, hasNextPage := false, body := .zero }
  match action with
  | .error error => (.ok { rep with body := .error error }, world)
  | .whois constr userId =>
      identified host cfg moment world rep constr roleAll fun _ =>
        evaluateWhois host moment world rep userId
  | .send constr destUserId content =>
      identified host cfg moment world rep constr roleAll fun user =>
        evaluateSend host cfg moment world rep destUserId content user
  | .motd constr => identified host cfg moment world rep constr roleAll fun _ => (.ok rep, world)
  | .inbox constr page =>
      identified host cfg moment world rep constr roleAll fun user =>
        evaluateInbox cfg moment world rep page user
  | .outbox constr _ =>
      identified host cfg moment world rep constr roleAll fun _ => (.ok rep, world)
  | .edit constr _ _ =>
      identified host cfg moment world rep constr roleAll fun _ => (.ok rep, world)
  | .rm constr msgId =>
      identified host cfg moment world rep constr roleAll fun user =>
        evaluateRm moment world rep msgId user
  | .block constr _ =>
      identified host cfg moment world rep constr (roleAdmin ||| rolePro) fun _ => (.ok rep, world)
  | .unblock constr _ =>
      identified host cfg moment world rep constr (roleAdmin ||| rolePro) fun _ => (.ok rep, world)
  | .ban constr _ =>
      identified host cfg moment world rep constr (roleAdmin ||| rolePro) fun _ => (.ok rep, world)
  | .unban constr _ =>
      identified host cfg moment world rep constr (roleAdmin ||| rolePro) fun _ => (.ok rep, world)

end Tchatator
