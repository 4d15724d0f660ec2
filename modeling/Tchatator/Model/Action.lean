/-
**Actions and responses** (`action.h`).

An `action_t` is parsed once and then only read, so its tag and payload are one inductive type. An
`action_error_t` and a `response_t` are filled field by field: their tag is a field of its own, and
their union is an inductive type whose constructor is the member last stored. A tag and a union
that do not belong together are therefore values of these types; `ActionError.WellTagged` and
`Response.WellTagged` say when they do.
-/

import Tchatator.Model.Json

namespace Tchatator

/-! ### Statuses and errors -/

/-- `status_t`. -/
inductive Status
  | badRequest
  | unauthorized
  | forbidden
  | notFound
  | payloadTooLarge
  | unprocessableContent
  | tooManyRequests
  | internalServerError
deriving DecidableEq

def Status.code : Status → Int
  | .badRequest => 400
  | .unauthorized => 401
  | .forbidden => 403
  | .notFound => 404
  | .payloadTooLarge => 413
  | .unprocessableContent => 422
  | .tooManyRequests => 429
  | .internalServerError => 500

/-- `action_error_type_t`. -/
inductive ActionErrorType
  | type
  | missingKey
  | invalid
  | rateLimit
  | invariant
  | other
deriving DecidableEq

/-- The union `info` of `action_error_t`, by the member last stored. -/
inductive ActionErrorInfo
  | type (location : Bytes) (joActual : Json) (expected : JsonType)
  | missingKey (location : Bytes)
  | invalid (location : Bytes) (reason : Bytes) (joBad : Json)
  | rateLimit (nextRequestAt : Int)
  | invariant (name : Bytes)
  | other (status : Status)

/-- The tag that belongs to a member of the union. -/
def ActionErrorInfo.tag : ActionErrorInfo → ActionErrorType
  | .type .. => .type
  | .missingKey .. => .missingKey
  | .invalid .. => .invalid
  | .rateLimit .. => .rateLimit
  | .invariant .. => .invariant
  | .other .. => .other

/-- `action_error_t`. -/
structure ActionError where
  type : ActionErrorType
  info : ActionErrorInfo

/-- The tag names the member last stored. -/
def ActionError.WellTagged (error : ActionError) : Prop := error.type = error.info.tag

/-! ### Actions -/

/-- `X_ACTIONS`. -/
inductive ActionKind
  | whois
  | send
  | motd
  | inbox
  | outbox
  | edit
  | rm
  | block
  | unblock
  | ban
  | unban
deriving DecidableEq

/-- `STR(DO)`. -/
def ActionKind.name : ActionKind → String
  | .whois => "whois"
  | .send => "send"
  | .motd => "motd"
  | .inbox => "inbox"
  | .outbox => "outbox"
  | .edit => "edit"
  | .rm => "rm"
  | .block => "block"
  | .unblock => "unblock"
  | .ban => "ban"
  | .unban => "unban"

/-- `action_type_t`. -/
inductive ActionType
  | error
  | action (kind : ActionKind)
deriving DecidableEq

/-- `action_t`. -/
inductive Action
  | error (error : ActionError)
  | whois (constr : Constr) (userId : Int)
  | send (constr : Constr) (destUserId : Int) (content : Slice)
  | motd (constr : Constr)
  | inbox (constr : Constr) (page : Int)
  | outbox (constr : Constr) (page : Int)
  | edit (constr : Constr) (msgId : Int) (newContent : Slice)
  | rm (constr : Constr) (msgId : Int)
  | block (constr : Constr) (userId : Int)
  | unblock (constr : Constr) (userId : Int)
  | ban (constr : Constr) (userId : Int)
  | unban (constr : Constr) (userId : Int)

/-- `action->type`. -/
def Action.type : Action → ActionType
  | .error _ => .error
  | .whois .. => .action .whois
  | .send .. => .action .send
  | .motd .. => .action .motd
  | .inbox .. => .action .inbox
  | .outbox .. => .action .outbox
  | .edit .. => .action .edit
  | .rm .. => .action .rm
  | .block .. => .action .block
  | .unblock .. => .action .unblock
  | .ban .. => .action .ban
  | .unban .. => .action .unban

/-- The connection string every action but an error carries. -/
def Action.constr? : Action → Option Constr
  | .error _ => none
  | .whois constr _ => some constr
  | .send constr _ _ => some constr
  | .motd constr => some constr
  | .inbox constr _ => some constr
  | .outbox constr _ => some constr
  | .edit constr _ _ => some constr
  | .rm constr _ => some constr
  | .block constr _ => some constr
  | .unblock constr _ => some constr
  | .ban constr _ => some constr
  | .unban constr _ => some constr

/-- An action that is an error carries a well tagged one, and not a broken invariant: parsing
reports none. -/
def Action.WellTagged : Action → Prop
  | .error stored => stored.WellTagged ∧ stored.type ≠ .invariant
  | _ => True

/-! ### Responses -/

/-- The union `body` of `response_t`, by the member last stored; `zero` is `{ 0 }`. An identifier is
as wide as the tag of an error: stored over one (`sendOver`), it takes the place of the tag, and the
rest of the error stays behind it. -/
inductive ResponseBody
  | zero
  | error (error : ActionError)
  | whois (user : User)
  | send (msgId : Int)
  | sendOver (msgId : Int) (info : ActionErrorInfo)
  | inbox (msgs : List Msg)

/-- `body.send.msg_id = msgId`. -/
def ResponseBody.storeMsgId (body : ResponseBody) (msgId : Int) : ResponseBody :=
  match body with
  | .error stored => .sendOver msgId stored.info
  | _ => .send msgId

/-- What is stored is the identifier, over an error or not. -/
theorem ResponseBody.storeMsgId_cases (body : ResponseBody) (msgId : Int) :
    body.storeMsgId msgId = .send msgId ∨ ∃ info, body.storeMsgId msgId = .sendOver msgId info := by
  cases body with
  | error stored => exact Or.inr ⟨stored.info, rfl⟩
  | _ => exact Or.inl rfl

/-- `response_t`. -/
structure Response where
  type : ActionType
  hasNextPage : Bool
  body : ResponseBody

/-- A `user_t` whose role names the member of its union last stored. -/
def User.WellTagged (user : User) : Prop :=
  match user.name with
  | .unset => user.role = roleAdmin
  | .member _ => user.role = roleMember
  | .pro _ => user.role = rolePro

/-- **A well tagged response**: an error response holds an error whose own tag is right and that
nothing has overwritten, any other response holds the payload of its kind. -/
def Response.WellTagged (response : Response) : Prop :=
  match response.type, response.body with
  | .error, .error stored => stored.WellTagged
  | .action .whois, .whois user => user.WellTagged
  | .action .send, .send _ => True
  | .action .inbox, .inbox _ => True
  | .action .motd, .zero => True
  | .action .outbox, .zero => True
  | .action .edit, .zero => True
  | .action .rm, .zero => True
  | .action .block, .zero => True
  | .action .unblock, .zero => True
  | .action .ban, .zero => True
  | .action .unban, .zero => True
  | _, _ => False

end Tchatator
