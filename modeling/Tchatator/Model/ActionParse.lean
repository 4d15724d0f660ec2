/-
**Parsing an action** (`action_parse`, `action-json.c`).

The `getarg_*` macros return from `action_parse` on an error; here they are computations that
either yield the argument or throw the `action_error_t` stored at that point. `DO` is the kind of
the branch. Parsing reads the database (a user may be named instead of numbered) and never writes.
-/

import Tchatator.Model.Action
import Tchatator.Model.Db
import Tchatator.Model.Uuid

namespace Tchatator

/-! ### Failures -/

/-- `fail()`. -/
def failOther {α : Type} : Except ActionError α :=
  .error ⟨.other, .other .internalServerError⟩

/-- `fail_missing_key`. -/
def failMissingKey {α : Type} (location : Bytes) : Except ActionError α :=
  .error ⟨.missingKey, .missingKey location⟩

/-- `fail_type`. -/
def failType {α : Type} (location : Bytes) (joActual : Json) (expected : JsonType) :
    Except ActionError α :=
  .error ⟨.type, .type location joActual expected⟩

/-- `fail_invalid`. -/
def failInvalid {α : Type} (location : Bytes) (joBad : Json) (reason : Bytes) :
    Except ActionError α :=
  .error ⟨.invalid, .invalid location reason joBad⟩

/-- `arg_loc(key)`. -/
def argLoc (kind : ActionKind) (key : String) : Bytes :=
  lit kind.name ++ lit ".with." ++ lit key

/-! ### Arguments -/

section Arguments

variable (kind : ActionKind) (joWith : Json)

/-- The first step of every `getarg` but the one of a page. -/
def getargKey (key : String) : Except ActionError Json :=
  match jsonObjectObjectGetEx joWith (clit key) with
  | none => failMissingKey (argLoc kind key)
  | some jo => .ok jo

/-- `getarg_int`. -/
def getargInt (key : String) : Except ActionError Int := do
  let jo ← getargKey kind joWith key
  match jsonObjectGetIntStrict jo with
  | none => failType (argLoc kind key) jo .int
  | some value => .ok value

/-- `getarg_string`: the copy stops at the first zero byte, the length does not. -/
def getargString (key : String) : Except ActionError Slice := do
  let jo ← getargKey kind joWith key
  match jsonObjectGetStringStrict jo with
  | none => failType (argLoc kind key) jo .string
  | some text => .ok ⟨text.length, cstring text⟩

/-- `DELIMITER`. -/
def delimiter : Bytes := lit "¤"

/-- The password of a connection string: what follows the delimiter, if it is there. -/
def constrPassword (constr : Bytes) : Option CString :=
  if uuid4ReprLength + delimiter.length ≤ constr.length ∧
      (constr.drop uuid4ReprLength).take delimiter.length = delimiter then
    some (cstring (constr.drop (uuid4ReprLength + delimiter.length)))
  else none

/-- `getarg_constr`. -/
def getargConstr (key : String) : Except ActionError Constr := do
  let jo ← getargKey kind joWith key
  match jsonObjectGetStringStrict jo with
  | none => failType (argLoc kind key) jo .string
  | some constr =>
      match uuid4ParseSlice constr with
      | none => failInvalid (argLoc kind key) jo (lit "invalid API key")
      | some apiKey => .ok ⟨apiKey, constrPassword constr⟩

/-- `get_user_id`: an identifier, or an error status. -/
def getUserId (moment : Moment) (db : Db) (joUser : Json) : Int :=
  match joUser with
  | .int value =>
      let maybeUserId := clampInt32 value
      if 0 < maybeUserId then maybeUserId else Errstatus.error.code
  | .string text =>
      if max emailLength pseudoLength < text.length then Errstatus.error.code
      else
        let emailOrPseudo := cstring text
        if strchr emailOrPseudo 64 then dbGetUserIdByEmail emailOrPseudo
        else dbGetUserIdByName moment db emailOrPseudo
  | _ => Errstatus.error.code

/-- `getarg_user`. -/
def getargUser (moment : Moment) (db : Db) (key : String) : Except ActionError Int := do
  let jo ← getargKey kind joWith key
  let userId := getUserId moment db jo
  if userId = Errstatus.error.code then
    failInvalid (argLoc kind key) jo (lit "invalid user key")
  else if userId = Errstatus.handled.code then failOther
  else .ok userId

/-- `getarg_page`: `1` when the key is absent. -/
def getargPage (key : String) : Except ActionError Int :=
  match jsonObjectObjectGetEx joWith (clit key) with
  | none => .ok 1
  | some jo => do
      let page ← getargInt kind joWith key
      if page < 1 then failInvalid (argLoc kind key) jo (lit "invalid page number")
      else .ok page

end Arguments

/-! ### Actions -/

/-- The chain of `action_is(DO)` tests. -/
def actionIs (name : CString) : Option ActionKind :=
  [ActionKind.whois, .send, .motd, .inbox, .outbox, .edit, .rm, .block, .unblock, .ban,
    .unban].find? fun kind => streq (clit kind.name) name

/-- The branch of one kind. -/
def parseWith (moment : Moment) (db : Db) (kind : ActionKind) (joWith : Json) :
    Except ActionError Action :=
  match kind with
  | .whois => do
      let constr ← getargConstr kind joWith "constr"
      let userId ← getargUser kind joWith moment db "user"
      return .whois constr userId
  | .send => do
      let constr ← getargConstr kind joWith "constr"
      let content ← getargString kind joWith "content"
      let dest ← getargUser kind joWith moment db "dest"
      return .send constr dest content
  | .motd => do
      let constr ← getargConstr kind joWith "constr"
      return .motd constr
  | .inbox => do
      let constr ← getargConstr kind joWith "constr"
      let page ← getargPage kind joWith "page"
      return .inbox constr page
  | .outbox => do
      let constr ← getargConstr kind joWith "constr"
      let page ← getargPage kind joWith "page"
      return .outbox constr page
  | .edit => do
      let constr ← getargConstr kind joWith "constr"
      let msgId ← getargInt kind joWith "msg_id"
      let newContent ← getargString kind joWith "new_content"
      return .edit constr msgId newContent
  | .rm => do
      let constr ← getargConstr kind joWith "constr"
      let msgId ← getargInt kind joWith "msg_id"
      return .rm constr msgId
  | .block => do
      let constr ← getargConstr kind joWith "constr"
      let userId ← getargUser kind joWith moment db "user"
      return .block constr userId
  | .unblock => do
      let constr ← getargConstr kind joWith "constr"
      let userId ← getargUser kind joWith moment db "user"
      return .unblock constr userId
  | .ban => do
      let constr ← getargConstr kind joWith "constr"
      let userId ← getargUser kind joWith moment db "user"
      return .ban constr userId
  | .unban => do
      let constr ← getargConstr kind joWith "constr"
      let userId ← getargUser kind joWith moment db "user"
      return .unban constr userId

/-- `action_parse`, up to the point where an error is stored. -/
def parseAction (moment : Moment) (db : Db) (jo : Json) : Except ActionError Action :=
  match jsonObjectObjectGetEx jo (clit "do") with
  | none => failMissingKey (lit "action.do")
  | some joDo =>
      match jsonObjectGetStringStrict joDo with
      | none => failType (lit "action") joDo .string
      | some actionName =>
          match jsonObjectObjectGetEx jo (clit "with") with
          | none => failMissingKey (lit "action.with")
          | some joWith =>
              match actionIs (cstring actionName) with
              | none => failOther
              | some kind => parseWith moment db kind joWith

/-- `action_parse`. -/
def actionParse (moment : Moment) (db : Db) (jo : Json) : Action :=
  match parseAction moment db jo with
  | .error error => .error error
  | .ok action => action

end Tchatator
