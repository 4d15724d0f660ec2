/-
**Responses as JSON** (`response_to_json`, `action-json.c`).

The encoder switches on two hand-written tags. A tag it does not list is `unreachable()`, and a
union read through a member that is not the one last stored is a fault of its own; both stop the
model. The one union that the program does read so, that of a broken invariant under the identifier
of the message that was inserted all the same, is read word by word (`overwrittenStatus`). Every
other path yields a JSON tree.
-/

import Tchatator.Model.ActionEvaluate

namespace Tchatator

/-- A member of an object under construction (`add_key`). -/
def member (key : String) (value : Json) : CString × Json := (clit key, value)

/-- A member that is added when the source's condition holds. -/
def memberIf (condition : Prop) [Decidable condition] (key : String) (value : Json) :
    List (CString × Json) :=
  if condition then [member key value] else []

/-- `msg_to_json_object`. -/
def msgToJsonObject (msg : Msg) : Json :=
  .object ([member "msg_id" (.int msg.id), member "sent_at" (.int msg.sentAt),
      member "content" (.string msg.content.1), member "sender" (.int msg.userIdSender),
      member "recipient" (.int msg.userIdRecipient)] ++
    memberIf (msg.deletedAge ≠ 0) "deleted_age" (.int msg.deletedAge) ++
    memberIf (msg.readAge ≠ 0) "read_age" (.int msg.readAge) ++
    memberIf (msg.editedAge ≠ 0) "edited_age" (.int msg.editedAge))

/-- The message of a type error. -/
def typeErrorMessage (host : Host) (location : Bytes) (joActual : Json) (expected : JsonType) :
    Bytes :=
  let head := location ++ lit ": expected " ++ jsonTypeToName expected ++ lit ", got " ++
    jsonTypeToName (jsonObjectGetType joActual)
  if jsonObjectGetType joActual = .null then head
  else head ++ lit ": " ++ (host.json.minJson joActual).1

/-- The status of an error response, and what precedes it in the `error` object. -/
def errorStatus (host : Host) (error : ActionError) :
    Except Fault (List (CString × Json) × Int) :=
  match error.type with
  | .type =>
      match error.info with
      | .type location joActual expected =>
          .ok ([member "message" (.string (typeErrorMessage host location joActual expected))],
            Status.badRequest.code)
      | _ => .error .punnedUnion
  | .missingKey =>
      match error.info with
      | .missingKey location =>
          .ok ([member "message" (.string (location ++ lit ": key missing"))],
            Status.badRequest.code)
      | _ => .error .punnedUnion
  | .invalid =>
      match error.info with
      | .invalid location reason joBad =>
          .ok ([member "message" (.string (location ++ lit ": " ++ reason ++ lit ": " ++
            (host.json.toJsonString joBad).1))], Status.badRequest.code)
      | _ => .error .punnedUnion
  | .other =>
      match error.info with
      | .other status => .ok ([], status.code)
      | _ => .error .punnedUnion
  | .rateLimit =>
      match error.info with
      | .rateLimit nextRequestAt =>
          .ok ([member "next_request_at" (.int nextRequestAt)], Status.tooManyRequests.code)
      | _ => .error .punnedUnion
  | .invariant => .error .unreachable

/-- The `error` object of an error response. -/
def errorObject (host : Host) (error : ActionError) : Except Fault Json :=
  match errorStatus host error with
  | .error fault => .error fault
  | .ok (members, status) => .ok (.object (members ++ [member "status" (.int status)]))

/-- The low half of an address, read as a `status_t`. -/
def statusInAddress (address : BitVec 64) : Int := (address.setWidth 32).toInt

/-- The status of a broken invariant whose tag an identifier has replaced, and what precedes it. The
identifier is switched on as a tag, in the order of the source, and the member it names is read from
the words behind it: the first holds the address of the invariant's name, the others are still zero,
and a null pointer is formatted as `(null)`. -/
def overwrittenStatus (host : Host) (msgId : Int) (name : Bytes) :
    Except Fault (List (CString × Json) × Int) :=
  let address := host.literalAddress name
  if msgId = 0 then errorStatus host ⟨.type, .type name .null .null⟩
  else if msgId = 1 then errorStatus host ⟨.missingKey, .missingKey name⟩
  else if msgId = 2 then errorStatus host ⟨.invalid, .invalid name (lit "(null)") .null⟩
  else if msgId = 5 then .ok ([], statusInAddress address)
  else if msgId = 3 then errorStatus host ⟨.rateLimit, .rateLimit address.toInt⟩
  else .error .unreachable

/-- The `error` object of such an error. -/
def overwrittenObject (host : Host) (msgId : Int) (name : Bytes) : Except Fault Json :=
  match overwrittenStatus host msgId name with
  | .error fault => .error fault
  | .ok (members, status) => .ok (.object (members ++ [member "status" (.int status)]))

/-- The `error` object, read from the union. -/
def errorFromBody (host : Host) (body : ResponseBody) : Except Fault Json :=
  match body with
  | .error error => errorObject host error
  | .sendOver msgId (.invariant name) => overwrittenObject host msgId name
  | _ => .error .punnedUnion

/-- The body of a `whois` response. The object of the role is built and not used: what is added
under the role's key is the body itself, which json-c refuses. -/
def whoisObject (user : User) : Except Fault Json :=
  let body := Json.object [member "user_id" (.int user.id)]
  if user.role = roleAdmin then .ok body
  else if user.role = roleMember then
    match user.name with
    | .member _ => .ok body
    | _ => .error .punnedUnion
  else if user.role = rolePro then
    match user.name with
    | .pro _ => .ok body
    | _ => .error .punnedUnion
  else .error .unreachable

/-- The body of a response that is not an error, if its kind has one. -/
def bodyObject (kind : ActionKind) (body : ResponseBody) : Except Fault (Option Json) :=
  match kind with
  | .whois =>
      match body with
      | .whois user =>
          match whoisObject user with
          | .error fault => .error fault
          | .ok jo => .ok (some jo)
      | _ => .error .punnedUnion
  | .send =>
      match body with
      | .send msgId => .ok (some (.object [member "msg_id" (.int msgId)]))
      | _ => .error .punnedUnion
  | .inbox =>
      match body with
      | .inbox msgs => .ok (some (.array (msgs.map msgToJsonObject)))
      | _ => .error .punnedUnion
  | _ => .ok none

/-- `response_to_json`. -/
def responseToJson (host : Host) (response : Response) : Except Fault Json :=
  let hasNextPage := memberIf (response.hasNextPage = true) "has_next_page" (.boolean true)
  match response.type with
  | .error =>
      match errorFromBody host response.body with
      | .error fault => .error fault
      | .ok joError => .ok (.object (hasNextPage ++ [member "error" joError]))
  | .action kind =>
      match bodyObject kind response.body with
      | .error fault => .error fault
      | .ok none => .ok (.object hasNextPage)
      | .ok (some joBody) => .ok (.object (hasNextPage ++ [member "body" joBody]))

end Tchatator
