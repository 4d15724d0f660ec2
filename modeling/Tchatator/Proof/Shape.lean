/-
**The shape of the answers** (`response_to_json`).

* `documentedDetails` — the members that are documented for a status, beside the status itself;
* `DocumentedAnswer` — an object with a body or an error, no error for an action that succeeded,
  and an error with a status and exactly its documented members;
* `responseToJson_documented_iff` — an encoded response is documented unless it is a bare status
  for which members are documented;
* `evaluation_bare` — the only such status that an evaluation stores is that of a message that is
  too long;
* `StrayStatus` — a `send` inserted against an invariant is read as such a status: its identifier is
  the tag of a bare status, and the address of the invariant's name stands where the status is read;
* **`requestShaped_iff`** — every request gets an array of documented answers exactly when it gets
  an array and none of its actions is a `send` of a message that is too long or has a stray status.
-/

import Tchatator.Proof.Batches

namespace Tchatator

/-! ### The documented shape -/

/-- The members documented for the error of a status, with their types. -/
def documentedDetails : Status → List (CString × JsonType)
  | .badRequest => [(clit "message", .string)]
  | .payloadTooLarge => [(clit "key", .string), (clit "max_length", .int)]
  | .unprocessableContent => [(clit "reason", .string)]
  | .tooManyRequests => [(clit "next_request_at", .int)]
  | .unauthorized | .forbidden | .notFound | .internalServerError => []

/-- **An error has an integer status and exactly the members documented for it.** -/
def DocumentedError (joError : Json) : Prop :=
  ∃ status members, joError = .object members ∧ member "status" (.int status.code) ∈ members ∧
    (members.map fun entry => (entry.1, jsonObjectGetType entry.2)).Perm
      ((clit "status", .int) :: documentedDetails status)

/-- **The documented shape of an answer.** -/
def DocumentedAnswer (succeeded : Prop) (answer : Json) : Prop :=
  ∃ members, answer = .object members ∧
    ¬ (clit "body" ∈ members.map Prod.fst ∧ clit "error" ∈ members.map Prod.fst) ∧
    (succeeded → clit "error" ∉ members.map Prod.fst) ∧
    ∀ joError, (clit "error", joError) ∈ members → DocumentedError joError

/-! ### What the encoder leaves -/

section Encoder

variable {host : Host}

theorem Status.code_injective : Function.Injective Status.code := by
  intro first second same
  cases first <;> cases second <;> first | rfl | cases same

/-- A number is the code of a status for which nothing else is documented. -/
def PlainCode (code : Int) : Prop :=
  ∃ status : Status, code = status.code ∧ documentedDetails status = []

theorem plainCode_iff (status : Status) :
    PlainCode status.code ↔ documentedDetails status = [] := by
  constructor
  · rintro ⟨other, sameCode, noDetails⟩
    rw [Status.code_injective sameCode]
    exact noDetails
  · exact fun noDetails => ⟨status, rfl, noDetails⟩

/-- An error with nothing but a number is documented when the number is a plain code. -/
theorem documentedError_bare_iff (code : Int) :
    DocumentedError (.object [member "status" (.int code)]) ↔ PlainCode code := by
  constructor
  · rintro ⟨status, members, isObject, hasStatus, sameMembers⟩
    cases isObject
    have sameCode : code = status.code := by
      rw [List.mem_singleton] at hasStatus
      exact (Json.int.inj (congrArg Prod.snd hasStatus)).symm
    have size := sameMembers.length_eq
    exact ⟨status, sameCode, by simpa using size⟩
  · rintro ⟨status, rfl, noDetails⟩
    refine ⟨status, _, rfl, List.mem_singleton.mpr rfl, ?_⟩
    rw [noDetails]
    exact .refl _

/-- A status with one member is documented when this member is. -/
theorem documentedError_detail (status : Status) (key : String) (value : Json)
    (details : documentedDetails status = [(clit key, jsonObjectGetType value)]) :
    DocumentedError (.object [member key value, member "status" (.int status.code)]) := by
  refine ⟨status, _, rfl, List.mem_cons_of_mem _ (List.mem_singleton.mpr rfl), ?_⟩
  rw [details]
  exact .swap _ _ _

/-- **An error is documented unless it is a bare status with documented members.** -/
theorem errorObject_documented_iff {stored : ActionError} {joError : Json}
    (encoded : errorObject host stored = .ok joError) :
    DocumentedError joError ↔
      ∀ status, stored = ⟨.other, .other status⟩ → documentedDetails status = [] := by
  obtain ⟨tag, info⟩ := stored
  cases tag <;> cases info <;> cases encoded
  case other.other status =>
    refine (documentedError_bare_iff status.code).trans ((plainCode_iff status).trans
      ⟨fun bare other same => ?_, fun bare => bare _ rfl⟩)
    cases same
    exact bare
  all_goals
    refine iff_of_true ?_ nofun
  · exact documentedError_detail .badRequest "message" (.string _) rfl
  · exact documentedError_detail .badRequest "message" (.string _) rfl
  · exact documentedError_detail .badRequest "message" (.string _) rfl
  · exact documentedError_detail .tooManyRequests "next_request_at" (.int _) rfl

/-- An object without an error is documented. -/
theorem documentedAnswer_of_no_error {succeeded : Prop} {members : List (CString × Json)}
    (noError : clit "error" ∉ members.map Prod.fst) :
    DocumentedAnswer succeeded (.object members) :=
  ⟨members, rfl, fun both => noError both.2, fun _ => noError, fun _ isError =>
    absurd (List.mem_map.mpr ⟨_, isError, rfl⟩) noError⟩

/-- The flag of a page is no body and no error. -/
theorem hasNextPage_only (hasNextPage : Bool) (name : String)
    (other : clit name ≠ clit "has_next_page") :
    clit name ∉
      (memberIf (hasNextPage = true) "has_next_page" (.boolean true)).map Prod.fst := by
  cases hasNextPage with
  | false => exact List.not_mem_nil
  | true =>
    intro isFlag
    exact other (List.mem_singleton.mp isFlag)

/-- An answer with an error is documented when the error is. -/
theorem documentedAnswer_error_iff {succeeded : Prop} {others : List (CString × Json)}
    {joError : Json} (noBody : clit "body" ∉ others.map Prod.fst)
    (noError : clit "error" ∉ others.map Prod.fst) (failed : ¬ succeeded) :
    DocumentedAnswer succeeded (.object (others ++ [member "error" joError])) ↔
      DocumentedError joError := by
  constructor
  · rintro ⟨members, isObject, _, _, documented⟩
    cases isObject
    exact documented joError (List.mem_append_right _ (List.mem_singleton.mpr rfl))
  · intro documented
    refine ⟨_, rfl, fun both => ?_, fun success => absurd success failed, fun other isError => ?_⟩
    · rw [List.map_append, List.mem_append] at both
      rcases both.1 with isOther | isError
      · exact noBody isOther
      · have different : clit "body" ≠ clit "error" := by decide
        exact different (List.mem_singleton.mp isError)
    · rcases List.mem_append.mp isError with isOther | isLast
      · exact absurd (List.mem_map.mpr ⟨_, isOther, rfl⟩) noError
      · cases List.mem_singleton.mp isLast
        exact documented

/-- An error is documented as it is read from the union: unless it is a bare status with documented
members, or the low half of an address where no plain code is found. -/
def BodyDocumented (host : Host) : ResponseBody → Prop
  | .error stored => ∀ status, stored = ⟨.other, .other status⟩ → documentedDetails status = []
  | .sendOver msgId (.invariant name) =>
      msgId = 5 → PlainCode (statusInAddress (host.literalAddress name))
  | _ => True

/-- A broken invariant under an identifier, where it is read as an error that is no bare status. -/
theorem documented_of_type {tag : ActionErrorType} {info : ActionErrorInfo} {msgId : Int}
    {name : Bytes} {joError : Json} (encoded : errorObject host ⟨tag, info⟩ = .ok joError)
    (noStatus : tag ≠ .other) (other : msgId ≠ 5) :
    DocumentedError joError ↔ BodyDocumented host (.sendOver msgId (.invariant name)) := by
  have isTagged (status : Status) (same : (⟨tag, info⟩ : ActionError) = ⟨.other, .other status⟩) :
      documentedDetails status = [] := absurd (congrArg ActionError.type same) noStatus
  exact iff_of_true ((errorObject_documented_iff encoded).mpr isTagged)
    fun isOther => absurd isOther other

/-- A broken invariant under an identifier is read as an error of the tag that the identifier is. -/
theorem overwrittenObject_documented_iff {msgId : Int} {name : Bytes} {joError : Json}
    (encoded : overwrittenObject host msgId name = .ok joError) :
    DocumentedError joError ↔ BodyDocumented host (.sendOver msgId (.invariant name)) := by
  have listed : msgId ∈ listedErrorTags := by
    by_contra unlisted
    cases (overwrittenObject_unreachable name unlisted).symm.trans encoded
  simp only [listedErrorTags, List.mem_cons, List.not_mem_nil, or_false] at listed
  rcases listed with rfl | rfl | rfl | rfl | rfl
  · have asType : errorObject host ⟨.type, .type name .null .null⟩ = .ok joError := encoded
    exact documented_of_type asType (by decide) (by decide)
  · have asKey : errorObject host ⟨.missingKey, .missingKey name⟩ = .ok joError := encoded
    exact documented_of_type asKey (by decide) (by decide)
  · have asInvalid : errorObject host ⟨.invalid, .invalid name (lit "(null)") .null⟩ = .ok joError :=
      encoded
    exact documented_of_type asInvalid (by decide) (by decide)
  · have asRate : errorObject host ⟨.rateLimit, .rateLimit (host.literalAddress name).toInt⟩ =
      .ok joError := encoded
    exact documented_of_type asRate (by decide) (by decide)
  · cases encoded
    exact (documentedError_bare_iff _).trans ⟨fun plain _ => plain, fun plain => plain rfl⟩

/-- An error that is read from the union is documented as its body is. -/
theorem errorFromBody_documented_iff {body : ResponseBody} {joError : Json}
    (encoded : errorFromBody host body = .ok joError) :
    DocumentedError joError ↔ BodyDocumented host body := by
  cases body with
  | error stored => exact errorObject_documented_iff encoded
  | sendOver msgId info =>
    cases info with
    | invariant name => exact overwrittenObject_documented_iff encoded
    | _ => cases encoded
  | _ => cases encoded

/-- **An encoded response is documented when it is no error, or as its body is.** -/
theorem responseToJson_documented_iff {rep : Response} {answer : Json}
    (encoded : responseToJson host rep = .ok answer) :
    DocumentedAnswer (rep.type ≠ .error) answer ↔
      (rep.type = .error → BodyDocumented host rep.body) := by
  obtain ⟨type, hasNextPage, body⟩ := rep
  have noBody := hasNextPage_only hasNextPage "body" (by decide)
  have noError := hasNextPage_only hasNextPage "error" (by decide)
  cases type with
  | action kind =>
    refine iff_of_true ?_ nofun
    simp only [responseToJson] at encoded
    split at encoded
    · cases encoded
    · cases encoded
      exact documentedAnswer_of_no_error noError
    · cases encoded
      refine documentedAnswer_of_no_error ?_
      rw [List.map_append, List.mem_append, not_or]
      refine ⟨noError, fun isBody => ?_⟩
      have different : clit "error" ≠ clit "body" := by decide
      exact different (List.mem_singleton.mp isBody)
  | error =>
    simp only [responseToJson] at encoded
    split at encoded
    · cases encoded
    rename_i joError isError
    cases encoded
    rw [documentedAnswer_error_iff noBody noError (by simp), errorFromBody_documented_iff isError]
    exact ⟨fun documented _ => documented, fun documented => documented rfl⟩

/-- The status of an error, as it is encoded. -/
def ActionError.status (stored : ActionError) : Status :=
  match stored.info with
  | .type .. | .missingKey .. | .invalid .. => .badRequest
  | .rateLimit .. => .tooManyRequests
  | .invariant .. => .unprocessableContent
  | .other status => status

/-- The status in the error of an answer, if it has one. -/
def answerStatus (answer : Json) : Option Json :=
  (jsonObjectObjectGetEx answer (clit "error")).bind fun joError =>
    jsonObjectObjectGetEx joError (clit "status")

/-- **An answer carries the status of its error.** -/
theorem answerStatus_error {stored : ActionError} {answer : Json}
    (encoded : responseToJson host ⟨.error, false, .error stored⟩ = .ok answer) :
    answerStatus answer = some (.int stored.status.code) := by
  obtain ⟨tag, info⟩ := stored
  cases tag <;> cases info <;> cases encoded <;> rfl

end Encoder

/-! ### The statuses that evaluations leave -/

/-- **A `send` is answered as too long**: its user is verified and its recipient found. -/
def TooLong (host : Host) (cfg : Cfg) (handled : Exchange) : Prop :=
  ∃ constr destUserId content user destRole, handled.action = .send constr destUserId content ∧
    dbVerifyUserConstr host cfg handled.moment handled.before.db .indeterminate constr =
      .ok (.ok, user) ∧
    dbGetUserRole host handled.moment handled.before.db destUserId = (destRole : Nat) ∧
    (destRole = roleAdmin ∨ destRole = roleMember ∨ destRole = rolePro) ∧
    cfg.maxMsgLength < content.len

/-- **A `send` is answered by a stray status**: it is inserted against an invariant under the number
of the tag of a bare status, and what is read as the status is no plain code. -/
def StrayStatus (host : Host) (cfg : Cfg) (handled : Exchange) : Prop :=
  ∃ name, BypassedAs host cfg handled.moment handled.before handled.action name ∧
    handled.before.nextMsgId = 5 ∧ ¬ PlainCode (statusInAddress (host.literalAddress name))

/-- A response is no bare status for which members are documented. -/
def Bare (result : Except Fault Response) : Prop :=
  ∀ rep status, result = .ok rep → rep.body = .error ⟨.other, .other status⟩ →
    documentedDetails status = []

section Evaluations

variable {host : Host} {cfg : Cfg} {moment : Moment} {world : World} {rep : Response}

theorem bare_fail {status : Status} (bare : documentedDetails status = []) :
    Bare (.ok (fail rep status)) := by
  rintro _ other ⟨⟩ isOther
  cases isOther
  exact bare

theorem bare_body {type : ActionType} {hasNextPage : Bool} {body : ResponseBody}
    (noError : ∀ stored, body ≠ .error stored) : Bare (.ok ⟨type, hasNextPage, body⟩) := by
  rintro _ status ⟨⟩ isError
  exact absurd isError (noError _)

theorem storeMsgId_ne_error (body : ResponseBody) (msgId : Int) (stored : ActionError) :
    body.storeMsgId msgId ≠ .error stored := by
  intro isError
  rcases body.storeMsgId_cases msgId with isSend | ⟨info, isSend⟩ <;> cases isSend.symm.trans isError

/-- The opening leaves `401`, `403` or `500`, or what the branch leaves. -/
theorem bare_identified {constr : Constr} {allowed : Nat} {go : UserIdentity → Evaluation}
    (goes : ∀ user, dbVerifyUserConstr host cfg moment world.db .indeterminate constr =
      .ok (.ok, user) → Bare (go user).1) :
    Bare (identified host cfg moment world rep constr allowed go).1 := by
  rcases outcome : dbVerifyUserConstr host cfg moment world.db .indeterminate constr with
    fault | ⟨_ | _ | _, user⟩
  · rw [identified_fault outcome]
    rintro _ _ ⟨⟩
  · rw [identified_handled outcome]
    exact bare_fail rfl
  · rw [identified_error outcome]
    exact bare_fail rfl
  · rw [identified, outcome]
    show Bare (if user.role &&& allowed = 0 then _ else _ : Evaluation).1
    split
    · exact bare_fail rfl
    · exact goes user outcome

/-- From the insertion on, a `send` leaves `403` or `500`, or its identifier. -/
theorem bare_sendAndReport (user : UserIdentity) (destUserId : Int) (content : Slice) :
    Bare (sendAndReport moment world rep user destUserId content).1 := by
  unfold sendAndReport
  dsimp only
  split
  · exact bare_fail rfl
  · split
    · exact bare_fail rfl
    · exact bare_body (storeMsgId_ne_error rep.body _)

/-- The branch of a `send` leaves another status only for a message that is too long. -/
theorem bare_evaluateSend {constr : Constr} {destUserId : Int} {content : Slice}
    {user : UserIdentity}
    (verified : dbVerifyUserConstr host cfg moment world.db .indeterminate constr =
      .ok (.ok, user))
    (fits : ¬ TooLong host cfg (exchange host cfg moment world (.send constr destUserId content))) :
    Bare (evaluateSend host cfg moment world rep destUserId content user).1 := by
  simp only [evaluateSend]
  split
  · exact bare_fail rfl
  · split
    · exact bare_fail rfl
    · split
      · rename_i notHandled notError tooLong
        rcases dbGetUserRole_cases host moment world.db destUserId with
          handled | error | ⟨row, _, _, valid, found⟩
        · exact absurd handled notHandled
        · exact absurd error notError
        · exact absurd ⟨constr, destUserId, content, user, _, rfl, verified, found,
            (validateDbRole_iff _).mp valid, tooLong⟩ fits
      · exact bare_sendAndReport user destUserId content

/-- **An evaluation leaves no bare status with documented members**, unless its message is too
long. -/
theorem evaluation_bare {jo : Json}
    (fits : ¬ TooLong host cfg (exchange host cfg moment world (actionParse moment world.db jo))) :
    Bare (exchange host cfg moment world (actionParse moment world.db jo)).response := by
  show Bare (actionEvaluate host cfg moment world (actionParse moment world.db jo)).1
  rcases actionParse_cases moment world.db jo with
    ⟨stored, parsed, bad | rfl⟩ | ⟨kind, form, userId, isForm, parsed⟩
  · rw [parsed]
    rintro _ status ⟨⟩ isStatus
    cases isStatus
    rcases bad.2 with isType | isType | isType <;> cases isType
  · rw [parsed]
    rintro _ status ⟨⟩ isStatus
    cases isStatus
    rfl
  · obtain ⟨carries, isKind⟩ := form_of_requestForm isForm userId
    rw [← parsed] at carries isKind
    rw [actionEvaluate_eq host cfg moment world carries isKind]
    refine bare_identified fun user verified => ?_
    cases isAction : actionParse moment world.db jo with
    | error => exact bare_body fun _ same => by cases same
    | whois =>
      simp only [branch, evaluateWhois]
      split
      · exact bare_fail rfl
      · exact bare_fail rfl
      · exact bare_body fun _ same => by cases same
    | send =>
      rw [isAction] at carries fits
      cases carries
      exact bare_evaluateSend verified fits
    | inbox =>
      simp only [branch, evaluateInbox]
      split
      · exact bare_body fun _ same => by cases same
      · exact bare_fail rfl
    | rm =>
      simp only [branch, evaluateRm]
      split
      · exact bare_fail rfl
      · exact bare_fail rfl
      · split
        · exact bare_fail rfl
        · exact bare_body fun _ same => by cases same
    | _ => exact bare_body fun _ same => by cases same

/-- A `send` that is answered as too long. -/
theorem evaluation_tooLong {action : Action}
    (tooLong : TooLong host cfg (exchange host cfg moment world action)) :
    (exchange host cfg moment world action).response =
      .ok ⟨.error, false, .error ⟨.other, .other .payloadTooLarge⟩⟩ := by
  obtain ⟨constr, destUserId, content, user, destRole, isSend, verified, found, valid, long⟩ := tooLong
  have isAction : action = .send constr destUserId content := isSend
  subst isAction
  have found' : dbGetUserRole host moment world.db destUserId = (destRole : Nat) := found
  show (actionEvaluate host cfg moment world _).1 = _
  rw [evaluation_of_verified host cfg moment world _ rfl rfl rfl verified]
  exact congrArg Prod.fst (evaluateSend_of_tooLong _ user found' valid long)

/-- An action that is done. -/
def Succeeded (handled : Exchange) : Prop :=
  ∃ rep, handled.response = .ok rep ∧ rep.type ≠ .error

/-- The body of a `send` that is inserted against an invariant. -/
theorem bypassed_documented_iff {action : Action} {name : Bytes}
    (named : BypassedAs host cfg moment world action name) :
    BodyDocumented host (.sendOver world.nextMsgId (.invariant name)) ↔
      ¬ TooLong host cfg (exchange host cfg moment world action) ∧
        ¬ StrayStatus host cfg (exchange host cfg moment world action) := by
  obtain ⟨_, _, _, _, evaluated, _⟩ := outcome_of_named named
  have responds := congrArg Prod.fst evaluated
  constructor
  · intro documented
    refine ⟨fun tooLong => ?_, ?_⟩
    · cases responds.symm.trans (evaluation_tooLong tooLong)
    · rintro ⟨other, alsoNamed, isFive, stray⟩
      obtain ⟨_, _, _, _, alsoEvaluated, _⟩ := outcome_of_named alsoNamed
      cases responds.symm.trans (congrArg Prod.fst alsoEvaluated)
      exact stray (documented isFive)
  · rintro ⟨_, notStray⟩ isFive
    by_contra stray
    exact notStray ⟨name, named, isFive, stray⟩

/-- The body of any other response to what was parsed. -/
theorem kept_documented_iff {jo : Json} (responds : (exchange host cfg moment world
      (actionParse moment world.db jo)).response = .ok rep)
    (kept : ¬ InvariantBypassed host cfg moment world (actionParse moment world.db jo)) :
    (rep.type = .error → BodyDocumented host rep.body) ↔
      ¬ TooLong host cfg (exchange host cfg moment world (actionParse moment world.db jo)) ∧
        ¬ StrayStatus host cfg (exchange host cfg moment world
          (actionParse moment world.db jo)) := by
  have encodes : Encodes host rep :=
    encodes_of_kept (actionParse_wellTagged moment world.db jo) kept responds
  constructor
  · intro documented
    refine ⟨fun tooLong => ?_, ?_⟩
    · cases responds.symm.trans (evaluation_tooLong tooLong)
      cases documented rfl _ rfl
    · rintro ⟨name, named, _⟩
      exact kept (bypassed_iff_named.mpr ⟨name, named⟩)
  · rintro ⟨fits, _⟩ isError
    obtain ⟨type, hasNextPage, body⟩ := rep
    cases isError
    cases body with
    | error stored =>
      intro status isStatus
      exact evaluation_bare fits _ status responds (congrArg ResponseBody.error isStatus)
    | sendOver msgId info => exact absurd encodes.1 id
    | _ => trivial

/-- **The answer to an action is documented unless its message is too long or its status stray.** -/
theorem answer_documented_iff {jo answer : Json}
    (answered : (exchange host cfg moment world (actionParse moment world.db jo)).answer host =
      .ok answer) :
    DocumentedAnswer
        (Succeeded (exchange host cfg moment world (actionParse moment world.db jo))) answer ↔
      ¬ TooLong host cfg (exchange host cfg moment world (actionParse moment world.db jo)) ∧
        ¬ StrayStatus host cfg (exchange host cfg moment world
          (actionParse moment world.db jo)) := by
  obtain ⟨rep, responds, encoded⟩ := bind_eq_ok answered
  have success : Succeeded (exchange host cfg moment world (actionParse moment world.db jo)) ↔
      rep.type ≠ .error := by
    constructor
    · rintro ⟨other, alsoResponds, isDone⟩
      cases responds.symm.trans alsoResponds
      exact isDone
    · exact fun isDone => ⟨rep, responds, isDone⟩
  rw [success, responseToJson_documented_iff encoded]
  by_cases bypassed : InvariantBypassed host cfg moment world (actionParse moment world.db jo)
  · obtain ⟨name, named⟩ := bypassed_iff_named.mp bypassed
    obtain ⟨_, _, _, _, evaluated, _⟩ := outcome_of_named named
    cases responds.symm.trans (congrArg Prod.fst evaluated)
    rw [← bypassed_documented_iff named]
    exact ⟨fun documented => documented rfl, fun documented _ => documented⟩
  · exact kept_documented_iff responds bypassed

end Evaluations

/-! ### Requests -/

section Requests

variable {host : Host} {cfg : Cfg}

/-- The loop answers the actions it handles, in order. -/
theorem interpretElements_answers (elements : List Json) (moments : Nat → Moment) (world : World)
    (output : List Json) {all : List Json}
    (returned : (interpretElements host cfg elements moments world output).output =
      .ok (.array all)) :
    ∃ answers, all = output ++ answers ∧
      List.Forall₂ (fun handled answer => handled.answer host = .ok answer)
        (interpretElements host cfg elements moments world output).exchanges answers := by
  fun_induction interpretElements host cfg elements moments world output with
  | case1 moments world output =>
    cases returned
    exact ⟨[], (List.append_nil _).symm, .nil⟩
  | case2 => cases returned
  | case3 => cases returned
  | case4 joAction rest moments world output notNull jo handled acted later ih =>
    obtain ⟨answers, rfl, answered⟩ := ih returned
    refine ⟨jo :: answers, List.append_assoc _ _ _, .cons ?_ answered⟩
    have isHandled : handled = (act host cfg (moments 0) world joAction).2 := by rw [acted]
    rw [isHandled]
    exact congrArg Prod.fst acted

/-- **A request gets an array of documented answers**, one for each action that was handled; what is
no request gets a single one, which is an error. -/
def RequestShaped (host : Host) (cfg : Cfg) (moments : Nat → Moment) (world : World)
    (joInput : Json) : Prop :=
  ∃ answers, (tchatator413Interpret host cfg moments world joInput).output = .ok (.array answers) ∧
    match joInput with
    | .array _ | .object _ =>
        List.Forall₂ (fun handled answer => DocumentedAnswer (Succeeded handled) answer)
          (tchatator413Interpret host cfg moments world joInput).exchanges answers
    | _ => ∃ answer, answers = [answer] ∧ DocumentedAnswer False answer

/-- Handled actions that are answered have documented answers when no message is too long. -/
theorem forall_documented_iff {exchanges : List Exchange} {answers : List Json}
    (answered : List.Forall₂ (fun handled answer => handled.answer host = .ok answer) exchanges
      answers)
    (parsed : ∀ handled ∈ exchanges, ∃ moment world jo,
      handled = exchange host cfg moment world (actionParse moment world.db jo)) :
    List.Forall₂ (fun handled answer => DocumentedAnswer (Succeeded handled) answer) exchanges
        answers ↔
      ∀ handled ∈ exchanges,
        ¬ TooLong host cfg handled ∧ ¬ StrayStatus host cfg handled := by
  induction answered with
  | nil => exact iff_of_true .nil fun _ none => absurd none List.not_mem_nil
  | cons first _ ih =>
    obtain ⟨moment, world, jo, rfl⟩ := parsed _ List.mem_cons_self
    rw [List.forall₂_cons, List.forall_mem_cons, answer_documented_iff first,
      ih fun handled member => parsed handled (List.mem_cons_of_mem _ member)]

/-- An array is answered with documented answers. -/
theorem elements_shaped_iff (elements : List Json) (moments : Nat → Moment) (world : World) :
    (∃ answers, (interpretElements host cfg elements moments world []).output =
        .ok (.array answers) ∧
      List.Forall₂ (fun handled answer => DocumentedAnswer (Succeeded handled) answer)
        (interpretElements host cfg elements moments world []).exchanges answers) ↔
      .null ∉ elements ∧
        ∀ handled ∈ (interpretElements host cfg elements moments world []).exchanges,
          ¬ Stops host cfg handled ∧ ¬ TooLong host cfg handled ∧ ¬ StrayStatus host cfg handled := by
  have parsed : ∀ handled ∈ (interpretElements host cfg elements moments world []).exchanges,
      ∃ moment world jo,
        handled = exchange host cfg moment world (actionParse moment world.db jo) := by
    intro handled member
    obtain ⟨before, _, ⟨moment, jo, isHandled⟩, _⟩ :=
      (interpretElements_run host cfg elements moments world []).step_of_mem member
    exact ⟨moment, before, jo, isHandled⟩
  rw [forall₂_and, ← and_assoc, ← interpretElements_returns_iff]
  constructor
  · rintro ⟨answers, returned, shaped⟩
    obtain ⟨_, rfl, answered⟩ := interpretElements_answers elements moments world [] returned
    exact ⟨⟨_, returned⟩, (forall_documented_iff answered parsed).mp shaped⟩
  · rintro ⟨⟨answers, returned⟩, fit⟩
    obtain ⟨_, rfl, answered⟩ := interpretElements_answers elements moments world [] returned
    exact ⟨_, returned, (forall_documented_iff answered parsed).mpr fit⟩

end Requests

/-- **Every request gets an array of documented answers exactly when no element of an array is null
and no action that is handled stops the process, is a `send` of a message that is too long, or is
answered by a stray status.** -/
theorem requestShaped_iff (host : Host) (cfg : Cfg) (moments : Nat → Moment) (world : World)
    (joInput : Json) :
    RequestShaped host cfg moments world joInput ↔
      WithoutNullElement joInput ∧
        ∀ handled ∈ (tchatator413Interpret host cfg moments world joInput).exchanges,
          ¬ Stops host cfg handled ∧ ¬ TooLong host cfg handled ∧ ¬ StrayStatus host cfg handled := by
  rcases request_cases joInput with ⟨elements, rfl⟩ | ⟨members, rfl⟩ | ⟨notArray, notObject⟩
  · exact elements_shaped_iff elements moments world
  · rw [RequestShaped, interpret_object, withoutNullElement_object]
    exact elements_shaped_iff [.object members] moments world
  · obtain ⟨noNull, answer, encoded, interpreted⟩ := interpret_other host cfg notArray notObject
    have documented := (responseToJson_documented_iff encoded).mpr (by
      intro _ status isStatus
      cases isStatus)
    have noSuccess : ((notARequest joInput).type ≠ .error) = False := by simp [notARequest]
    rw [noSuccess] at documented
    have fit : ∀ handled ∈ (tchatator413Interpret host cfg moments world joInput).exchanges,
        ¬ Stops host cfg handled ∧ ¬ TooLong host cfg handled ∧ ¬ StrayStatus host cfg handled := by
      rw [interpreted moments world]
      exact fun handled isHandled => absurd isHandled List.not_mem_nil
    refine iff_of_true ⟨[answer], by rw [interpreted moments world], ?_⟩ ⟨noNull, fit⟩
    cases joInput with
    | array elements => exact absurd rfl (notArray elements)
    | object members => exact absurd rfl (notObject members)
    | _ => exact ⟨answer, rfl, documented⟩

/-- The test member writes to a professional. -/
def salutRequest : Json :=
  .object [member "do" (.string (lit "send")), member "with" (.object
    [member "constr" (.string (lit "123e4567-e89b-12d3-a456-426614174000¤member1_mdp")),
      member "content" (.string (lit "salut")), member "dest" (.int 1001)])]

theorem salutRequest_parsed (moment : Moment) (db : Db) :
    actionParse moment db salutRequest = .send constrMember1 1001 ⟨5, clit "salut"⟩ := by
  rfl

/-- Where a message has four bytes at most, it is answered by a bare `413`. -/
theorem salutRequest_not_shaped :
    ¬ RequestShaped testHost { testCfg with maxMsgLength := 4 } (fun _ => allUp 0) testWorld
      salutRequest := by
  intro shaped
  rw [RequestShaped, salutRequest, interpret_object, ← salutRequest] at shaped
  obtain ⟨_, noneTooLong⟩ := (elements_shaped_iff _ _ _).mp shaped
  refine (noneTooLong _ List.mem_cons_self).2.1
    ⟨constrMember1, 1001, ⟨5, clit "salut"⟩, ⟨roleMember, 1003⟩, rolePro, ?_, ?_, ?_, ?_, ?_⟩
  · exact salutRequest_parsed (allUp 0) useTestDataUsers
  · show dbVerifyUserConstr testHost { testCfg with maxMsgLength := 4 } (allUp 0) useTestDataUsers
      .indeterminate constrMember1 = _
    decide
  · show dbGetUserRole testHost (allUp 0) useTestDataUsers 1001 = _
    decide
  · decide
  · decide

end Tchatator
