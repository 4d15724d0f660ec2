/-
**What the protocol answers with an error.**

* `IdentifiedAs` — whose connection string it is: root's, or that of a user whose key, and whose
  password or lack of one, it gives;
* `ActionCause` — the documented causes of `403`, `404`, `413` and `422`, action by action;
* `BranchFails` — a statement that the action of an identified user needs is not executed, or
  raises; a message that breaks an invariant needs no insertion, and a message that is not the
  user's no removal;
* `Cause`, `OperationFails` — the same for a request, from its arguments on;
* **`AnsweredBy`** — an answer is `500` exactly when a statement fails; any other error has its
  cause, and an answer without an error has none.
-/

import Tchatator.Proof.Blocks
import Tchatator.Proof.Ownership
import Tchatator.Proof.Policy
import Tchatator.Proof.Protocol
import Tchatator.Proof.Shape
import Tchatator.Proof.UserKeys

namespace Tchatator

/-! ### Callers -/

/-- The role of a user, who is an administrator where the view `"user"` says `0`. -/
def roleIn (host : Host) (db : Db) (row : UserRow) : Nat :=
  if (db.1.userViewRow row).role = some 0 then roleAdmin
  else pqRecvRole host (db.1.userViewRow row).role

/-- The key and the password are those of a user who has a role. -/
def IsCaller (host : Host) (db : Db) (constr : Constr) (row : UserRow) : Prop :=
  Authenticates host.bcrypt row constr ∧ validateDbRole (roleIn host db row) = true

instance (host : Host) (db : Db) (constr : Constr) (row : UserRow) :
    Decidable (IsCaller host db constr row) :=
  inferInstanceAs (Decidable (_ ∧ _))

/-- **A connection string is a user's**: root's, or that of whoever has its key and its password. Of
several users who have both, it is the first's; a user with the same key and another password does
not stand in the way. -/
inductive IdentifiedAs (host : Host) (cfg : Cfg) (db : Db) (constr : Constr) : UserIdentity → Prop
  | root : RootAccepted host.bcrypt cfg constr → IdentifiedAs host cfg db constr ⟨roleAdmin, 0⟩
  | user (row : UserRow) : ¬ RootAccepted host.bcrypt cfg constr →
      row ∈ db.1.users.find? (fun row => IsCaller host db constr row) →
      IdentifiedAs host cfg db constr ⟨roleIn host db row, row.userId⟩

/-! ### Recipients, pages and targets -/

/-- **A message breaks a documented invariant**, between a user and a recipient who exists. -/
def BreaksDocumented (host : Host) (db : Db) (user : UserIdentity) (destUserId : Int) : Prop :=
  ∃ row ∈ db.1.userView, row.userId = destUserId ∧
    (BreaksInvariant user (pqRecvRole host row.role) destUserId ∨
      (user.role = rolePro ∧ ¬ Contacted db destUserId user.id))

/-- A page after the first begins past the last message. -/
def PastEnd (pageSize page : Int) (count : Nat) : Prop :=
  1 < page ∧ (count : Int) ≤ pageSize * (page - 1)

/-- The number of messages a user has sent, root's being those without a sender. -/
def sentCount (db : Db) (userId : Int) : Nat :=
  (db.1.msgView.filter fun row => row.userIdSender.getD 0 = userId).length

/-- **A user has placed a block** on another, whose expiry satisfies a condition: an administrator's
is on all messages, a professional's on those to the professional. -/
def Placed (expires : Int → Prop) (tables : Tables) (user : UserIdentity) (target : Int) : Prop :=
  (user.role = roleAdmin ∧ ∃ row ∈ tables.members, row.userId = target ∧
    ∃ expiry ∈ row.fullBlockExpiresAt, expires expiry) ∨
  (user.role = rolePro ∧ ∃ row ∈ tables.singleBlocks, row.userIdMember = target ∧
    row.userIdPro = user.id ∧ expires row.expiresAt)

/-- A block of the user is in force. -/
def BlockedBy (now : Int) (tables : Tables) (user : UserIdentity) (target : Int) : Prop :=
  Placed (now < ·) tables user target

/-- A block of the user has no end. -/
def BannedBy (tables : Tables) (user : UserIdentity) (target : Int) : Prop :=
  Placed (· = infinity) tables user target

/-! ### Actions -/

/-- **The documented causes of an error**, for the action of a user. -/
inductive ActionCause (host : Host) (cfg : Cfg) (moment : Moment) (db : Db) (user : UserIdentity) :
    Action → Status → Prop
  | whoisNotFound (constr : Constr) (userId : Int) : ¬ db.1.HasUser userId →
      ActionCause host cfg moment db user (.whois constr userId) .notFound
  | sendForbidden (constr : Constr) (destUserId : Int) (content : Slice) :
      InForce moment.now db.1 user.id destUserId →
      ActionCause host cfg moment db user (.send constr destUserId content) .forbidden
  | sendNotFound (constr : Constr) (destUserId : Int) (content : Slice) :
      ¬ db.1.HasUser destUserId →
      ActionCause host cfg moment db user (.send constr destUserId content) .notFound
  | sendTooLarge (constr : Constr) (destUserId : Int) (content : Slice) :
      cfg.maxMsgLength < content.len →
      ActionCause host cfg moment db user (.send constr destUserId content) .payloadTooLarge
  | sendInvariant (constr : Constr) (destUserId : Int) (content : Slice) :
      BreaksDocumented host db user destUserId →
      ActionCause host cfg moment db user (.send constr destUserId content) .unprocessableContent
  | inboxNotFound (constr : Constr) (page : Int) :
      PastEnd cfg.pageInbox page (inboxRows db user.id).length →
      ActionCause host cfg moment db user (.inbox constr page) .notFound
  | outboxNotFound (constr : Constr) (page : Int) :
      PastEnd cfg.pageOutbox page (sentCount db user.id) →
      ActionCause host cfg moment db user (.outbox constr page) .notFound
  | editForbidden (constr : Constr) (msgId : Int) (newContent : Slice) (row : MsgRow)
      (recipient : Int) : row ∈ db.1.msgView → row.msgId = msgId →
      recipient ∈ row.userIdRecipient → InForce moment.now db.1 user.id recipient →
      ActionCause host cfg moment db user (.edit constr msgId newContent) .forbidden
  | editNotFound (constr : Constr) (msgId : Int) (newContent : Slice) :
      (∀ row ∈ db.1.msgView, row.msgId ≠ msgId) →
      ActionCause host cfg moment db user (.edit constr msgId newContent) .notFound
  | editTooLarge (constr : Constr) (msgId : Int) (newContent : Slice) :
      cfg.maxMsgLength < newContent.len →
      ActionCause host cfg moment db user (.edit constr msgId newContent) .payloadTooLarge
  | editInvariant (constr : Constr) (msgId : Int) (newContent : Slice) (row : MsgRow) :
      row ∈ db.1.msgView → row.msgId = msgId → ¬ MayRemove user row →
      ActionCause host cfg moment db user (.edit constr msgId newContent) .unprocessableContent
  | rmNotFound (constr : Constr) (msgId : Int) : (∀ row ∈ db.1.msgView, row.msgId ≠ msgId) →
      ActionCause host cfg moment db user (.rm constr msgId) .notFound
  | rmInvariant (constr : Constr) (msgId : Int) (row : MsgRow) :
      row ∈ db.1.msgView → row.msgId = msgId → ¬ MayRemove user row →
      ActionCause host cfg moment db user (.rm constr msgId) .unprocessableContent
  | blockNotFound (constr : Constr) (userId : Int) : ¬ db.1.HasUser userId →
      ActionCause host cfg moment db user (.block constr userId) .notFound
  | blockInvariant (constr : Constr) (userId : Int) :
      roleOf db userId ≠ some roleMember ∨ BlockedBy moment.now db.1 user userId →
      ActionCause host cfg moment db user (.block constr userId) .unprocessableContent
  | unblockNotFound (constr : Constr) (userId : Int) : ¬ db.1.HasUser userId →
      ActionCause host cfg moment db user (.unblock constr userId) .notFound
  | unblockInvariant (constr : Constr) (userId : Int) :
      user.role = rolePro → ¬ BlockedBy moment.now db.1 user userId →
      ActionCause host cfg moment db user (.unblock constr userId) .unprocessableContent
  | banNotFound (constr : Constr) (userId : Int) : ¬ db.1.HasUser userId →
      ActionCause host cfg moment db user (.ban constr userId) .notFound
  | banInvariant (constr : Constr) (userId : Int) :
      roleOf db userId ≠ some roleMember ∨ BannedBy db.1 user userId →
      ActionCause host cfg moment db user (.ban constr userId) .unprocessableContent
  | unbanNotFound (constr : Constr) (userId : Int) : ¬ db.1.HasUser userId →
      ActionCause host cfg moment db user (.unban constr userId) .notFound
  | unbanInvariant (constr : Constr) (userId : Int) :
      user.role = rolePro → ¬ BannedBy db.1 user userId →
      ActionCause host cfg moment db user (.unban constr userId) .unprocessableContent

/-- A recipient has a role, and the message is not too long. -/
def Deliverable (host : Host) (cfg : Cfg) (db : Db) (destUserId : Int) (content : Slice)
    (row : UserViewRow) : Prop :=
  row ∈ db.1.userView ∧ row.userId = destUserId ∧
    validateDbRole (pqRecvRole host row.role) = true ∧ content.len ≤ cfg.maxMsgLength

/-- **The messages of a recipient to the user cannot be counted.** -/
def CountFails (host : Host) (moment : Moment) (user : UserIdentity) (row : UserViewRow) : Prop :=
  user.role = rolePro ∧ pqRecvRole host row.role = roleMember ∧ moment.up .countMsg = false

/-- **The page of an inbox cannot be read**: `limit` and `offset` raise on a negative operand. -/
def InboxFails (cfg : Cfg) (moment : Moment) (page : Int) : Prop :=
  moment.up .getInbox = false ∨ cfg.pageInbox < 0 ∨ wrap32 (cfg.pageInbox * (page - 1)) < 0

/-- **A statement that the action of a user needs fails.** -/
inductive BranchFails (host : Host) (cfg : Cfg) (moment : Moment) (world : World)
    (user : UserIdentity) : Action → Prop
  | getUser (constr : Constr) (userId : Int) : moment.up .getUser = false →
      BranchFails host cfg moment world user (.whois constr userId)
  | getUserRole (constr : Constr) (destUserId : Int) (content : Slice) :
      moment.up .getUserRole = false →
      BranchFails host cfg moment world user (.send constr destUserId content)
  | countMsg (constr : Constr) (destUserId : Int) (content : Slice) (row : UserViewRow) :
      Deliverable host cfg world.db destUserId content row → CountFails host moment user row →
      BranchFails host cfg moment world user (.send constr destUserId content)
  | sendMsg (constr : Constr) (destUserId : Int) (content : Slice) (row : UserViewRow) :
      Deliverable host cfg world.db destUserId content row →
      ¬ BreaksDocumented host world.db user destUserId →
      SendMsgFails moment world user.id destUserId →
      BranchFails host cfg moment world user (.send constr destUserId content)
  | getInbox (constr : Constr) (page : Int) : InboxFails cfg moment page →
      BranchFails host cfg moment world user (.inbox constr page)
  | rmMsg (constr : Constr) (msgId : Int) : moment.up .rmMsg = false →
      BranchFails host cfg moment world user (.rm constr msgId)
  | rmMsgRaises (constr : Constr) (msgId : Int) (row : MsgRow) : row ∈ world.db.1.msgView →
      row.msgId = msgId → MayRemove user row → ¬ Deletable moment.now row →
      BranchFails host cfg moment world user (.rm constr msgId)

/-! ### Requests -/

/-- **A form names the user** its action is about, if its kind takes one. The user `0` is root, who
has no name. -/
def Form.Names (db : Db) (form : Form) (userId : Int) : Prop :=
  match form.user with
  | none => userId = 0
  | some (_, joUser) => userId ≠ 0 ∧ Denotes db joUser userId

section

variable (host : Host) (cfg : Cfg) (moment : Moment) (world : World)

/-- **A statement that a request needs fails.** -/
inductive OperationFails (jo : Json) : Prop
  | lookup (kind : ActionKind) (form : Form) (key : String) (joUser : Json) :
      requestForm jo = .ok (kind, form) → form.user = some (key, joUser) →
      KeyDown moment world.db joUser → OperationFails jo
  | verification (kind : ActionKind) (form : Form) (userId : Int) :
      requestForm jo = .ok (kind, form) → form.Names world.db userId →
      ¬ RootAccepted host.bcrypt cfg form.constr → moment.up .verifyUserConstr = false →
      OperationFails jo
  | branch (kind : ActionKind) (form : Form) (userId : Int) (user : UserIdentity) :
      requestForm jo = .ok (kind, form) → form.Names world.db userId →
      IdentifiedAs host cfg world.db form.constr user → user.role ∈ documentedRoles kind →
      BranchFails host cfg moment world user (form.action userId) → OperationFails jo

/-- **The documented causes of an error**, for a request. A name that nobody has is somebody who is
not found. -/
inductive Cause (jo : Json) : Status → Prop
  | malformed : ¬ WellFormed jo → Cause jo .badRequest
  | unknownUser (kind : ActionKind) (form : Form) : requestForm jo = .ok (kind, form) →
      (∀ userId, ¬ form.Names world.db userId) → Cause jo .notFound
  | credentials (kind : ActionKind) (form : Form) : requestForm jo = .ok (kind, form) →
      (∀ user, ¬ IdentifiedAs host cfg world.db form.constr user) → Cause jo .unauthorized
  | role (kind : ActionKind) (form : Form) (user : UserIdentity) :
      requestForm jo = .ok (kind, form) → IdentifiedAs host cfg world.db form.constr user →
      user.role ∉ documentedRoles kind → Cause jo .forbidden
  | action (kind : ActionKind) (form : Form) (userId : Int) (user : UserIdentity)
      (status : Status) : requestForm jo = .ok (kind, form) → form.Names world.db userId →
      IdentifiedAs host cfg world.db form.constr user →
      ActionCause host cfg moment world.db user (form.action userId) status → Cause jo status

/-- A statement that an action needs fails. -/
def ActionFails (constr : Constr) (kind : ActionKind) (action : Action) : Prop :=
  (¬ RootAccepted host.bcrypt cfg constr ∧ moment.up .verifyUserConstr = false) ∨
    ∃ user, IdentifiedAs host cfg world.db constr user ∧ user.role ∈ documentedRoles kind ∧
      BranchFails host cfg moment world user action

/-- The documented causes of an error, for an action. -/
def ActionCaused (constr : Constr) (kind : ActionKind) (action : Action) (status : Status) : Prop :=
  (status = .unauthorized ∧ ∀ user, ¬ IdentifiedAs host cfg world.db constr user) ∨
    ∃ user, IdentifiedAs host cfg world.db constr user ∧
      ((status = .forbidden ∧ user.role ∉ documentedRoles kind) ∨
        ActionCause host cfg moment world.db user action status)

end

/-! ### Answers -/

/-- **An answer is as documented**: `500` exactly when a statement fails; otherwise an error has a
documented status and its cause, and an answer without an error has none. -/
def AnsweredBy (fails : Prop) (cause : Status → Prop) (answered : Except Fault Json) : Prop :=
  ∃ answer, answered = .ok answer ∧
    (answerStatus answer = some (.int Status.internalServerError.code) ↔ fails) ∧
    (¬ fails →
      (∃ status : Status, answerStatus answer = some (.int status.code) ∧ cause status) ∨
      (answerStatus answer = none ∧ ∀ status, ¬ cause status))

/-- **A JSON action is answered by the protocol.** -/
def AnsweredByProtocol (host : Host) (cfg : Cfg) (moment : Moment) (world : World) (jo : Json) :
    Prop :=
  AnsweredBy (OperationFails host cfg moment world jo) (Cause host cfg moment world jo)
    (act host cfg moment world jo).1

section Answers

variable (host : Host) {fails : Prop} {cause : Status → Prop}

theorem answeredBy_congr {fails' : Prop} {cause' : Status → Prop} {answered : Except Fault Json}
    (sameFails : fails ↔ fails') (sameCause : ∀ status, cause status ↔ cause' status) :
    AnsweredBy fails cause answered ↔ AnsweredBy fails' cause' answered := by
  simp only [AnsweredBy, sameFails, sameCause]

/-- A process that stops does not answer. -/
theorem not_answeredBy_fault (fault : Fault) : ¬ AnsweredBy fails cause (.error fault) := by
  rintro ⟨_, ⟨⟩, _⟩

/-- **An error that is not specified is right when a statement fails.** -/
theorem answeredBy_internal_iff :
    AnsweredBy fails cause
        (responseToJson host ⟨.error, false, .error ⟨.other, .other .internalServerError⟩⟩) ↔
      fails := by
  obtain ⟨_, answer, encoded⟩ := encodes_status .internalServerError
  have status := answerStatus_error encoded
  rw [encoded]
  constructor
  · rintro ⟨_, ⟨⟩, internal, _⟩
    exact internal.mp status
  · intro failed
    exact ⟨answer, rfl, iff_of_true status failed, fun goesOn => absurd failed goesOn⟩

/-- **An answer with a status** is right when the status is `500` and a statement fails, or when none
fails and the status has its cause. -/
theorem answeredBy_code_iff {answer : Json} {code : Int}
    (isStatus : answerStatus answer = some (.int code)) :
    AnsweredBy fails cause (.ok answer) ↔
      (code = Status.internalServerError.code ↔ fails) ∧
        (¬ fails → ∃ status : Status, code = status.code ∧ cause status) := by
  have sameCode (other : Int) : answerStatus answer = some (.int other) ↔ code = other := by
    rw [isStatus, Option.some_inj, Json.int.injEq]
  constructor
  · rintro ⟨_, ⟨⟩, internal, caused⟩
    refine ⟨(sameCode _).symm.trans internal, fun goesOn => ?_⟩
    rcases caused goesOn with ⟨status, has, isCause⟩ | ⟨none, _⟩
    · exact ⟨status, (sameCode _).mp has, isCause⟩
    · cases isStatus.symm.trans none
  · rintro ⟨internal, caused⟩
    refine ⟨answer, rfl, (sameCode _).trans internal, fun goesOn => ?_⟩
    obtain ⟨status, isCode, isCause⟩ := caused goesOn
    exact Or.inl ⟨status, (sameCode _).mpr isCode, isCause⟩

/-- With another documented status, it is right when none fails and this status has its cause. -/
theorem answeredBy_documented_iff {answer : Json} {status : Status}
    (isStatus : answerStatus answer = some (.int status.code))
    (notInternal : status ≠ .internalServerError) :
    AnsweredBy fails cause (.ok answer) ↔ ¬ fails ∧ cause status := by
  have other : status.code ≠ Status.internalServerError.code := fun same =>
    notInternal (Status.code_injective same)
  rw [answeredBy_code_iff isStatus]
  constructor
  · rintro ⟨internal, caused⟩
    have goesOn : ¬ fails := fun failed => other (internal.mpr failed)
    obtain ⟨found, sameCode, isCause⟩ := caused goesOn
    rw [Status.code_injective sameCode]
    exact ⟨goesOn, isCause⟩
  · rintro ⟨goesOn, isCause⟩
    exact ⟨iff_of_false other goesOn, fun _ => ⟨status, rfl, isCause⟩⟩

/-- **Any other error is right when none fails and it has its cause.** -/
theorem answeredBy_error_iff {stored : ActionError}
    (encodes : Encodes host ⟨.error, false, .error stored⟩)
    (notInternal : stored.status ≠ .internalServerError) :
    AnsweredBy fails cause (responseToJson host ⟨.error, false, .error stored⟩) ↔
      ¬ fails ∧ cause stored.status := by
  obtain ⟨_, answer, encoded⟩ := encodes
  rw [encoded]
  exact answeredBy_documented_iff (answerStatus_error encoded) notInternal

/-- The same for a status alone. -/
theorem answeredBy_status_iff {status : Status} (notInternal : status ≠ .internalServerError) :
    AnsweredBy fails cause
        (responseToJson host ⟨.error, false, .error ⟨.other, .other status⟩⟩) ↔
      ¬ fails ∧ cause status :=
  answeredBy_error_iff host (encodes_status status) notInternal

/-- The status of a broken invariant under an identifier, as it is encoded. -/
def overwrittenCode (host : Host) (msgId : Int) (name : Bytes) : Int :=
  if msgId = 5 then statusInAddress (host.literalAddress name)
  else if msgId = 3 then Status.tooManyRequests.code
  else Status.badRequest.code

theorem answerStatus_overwritten {msgId : Int} (name : Bytes) (listed : msgId ∈ listedErrorTags) :
    ∃ answer, responseToJson host ⟨.error, false, .sendOver msgId (.invariant name)⟩ = .ok answer ∧
      answerStatus answer = some (.int (overwrittenCode host msgId name)) := by
  simp only [listedErrorTags, List.mem_cons, List.not_mem_nil, or_false] at listed
  rcases listed with rfl | rfl | rfl | rfl | rfl <;> exact ⟨_, rfl, rfl⟩

/-- **A broken invariant under an identifier** is right only as a bare status, where the low half of an
address happens to be a right one. -/
theorem answeredBy_overwritten_iff (msgId : Int) (name : Bytes) (notBad : ¬ cause .badRequest)
    (notLimited : ¬ cause .tooManyRequests) :
    AnsweredBy fails cause
        (responseToJson host ⟨.error, false, .sendOver msgId (.invariant name)⟩) ↔
      msgId = 5 ∧
        (statusInAddress (host.literalAddress name) = Status.internalServerError.code ↔ fails) ∧
        (¬ fails → ∃ status : Status,
          statusInAddress (host.literalAddress name) = status.code ∧ cause status) := by
  by_cases listed : msgId ∈ listedErrorTags
  · obtain ⟨answer, encoded, isStatus⟩ := answerStatus_overwritten host name listed
    rw [encoded]
    by_cases isOther : msgId = 5
    · rw [overwrittenCode, if_pos isOther] at isStatus
      rw [answeredBy_code_iff isStatus, and_iff_right isOther]
    · rw [overwrittenCode, if_neg isOther] at isStatus
      refine iff_of_false (fun answered => ?_) fun conforms => isOther conforms.1
      split at isStatus
      · exact notLimited ((answeredBy_documented_iff isStatus (by decide)).mp answered).2
      · exact notBad ((answeredBy_documented_iff isStatus (by decide)).mp answered).2
  · refine iff_of_false ?_ ?_
    · rintro ⟨answer, encoded, _⟩
      exact listed ((responseToJson_bypassed_iff name).mp ⟨answer, encoded⟩)
    · rintro ⟨rfl, _⟩
      exact listed (by decide)

/-- An answer that is not an error carries no status. -/
theorem answerStatus_action {kind : ActionKind} {body : ResponseBody} {answer : Json}
    (encoded : responseToJson host ⟨.action kind, false, body⟩ = .ok answer) :
    answerStatus answer = none := by
  simp only [responseToJson] at encoded
  split at encoded
  · cases encoded
  · cases encoded
    rfl
  · cases encoded
    rfl

/-- **An answer that is not an error is right when no statement fails and nothing causes one.** -/
theorem answeredBy_action_iff {kind : ActionKind} {body : ResponseBody}
    (encodes : Encodes host ⟨.action kind, false, body⟩) :
    AnsweredBy fails cause (responseToJson host ⟨.action kind, false, body⟩) ↔
      ¬ fails ∧ ∀ status, ¬ cause status := by
  obtain ⟨_, answer, encoded⟩ := encodes
  have status := answerStatus_action host encoded
  have other : answerStatus answer ≠ some (.int Status.internalServerError.code) := by
    rw [status]
    exact (Option.some_ne_none _).symm
  rw [encoded]
  constructor
  · rintro ⟨_, ⟨⟩, internal, caused⟩
    have goesOn : ¬ fails := fun failed => other (internal.mpr failed)
    rcases caused goesOn with ⟨_, same, _⟩ | ⟨_, noCause⟩
    · cases status.symm.trans same
    · exact ⟨goesOn, noCause⟩
  · rintro ⟨goesOn, noCause⟩
    exact ⟨answer, rfl, iff_of_false other goesOn, fun _ => Or.inr ⟨status, noCause⟩⟩

end Answers

end Tchatator
