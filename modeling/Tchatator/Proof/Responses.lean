/-
**What a response says** (`action_evaluate`, `response_to_json`).

A response speaks to two readers: the client, to whom an error means that nothing was done, and the
encoder, to whom the tag of a union says which member to read. Both are right about a response
unless a `send` broke an invariant and was inserted all the same (`InvariantBypassed`):
`fail_invariant` does not return, the insertion goes on, and the identifier of the message is
stored over the tag of the error.

* **`evaluation_consistent_iff`** — an error response comes with the tables as they were, and a
  `send` that is not an error with exactly its message added, if and only if the evaluation is no
  such `send`;
* **`responses_encode_iff`** — every response is well tagged and encoded, if and only if the
  evaluation is no such `send`; the responses that do not come from an evaluation always are;
* `responseToJson_bypassed_iff` — the response to such a `send` is encoded all the same when the
  identifier is the number of a tag that is listed.
-/

import Tchatator.Model.Facade
import Tchatator.Model.TestData
import Tchatator.Proof.Evaluation
import Tchatator.Proof.Forms

namespace Tchatator

/-! ### The send that goes on -/

/-- **A `send` breaks an invariant and is inserted.** -/
def InvariantBypassed (host : Host) (cfg : Cfg) (moment : Moment) (world : World)
    (action : Action) : Prop :=
  ∃ constr destUserId content user destRole, action = .send constr destUserId content ∧
    SendInserts host cfg moment world constr destUserId content user destRole ∧
    BreaksInvariant user destRole destUserId

/-- Such a `send`, with the name of the invariant that is left in the response. -/
def BypassedAs (host : Host) (cfg : Cfg) (moment : Moment) (world : World) (action : Action)
    (name : Bytes) : Prop :=
  ∃ constr destUserId content user destRole, action = .send constr destUserId content ∧
    SendInserts host cfg moment world constr destUserId content user destRole ∧
    BreaksInvariant user destRole destUserId ∧ name = lit (lastBroken user destRole)

section

variable {host : Host} {cfg : Cfg} {moment : Moment} {world : World} {action : Action}

theorem bypassed_iff_named :
    InvariantBypassed host cfg moment world action ↔
      ∃ name, BypassedAs host cfg moment world action name := by
  constructor
  · rintro ⟨constr, destUserId, content, user, destRole, isSend, inserts, breaks⟩
    exact ⟨_, constr, destUserId, content, user, destRole, isSend, inserts, breaks, rfl⟩
  · rintro ⟨_, constr, destUserId, content, user, destRole, isSend, inserts, breaks, _⟩
    exact ⟨constr, destUserId, content, user, destRole, isSend, inserts, breaks⟩

/-- Such a `send` answers an error over whose tag its identifier is stored, and adds its message. -/
theorem outcome_of_named {name : Bytes} (bypassed : BypassedAs host cfg moment world action name) :
    ∃ user destUserId content after, actionEvaluate host cfg moment world action =
        (.ok ⟨.error, false, .sendOver world.nextMsgId (.invariant name)⟩, after) ∧
      Inserted moment.now world after user destUserId content := by
  obtain ⟨constr, destUserId, content, user, destRole, rfl, inserts, breaks, rfl⟩ := bypassed
  obtain ⟨after, evaluated, inserted⟩ := send_of_inserts inserts
  rw [sentResponse, if_pos breaks] at evaluated
  exact ⟨user.id, destUserId, content.val, after, evaluated, inserted⟩

theorem outcome_of_bypassed (bypassed : InvariantBypassed host cfg moment world action) :
    ∃ name user destUserId content after, actionEvaluate host cfg moment world action =
        (.ok ⟨.error, false, .sendOver world.nextMsgId (.invariant name)⟩, after) ∧
      Inserted moment.now world after user destUserId content := by
  obtain ⟨name, named⟩ := bypassed_iff_named.mp bypassed
  exact ⟨name, outcome_of_named named⟩

/-- A `send` whose invariants hold is no such `send`: its user and its recipient's role are
determined. -/
theorem not_bypassed_of_keeps {constr : Constr} {destUserId : Int} {content : Slice}
    {user : UserIdentity} {destRole : Nat}
    (proceeds : SendProceeds host cfg moment world constr destUserId content user destRole)
    (keeps : ¬ BreaksInvariant user destRole destUserId) :
    ¬ InvariantBypassed host cfg moment world (.send constr destUserId content) := by
  rintro ⟨_, _, _, other, otherRole, isSend, inserts, breaks⟩
  cases isSend
  obtain ⟨rfl, rfl⟩ := proceeds.unique inserts.proceeds
  exact keeps breaks

/-- A member of the test data writes to another. -/
def memberToMember : Action := .send constrMember1 1004 ⟨5, clit "salut"⟩

/-- A member of the test data writes to a professional. -/
def memberToPro : Action := .send constrMember1 1001 ⟨5, clit "salut"⟩

theorem memberToMember_bypassed (lastMsgId : Nat) (drawn : lastMsgId < 2147483647) :
    InvariantBypassed testHost testCfg (allUp 0) { testWorld with lastMsgId := lastMsgId }
      memberToMember := by
  refine ⟨_, _, _, ⟨roleMember, 1003⟩, roleMember, rfl, ⟨⟨?_, ?_, ?_, ?_⟩, rfl, ?_, ?_⟩, ?_⟩
  · show dbVerifyUserConstr testHost testCfg (allUp 0) useTestDataUsers .indeterminate
      constrMember1 = _
    decide
  · show dbGetUserRole testHost (allUp 0) useTestDataUsers 1004 = _
    decide
  · decide
  · decide
  · show ¬ SendMsgRefuses 0 useTestDataUsers.1 1003 1004
    decide
  · refine ⟨drawn, fun row member => absurd member List.not_mem_nil, fun _ => ?_, ?_, by decide⟩
    · show useTestDataUsers.1.HasUser 1003
      decide
    · show useTestDataUsers.1.HasUser 1004
      decide
  · decide

/-! ### The client -/

/-- **What a response tells the client.** -/
structure EvaluationConsistent (host : Host) (cfg : Cfg) (moment : Moment) (world : World)
    (action : Action) : Prop where
  /-- After an error the database is the one before. -/
  error : ∀ rep, (actionEvaluate host cfg moment world action).1 = .ok rep →
    rep.type = .error → (actionEvaluate host cfg moment world action).2.db = world.db
  /-- After a `send` that is not an error, the message answered is there, and nothing else is
  new. -/
  sent : ∀ constr destUserId content rep, action = .send constr destUserId content →
    (actionEvaluate host cfg moment world action).1 = .ok rep → rep.type ≠ .error →
    ∃ user row, dbVerifyUserConstr host cfg moment world.db .indeterminate constr =
        .ok (.ok, user) ∧
      rep.body = .send row.msgId ∧
      (actionEvaluate host cfg moment world action).2.db.1 =
        { world.db.1 with msgs := row :: world.db.1.msgs } ∧
      (∀ old ∈ world.db.1.msgs, old.msgId ≠ row.msgId) ∧
      row.userIdSender = (if user.id = 0 then none else some user.id) ∧
      row.userIdRecipient = some destUserId ∧ row.content = content.val

/-- An evaluation that changes nothing and answers no `send` is consistent. -/
theorem consistent_of_unchanged (unchanged : (actionEvaluate host cfg moment world action).2.db =
      world.db)
    (failed : ∀ constr destUserId content, action = .send constr destUserId content →
      ∀ rep, (actionEvaluate host cfg moment world action).1 = .ok rep → rep.type = .error) :
    EvaluationConsistent host cfg moment world action :=
  { error := fun _ _ _ => unchanged
    sent := fun constr destUserId content rep isSend answered notError =>
      absurd (failed constr destUserId content isSend rep answered) notError }

/-- A `send` is consistent unless it is inserted against an invariant. -/
theorem send_consistent {constr : Constr} {destUserId : Int} {content : Slice}
    (kept : ¬ InvariantBypassed host cfg moment world (.send constr destUserId content)) :
    EvaluationConsistent host cfg moment world (.send constr destUserId content) := by
  rcases send_outcomes host cfg moment world constr destUserId content with
    ⟨fault, stopped⟩ | ⟨status, after, failed, untouched⟩ | ⟨user, destRole, inserts⟩
  · refine consistent_of_unchanged (by rw [stopped]) fun _ _ _ _ rep answered => ?_
    rw [stopped] at answered
    cases answered
  · refine consistent_of_unchanged (by rw [failed]; exact untouched.tables) fun _ _ _ _ rep answered => ?_
    rw [failed] at answered
    cases answered
    rfl
  · have keeps : ¬ BreaksInvariant user destRole destUserId := fun breaks =>
      kept ⟨constr, destUserId, content, user, destRole, rfl, inserts, breaks⟩
    obtain ⟨after, evaluated, inserted⟩ := send_of_inserts inserts
    rw [sentResponse, if_neg keeps] at evaluated
    refine ⟨fun rep answered isError => ?_, fun _ _ _ rep isSend answered _ => ?_⟩
    · rw [evaluated] at answered
      cases answered
      cases isError
    · cases isSend
      rw [evaluated] at answered ⊢
      cases answered
      exact ⟨user, newMsgRow moment.now world.nextMsgId user.id destUserId content.val,
        inserts.proceeds.verified, rfl, inserted.tables, inserts.accepts.insertable.fresh, rfl, rfl,
        rfl⟩

/-- An `rm` is consistent. -/
theorem rm_consistent (constr : Constr) (msgId : Int) :
    EvaluationConsistent host cfg moment world (.rm constr msgId) := by
  refine ⟨fun rep answered isError => ?_, fun _ _ _ _ isSend => by cases isSend⟩
  rcases rm_outcomes host cfg moment world constr msgId with
    ⟨fault, stopped⟩ | ⟨status, failed⟩ | ⟨user, row, removes⟩
  · rw [stopped]
  · rw [failed]
  · obtain ⟨age, after, evaluated, _⟩ := rm_of_removes removes
    rw [evaluated] at answered
    cases answered
    cases isError

/-- The error of a `send` that goes on comes with a message. -/
theorem not_consistent_of_bypassed (bypassed : InvariantBypassed host cfg moment world action) :
    ¬ EvaluationConsistent host cfg moment world action := by
  intro consistent
  obtain ⟨_, user, destUserId, content, after, evaluated, inserted⟩ := outcome_of_bypassed bypassed
  have unchanged := consistent.error _ (by rw [evaluated]) rfl
  rw [evaluated] at unchanged
  exact inserted.changes unchanged

/-- **A response is consistent with the database exactly when no broken invariant was inserted.** -/
theorem evaluation_consistent_iff (host : Host) (cfg : Cfg) (moment : Moment) (world : World)
    (action : Action) :
    EvaluationConsistent host cfg moment world action ↔
      ¬ InvariantBypassed host cfg moment world action := by
  constructor
  · exact fun consistent bypassed => not_consistent_of_bypassed bypassed consistent
  · intro kept
    cases action with
    | send constr destUserId content => exact send_consistent kept
    | rm constr msgId => exact rm_consistent constr msgId
    | _ =>
      refine consistent_of_unchanged ?_ fun _ _ _ isSend => by cases isSend
      rw [quiet_outcomes host cfg moment world (by simp [Action.type]) (by simp [Action.type])]

/-- The error that a member gets for writing to another member comes with the message. -/
theorem memberToMember_not_consistent :
    ¬ EvaluationConsistent testHost testCfg (allUp 0) testWorld memberToMember :=
  not_consistent_of_bypassed (memberToMember_bypassed 0 (by decide))

/-! ### The encoder -/

/-- A response the encoder can be given: well tagged, and encoded. -/
def Encodes (host : Host) (rep : Response) : Prop :=
  rep.WellTagged ∧ ∃ jo, responseToJson host rep = .ok jo

/-- An error that is well tagged has a status, unless it is a broken invariant. -/
theorem errorObject_of_wellTagged (host : Host) {stored : ActionError} (tagged : stored.WellTagged)
    (listed : stored.type ≠ .invariant) : ∃ jo, errorObject host stored = .ok jo := by
  obtain ⟨tag, info⟩ := stored
  have sameTag : tag = info.tag := tagged
  subst sameTag
  cases info with
  | invariant => exact absurd rfl listed
  | _ => exact ⟨_, rfl⟩

theorem encodes_error {stored : ActionError} (tagged : stored.WellTagged)
    (listed : stored.type ≠ .invariant) : Encodes host ⟨.error, false, .error stored⟩ := by
  obtain ⟨jo, encoded⟩ := errorObject_of_wellTagged host tagged listed
  refine ⟨tagged, .object [member "error" jo], ?_⟩
  simp only [responseToJson, errorFromBody, encoded]
  rfl

theorem encodes_status (status : Status) :
    Encodes host ⟨.error, false, .error ⟨.other, .other status⟩⟩ :=
  encodes_error rfl (by simp)

/-- A user that is well tagged has a body. -/
theorem encodes_whois {user : User} (tagged : user.WellTagged) :
    Encodes host ⟨.action .whois, false, .whois user⟩ := by
  obtain ⟨id, role, name⟩ := user
  refine ⟨tagged, ?_⟩
  cases name <;> (obtain rfl := tagged; exact ⟨_, rfl⟩)

/-- A response whose identifier was stored over an error is not well tagged. -/
theorem not_encodes_bypassed (msgId : Int) (info : ActionErrorInfo) :
    ¬ Encodes host ⟨.error, false, .sendOver msgId info⟩ := fun encodes => encodes.1

/-- The tags that `response_to_json` lists, as the numbers they are stored as. -/
def listedErrorTags : List Int := [0, 1, 2, 3, 5]

/-- The `error` object of a broken invariant under an identifier. -/
theorem overwrittenObject_ok {msgId : Int} (name : Bytes) (listed : msgId ∈ listedErrorTags) :
    ∃ jo, overwrittenObject host msgId name = .ok jo := by
  simp only [listedErrorTags, List.mem_cons, List.not_mem_nil, or_false] at listed
  rcases listed with rfl | rfl | rfl | rfl | rfl <;> exact ⟨_, rfl⟩

theorem overwrittenObject_unreachable {msgId : Int} (name : Bytes)
    (unlisted : msgId ∉ listedErrorTags) :
    overwrittenObject host msgId name = .error .unreachable := by
  simp only [listedErrorTags, List.mem_cons, List.not_mem_nil, or_false, not_or] at unlisted
  obtain ⟨notType, notKey, notInvalid, notRate, notOther⟩ := unlisted
  simp only [overwrittenObject, overwrittenStatus, if_neg notType, if_neg notKey, if_neg notInvalid,
    if_neg notRate, if_neg notOther]

/-- **It is encoded all the same when the identifier is the number of a tag that is listed.** -/
theorem responseToJson_bypassed_iff {msgId : Int} (name : Bytes) :
    (∃ jo, responseToJson host ⟨.error, false, .sendOver msgId (.invariant name)⟩ = .ok jo) ↔
      msgId ∈ listedErrorTags := by
  by_cases listed : msgId ∈ listedErrorTags
  · obtain ⟨jo, encoded⟩ : ∃ jo, overwrittenObject host msgId name = .ok jo :=
      overwrittenObject_ok name listed
    refine iff_of_true ⟨.object [member "error" jo], ?_⟩ listed
    simp only [responseToJson, errorFromBody, encoded]
    rfl
  · refine iff_of_false ?_ listed
    rintro ⟨jo, encoded⟩
    simp only [responseToJson, errorFromBody, overwrittenObject_unreachable name listed] at encoded
    cases encoded

/-- `db_get_user` fills in a well tagged user. -/
theorem dbGetUser_wellTagged {moment : Moment} {db : Db} {userId : Int} {user : User}
    (found : dbGetUser host moment db ⟨userId, 0, .unset⟩ = (.ok, user)) : user.WellTagged := by
  unfold dbGetUser at found
  split at found
  · split at found
    · cases found
    · dsimp only at found
      split at found
      · rename_i isAdmin
        cases found
        exact isAdmin
      · split at found
        · rename_i isMember
          cases found
          exact isMember
        · split at found
          · rename_i isPro
            cases found
            exact isPro
          · cases found
  · cases found

/-- **The response of an action that is not a `send` is encoded.** -/
theorem encodes_of_not_send (tagged : action.WellTagged) (notSend : action.type ≠ .action .send)
    {rep : Response} (answered : (actionEvaluate host cfg moment world action).1 = .ok rep) :
    Encodes host rep := by
  rcases action.cases_constr with ⟨stored, rfl⟩ | ⟨constr, kind, carries, isKind⟩
  · cases answered
    exact encodes_error tagged.1 tagged.2
  rcases evaluation_cases host cfg moment world action carries isKind with
    ⟨fault, stopped⟩ | ⟨status, failed⟩ | ⟨user, verified, _, goes⟩
  · rw [stopped] at answered
    cases answered
  · rw [failed] at answered
    cases answered
    exact encodes_status status
  · rw [goes] at answered
    cases action with
    | error => cases carries
    | send => exact absurd rfl notSend
    | whois =>
      simp only [branch, evaluateWhois] at answered
      split at answered
      · cases answered
        exact encodes_status _
      · cases answered
        exact encodes_status _
      · cases answered
        exact encodes_whois (dbGetUser_wellTagged ‹_›)
    | inbox =>
      simp only [branch, evaluateInbox] at answered
      split at answered
      · cases answered
        exact ⟨trivial, _, rfl⟩
      · cases answered
        exact encodes_status _
    | rm =>
      simp only [branch, evaluateRm, if_neg (role_and_roleAll (role_of_verified verified))]
        at answered
      split at answered
      · cases answered
        exact encodes_status _
      · cases answered
        exact encodes_status _
      · cases answered
        exact ⟨trivial, _, rfl⟩
    | _ =>
      cases answered
      exact ⟨trivial, _, rfl⟩

/-- A `send` is encoded unless it is inserted against an invariant. -/
theorem send_encodes {constr : Constr} {destUserId : Int} {content : Slice}
    (kept : ¬ InvariantBypassed host cfg moment world (.send constr destUserId content))
    {rep : Response}
    (answered : (actionEvaluate host cfg moment world (.send constr destUserId content)).1 =
      .ok rep) : Encodes host rep := by
  rcases send_outcomes host cfg moment world constr destUserId content with
    ⟨fault, stopped⟩ | ⟨status, after, failed, _⟩ | ⟨user, destRole, inserts⟩
  · rw [stopped] at answered
    cases answered
  · rw [failed] at answered
    cases answered
    exact encodes_status status
  · have keeps : ¬ BreaksInvariant user destRole destUserId := fun breaks =>
      kept ⟨constr, destUserId, content, user, destRole, rfl, inserts, breaks⟩
    obtain ⟨after, evaluated, _⟩ := send_of_inserts inserts
    rw [evaluated, sentResponse, if_neg keeps] at answered
    cases answered
    exact ⟨trivial, _, rfl⟩

/-- Every response of an evaluation is encoded when no broken invariant was inserted. -/
theorem encodes_of_kept (tagged : action.WellTagged)
    (kept : ¬ InvariantBypassed host cfg moment world action) {rep : Response}
    (answered : (actionEvaluate host cfg moment world action).1 = .ok rep) : Encodes host rep := by
  cases action with
  | send constr destUserId content => exact send_encodes kept answered
  | _ => exact encodes_of_not_send tagged (by simp [Action.type]) answered

/-- **Every response is encoded exactly when no broken invariant was inserted**, for the actions
parsing returns; and so are the responses of the rate limiter and to what is not a request. -/
theorem responses_encode_iff (host : Host) :
    (∀ nextRequestAt, Encodes host (responseForRateLimit nextRequestAt)) ∧
    (∀ joInput, Encodes host (notARequest joInput)) ∧
    (∀ moment db jo, (actionParse moment db jo).WellTagged) ∧
    ∀ cfg moment world action, action.WellTagged →
      ((∀ rep, (actionEvaluate host cfg moment world action).1 = .ok rep → Encodes host rep) ↔
        ¬ InvariantBypassed host cfg moment world action) := by
  refine ⟨?_, ?_, actionParse_wellTagged, ?_⟩
  · exact fun _ => encodes_error rfl (by simp)
  · exact fun _ => encodes_error rfl (by simp)
  · intro cfg moment world action tagged
    constructor
    · intro encodes bypassed
      obtain ⟨_, _, _, _, _, evaluated, _⟩ := outcome_of_bypassed bypassed
      exact not_encodes_bypassed _ _ (encodes _ (by rw [evaluated]))
    · exact fun kept _ answered => encodes_of_kept tagged kept answered

/-- A member writing to a professional gets a response that is encoded. -/
theorem memberToPro_encodes :
    ∀ rep, (actionEvaluate testHost testCfg (allUp 0) testWorld memberToPro).1 = .ok rep →
      Encodes testHost rep := by
  have proceeds : SendProceeds testHost testCfg (allUp 0) testWorld constrMember1 1001
      ⟨5, clit "salut"⟩ ⟨roleMember, 1003⟩ rolePro :=
    ⟨by decide, by decide, by decide, by decide⟩
  exact ((responses_encode_iff testHost).2.2.2 testCfg (allUp 0) testWorld memberToPro
    trivial).mpr (not_bypassed_of_keeps proceeds (by decide))

/-- A member writing to another, when the sequence gives 42: the response is not well tagged, and
the encoder reads 42 as the tag of an error. -/
theorem memberToMember_not_encoded :
    ∃ rep, (actionEvaluate testHost testCfg (allUp 0) { testWorld with lastMsgId := 41 }
        memberToMember).1 = .ok rep ∧
      ¬ rep.WellTagged ∧ responseToJson testHost rep = .error .unreachable := by
  obtain ⟨_, _, _, _, _, evaluated, _⟩ :=
    outcome_of_bypassed (memberToMember_bypassed 41 (by decide))
  exact ⟨_, by rw [evaluated], id, rfl⟩

end

end Tchatator
