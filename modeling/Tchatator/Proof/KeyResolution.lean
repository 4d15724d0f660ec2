/-
**Whom the key of a request designates** (`get_user_id`, `action_evaluate`).

* `Designates` — a key is the identifier, the user name, the business name or the e-mail of a user;
* `KeyRequest` — a `whois` or a `send` whose other arguments are in order;
* `absent_answered`, `present_not_answered` — an identifier is answered as not found exactly when
  nobody has it;
* `KeyHonoured`, `KeyServed` — a key resolves to whomever it designates, or is answered as not found;
* **`keyHonoured_iff`** — which the numbers are, and of the texts only the short ones without an `@`
  that designate exactly one user, who is not numbered like a status.
-/

import Tchatator.Proof.Branches

namespace Tchatator

open Keyed

/-! ### Keys -/

/-- The e-mails of the users, each with its `@`. The tables hold none. -/
structure Emails where
  email : Int → Option CString
  hasAt : ∀ userId, ∀ address ∈ email userId, strchr address 64 = true

/-- **A key designates a user**: by the identifier, by the exact user name of a member, by the
business name of a professional that no other bears, or by the e-mail. -/
inductive Designates (emails : Emails) (db : Db) : Json → Int → Prop
  | id {userId : Int} : db.1.HasUser userId → Designates emails db (.int userId) userId
  | userName (row : MemberRow) : row ∈ db.1.memberView →
      Designates emails db (.string row.userName.1) row.userId
  | businessName (row : ProRow) :
      (db.1.proView.filter fun other => other.businessName = row.businessName) = [row] →
      Designates emails db (.string row.businessName.1) row.userId
  | email {userId : Int} {address : CString} : db.1.HasUser userId →
      emails.email userId = some address → Designates emails db (.string address.1) userId

/-- The keys that `user_key` of `request.json` admits. -/
def WellFormedKey : Json → Prop
  | .int value => 1 ≤ value ∧ value ≤ int32Max
  | .string _ => True
  | _ => False

section

variable {emails : Emails} {db : Db} {name : CString} {text : Bytes} {userId : Int}

/-- Whom a name is of exists. -/
theorem Named.hasUser (named : Named db name userId) : db.1.HasUser userId := by
  cases named with
  | member row inView _ => exact db.2.memberFkUser row (List.mem_filter.mp inView).1
  | pro row _ only =>
    have inView : row ∈ db.1.proView := List.mem_of_mem_filter (only ▸ List.mem_singleton_self row)
    exact db.2.proFkUser row (List.mem_filter.mp inView).1

/-- **A text without an `@` that designates one user is that user's name.** -/
theorem Designates.named (designates : Designates emails db (.string text) userId)
    (only : ∀ other, Designates emails db (.string text) other → other = userId)
    (isName : strchr (cstring text) 64 = false) : Named db (cstring text) userId := by
  cases designates with
  | userName row inView => exact .member row inView (cstring_val _).symm
  | businessName row alone =>
    rw [cstring_val]
    by_cases shared : ∃ other ∈ db.1.memberView, other.userName = row.businessName
    · obtain ⟨other, inView, sameName⟩ := shared
      have alsoDesignates : Designates emails db (.string row.businessName.1) other.userId := by
        rw [← sameName]
        exact .userName other inView
      rw [← only other.userId alsoDesignates]
      exact .member other inView sameName
    · exact .pro row (fun other inView sameName => shared ⟨other, inView, sameName⟩) alone
  | email _ isEmail =>
    rw [cstring_val, emails.hasAt _ _ isEmail] at isName
    cases isName

end

/-! ### Answers that nobody was found -/

/-- **An evaluation ends as one about nobody does**: its response is encoded with the status 404, and
the database is the one before. -/
def AnswersNotFound (host : Host) (world : World) (evaluation : Evaluation) : Prop :=
  (∃ answer, evaluation.1.bind (responseToJson host) = .ok answer ∧
    answerStatus answer = some (.int Status.notFound.code)) ∧
  evaluation.2.db = world.db

section

variable {host : Host} {cfg : Cfg} {moment : Moment} {world after : World} {user : UserIdentity}

theorem not_answersNotFound_error {stored : ActionError} (other : stored.status ≠ .notFound) :
    ¬ AnswersNotFound host world (.ok ⟨.error, false, .error stored⟩, after) := by
  rintro ⟨⟨answer, encoded, isStatus⟩, _⟩
  have sameCode := (answerStatus_error encoded).symm.trans isStatus
  exact other (Status.code_injective (Json.int.inj (Option.some.inj sameCode)))

theorem answersNotFound_notFound :
    AnswersNotFound host world (.ok ⟨.error, false, .error ⟨.other, .other .notFound⟩⟩, world) := by
  obtain ⟨_, answer, encoded⟩ : Encodes host ⟨.error, false, .error ⟨.other, .other .notFound⟩⟩ :=
    encodes_status .notFound
  exact ⟨⟨answer, encoded, answerStatus_error encoded⟩, rfl⟩

theorem not_answersNotFound_action {kind : ActionKind} {body : ResponseBody} :
    ¬ AnswersNotFound host world (.ok ⟨.action kind, false, body⟩, after) := by
  rintro ⟨⟨answer, encoded, isStatus⟩, _⟩
  cases (answerStatus_action host encoded).symm.trans isStatus

/-- **`whois` answers that nobody was found exactly when nobody has the identifier.** -/
theorem whois_notFound_iff (executed : moment.up .getUser = true) (constr : Constr) (userId : Int) :
    AnswersNotFound host world (branch host cfg moment world (.whois constr userId) user) ↔
      ¬ world.db.1.HasUser userId := by
  show AnswersNotFound host world
    (evaluateWhois host moment world ⟨.action .whois, false, .zero⟩ userId) ↔ _
  rw [evaluateWhois]
  rcases view_cases world.db userId with ⟨row, inView, rfl⟩ | absent
  · refine iff_of_false ?_ (not_not.mpr (hasUser_of_view inView))
    rcases dbGetUser_of_row host executed inView with ⟨_, name, found⟩ | ⟨_, found, failed⟩
    · rw [found]
      exact not_answersNotFound_action
    · rw [failed]
      exact not_answersNotFound_error (by decide)
  · rw [dbGetUser_of_absent executed absent]
    exact iff_of_true answersNotFound_notFound absent

/-- Nothing ends so from the insertion on: a message that is inserted changes the database. -/
theorem sendAndReport_not_notFound {rep : Response} (noPage : rep.hasNextPage = false)
    (destUserId : Int) (content : Slice) :
    ¬ AnswersNotFound host world (sendAndReport moment world rep user destUserId content) := by
  rcases sendMsg_cases moment world user.id destUserId with fails | ⟨executed, blocked⟩ | accepts
  · obtain ⟨after, failed, _⟩ := sendAndReport_of_fails rep content fails
    rw [failed, noPage]
    exact not_answersNotFound_error (by decide)
  · rw [sendAndReport_of_blocked rep content executed blocked, noPage]
    exact not_answersNotFound_error (by decide)
  · obtain ⟨after, sent, inserted⟩ := sendAndReport_of_accepts rep content accepts
    rw [sent]
    exact fun notFound => inserted.changes notFound.2

/-- **So does `send`**, whatever becomes of a message to somebody. -/
theorem send_notFound_iff (executed : moment.up .getUserRole = true) (constr : Constr)
    (destUserId : Int) (content : Slice) :
    AnswersNotFound host world (branch host cfg moment world (.send constr destUserId content) user) ↔
      ¬ world.db.1.HasUser destUserId := by
  show AnswersNotFound host world (evaluateSend host cfg moment world ⟨.action .send, false, .zero⟩
    destUserId content user) ↔ _
  rcases view_cases world.db destUserId with ⟨row, inView, rfl⟩ | absent
  · refine iff_of_false ?_ (not_not.mpr (hasUser_of_view inView))
    have found := dbGetUserRole_of_row host executed inView
    by_cases valid : validateDbRole (pqRecvRole host row.role) = true
    · have isRole := (validateDbRole_iff _).mp valid
      rw [if_pos valid] at found
      by_cases tooLong : cfg.maxMsgLength < content.len
      · rw [evaluateSend_of_tooLong _ user found isRole tooLong]
        exact not_answersNotFound_error (by decide)
      · rw [evaluateSend_of_fits _ user found isRole (Nat.not_lt.mp tooLong)]
        exact sendAndReport_not_notFound (checkInvariants_hasNextPage _ _ _ _ _ _) _ _
    · rw [if_neg valid] at found
      rw [evaluateSend_of_handled _ content user found]
      exact not_answersNotFound_error (by decide)
  · rw [evaluateSend_of_error _ content user (dbGetUserRole_of_absent executed absent)]
    exact iff_of_true answersNotFound_notFound absent

end

/-! ### Requests -/

/-- **A `whois` or a `send`** that gives a key, and whose other arguments are in order. -/
inductive KeyRequest (jo : Json) (constr : Constr) (joUser : Json) : (Int → Action) → Prop
  | whois {joWith : Json} : requestBranch jo = .ok (.whois, joWith) →
      getargConstr .whois joWith "constr" = .ok constr →
      jsonObjectObjectGetEx joWith (clit "user") = some joUser →
      KeyRequest jo constr joUser (.whois constr)
  | send {joWith : Json} {content : Slice} : requestBranch jo = .ok (.send, joWith) →
      getargConstr .send joWith "constr" = .ok constr →
      getargString .send joWith "content" = .ok content →
      jsonObjectObjectGetEx joWith (clit "dest") = some joUser →
      KeyRequest jo constr joUser fun dest => .send constr dest content

namespace KeyRequest

variable {host : Host} {cfg : Cfg} {moment : Moment} {world : World} {db : Db} {jo joUser : Json}
  {constr : Constr} {action : Int → Action} {user : UserIdentity}

/-- **Parsing a request is looking up its key**: an identifier that reads as a status is an error. -/
theorem parsed (request : KeyRequest jo constr joUser action) (moment : Moment) (db : Db) :
    ((getUserId moment db joUser = Errstatus.error.code ∨
        getUserId moment db joUser = Errstatus.handled.code) ∧
      ∃ stored, actionParse moment db jo = .error stored ∧ stored.status ≠ .notFound) ∨
    (getUserId moment db joUser ≠ Errstatus.error.code ∧
      getUserId moment db joUser ≠ Errstatus.handled.code ∧
      actionParse moment db jo = action (getUserId moment db joUser)) := by
  have resolved : ∃ kind key, parseAction moment db jo =
      (resolveUser moment db kind key joUser).map action := by
    cases request with
    | whois isBranch isConstr isKey =>
      refine ⟨.whois, "user", ?_⟩
      rw [parseAction_branch, isBranch]
      simp only [bind, Except.bind, parseWith, isConstr, getargUser, getargKey, isKey]
      rfl
    | send isBranch isConstr isContent isKey =>
      refine ⟨.send, "dest", ?_⟩
      rw [parseAction_branch, isBranch]
      simp only [bind, Except.bind, parseWith, isConstr, isContent, getargUser, getargKey, isKey]
      rfl
  obtain ⟨kind, key, resolved⟩ := resolved
  rw [actionParse, resolved, resolveUser]
  by_cases isError : getUserId moment db joUser = Errstatus.error.code
  · refine Or.inl ⟨Or.inl isError, invalidUser kind key joUser, ?_, by simp [invalidUser,
      ActionError.status]⟩
    rw [if_pos isError]
    rfl
  by_cases isHandled : getUserId moment db joUser = Errstatus.handled.code
  · refine Or.inl ⟨Or.inr isHandled, ⟨.other, .other .internalServerError⟩, ?_, by decide⟩
    rw [if_neg isError, if_pos isHandled]
    rfl
  · refine Or.inr ⟨isError, isHandled, ?_⟩
    rw [if_neg isError, if_neg isHandled]
    rfl

/-- An action is no error, and tells its user. -/
theorem action_ne_error (request : KeyRequest jo constr joUser action) (userId : Int)
    (stored : ActionError) : action userId ≠ .error stored := by
  cases request <;> exact nofun

theorem action_injective (request : KeyRequest jo constr joUser action) :
    Function.Injective action := by
  intro userId other same
  cases request <;> cases same <;> rfl

/-- **A request that was parsed is answered as not found exactly when nobody has the identifier.** -/
theorem notFound_iff (request : KeyRequest jo constr joUser action)
    (executed : ∀ query, moment.up query = true)
    (verified : dbVerifyUserConstr host cfg moment world.db .indeterminate constr =
      .ok (.ok, user)) (userId : Int) :
    AnswersNotFound host world (actionEvaluate host cfg moment world (action userId)) ↔
      ¬ world.db.1.HasUser userId := by
  cases request with
  | whois =>
    rw [evaluation_of_verified host cfg moment world _ rfl rfl rfl verified]
    exact whois_notFound_iff (executed .getUser) constr userId
  | send =>
    rw [evaluation_of_verified host cfg moment world _ rfl rfl rfl verified]
    exact send_notFound_iff (executed .getUserRole) constr userId _

end KeyRequest

/-! ### Keys that are honoured -/

/-- **A key resolves to whomever it designates**, and a well-formed key that designates nobody is
answered 404 and nothing is done, as for an identifier that nobody has. -/
def KeyHonoured (host : Host) (cfg : Cfg) (moment : Moment) (world : World) (emails : Emails)
    (jo joUser : Json) (action : Int → Action) : Prop :=
  (∀ userId, Designates emails world.db joUser userId →
    actionParse moment world.db jo = action userId) ∧
  (WellFormedKey joUser → (∀ userId, ¬ Designates emails world.db joUser userId) →
    (∃ answer, (act host cfg moment world jo).1 = .ok answer ∧
      answerStatus answer = some (.int Status.notFound.code)) ∧
    (act host cfg moment world jo).2.after.db = world.db)

/-- **The keys that the lookup serves**: a number from `1` on, on 32 bits, or one that nobody has; a
text that is short, has no `@`, and designates exactly one user, who is not numbered like a status. -/
def KeyServed (emails : Emails) (db : Db) : Json → Prop
  | .int value => WellFormedKey (.int value) ∨ ¬ db.1.HasUser value
  | .string text =>
      text.length ≤ max emailLength pseudoLength ∧ strchr (cstring text) 64 = false ∧
        ∃ userId, Designates emails db (.string text) userId ∧ userId ≠ 0 ∧ userId ≠ -1 ∧
          ∀ other, Designates emails db (.string text) other → other = userId
  | _ => True

section Honoured

variable {host : Host} {cfg : Cfg} {moment : Moment} {world : World} {emails : Emails}
  {jo joUser : Json} {constr : Constr} {action : Int → Action} {user : UserIdentity}

/-- A request that is an error, other than not found, honours no key but one that is not well formed
and designates nobody. -/
theorem not_keyHonoured_of_error (request : KeyRequest jo constr joUser action)
    {stored : ActionError} (failed : actionParse moment world.db jo = .error stored)
    (other : stored.status ≠ .notFound)
    (wellFormed : WellFormedKey joUser ∨ ∃ userId, Designates emails world.db joUser userId) :
    ¬ KeyHonoured host cfg moment world emails jo joUser action := by
  rintro ⟨resolves, reports⟩
  have nobody : ∀ userId, ¬ Designates emails world.db joUser userId := fun userId designates =>
    request.action_ne_error userId stored ((resolves userId designates).symm.trans failed)
  have isKey : WellFormedKey joUser := wellFormed.resolve_right fun ⟨userId, designates⟩ =>
    nobody userId designates
  have reported := reports isKey nobody
  rw [act, failed] at reported
  exact not_answersNotFound_error other reported

/-- Whom a number designates. -/
theorem designates_int_iff {value userId : Int} :
    Designates emails world.db (.int value) userId ↔
      userId = value ∧ world.db.1.HasUser value := by
  constructor
  · rintro ⟨exists'⟩
    exact ⟨rfl, exists'⟩
  · rintro ⟨rfl, exists'⟩
    exact .id exists'

/-- **Numbers.** -/
theorem keyHonoured_int_iff {value : Int} (request : KeyRequest jo constr (.int value) action)
    (executed : ∀ query, moment.up query = true)
    (verified : dbVerifyUserConstr host cfg moment world.db .indeterminate constr =
      .ok (.ok, user)) :
    KeyHonoured host cfg moment world emails jo (.int value) action ↔
      KeyServed emails world.db (.int value) := by
  by_cases isKey : WellFormedKey (.int value)
  · refine iff_of_true ?_ (Or.inl isKey)
    obtain ⟨low, high⟩ := isKey
    have positive : 0 < value := by omega
    have kept : clampInt32 value = value :=
      clampInt32_eq_self_iff.mpr ⟨by unfold int32Min; omega, high⟩
    have found : getUserId moment world.db (.int value) = value := by
      rw [getUserId_of_positive moment world.db positive, kept]
    rcases request.parsed moment world.db with ⟨isStatus, _⟩ | ⟨_, _, parsed⟩
    · rw [found] at isStatus
      rcases isStatus with isStatus | isStatus <;> simp [Errstatus.code] at isStatus <;> omega
    · rw [found] at parsed
      refine ⟨fun userId designates => ?_, fun _ nobody => ?_⟩
      · rw [parsed, (designates_int_iff.mp designates).1]
      · have absent : ¬ world.db.1.HasUser value := fun exists' => nobody value (.id exists')
        rw [act, parsed]
        exact (request.notFound_iff executed verified value).mpr absent
  · by_cases exists' : world.db.1.HasUser value
    · refine iff_of_false ?_ fun served => served.elim isKey fun absent => absent exists'
      rcases request.parsed moment world.db with ⟨_, stored, failed, other⟩ | ⟨notError, _, parsed⟩
      · exact not_keyHonoured_of_error request failed other (Or.inr ⟨value, .id exists'⟩)
      · rintro ⟨resolves, _⟩
        have same := request.action_injective (parsed.symm.trans (resolves value (.id exists')))
        by_cases positive : 0 < value
        · rw [getUserId_of_positive moment world.db positive] at same
          exact isKey ⟨positive, (clampInt32_eq_self_iff.mp same).2⟩
        · exact notError (getUserId_of_not_userKey moment world.db positive)
    · refine iff_of_true ⟨fun userId designates => ?_, fun isKey' => absurd isKey' isKey⟩
        (Or.inr exists')
      exact absurd (designates_int_iff.mp designates).2 exists'

/-- **Texts.** -/
theorem keyHonoured_string_iff {text : Bytes} (request : KeyRequest jo constr (.string text) action)
    (executed : ∀ query, moment.up query = true)
    (verified : dbVerifyUserConstr host cfg moment world.db .indeterminate constr =
      .ok (.ok, user)) :
    KeyHonoured host cfg moment world emails jo (.string text) action ↔
      KeyServed emails world.db (.string text) := by
  have answered {userId : Int} (served : text.length ≤ max emailLength pseudoLength ∧
      strchr (cstring text) 64 = false ∧ Named world.db (cstring text) userId) :
      getUserId moment world.db (.string text) = userId := by
    rcases getUserId_outcome moment world.db (.string text) with
      ⟨⟨_, isEmail | down | ⟨_, down⟩⟩, _⟩ | ⟨_, ⟨other, denotes, found⟩ | ⟨nobody, _⟩⟩
    · cases isEmail.symm.trans served.2.1
    · cases down.symm.trans (executed .memberByName)
    · cases down.symm.trans (executed .proByName)
    · rw [found, Denotes.unique denotes (show Denotes world.db (.string text) userId from served)]
    · exact absurd served (nobody userId)
  constructor
  · intro honoured
    rcases request.parsed moment world.db with
      ⟨_, stored, failed, other⟩ | ⟨notError, notHandled, parsed⟩
    · exact absurd honoured (not_keyHonoured_of_error request failed other (Or.inl trivial))
    · obtain ⟨userId, ⟨short, isName, named⟩, found⟩ : ∃ userId,
          Denotes world.db (.string text) userId ∧
            getUserId moment world.db (.string text) = userId := by
        rcases getUserId_outcome moment world.db (.string text) with
          ⟨_, failed⟩ | ⟨_, found | ⟨_, failed⟩⟩
        · exact absurd failed notHandled
        · exact found
        · exact absurd failed notError
      rw [found] at notError notHandled parsed
      have only : ∀ other, Designates emails world.db (.string text) other → other = userId :=
        fun other designates =>
          request.action_injective ((honoured.1 other designates).symm.trans parsed)
      refine ⟨short, isName, userId, ?_, notError, notHandled, only⟩
      by_contra undesignated
      have nobody : ∀ other, ¬ Designates emails world.db (.string text) other :=
        fun other designates => undesignated (only other designates ▸ designates)
      have reported := honoured.2 trivial nobody
      rw [act, parsed] at reported
      exact (request.notFound_iff executed verified userId).mp reported named.hasUser
  · rintro ⟨short, isName, userId, designates, notZero, notMinusOne, only⟩
    have found := answered ⟨short, isName, designates.named only isName⟩
    refine ⟨fun other alsoDesignates => ?_, fun _ nobody => absurd designates (nobody userId)⟩
    rw [only other alsoDesignates]
    rcases request.parsed moment world.db with ⟨isStatus, _⟩ | ⟨_, _, parsed⟩
    · rw [found] at isStatus
      exact absurd isStatus (not_or.mpr ⟨notZero, notMinusOne⟩)
    · rw [parsed, found]

/-- **A key is honoured exactly when the lookup serves it.** -/
theorem keyHonoured_iff (request : KeyRequest jo constr joUser action)
    (executed : ∀ query, moment.up query = true)
    (verified : dbVerifyUserConstr host cfg moment world.db .indeterminate constr =
      .ok (.ok, user)) :
    KeyHonoured host cfg moment world emails jo joUser action ↔
      KeyServed emails world.db joUser := by
  cases joUser with
  | int value => exact keyHonoured_int_iff request executed verified
  | string text => exact keyHonoured_string_iff request executed verified
  | _ => exact iff_of_true ⟨fun _ => nofun, False.elim⟩ trivial

end Honoured

/-- The first member asks for whomever a key designates. -/
def memberAsksFor (joUser : Json) : Json :=
  .object [member "do" (.string (lit "whois")), member "with" (.object
    [member "constr" (.string (lit "123e4567-e89b-12d3-a456-426614174000¤member1_mdp")),
      member "user" joUser])]

theorem asksFor_keyRequest (joUser : Json) :
    KeyRequest (memberAsksFor joUser) constrMember1 joUser (.whois constrMember1) := by
  have branch : requestBranch (memberAsksFor joUser) = .ok (.whois, .object
      [member "constr" (.string (lit "123e4567-e89b-12d3-a456-426614174000¤member1_mdp")),
        member "user" joUser]) := rfl
  exact .whois branch rfl rfl

theorem member1_identified :
    dbVerifyUserConstr testHost testCfg (allUp 0) testWorld.db .indeterminate constrMember1 =
      .ok (.ok, ⟨roleMember, 1003⟩) := by decide

/-- The e-mail of the first professional, as the tests have it. -/
def testEmails : Emails :=
  { email := fun userId => if userId = 1001 then some (clit "pro@1.413") else none
    hasAt := by
      intro userId address isEmail
      split at isEmail
      · cases isEmail
        decide
      · cases isEmail }

theorem number_honoured :
    KeyHonoured testHost testCfg (allUp 0) testWorld testEmails (memberAsksFor (.int 1001))
      (.int 1001) (.whois constrMember1) :=
  (keyHonoured_iff (asksFor_keyRequest (.int 1001)) (fun _ => rfl) member1_identified).mpr
    (Or.inl ⟨by decide, by decide⟩)

/-- Neither the e-mail of a professional nor a name that nobody has is honoured. -/
theorem texts_not_honoured :
    (Designates testEmails testWorld.db (.string (clit "pro@1.413").1) 1001 ∧
      ¬ KeyHonoured testHost testCfg (allUp 0) testWorld testEmails
        (memberAsksFor (.string (clit "pro@1.413").1)) (.string (clit "pro@1.413").1)
        (.whois constrMember1)) ∧
    ¬ KeyHonoured testHost testCfg (allUp 0) testWorld testEmails
      (memberAsksFor (.string (lit "nobody"))) (.string (lit "nobody")) (.whois constrMember1) := by
  refine ⟨⟨.email (by decide) rfl, ?_⟩, ?_⟩
  · have failed : actionParse (allUp 0) testWorld.db (memberAsksFor (.string (clit "pro@1.413").1)) =
        .error ⟨.other, .other .internalServerError⟩ := rfl
    exact not_keyHonoured_of_error (asksFor_keyRequest _) failed (by decide) (Or.inl trivial)
  · have failed : actionParse (allUp 0) testWorld.db (memberAsksFor (.string (lit "nobody"))) =
        .error (invalidUser .whois "user" (.string (lit "nobody"))) := rfl
    exact not_keyHonoured_of_error (asksFor_keyRequest _) failed (by decide) (Or.inl trivial)

end Tchatator
