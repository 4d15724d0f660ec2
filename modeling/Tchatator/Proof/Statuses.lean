/-
**Which status an action is answered with** (`action_parse`, `action_evaluate`).

* `action_answered_iff` — an action is answered by the protocol exactly when its check returns, the
  first row with its key has a role and is that of whoever is identified, who gives a password, and its
  branch conforms;
* `unread_answered_iff`, `nobody_not_answered`, `failed_lookup_answered_iff`,
  `resolved_answered_iff` — the four outcomes of parsing;
* **`answeredByProtocol_iff`** — a JSON action is answered by the protocol exactly when it conforms:
  its action is known, it names somebody, and no user whose identifier reads as a status, and the
  action conforms.
-/

import Tchatator.Proof.Branches

namespace Tchatator

/-! ### Actions -/

section

variable {host : Host} {cfg : Cfg} {moment : Moment} {world : World} {constr : Constr}
  {kind : ActionKind} {action : Action} {user : UserIdentity}

/-- **An action is answered by the protocol**, if its check returns; if the first row with its key has a
role that is read as one, unless a statement fails for whoever the connection string identifies; if
whoever it identifies has the first row with the key and gives a password; and if its branch conforms
for whoever is identified with a role that is allowed. -/
structure ActionConforms (host : Host) (cfg : Cfg) (moment : Moment) (world : World)
    (constr : Constr) (kind : ActionKind) (action : Action) : Prop where
  returns : ¬ VerificationStops host cfg moment world.db constr
  unread : ¬ RootAccepted host.bcrypt cfg constr → moment.up .verifyUserConstr = true →
    ∀ row ∈ (selectByApiKey world.db constr.apiKey).head?,
      validateDbRole (pqRecvRole host row.role) = false →
      ∃ user, IdentifiedAs host cfg world.db constr user ∧ user.role ∈ documentedRoles kind ∧
        BranchFails host cfg moment world user action
  first : ¬ RootAccepted host.bcrypt cfg constr → moment.up .verifyUserConstr = true →
    ∀ row ∈ (selectByApiKey world.db constr.apiKey).head?,
      validateDbRole (pqRecvRole host row.role) = true →
      ∀ user, IdentifiedAs host cfg world.db constr user →
        constr.password ≠ none ∧ PasswordGiven host.bcrypt row.passwordHash constr.password
  branch : ∀ user, IdentifiedAs host cfg world.db constr user →
    (RootAccepted host.bcrypt cfg constr ∨ moment.up .verifyUserConstr = true ∧
      ∀ row ∈ (selectByApiKey world.db constr.apiKey).head?,
        validateDbRole (pqRecvRole host row.role) = true) →
    user.role ∈ documentedRoles kind → BranchConforms host cfg moment world user action

section Callers

variable {db : Db} {other : UserIdentity}

/-- **A connection string is at most one user's.** -/
theorem IdentifiedAs.unique (first : IdentifiedAs host cfg db constr user)
    (second : IdentifiedAs host cfg db constr other) : user = other := by
  cases first with
  | root accepted =>
    cases second with
    | root => rfl
    | user row notAccepted => exact absurd accepted notAccepted
  | user row notAccepted found =>
    cases second with
    | root accepted => exact absurd accepted notAccepted
    | user row' _ found' =>
      cases found.symm.trans found'
      rfl

/-- Whoever is found has the key and the password, and a role. -/
theorem isCaller_of_found {row : UserRow}
    (found : row ∈ db.1.users.find? fun row => IsCaller host db constr row) :
    row ∈ db.1.users ∧ IsCaller host db constr row := by
  have matched := List.find?_some found
  exact ⟨List.mem_of_find?_eq_some found, of_decide_eq_true matched⟩

theorem IdentifiedAs.validRole (identified : IdentifiedAs host cfg db constr user) :
    user.role = roleAdmin ∨ user.role = roleMember ∨ user.role = rolePro := by
  cases identified with
  | root => exact Or.inl rfl
  | user row _ found =>
    exact (validateDbRole_iff _).mp (isCaller_of_found found).2.2

/-- The first row of the view with an API key is that of the first user who has it. -/
theorem head_selectByApiKey (db : Db) (apiKey : Uuid4) :
    (selectByApiKey db apiKey).head? =
      (db.1.users.find? fun row => row.apiKey = apiKey).map db.1.userViewRow := by
  rw [selectByApiKey, Tables.userView, List.head?_filter, List.find?_map]
  rfl

/-- A role that is read as one is the user's. -/
theorem roleIn_of_valid {row : UserRow}
    (valid : validateDbRole (pqRecvRole host (db.1.userViewRow row).role) = true) :
    roleIn host db row = pqRecvRole host (db.1.userViewRow row).role := by
  refine if_neg fun isAdmin => ?_
  rw [isAdmin] at valid
  cases valid

/-- **Whoever has the first row with the key, with a role that is read as one, and gives the
password, is identified.** -/
theorem identified_of_head {row : UserViewRow} (notRoot : ¬ RootAccepted host.bcrypt cfg constr)
    (found : row ∈ (selectByApiKey db constr.apiKey).head?)
    (valid : validateDbRole (pqRecvRole host row.role) = true)
    (given : PasswordGiven host.bcrypt row.passwordHash constr.password) :
    IdentifiedAs host cfg db constr ⟨pqRecvRole host row.role, row.userId⟩ := by
  rw [head_selectByApiKey, Option.mem_map] at found
  obtain ⟨user, hasKey, rfl⟩ := found
  have isRole := roleIn_of_valid valid
  have matched := List.find?_some hasKey
  have sameKey : user.apiKey = constr.apiKey := of_decide_eq_true matched
  have isCaller : IsCaller host db constr user := ⟨⟨sameKey.symm, given⟩, isRole ▸ valid⟩
  have isFirst : user ∈ db.1.users.find? fun row => IsCaller host db constr row := by
    refine Keyed.find?_of_narrower (fun row isCaller => ?_) hasKey (decide_eq_true isCaller)
    have isCaller : IsCaller host db constr row := of_decide_eq_true isCaller
    exact decide_eq_true isCaller.1.1.symm
  rw [← isRole]
  exact .user user notRoot isFirst

/-- Nobody is identified by a key that is no user's. -/
theorem not_identified_of_no_row (notRoot : ¬ RootAccepted host.bcrypt cfg constr)
    (noRow : (selectByApiKey db constr.apiKey).head? = none) :
    ∀ user, ¬ IdentifiedAs host cfg db constr user := by
  intro user isUser
  rw [head_selectByApiKey, Option.map_eq_none_iff, List.find?_eq_none] at noRow
  cases isUser with
  | root accepted => exact notRoot accepted
  | user row _ found =>
    obtain ⟨member, isCaller⟩ := isCaller_of_found found
    exact noRow row member (decide_eq_true isCaller.1.1.symm)

end Callers

section Allowed

variable (isUser : IdentifiedAs host cfg world.db constr user)
  (isAllowed : user.role ∈ documentedRoles kind)

include isUser isAllowed

/-- An action that its user may do fails as its branch does. -/
theorem actionFails_iff_of_allowed
    (reached : RootAccepted host.bcrypt cfg constr ∨ moment.up .verifyUserConstr = true) :
    ActionFails host cfg moment world constr kind action ↔
      BranchFails host cfg moment world user action := by
  constructor
  · rintro (⟨notRoot, down⟩ | ⟨other, isOther, _, fails⟩)
    · cases down.symm.trans (reached.resolve_left notRoot)
    · rwa [isUser.unique isOther]
  · exact fun fails => Or.inr ⟨user, isUser, isAllowed, fails⟩

/-- What the protocol says against such an action, it says against its branch. -/
theorem actionCaused_iff_of_allowed (status : Status) :
    ActionCaused host cfg moment world constr kind action status ↔
      ActionCause host cfg moment world.db user action status := by
  constructor
  · rintro (⟨_, nobody⟩ | ⟨other, isOther, ⟨_, notAllowed⟩ | cause⟩)
    · exact absurd isUser (nobody user)
    · rw [← isUser.unique isOther] at notAllowed
      exact absurd isAllowed notAllowed
    · rwa [isUser.unique isOther]
  · exact fun cause => Or.inr ⟨user, isUser, Or.inr cause⟩

end Allowed

/-- The answer of an action to an identified user. -/
theorem identified_answered_iff (carries : action.constr? = some constr)
    (isKind : action.type = .action kind)
    (isUser : IdentifiedAs host cfg world.db constr user)
    (reached : RootAccepted host.bcrypt cfg constr ∨ moment.up .verifyUserConstr = true)
    (verified : dbVerifyUserConstr host cfg moment world.db .indeterminate constr =
      .ok (.ok, user)) :
    AnsweredBy (ActionFails host cfg moment world constr kind action)
        (ActionCaused host cfg moment world constr kind action)
        ((actionEvaluate host cfg moment world action).1.bind (responseToJson host)) ↔
      (user.role ∈ documentedRoles kind → BranchConforms host cfg moment world user action) := by
  have allowed := allowedRoles_iff isUser.validRole kind
  by_cases isAllowed : user.role ∈ documentedRoles kind
  · have goes : actionEvaluate host cfg moment world action =
        branch host cfg moment world action user := by
      rw [actionEvaluate_eq host cfg moment world carries isKind,
        identified_ok verified (allowed.mpr isAllowed)]
    rw [answeredBy_congr (actionFails_iff_of_allowed isUser isAllowed reached)
      (actionCaused_iff_of_allowed isUser isAllowed), goes]
    refine (branch_answered_iff isKind isUser.validRole).trans ?_
    exact ⟨fun conforms _ => conforms, fun conforms => conforms isAllowed⟩
  · have refused : actionEvaluate host cfg moment world action =
        (.ok (fail (initialResponse action) .forbidden), world) := by
      rw [actionEvaluate_eq host cfg moment world carries isKind, identified, verified]
      exact if_pos (not_not.mp fun masked => isAllowed (allowed.mp masked))
    rw [refused]
    refine (answeredBy_status_iff host (by decide)).trans ?_
    refine iff_of_true ⟨?_, Or.inr ⟨user, isUser, Or.inl ⟨rfl, isAllowed⟩⟩⟩
      fun role => absurd role isAllowed
    rintro (⟨notRoot, down⟩ | ⟨other, isOther, role, _⟩)
    · cases down.symm.trans (reached.resolve_left notRoot)
    · rw [← isUser.unique isOther] at role
      exact isAllowed role

/-- The answer of an action to nobody. -/
theorem refused_action_answered_iff (carries : action.constr? = some constr)
    (isKind : action.type = .action kind)
    (executed : moment.up .verifyUserConstr = true)
    (refused : dbVerifyUserConstr host cfg moment world.db .indeterminate constr =
      .ok (.error, user)) :
    AnsweredBy (ActionFails host cfg moment world constr kind action)
        (ActionCaused host cfg moment world constr kind action)
        ((actionEvaluate host cfg moment world action).1.bind (responseToJson host)) ↔
      ∀ user, ¬ IdentifiedAs host cfg world.db constr user := by
  rw [actionEvaluate_eq host cfg moment world carries isKind, identified_error refused]
  refine (answeredBy_status_iff host (by decide)).trans ?_
  constructor
  · rintro ⟨_, ⟨_, nobody⟩ | ⟨user, _, ⟨isForbidden, _⟩ | cause⟩⟩
    · exact nobody
    · cases isForbidden
    · cases cause
  · intro nobody
    refine ⟨?_, Or.inl ⟨rfl, nobody⟩⟩
    rintro (⟨_, down⟩ | ⟨user, isUser, _⟩)
    · cases down.symm.trans executed
    · exact nobody user isUser

/-- For an identified user who is let in, only the branch is left. -/
theorem conforms_iff_of_identified (returns : ¬ VerificationStops host cfg moment world.db constr)
    (isUser : IdentifiedAs host cfg world.db constr user)
    (isRead : RootAccepted host.bcrypt cfg constr ∨ moment.up .verifyUserConstr = true ∧
      ∀ row ∈ (selectByApiKey world.db constr.apiKey).head?,
        validateDbRole (pqRecvRole host row.role) = true ∧ constr.password ≠ none ∧
          PasswordGiven host.bcrypt row.passwordHash constr.password) :
    (user.role ∈ documentedRoles kind → BranchConforms host cfg moment world user action) ↔
      ActionConforms host cfg moment world constr kind action := by
  constructor
  · intro conforms
    refine ⟨returns, fun notRoot _ row found invalid => ?_, fun notRoot _ row found _ _ _ => ?_,
      fun other isOther _ isAllowed => ?_⟩
    · have valid := ((isRead.resolve_left notRoot).2 row found).1
      cases invalid.symm.trans valid
    · exact ((isRead.resolve_left notRoot).2 row found).2
    · rw [← isUser.unique isOther] at isAllowed ⊢
      exact conforms isAllowed
  · intro conforms isAllowed
    exact conforms.branch user isUser (isRead.imp id fun read =>
      ⟨read.1, fun row found => (read.2 row found).1⟩) isAllowed

/-- **An action is answered by the protocol exactly when it conforms.** -/
theorem action_answered_iff (carries : action.constr? = some constr)
    (isKind : action.type = .action kind) :
    AnsweredBy (ActionFails host cfg moment world constr kind action)
        (ActionCaused host cfg moment world constr kind action)
        ((actionEvaluate host cfg moment world action).1.bind (responseToJson host)) ↔
      ActionConforms host cfg moment world constr kind action := by
  have outcome := dbVerifyUserConstr_outcome host cfg moment world.db .indeterminate constr
  by_cases stops : VerificationStops host cfg moment world.db constr
  · obtain ⟨fault, stopped⟩ := (dbVerifyUserConstr_stops_iff .indeterminate).mpr stops
    rw [actionEvaluate_eq host cfg moment world carries isKind, identified_fault stopped]
    exact iff_of_false (not_answeredBy_fault fault) fun conforms => conforms.returns stops
  generalize isResult : dbVerifyUserConstr host cfg moment world.db .indeterminate constr = result
    at outcome
  cases outcome with
  | stops fault stopped => exact absurd stopped stops
  | root accepted =>
    refine (identified_answered_iff carries isKind (.root accepted) (Or.inl accepted)
      isResult).trans ?_
    exact conforms_iff_of_identified stops (.root accepted) (Or.inl accepted)
  | down user notRoot down =>
    have notUp : ¬ moment.up .verifyUserConstr = true := by simp [down]
    rw [actionEvaluate_eq host cfg moment world carries isKind, identified_handled isResult]
    refine (answeredBy_internal_iff host).trans (iff_of_true (Or.inl ⟨notRoot, down⟩) ?_)
    exact ⟨stops, fun _ up => absurd up notUp, fun _ up => absurd up notUp,
      fun _ _ read => absurd (read.resolve_left notRoot).1 notUp⟩
  | invalid user row notRoot up found invalid =>
    have notRead : ¬ ∀ row ∈ (selectByApiKey world.db constr.apiKey).head?,
        validateDbRole (pqRecvRole host row.role) = true := fun valid => by
      cases invalid.symm.trans (valid row found)
    rw [actionEvaluate_eq host cfg moment world carries isKind, identified_handled isResult]
    refine (answeredBy_internal_iff host).trans ⟨fun fails => ?_, fun conforms => ?_⟩
    · have fails := fails.resolve_left fun down => by cases down.2.symm.trans up
      refine ⟨stops, fun _ _ _ _ _ => fails, fun _ _ other isFound valid => ?_,
        fun _ _ read => absurd (read.resolve_left notRoot).2 notRead⟩
      cases found.symm.trans isFound
      cases invalid.symm.trans valid
    · exact Or.inr (conforms.unread notRoot up row found invalid)
  | unknown user notRoot up noRow =>
    have nobody := not_identified_of_no_row notRoot noRow
    have none : ∀ row, row ∉ (selectByApiKey world.db constr.apiKey).head? := fun row found => by
      cases noRow.symm.trans found
    refine (refused_action_answered_iff carries isKind up isResult).trans (iff_of_true nobody ?_)
    exact ⟨stops, fun _ _ row found => absurd found (none row),
      fun _ _ row found => absurd found (none row), fun user isUser => absurd isUser (nobody user)⟩
  | refused user row notRoot up found valid wrong =>
    refine (refused_action_answered_iff carries isKind up isResult).trans ⟨fun nobody => ?_, ?_⟩
    · refine ⟨stops, fun _ _ other isFound invalid => ?_,
        fun _ _ _ _ _ user isUser => absurd isUser (nobody user),
        fun user isUser => absurd isUser (nobody user)⟩
      cases found.symm.trans isFound
      cases invalid.symm.trans valid
    · intro conforms user isUser
      obtain ⟨hasPassword, given⟩ := conforms.first notRoot up row found valid user isUser
      exact wrong hasPassword given
  | accepted row notRoot up found valid hasPassword given =>
    have isUser := identified_of_head notRoot found valid given
    refine (identified_answered_iff carries isKind isUser (Or.inr up) isResult).trans ?_
    refine conforms_iff_of_identified stops isUser (Or.inr ⟨up, fun other isFound => ?_⟩)
    cases found.symm.trans isFound
    exact ⟨valid, hasPassword, given⟩

end

/-! ### Requests -/

/-- **The user of a form is looked up**, and the identifier is neither of the two that read as a
status. -/
def Form.Resolves (moment : Moment) (db : Db) (form : Form) (userId : Int) : Prop :=
  match form.user with
  | none => userId = 0
  | some (_, joUser) =>
      ¬ KeyDown moment db joUser ∧ Denotes db joUser userId ∧ userId ≠ 0 ∧ userId ≠ -1

/-- **A request is answered by the protocol**, if its action is known; if a user key that can be looked
up names somebody, and not a user `-1`, who reads as a failure, unless there is one; and if its action
conforms. -/
structure Conforms (host : Host) (cfg : Cfg) (moment : Moment) (world : World) (jo : Json) :
    Prop where
  known : ¬ UnknownAction jo
  somebody : ∀ kind form key joUser, requestForm jo = .ok (kind, form) →
    form.user = some (key, joUser) → ¬ KeyDown moment world.db joUser →
    ∃ userId, form.Names world.db userId
  named : ∀ kind form key joUser, requestForm jo = .ok (kind, form) →
    form.user = some (key, joUser) → ¬ KeyDown moment world.db joUser →
    Denotes world.db joUser (-1) → OperationFails host cfg moment world jo
  action : ∀ kind form userId, requestForm jo = .ok (kind, form) →
    form.Resolves moment world.db userId →
    ActionConforms host cfg moment world form.constr kind (form.action userId)

section

variable {host : Host} {cfg : Cfg} {moment : Moment} {world : World} {jo : Json}
  {kind : ActionKind} {form : Form} {userId : Int}

theorem Form.names_iff {db : Db} {key : String} {joUser : Json}
    (isUser : form.user = some (key, joUser)) :
    form.Names db userId ↔ userId ≠ 0 ∧ Denotes db joUser userId := by
  simp only [Form.Names, isUser]

theorem Form.resolves_iff {db : Db} {key : String} {joUser : Json}
    (isUser : form.user = some (key, joUser)) :
    form.Resolves moment db userId ↔
      ¬ KeyDown moment db joUser ∧ Denotes db joUser userId ∧ userId ≠ 0 ∧ userId ≠ -1 := by
  simp only [Form.Resolves, isUser]

/-- A form names at most one user. -/
theorem Form.Names.unique {db : Db} {other : Int} (first : form.Names db userId)
    (second : form.Names db other) : userId = other := by
  cases isUser : form.user with
  | none =>
    simp only [Form.Names, isUser] at first second
    exact first.trans second.symm
  | some user =>
    exact ((names_iff isUser).mp first).2.unique ((names_iff isUser).mp second).2

theorem Form.Resolves.names {db : Db} (resolves : form.Resolves moment db userId) :
    form.Names db userId := by
  cases isUser : form.user with
  | none =>
    simp only [Form.Resolves, isUser] at resolves
    simp only [Form.Names, isUser, resolves]
  | some user =>
    obtain ⟨_, denotes, notZero, _⟩ := (resolves_iff isUser).mp resolves
    exact (names_iff isUser).mpr ⟨notZero, denotes⟩

/-- A request that is read has a known action. -/
theorem known_of_form (isForm : requestForm jo = .ok (kind, form)) : ¬ UnknownAction jo := by
  rintro ⟨name, joWith, isDo, _, unknown⟩
  obtain ⟨kind, other, _, alsoDo, isName, _⟩ := (requestForm_returns_iff jo).mp ⟨_, isForm⟩
  cases isDo.symm.trans alsoDo
  cases unknown.symm.trans (actionIs_iff.mpr isName)

/-- A bad request is reported as one. -/
theorem BadRequest.status {stored : ActionError} (bad : BadRequest stored) :
    stored.status = .badRequest := by
  obtain ⟨tag, info⟩ := stored
  obtain ⟨tagged, isType⟩ := bad
  have sameTag : tag = info.tag := tagged
  subst sameTag
  cases info with
  | type | missingKey | invalid => rfl
  | _ => rcases isType with isType | isType | isType <;> cases isType

/-- **A request that is not read** is answered by the protocol exactly when its action is known. -/
theorem unread_answered_iff (host : Host) (cfg : Cfg) (moment : Moment) (world : World)
    {stored : ActionError} (refused : requestForm jo = .error stored) :
    AnsweredByProtocol host cfg moment world jo ↔ Conforms host cfg moment world jo := by
  have noForm : ∀ kind form, requestForm jo ≠ .ok (kind, form) := fun kind form isForm => by
    cases refused.symm.trans isForm
  have noOperation : ¬ OperationFails host cfg moment world jo := by
    intro fails
    cases fails with
    | lookup _ _ _ _ isForm => exact noForm _ _ isForm
    | verification _ _ _ isForm => exact noForm _ _ isForm
    | branch _ _ _ _ isForm => exact noForm _ _ isForm
  have reported : (act host cfg moment world jo).1 =
      responseToJson host ⟨.error, false, .error stored⟩ := by
    simp only [act, actionParse_of_refused moment world.db refused, exchange, actionEvaluate_error]
    rfl
  rw [AnsweredByProtocol, reported]
  rcases requestForm_refuses refused with ⟨bad, known⟩ | ⟨unknown, rfl⟩
  · have malformed : ¬ WellFormed jo := by
      intro wellFormed
      obtain ⟨⟨kind, form⟩, isForm⟩ := (requestForm_returns_iff jo).mpr wellFormed
      exact noForm kind form isForm
    have encodes : Encodes host ⟨.error, false, .error stored⟩ := by
      refine encodes_error bad.1 fun isInvariant => ?_
      rcases bad.2 with isType | isType | isType <;> cases isType.symm.trans isInvariant
    have notInternal : stored.status ≠ .internalServerError := by
      rw [bad.status]
      decide
    refine (answeredBy_error_iff host encodes notInternal).trans (iff_of_true ⟨noOperation, ?_⟩ ?_)
    · rw [bad.status]
      exact .malformed malformed
    · exact ⟨known, fun kind form _ _ isForm => absurd isForm (noForm kind form),
        fun kind form _ _ isForm => absurd isForm (noForm kind form),
        fun kind form _ isForm => absurd isForm (noForm kind form)⟩
  · refine (answeredBy_internal_iff host).trans (iff_of_false noOperation fun conforms => ?_)
    exact conforms.known unknown

/-- **A request that names nobody** is not answered by the protocol: as a bad request, instead of as
one whose user is not found. -/
theorem nobody_not_answered (host : Host) (cfg : Cfg) (isForm : requestForm jo = .ok (kind, form))
    {key : String} {joUser : Json} (isUser : form.user = some (key, joUser))
    (answered : ¬ KeyDown moment world.db joUser)
    (nobody : ∀ userId, Denotes world.db joUser userId → userId = 0)
    (parsed : actionParse moment world.db jo = .error (invalidUser kind key joUser)) :
    ¬ AnsweredByProtocol host cfg moment world jo ∧ ¬ Conforms host cfg moment world jo := by
  have noName : ∀ userId, ¬ form.Names world.db userId := by
    intro userId names
    obtain ⟨notZero, denotes⟩ := (Form.names_iff isUser).mp names
    exact notZero (nobody userId denotes)
  constructor
  · have encodes : Encodes host ⟨.error, false, .error (invalidUser kind key joUser)⟩ :=
      encodes_error rfl (by simp [invalidUser])
    have notInternal : (invalidUser kind key joUser).status ≠ .internalServerError := by
      show Status.badRequest ≠ .internalServerError
      decide
    simp only [AnsweredByProtocol, act, parsed, exchange, actionEvaluate_error]
    intro byProtocol
    obtain ⟨_, cause⟩ := (answeredBy_error_iff host encodes notInternal).mp byProtocol
    have badRequest : Cause host cfg moment world jo .badRequest := cause
    cases badRequest with
    | malformed malformed => exact malformed ((requestForm_returns_iff jo).mp ⟨_, isForm⟩)
    | action _ _ userId _ _ alsoForm names =>
      cases isForm.symm.trans alsoForm
      exact noName userId names
  · intro conforms
    obtain ⟨userId, names⟩ := conforms.somebody kind form key joUser isForm isUser answered
    exact noName userId names

/-- **A request whose lookup fails** is answered by the protocol, unless it only names a user
`-1`. -/
theorem failed_lookup_answered_iff (isForm : requestForm jo = .ok (kind, form)) {key : String}
    {joUser : Json} (isUser : form.user = some (key, joUser))
    (failed : KeyDown moment world.db joUser ∨ Denotes world.db joUser (-1))
    (parsed : actionParse moment world.db jo = .error ⟨.other, .other .internalServerError⟩) :
    AnsweredByProtocol host cfg moment world jo ↔ Conforms host cfg moment world jo := by
  simp only [AnsweredByProtocol, act, parsed, exchange, actionEvaluate_error]
  refine (answeredBy_internal_iff host).trans ⟨fun fails => ?_, fun conforms => ?_⟩
  · refine ⟨known_of_form isForm, fun _ _ _ _ alsoForm alsoUser answered => ?_,
      fun _ _ _ _ _ _ _ _ => fails, fun _ _ userId alsoForm resolves => ?_⟩
    · cases isForm.symm.trans alsoForm
      cases isUser.symm.trans alsoUser
      have minusOne := failed.resolve_left answered
      exact ⟨-1, (Form.names_iff isUser).mpr ⟨by decide, minusOne⟩⟩
    · cases isForm.symm.trans alsoForm
      obtain ⟨answered, denotes, _, notMinusOne⟩ := (Form.resolves_iff isUser).mp resolves
      rcases failed with down | minusOne
      · exact absurd down answered
      · exact absurd (denotes.unique minusOne) notMinusOne
  · by_cases down : KeyDown moment world.db joUser
    · exact .lookup kind form key joUser isForm isUser down
    · exact conforms.named kind form key joUser isForm isUser down (failed.resolve_left down)

/-- A request whose user is looked up fails as its action does. -/
theorem operationFails_iff_of_resolves (isForm : requestForm jo = .ok (kind, form))
    (resolves : form.Resolves moment world.db userId) :
    OperationFails host cfg moment world jo ↔
      ActionFails host cfg moment world form.constr kind (form.action userId) := by
  have names := resolves.names
  constructor
  · intro fails
    cases fails with
    | lookup _ _ _ _ alsoForm isUser down =>
      cases isForm.symm.trans alsoForm
      exact absurd down ((Form.resolves_iff isUser).mp resolves).1
    | verification _ _ _ alsoForm _ notRoot down =>
      cases isForm.symm.trans alsoForm
      exact Or.inl ⟨notRoot, down⟩
    | branch _ _ other user alsoForm alsoNames isUser isAllowed fails =>
      cases isForm.symm.trans alsoForm
      rw [← names.unique alsoNames] at fails
      exact Or.inr ⟨user, isUser, isAllowed, fails⟩
  · rintro (⟨notRoot, down⟩ | ⟨user, isUser, isAllowed, fails⟩)
    · exact .verification kind form userId isForm names notRoot down
    · exact .branch kind form userId user isForm names isUser isAllowed fails

/-- What the protocol says against a request whose user is looked up is what it says against its
action. -/
theorem cause_iff_of_resolves (isForm : requestForm jo = .ok (kind, form))
    (resolves : form.Resolves moment world.db userId) (status : Status) :
    Cause host cfg moment world jo status ↔
      ActionCaused host cfg moment world form.constr kind (form.action userId) status := by
  have names := resolves.names
  constructor
  · intro cause
    cases cause with
    | malformed malformed => exact absurd ((requestForm_returns_iff jo).mp ⟨_, isForm⟩) malformed
    | unknownUser _ _ alsoForm noName =>
      cases isForm.symm.trans alsoForm
      exact absurd names (noName userId)
    | credentials _ _ alsoForm nobody =>
      cases isForm.symm.trans alsoForm
      exact Or.inl ⟨rfl, nobody⟩
    | role _ _ user alsoForm isUser notAllowed =>
      cases isForm.symm.trans alsoForm
      exact Or.inr ⟨user, isUser, Or.inl ⟨rfl, notAllowed⟩⟩
    | action _ _ other user _ alsoForm alsoNames isUser cause =>
      cases isForm.symm.trans alsoForm
      rw [← names.unique alsoNames] at cause
      exact Or.inr ⟨user, isUser, Or.inr cause⟩
  · rintro (⟨rfl, nobody⟩ | ⟨user, isUser, ⟨rfl, notAllowed⟩ | cause⟩)
    · exact .credentials kind form isForm nobody
    · exact .role kind form user isForm isUser notAllowed
    · exact .action kind form userId user status isForm names isUser cause

/-- **A request whose user is looked up** is answered by the protocol exactly when its action
conforms. -/
theorem resolved_answered_iff (isForm : requestForm jo = .ok (kind, form))
    (resolves : form.Resolves moment world.db userId)
    (parsed : actionParse moment world.db jo = form.action userId) :
    AnsweredByProtocol host cfg moment world jo ↔ Conforms host cfg moment world jo := by
  have names := resolves.names
  obtain ⟨carries, isKind⟩ := form_of_requestForm isForm userId
  rw [AnsweredByProtocol, answeredBy_congr (operationFails_iff_of_resolves isForm resolves)
    (cause_iff_of_resolves isForm resolves), act, parsed]
  refine (action_answered_iff carries isKind).trans ⟨fun conforms => ?_, fun conforms => ?_⟩
  · refine ⟨known_of_form isForm, fun _ _ _ _ alsoForm _ _ => ?_,
      fun _ _ _ joUser alsoForm isUser _ minusOne => ?_, fun _ _ other alsoForm alsoResolves => ?_⟩
    · cases isForm.symm.trans alsoForm
      exact ⟨userId, names⟩
    · cases isForm.symm.trans alsoForm
      obtain ⟨_, denotes, _, notMinusOne⟩ := (Form.resolves_iff isUser).mp resolves
      exact absurd (denotes.unique minusOne) notMinusOne
    · cases isForm.symm.trans alsoForm
      rw [← names.unique alsoResolves.names]
      exact conforms
  · exact conforms.action kind form userId isForm resolves

end

/-- The test member asks for the messages to read. -/
def motdRequest : Json :=
  .object [member "do" (.string (lit "motd")), member "with" (.object
    [member "constr" (.string (lit "123e4567-e89b-12d3-a456-426614174000¤member1_mdp"))])]

example : AnsweredByProtocol testHost testCfg (allUp 0) testWorld motdRequest := by
  have isForm : requestForm motdRequest =
      .ok (.motd, ⟨constrMember1, none, fun _ => .motd constrMember1⟩) := rfl
  have returns : ¬ VerificationStops testHost testCfg (allUp 0) testWorld.db constrMember1 := by
    rw [← dbVerifyUserConstr_stops_iff .indeterminate]
    rintro ⟨fault, stopped⟩
    have verified : dbVerifyUserConstr testHost testCfg (allUp 0) testWorld.db .indeterminate
        constrMember1 = .ok (.ok, ⟨roleMember, 1003⟩) := by decide
    cases verified.symm.trans stopped
  have conforms : ActionConforms testHost testCfg (allUp 0) testWorld constrMember1 .motd
      (.motd constrMember1) := by
    refine ⟨returns, fun _ _ row found invalid => ?_, fun _ _ row found _ _ _ => ?_,
      fun _ _ _ _ _ cause => by cases cause⟩
    · cases found
      cases invalid
    · cases found
      exact ⟨nofun, by decide⟩
  have resolves : Form.Resolves (allUp 0) testWorld.db
      ⟨constrMember1, none, fun _ => .motd constrMember1⟩ 0 := rfl
  refine (resolved_answered_iff isForm resolves rfl).mpr ?_
  refine ⟨known_of_form isForm, fun _ _ _ _ alsoForm isUser => ?_,
    fun _ _ _ _ alsoForm isUser => ?_, fun _ _ _ alsoForm _ => ?_⟩
  · cases isForm.symm.trans alsoForm
    cases isUser
  · cases isForm.symm.trans alsoForm
    cases isUser
  · cases isForm.symm.trans alsoForm
    exact conforms

/-- A request for an action that there is not. -/
def unknownRequest : Json :=
  .object [member "do" (.string (lit "fly")), member "with" (.object [])]

end Tchatator
