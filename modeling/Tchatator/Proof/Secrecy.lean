/-
**What a stranger learns** (`action_parse`, `action_evaluate`).

Parsing looks up the user that a request names before anything is known of who asks. A request whose
connection strings authenticate nobody is followed here in two databases.

* `refusal` — how a form of such a request is refused: its key names nobody, a lookup fails, or its
  connection string is refused;
* `act_of_nobody` — that is its answer, and the database stays as it was;
* `AnsweredAlike` — the key names somebody in both databases or in neither, a lookup fails in both
  or in neither;
* **`learnsNothing_iff`** — the request gets the same answers in both exactly when no element of it
  is null and each is answered alike: `400` for a name that nobody has and `401` for one that
  somebody has tell a stranger which names there are.
-/

import Tchatator.Proof.Shape
import Tchatator.Proof.UserKeys

namespace Tchatator

/-! ### Forms that authenticate nobody -/

section

variable (host : Host) (cfg : Cfg) (moment : Moment) (db : Db) (form : Form)

/-- The user key of a form is looked up and names nobody; a user `0` is nobody. -/
def NamesNobody : Prop :=
  ∃ key joUser, form.user = some (key, joUser) ∧ ¬ KeyDown moment db joUser ∧
    ∀ userId, Denotes db joUser userId → userId = 0

/-- The user key of a form cannot be looked up, or names a user `-1`, which reads as a failure. -/
def KeyFails : Prop :=
  ∃ key joUser, form.user = some (key, joUser) ∧
    (KeyDown moment db joUser ∨ Denotes db joUser (-1))

/-- The row of a connection string cannot be read. -/
def CheckFails : Prop :=
  moment.up .verifyUserConstr = false ∨
    ∃ row ∈ (selectByApiKey db form.constr.apiKey).head?,
      validateDbRole (pqRecvRole host row.role) = false

/-- A lookup of a form fails: that of its user key, or after it that of its connection string. -/
def LookupFails : Prop :=
  KeyFails moment db form ∨ (¬ NamesNobody moment db form ∧ CheckFails host moment db form)

/-- The check of the connection string of a form is reached, and does not return. -/
def FormStops : Prop :=
  ¬ NamesNobody moment db form ∧ ¬ KeyFails moment db form ∧
    VerificationStops host cfg moment db form.constr

/-- How a connection string that is nobody's is refused. -/
def checkRefusal : Except Fault Status :=
  (dbVerifyUserConstr host cfg moment db .indeterminate form.constr).map fun (status, _) =>
    if status = .handled then .internalServerError else .unauthorized

/-- **How a form that authenticates nobody is refused.** -/
def refusal : Except Fault Status :=
  match form.user with
  | none => checkRefusal host cfg moment db form
  | some (_, joUser) =>
      if getUserId moment db joUser = Errstatus.error.code then .ok .badRequest
      else if getUserId moment db joUser = Errstatus.handled.code then .ok .internalServerError
      else checkRefusal host cfg moment db form

/-- The error of a form that is refused. -/
def refusalError (kind : ActionKind) (form : Form) (status : Status) : ActionError :=
  match status, form.user with
  | .badRequest, some (key, joUser) => invalidUser kind key joUser
  | _, _ => ⟨.other, .other status⟩

theorem refusalError_status (kind : ActionKind) (status : Status) :
    (refusalError kind form status).status = status := by
  unfold refusalError
  split <;> rfl

/-- The answer to a form that is refused. -/
def refusalAnswer (kind : ActionKind) (status : Status) : Except Fault Json :=
  responseToJson host ⟨.error, false, .error (refusalError kind form status)⟩

/-- A form that is refused is answered. -/
theorem refusalAnswer_ok (kind : ActionKind) (status : Status) :
    ∃ answer, refusalAnswer host form kind status = .ok answer := by
  have reports : (refusalError kind form status).WellTagged ∧
      (refusalError kind form status).type ≠ .invariant := by
    unfold refusalError
    split
    · exact ⟨rfl, by simp [invalidUser]⟩
    · exact ⟨rfl, by simp⟩
  exact (encodes_error reports.1 reports.2).2

/-- Different refusals have different answers. -/
theorem refusalAnswer_injective {kind : ActionKind} {status other : Status} {answer : Json}
    (first : refusalAnswer host form kind status = .ok answer)
    (second : refusalAnswer host form kind other = .ok answer) : status = other := by
  have same := (answerStatus_error first).symm.trans (answerStatus_error second)
  rw [refusalError_status, refusalError_status, Option.some.injEq, Json.int.injEq] at same
  exact Status.code_injective same

end

section

variable {host : Host} {cfg : Cfg} {moment : Moment} {db : Db} {form : Form}

/-- The outcomes of a connection string that is nobody's. -/
theorem checkRefusal_cases
    (nobody : ∀ user, dbVerifyUserConstr host cfg moment db .indeterminate form.constr ≠
      .ok (.ok, user)) :
    (VerificationStops host cfg moment db form.constr ∧
      ∃ fault, checkRefusal host cfg moment db form = .error fault) ∨
    (¬ VerificationStops host cfg moment db form.constr ∧ CheckFails host moment db form ∧
      checkRefusal host cfg moment db form = .ok .internalServerError) ∨
    (¬ VerificationStops host cfg moment db form.constr ∧ ¬ CheckFails host moment db form ∧
      checkRefusal host cfg moment db form = .ok .unauthorized) := by
  have outcome := dbVerifyUserConstr_outcome host cfg moment db .indeterminate form.constr
  by_cases stops : VerificationStops host cfg moment db form.constr
  · obtain ⟨fault, stopped⟩ := (dbVerifyUserConstr_stops_iff .indeterminate).mpr stops
    exact Or.inl ⟨stops, fault, by rw [checkRefusal, stopped]; rfl⟩
  refine Or.inr ?_
  rw [and_iff_right stops, and_iff_right stops, checkRefusal]
  generalize dbVerifyUserConstr host cfg moment db .indeterminate form.constr = result at *
  cases outcome with
  | stops fault stopped => exact absurd stopped stops
  | root => exact absurd rfl (nobody _)
  | accepted => exact absurd rfl (nobody _)
  | down user _ down => exact Or.inl ⟨Or.inl down, rfl⟩
  | invalid user row _ _ found invalid => exact Or.inl ⟨Or.inr ⟨row, found, invalid⟩, rfl⟩
  | unknown user _ executed noRow =>
    refine Or.inr ⟨?_, rfl⟩
    rintro (down | ⟨row, found, _⟩)
    · cases down.symm.trans executed
    · cases noRow.symm.trans found
  | refused user row _ executed found valid =>
    refine Or.inr ⟨?_, rfl⟩
    rintro (down | ⟨other, alsoFound, invalid⟩)
    · cases down.symm.trans executed
    · cases found.symm.trans alsoFound
      cases valid.symm.trans invalid

/-- **The outcomes of a form that authenticates nobody.** -/
theorem refusal_cases
    (nobody : ∀ user, dbVerifyUserConstr host cfg moment db .indeterminate form.constr ≠
      .ok (.ok, user)) :
    (FormStops host cfg moment db form ∧
      ∃ fault, refusal host cfg moment db form = .error fault) ∨
    (¬ FormStops host cfg moment db form ∧ NamesNobody moment db form ∧
      ¬ LookupFails host moment db form ∧ refusal host cfg moment db form = .ok .badRequest) ∨
    (¬ FormStops host cfg moment db form ∧ ¬ NamesNobody moment db form ∧
      LookupFails host moment db form ∧
      refusal host cfg moment db form = .ok .internalServerError) ∨
    (¬ FormStops host cfg moment db form ∧ ¬ NamesNobody moment db form ∧
      ¬ LookupFails host moment db form ∧ refusal host cfg moment db form = .ok .unauthorized) := by
  by_cases names : NamesNobody moment db form
  · obtain ⟨key, joUser, isUser, nobody⟩ := id names
    have noUser := getUserId_error_iff.mpr nobody
    refine Or.inr (Or.inl ⟨fun stops => stops.1 names, names, ?_, ?_⟩)
    · rintro (⟨other, joOther, isOther, fails⟩ | ⟨someone, _⟩)
      · cases isUser.symm.trans isOther
        cases noUser.symm.trans (getUserId_handled_iff.mpr fails)
      · exact someone names
    · rw [refusal, isUser]
      exact if_pos noUser
  by_cases fails : KeyFails moment db form
  · obtain ⟨key, joUser, isUser, failed⟩ := id fails
    refine Or.inr (Or.inr (Or.inl ⟨fun stops => stops.2.1 fails, names, Or.inl fails, ?_⟩))
    rw [refusal, isUser]
    simp only [getUserId_handled_iff.mpr failed]
    rfl
  have checked : refusal host cfg moment db form = checkRefusal host cfg moment db form := by
    cases isUser : form.user with
    | none => rw [refusal, isUser]
    | some user =>
      obtain ⟨key, joUser⟩ := user
      have someone : getUserId moment db joUser ≠ Errstatus.error.code := fun noUser =>
        names ⟨key, joUser, isUser, getUserId_error_iff.mp noUser⟩
      have answered : getUserId moment db joUser ≠ Errstatus.handled.code := fun failed =>
        fails ⟨key, joUser, isUser, getUserId_handled_iff.mp failed⟩
      rw [refusal, isUser]
      simp only [if_neg someone, if_neg answered]
  have stops : FormStops host cfg moment db form ↔
      VerificationStops host cfg moment db form.constr := by
    rw [FormStops, and_iff_right names, and_iff_right fails]
  have lookup : LookupFails host moment db form ↔ CheckFails host moment db form := by
    rw [LookupFails, or_iff_right fails, and_iff_right names]
  rw [checked, stops, lookup]
  rcases checkRefusal_cases nobody with stopped | ⟨goesOn, failed, isFailed⟩ | ⟨goesOn, read, refused⟩
  · exact Or.inl stopped
  · exact Or.inr (Or.inr (Or.inl ⟨goesOn, names, failed, isFailed⟩))
  · exact Or.inr (Or.inr (Or.inr ⟨goesOn, names, read, refused⟩))

/-- An action that authenticates nobody ends with its opening, and changes nothing. -/
theorem evaluation_of_nobody {world : World} {action : Action} {kind : ActionKind}
    (carries : action.constr? = some form.constr) (isKind : action.type = .action kind)
    (nobody : ∀ user, dbVerifyUserConstr host cfg moment world.db .indeterminate form.constr ≠
      .ok (.ok, user)) :
    actionEvaluate host cfg moment world action =
      ((checkRefusal host cfg moment world.db form).map fun status =>
        ⟨.error, false, .error ⟨.other, .other status⟩⟩, world) := by
  rw [actionEvaluate_eq host cfg moment world carries isKind, checkRefusal]
  rcases outcome : dbVerifyUserConstr host cfg moment world.db .indeterminate form.constr with
    fault | ⟨_ | _ | _, user⟩
  · rw [identified_fault outcome]
    rfl
  · rw [identified_handled outcome]
    rfl
  · rw [identified_error outcome]
    rfl
  · exact absurd outcome (nobody user)

/-- The answer to an action that authenticates nobody. -/
theorem answer_of_nobody {world : World} {action : Action} {kind : ActionKind}
    (carries : action.constr? = some form.constr) (isKind : action.type = .action kind)
    (nobody : ∀ user, dbVerifyUserConstr host cfg moment world.db .indeterminate form.constr ≠
      .ok (.ok, user)) :
    (exchange host cfg moment world action).answer host =
      (checkRefusal host cfg moment world.db form).bind (refusalAnswer host form kind) := by
  show (actionEvaluate host cfg moment world action).1.bind (responseToJson host) = _
  rw [evaluation_of_nobody carries isKind nobody]
  rcases checkRefusal_cases nobody with ⟨_, fault, stopped⟩ | ⟨_, _, failed⟩ | ⟨_, _, refused⟩
  · rw [stopped]
    rfl
  · rw [failed]
    rfl
  · rw [refused]
    rfl

/-- **A form that authenticates nobody is answered by its refusal**, and changes nothing. -/
theorem act_of_nobody {world : World} {jo : Json} {kind : ActionKind}
    (isForm : requestForm jo = .ok (kind, form))
    (nobody : ∀ user, dbVerifyUserConstr host cfg moment world.db .indeterminate form.constr ≠
      .ok (.ok, user)) :
    (act host cfg moment world jo).1 =
        (refusal host cfg moment world.db form).bind (refusalAnswer host form kind) ∧
      (act host cfg moment world jo).2.after = world := by
  have evaluated : ∀ userId, actionParse moment world.db jo = form.action userId →
      (act host cfg moment world jo).1 =
          (checkRefusal host cfg moment world.db form).bind (refusalAnswer host form kind) ∧
        (act host cfg moment world jo).2.after = world := by
    intro userId parsed
    obtain ⟨carries, isKind⟩ := form_of_requestForm isForm userId
    rw [← parsed] at carries isKind
    exact ⟨answer_of_nobody carries isKind nobody,
      congrArg Prod.snd (evaluation_of_nobody carries isKind nobody)⟩
  have reported : ∀ stored, actionParse moment world.db jo = .error stored →
      (act host cfg moment world jo).1 = responseToJson host ⟨.error, false, .error stored⟩ ∧
        (act host cfg moment world jo).2.after = world := by
    intro stored parsed
    simp only [act, parsed, exchange, actionEvaluate_error]
    exact ⟨rfl, trivial⟩
  rcases actionParse_of_form moment world.db isForm with
    ⟨noUser, parsed⟩ | ⟨key, joUser, isUser, ⟨isError, parsed⟩ | ⟨isHandled, parsed⟩ |
      ⟨someone, answered, parsed⟩⟩
  · rw [refusal, noUser]
    exact evaluated 0 parsed
  · rw [refusal, isUser]
    simp only [if_pos isError, Except.bind, refusalAnswer, refusalError, isUser]
    exact reported _ parsed
  · rw [refusal, isUser]
    simp only [isHandled]
    exact reported _ parsed
  · rw [refusal, isUser]
    simp only [if_neg someone, if_neg answered]
    exact evaluated _ parsed

end

/-! ### Two databases -/

section

variable {host : Host} {cfg : Cfg} {moment : Moment}

/-- The connection string of an action authenticates nobody, nor root. -/
def Stranger (host : Host) (cfg : Cfg) (moment : Moment) (db : Db) (jo : Json) : Prop :=
  ∀ kind form, requestForm jo = .ok (kind, form) → ∀ user,
    dbVerifyUserConstr host cfg moment db .indeterminate form.constr ≠ .ok (.ok, user)

/-- **An action is refused alike in two databases**: its check returns, its user key names somebody
in both or in neither, and a lookup fails in both or in neither. -/
def AnsweredAlike (host : Host) (cfg : Cfg) (moment : Moment) (db other : Db) (jo : Json) : Prop :=
  ∀ kind form, requestForm jo = .ok (kind, form) →
    ¬ FormStops host cfg moment db form ∧ ¬ FormStops host cfg moment other form ∧
    (NamesNobody moment db form ↔ NamesNobody moment other form) ∧
    (LookupFails host moment db form ↔ LookupFails host moment other form)

/-- Two databases refuse a form in the same way. -/
theorem refusal_alike_iff {db other : Db} {form : Form}
    (nobody : ∀ user, dbVerifyUserConstr host cfg moment db .indeterminate form.constr ≠
      .ok (.ok, user))
    (nobodyThere : ∀ user, dbVerifyUserConstr host cfg moment other .indeterminate form.constr ≠
      .ok (.ok, user)) :
    (∃ status, refusal host cfg moment db form = .ok status ∧
        refusal host cfg moment other form = .ok status) ↔
      ¬ FormStops host cfg moment db form ∧ ¬ FormStops host cfg moment other form ∧
        (NamesNobody moment db form ↔ NamesNobody moment other form) ∧
        (LookupFails host moment db form ↔ LookupFails host moment other form) := by
  rcases refusal_cases nobody with
    ⟨stops, _, here⟩ | ⟨goesOn, names, fails, here⟩ | ⟨goesOn, names, fails, here⟩ |
      ⟨goesOn, names, fails, here⟩
  · simp [here, stops]
  all_goals
    rcases refusal_cases nobodyThere with
      ⟨stops', _, there⟩ | ⟨goesOn', names', fails', there⟩ | ⟨goesOn', names', fails', there⟩ |
        ⟨goesOn', names', fails', there⟩
    · simp [there, stops']
    all_goals simp [here, there, goesOn, goesOn', names, names', fails, fails']

/-- **An action of a stranger is answered alike exactly when it is refused alike.** -/
theorem act_alike_iff {world other : World} {jo : Json}
    (stranger : Stranger host cfg moment world.db jo)
    (strangerThere : Stranger host cfg moment other.db jo) :
    (∃ answer, (act host cfg moment world jo).1 = .ok answer ∧
        (act host cfg moment other jo).1 = .ok answer) ↔
      AnsweredAlike host cfg moment world.db other.db jo := by
  rcases isForm : requestForm jo with stored | ⟨kind, form⟩
  · refine iff_of_true ?_ fun kind form alsoForm => by cases isForm.symm.trans alsoForm
    have parsed := fun db => actionParse_of_refused moment db isForm
    have tagged : (Action.error stored).WellTagged := by
      rw [← parsed world.db]
      exact actionParse_wellTagged moment world.db jo
    obtain ⟨_, answer, encoded⟩ : Encodes host ⟨.error, false, .error stored⟩ :=
      encodes_error tagged.1 tagged.2
    refine ⟨answer, ?_, ?_⟩
    · simp only [act, parsed, exchange, actionEvaluate_error]
      exact encoded
    · simp only [act, parsed, exchange, actionEvaluate_error]
      exact encoded
  · have nobody := stranger kind form isForm
    have nobodyThere := strangerThere kind form isForm
    have alike : AnsweredAlike host cfg moment world.db other.db jo ↔
        ∃ status, refusal host cfg moment world.db form = .ok status ∧
          refusal host cfg moment other.db form = .ok status := by
      rw [refusal_alike_iff nobody nobodyThere]
      constructor
      · exact fun alike => alike kind form isForm
      · intro alike _ _ alsoForm
        cases isForm.symm.trans alsoForm
        exact alike
    rw [alike, (act_of_nobody isForm nobody).1, (act_of_nobody isForm nobodyThere).1]
    constructor
    · rintro ⟨answer, here, there⟩
      obtain ⟨status, isStatus, first⟩ := bind_eq_ok here
      obtain ⟨status', isStatus', second⟩ := bind_eq_ok there
      obtain rfl := refusalAnswer_injective host form first second
      exact ⟨status, isStatus, isStatus'⟩
    · rintro ⟨status, here, there⟩
      obtain ⟨answer, answered⟩ := refusalAnswer_ok host form kind status
      refine ⟨answer, ?_, ?_⟩
      · rw [here]
        exact answered
      · rw [there]
        exact answered

/-- An action of a stranger changes nothing. -/
theorem act_unchanged {world : World} {jo : Json}
    (stranger : Stranger host cfg moment world.db jo) :
    (act host cfg moment world jo).2.after = world := by
  rcases isForm : requestForm jo with stored | ⟨kind, form⟩
  · simp only [act, actionParse_of_refused moment world.db isForm, exchange, actionEvaluate_error]
  · exact (act_of_nobody isForm (stranger kind form isForm)).2

/-! ### Requests -/

/-- The answers to the elements of an array, each in the same database. -/
def answersIn (host : Host) (cfg : Cfg) (world : World) :
    List Json → (Nat → Moment) → Except Fault (List Json)
  | [], _ => .ok []
  | .null :: _, _ => .error .assertion
  | joAction :: rest, moments => do
      let answer ← (act host cfg (moments 0) world joAction).1
      let answers ← answersIn host cfg world rest fun index => moments (index + 1)
      return answer :: answers

theorem answersIn_cons {joAction : Json} (notNull : joAction ≠ .null) (rest : List Json)
    (moments : Nat → Moment) (world : World) :
    answersIn host cfg world (joAction :: rest) moments = (do
      let answer ← (act host cfg (moments 0) world joAction).1
      let answers ← answersIn host cfg world rest fun index => moments (index + 1)
      return answer :: answers) := by
  cases joAction with
  | null => exact absurd rfl notNull
  | _ => rfl

/-- Elements of a stranger are all answered in the database that the first one finds. -/
theorem interpretElements_of_strangers (elements : List Json) (moments : Nat → Moment)
    (world : World) (output : List Json)
    (strangers : ∀ i jo, elements[i]? = some jo → Stranger host cfg (moments i) world.db jo) :
    (interpretElements host cfg elements moments world output).output =
      (answersIn host cfg world elements moments).map fun answers => .array (output ++ answers) := by
  fun_induction interpretElements host cfg elements moments world output with
  | case1 moments world output =>
    rw [answersIn]
    simp [Except.map]
  | case2 => rfl
  | case3 joAction rest moments world output notNull fault handled acted =>
    rw [answersIn_cons notNull, acted]
    rfl
  | case4 joAction rest moments world output notNull jo handled acted later ih =>
    have unchanged := act_unchanged (strangers 0 joAction rfl)
    rw [acted] at unchanged
    subst unchanged
    rw [answersIn_cons notNull, acted]
    show later.output = _
    rw [ih fun i jo isElement => strangers (i + 1) jo isElement]
    cases answersIn host cfg handled.after rest fun index => moments (index + 1) with
    | error fault => rfl
    | ok answers => simp [bind, Except.bind, pure, Except.pure, Except.map]

/-- **The elements of a stranger are answered alike**, or one is null. -/
theorem answersIn_alike_iff (elements : List Json) (moments : Nat → Moment) (world other : World)
    (strangers : ∀ i jo, elements[i]? = some jo → Stranger host cfg (moments i) world.db jo)
    (strangersThere : ∀ i jo, elements[i]? = some jo →
      Stranger host cfg (moments i) other.db jo) :
    (∃ answers, answersIn host cfg world elements moments = .ok answers ∧
        answersIn host cfg other elements moments = .ok answers) ↔
      .null ∉ elements ∧ ∀ i jo, elements[i]? = some jo →
        AnsweredAlike host cfg (moments i) world.db other.db jo := by
  induction elements generalizing moments with
  | nil =>
    refine iff_of_true ⟨[], rfl, rfl⟩ ⟨List.not_mem_nil, fun _ _ isElement => ?_⟩
    cases isElement
  | cons joAction rest ih =>
    have later := ih (fun index => moments (index + 1))
      (fun i jo isElement => strangers (i + 1) jo isElement)
      (fun i jo isElement => strangersThere (i + 1) jo isElement)
    have first := act_alike_iff (strangers 0 joAction rfl) (strangersThere 0 joAction rfl)
    by_cases notNull : joAction = .null
    · subst notNull
      refine iff_of_false ?_ fun alike => alike.1 List.mem_cons_self
      rintro ⟨_, ⟨⟩, _⟩
    rw [answersIn_cons notNull, answersIn_cons notNull]
    constructor
    · rintro ⟨_, here, there⟩
      obtain ⟨answer, answered, here⟩ := bind_eq_ok here
      obtain ⟨answers, more, here⟩ := bind_eq_ok here
      obtain ⟨answer', answered', there⟩ := bind_eq_ok there
      obtain ⟨answers', more', there⟩ := bind_eq_ok there
      cases here
      cases there
      obtain ⟨noNull, alike⟩ := later.mp ⟨answers, more, more'⟩
      refine ⟨List.not_mem_cons_of_ne_of_not_mem (Ne.symm notNull) noNull, fun i jo isElement => ?_⟩
      cases i with
      | zero =>
        cases isElement
        exact first.mp ⟨answer, answered, answered'⟩
      | succ i => exact alike i jo isElement
    · rintro ⟨noNull, alike⟩
      obtain ⟨answer, answered, answered'⟩ := first.mpr (alike 0 joAction rfl)
      obtain ⟨answers, more, more'⟩ := later.mpr
        ⟨fun isNull => noNull (List.mem_cons_of_mem _ isNull),
          fun i jo isElement => alike (i + 1) jo isElement⟩
      refine ⟨answer :: answers, ?_, ?_⟩
      · rw [answered, more]
        rfl
      · rw [answered', more']
        rfl

/-- The actions of a request. -/
def actionsOf : Json → List Json
  | .array elements => elements
  | .object members => [.object members]
  | _ => []

/-- Nobody's credentials are in a request. -/
def Strangers (host : Host) (cfg : Cfg) (moments : Nat → Moment) (db : Db) (joInput : Json) :
    Prop :=
  ∀ i jo, (actionsOf joInput)[i]? = some jo → Stranger host cfg (moments i) db jo

/-- **A request gets the same answers in two databases.** -/
def LearnsNothing (host : Host) (cfg : Cfg) (moments : Nat → Moment) (world other : World)
    (joInput : Json) : Prop :=
  ∃ answers, (tchatator413Interpret host cfg moments world joInput).output = .ok answers ∧
    (tchatator413Interpret host cfg moments other joInput).output = .ok answers

theorem elements_learn_nothing_iff (elements : List Json) (moments : Nat → Moment)
    (world other : World) (strangers : Strangers host cfg moments world.db (.array elements))
    (strangersThere : Strangers host cfg moments other.db (.array elements)) :
    LearnsNothing host cfg moments world other (.array elements) ↔
      .null ∉ elements ∧ ∀ i jo, elements[i]? = some jo →
        AnsweredAlike host cfg (moments i) world.db other.db jo := by
  rw [← answersIn_alike_iff elements moments world other strangers strangersThere]
  have here := interpretElements_of_strangers elements moments world [] strangers
  have there := interpretElements_of_strangers elements moments other [] strangersThere
  show (∃ answers, (interpretElements host cfg elements moments world []).output = _ ∧
    (interpretElements host cfg elements moments other []).output = _) ↔ _
  rw [here, there]
  constructor
  · rintro ⟨_, first, second⟩
    cases isHere : answersIn host cfg world elements moments with
    | error fault =>
      rw [isHere] at first
      cases first
    | ok answers =>
      rw [isHere] at first
      cases first
      cases isThere : answersIn host cfg other elements moments with
      | error fault =>
        rw [isThere] at second
        cases second
      | ok answers' =>
        rw [isThere] at second
        cases second
        exact ⟨answers, rfl, rfl⟩
  · rintro ⟨answers, first, second⟩
    refine ⟨.array answers, ?_, ?_⟩
    · rw [first]
      rfl
    · rw [second]
      rfl

/-- **A stranger learns nothing exactly when no element of the request is null and every action is
refused alike.** -/
theorem learnsNothing_iff {moments : Nat → Moment} {world other : World} {joInput : Json}
    (strangers : Strangers host cfg moments world.db joInput)
    (strangersThere : Strangers host cfg moments other.db joInput) :
    LearnsNothing host cfg moments world other joInput ↔
      WithoutNullElement joInput ∧ ∀ i jo, (actionsOf joInput)[i]? = some jo →
        AnsweredAlike host cfg (moments i) world.db other.db jo := by
  rcases request_cases joInput with ⟨elements, rfl⟩ | ⟨members, rfl⟩ | ⟨notArray, notObject⟩
  · exact elements_learn_nothing_iff elements moments world other strangers strangersThere
  · rw [LearnsNothing, interpret_object, interpret_object, withoutNullElement_object]
    exact elements_learn_nothing_iff [.object members] moments world other strangers strangersThere
  · obtain ⟨noNull, answer, _, interpreted⟩ := interpret_other host cfg notArray notObject
    have noActions : actionsOf joInput = [] := by
      cases joInput with
      | array elements => exact absurd rfl (notArray elements)
      | object members => exact absurd rfl (notObject members)
      | _ => rfl
    refine iff_of_true ⟨.array [answer], ?_, ?_⟩ ⟨noNull, fun i jo isAction => ?_⟩
    · rw [interpreted]
    · rw [interpreted]
    · rw [noActions] at isAction
      cases isAction

end

/-- A caller who has the key of a member without the password asks for a user. -/
def strangerRequest (joUser : Json) : Json :=
  .object [member "do" (.string (lit "whois")), member "with" (.object
    [member "constr" (.string (lit "123e4567-e89b-12d3-a456-426614174000¤faux")),
      member "user" joUser])]

def strangerConstr : Constr := ⟨apiKeyMember1, some (clit "faux")⟩

theorem strangerRequest_form {joUser : Json} (isKey : UserKey joUser) :
    requestForm (strangerRequest joUser) =
      .ok (.whois, ⟨strangerConstr, some ("user", joUser), .whois strangerConstr⟩) := by
  have read : getargUserKey .whois (.object
      [member "constr" (.string (lit "123e4567-e89b-12d3-a456-426614174000¤faux")),
        member "user" joUser]) "user" = .ok joUser := by
    show (if UserKey joUser then _ else _) = _
    rw [if_pos isKey]
  have branch : requestBranch (strangerRequest joUser) = .ok (.whois, .object
      [member "constr" (.string (lit "123e4567-e89b-12d3-a456-426614174000¤faux")),
        member "user" joUser]) := rfl
  rw [requestForm, branch]
  simp only [bind, Except.bind, parseForm, read]
  rfl

/-- The caller is a stranger wherever the check says so. -/
theorem strangers_of_refused {moments : Nat → Moment} {db : Db} {joUser : Json}
    (isKey : UserKey joUser)
    (refused : ∃ other, dbVerifyUserConstr testHost testCfg (moments 0) db .indeterminate
      strangerConstr = .ok (.error, other)) :
    Strangers testHost testCfg moments db (strangerRequest joUser) := by
  intro i jo isAction kind form isForm user verified
  cases i with
  | zero =>
    cases isAction
    cases (strangerRequest_form isKey).symm.trans isForm
    obtain ⟨other, refused⟩ := refused
    cases refused.symm.trans verified
  | succ i => cases isAction

/-- The world without rows. -/
def emptyWorld : World := { db := Db.empty, lastMsgId := 0 }

/-- The stranger is refused in both worlds. -/
theorem strangers_in_both {joUser : Json} (isKey : UserKey joUser) :
    Strangers testHost testCfg (fun _ => allUp 0) testWorld.db (strangerRequest joUser) ∧
      Strangers testHost testCfg (fun _ => allUp 0) emptyWorld.db (strangerRequest joUser) :=
  ⟨strangers_of_refused isKey ⟨⟨roleMember, 0⟩, by decide⟩,
    strangers_of_refused isKey ⟨⟨0, 0⟩, by decide⟩⟩

/-- A number is asked for in vain, whether or not somebody has it. -/
theorem number_learns_nothing :
    LearnsNothing testHost testCfg (fun _ => allUp 0) testWorld emptyWorld
      (strangerRequest (.int 1003)) := by
  have isKey : UserKey (.int 1003) := by decide
  obtain ⟨strangers, strangersThere⟩ := strangers_in_both isKey
  refine (learnsNothing_iff strangers strangersThere).mpr ⟨trivial, fun i jo isAction => ?_⟩
  cases i with
  | succ i => cases isAction
  | zero =>
    cases isAction
    intro kind form isForm
    have stranger := strangers 0 _ rfl kind form isForm
    have strangerThere := strangersThere 0 _ rfl kind form isForm
    refine (refusal_alike_iff stranger strangerThere).mp ⟨.unauthorized, ?_, ?_⟩
    · cases (strangerRequest_form isKey).symm.trans isForm
      rfl
    · cases (strangerRequest_form isKey).symm.trans isForm
      rfl

/-- A name is not: the first member has it in one of the worlds, and nobody in the other. -/
theorem name_tells_strangers :
    Strangers testHost testCfg (fun _ => allUp 0) testWorld.db
        (strangerRequest (.string (lit "member1"))) ∧
      Strangers testHost testCfg (fun _ => allUp 0) emptyWorld.db
        (strangerRequest (.string (lit "member1"))) ∧
      ¬ LearnsNothing testHost testCfg (fun _ => allUp 0) testWorld emptyWorld
        (strangerRequest (.string (lit "member1"))) := by
  have isKey : UserKey (.string (lit "member1")) := by decide
  obtain ⟨strangers, strangersThere⟩ := strangers_in_both isKey
  refine ⟨strangers, strangersThere, ?_⟩
  intro learns
  have stranger := strangers 0 _ rfl _ _ (strangerRequest_form isKey)
  have strangerThere := strangersThere 0 _ rfl _ _ (strangerRequest_form isKey)
  rw [LearnsNothing, strangerRequest, interpret_object, interpret_object] at learns
  obtain ⟨_, alike⟩ := (elements_learn_nothing_iff _ _ _ _ strangers strangersThere).mp learns
  obtain ⟨status, here, there⟩ := (refusal_alike_iff stranger strangerThere).mpr
    (alike 0 _ rfl _ _ (strangerRequest_form isKey))
  have isUnauthorized : status = .unauthorized := (Except.ok.inj here).symm
  have isBadRequest : status = .badRequest := (Except.ok.inj there).symm
  cases isUnauthorized.symm.trans isBadRequest

end Tchatator
