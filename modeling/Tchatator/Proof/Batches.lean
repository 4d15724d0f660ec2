/-
**Batches of actions** (`tchatator413_interpret`).

* `Stops` — a handled action ends the process instead of being answered: its connection string does
  (`CheckStops`), or it is a `send` inserted against an invariant, under an identifier that is not
  the number of a tag that the encoder lists;
* `answered_iff` — any other action is answered;
* `worldAfter` — the database after the first elements of an array, one after the other;
* **`interprets_iff`** — a request is answered as documented, with an array that has one answer for
  each element, in order, each in the database the previous ones left, exactly when no element of
  an array is null and no action that is handled stops the process. A null element fails an
  assertion; a null request does not, and gets an answer like any other value that is no request.
-/

import Tchatator.Proof.Responses
import Tchatator.Proof.Runs
import Tchatator.Proof.Verification

namespace Tchatator

/-! ### Actions that are not answered -/

/-- What is answered to a handled action. -/
def Exchange.answer (host : Host) (handled : Exchange) : Except Fault Json :=
  handled.response.bind (responseToJson host)

/-- The check of an action's connection string does not return. -/
def CheckStops (host : Host) (cfg : Cfg) (handled : Exchange) : Prop :=
  ∃ constr, handled.action.constr? = some constr ∧
    VerificationStops host cfg handled.moment handled.before.db constr

/-- **A handled action stops the process.** -/
def Stops (host : Host) (cfg : Cfg) (handled : Exchange) : Prop :=
  CheckStops host cfg handled ∨
    InvariantBypassed host cfg handled.moment handled.before handled.action ∧
      handled.before.nextMsgId ∉ listedErrorTags

section

variable {host : Host} {cfg : Cfg} {moment : Moment} {world : World} {action : Action}

/-- Once its user is identified, an action has a response. -/
theorem branch_returns (host : Host) (cfg : Cfg) (moment : Moment) (world : World)
    (action : Action) (user : UserIdentity) :
    ∃ rep, (branch host cfg moment world action user).1 = .ok rep := by
  cases action with
  | whois =>
    simp only [branch, evaluateWhois]
    split <;> exact ⟨_, rfl⟩
  | send =>
    simp only [branch, evaluateSend, sendAndReport]
    split
    · exact ⟨_, rfl⟩
    · split
      · exact ⟨_, rfl⟩
      · split
        · exact ⟨_, rfl⟩
        · split
          · exact ⟨_, rfl⟩
          · split <;> exact ⟨_, rfl⟩
  | inbox =>
    simp only [branch, evaluateInbox]
    split <;> exact ⟨_, rfl⟩
  | rm =>
    simp only [branch, evaluateRm]
    split
    · exact ⟨_, rfl⟩
    · exact ⟨_, rfl⟩
    · split <;> exact ⟨_, rfl⟩
  | _ => exact ⟨_, rfl⟩

/-- **An action has a response unless the check of its connection string stops the process.** -/
theorem evaluation_returns_iff :
    (∃ rep, (actionEvaluate host cfg moment world action).1 = .ok rep) ↔
      ¬ CheckStops host cfg (exchange host cfg moment world action) := by
  rcases action.cases_constr with ⟨stored, rfl⟩ | ⟨constr, kind, carries, isKind⟩
  · refine iff_of_true ⟨_, rfl⟩ ?_
    rintro ⟨_, ⟨⟩, _⟩
  rw [actionEvaluate_eq host cfg moment world carries isKind]
  rcases outcome : dbVerifyUserConstr host cfg moment world.db .indeterminate constr with
    fault | ⟨_ | _ | _, user⟩
  · rw [identified_fault outcome]
    have stops := (dbVerifyUserConstr_stops_iff .indeterminate).mp ⟨fault, outcome⟩
    exact iff_of_false (by rintro ⟨_, ⟨⟩⟩) fun returns => returns ⟨constr, carries, stops⟩
  all_goals
    have notStopped : ¬ CheckStops host cfg (exchange host cfg moment world action) := by
      rintro ⟨other, alsoCarries, stops⟩
      cases carries.symm.trans alsoCarries
      obtain ⟨fault, stopped⟩ := (dbVerifyUserConstr_stops_iff .indeterminate).mpr stops
      cases outcome.symm.trans stopped
  · rw [identified_handled outcome]
    exact iff_of_true ⟨_, rfl⟩ notStopped
  · rw [identified_error outcome]
    exact iff_of_true ⟨_, rfl⟩ notStopped
  · refine iff_of_true ?_ notStopped
    rw [identified, outcome]
    show ∃ rep, (if user.role &&& allowedRoles kind = 0 then _ else _ : Evaluation).1 = .ok rep
    split
    · exact ⟨_, rfl⟩
    · exact branch_returns host cfg moment world action user

/-- A `send` inserted against an invariant is answered when its identifier is the number of a tag that
is listed. -/
theorem encoded_iff_listed {rep : Response}
    (bypassed : InvariantBypassed host cfg moment world action)
    (responds : (actionEvaluate host cfg moment world action).1 = .ok rep) :
    (∃ jo, responseToJson host rep = .ok jo) ↔ world.nextMsgId ∈ listedErrorTags := by
  obtain ⟨name, _, _, _, _, evaluated, _⟩ := outcome_of_bypassed bypassed
  rw [evaluated] at responds
  cases responds
  exact responseToJson_bypassed_iff name

/-- **An action is answered unless it stops the process.** -/
theorem answered_iff (tagged : action.WellTagged) :
    (∃ jo, (exchange host cfg moment world action).answer host = .ok jo) ↔
      ¬ Stops host cfg (exchange host cfg moment world action) := by
  constructor
  · rintro ⟨jo, answered⟩ stops
    obtain ⟨rep, responds, encoded⟩ : ∃ rep,
        (actionEvaluate host cfg moment world action).1 = .ok rep ∧
          responseToJson host rep = .ok jo := bind_eq_ok answered
    rcases stops with checkStops | bypassed
    · exact evaluation_returns_iff.mp ⟨rep, responds⟩ checkStops
    · exact bypassed.2 ((encoded_iff_listed bypassed.1 responds).mp ⟨jo, encoded⟩)
  · intro goesOn
    obtain ⟨rep, responds⟩ := evaluation_returns_iff.mpr fun stops => goesOn (Or.inl stops)
    obtain ⟨jo, encoded⟩ : ∃ jo, responseToJson host rep = .ok jo := by
      by_cases bypassed : InvariantBypassed host cfg moment world action
      · by_contra notEncoded
        exact goesOn (Or.inr ⟨bypassed, fun listed =>
          notEncoded ((encoded_iff_listed bypassed responds).mpr listed)⟩)
      · exact (encodes_of_kept tagged bypassed responds).2
    refine ⟨jo, ?_⟩
    show (actionEvaluate host cfg moment world action).1.bind (responseToJson host) = _
    rw [responds]
    exact encoded

end

/-! ### The elements of an array -/

section

variable (host : Host) (cfg : Cfg)

/-- **The database after the first elements of an array**, one after the other. -/
def worldAfter : List Json → (Nat → Moment) → World → World
  | [], _, world => world
  | joAction :: rest, moments, world =>
      worldAfter rest (fun index => moments (index + 1))
        (act host cfg (moments 0) world joAction).2.after

/-- **One answer for each element**, in order, each in the database the previous ones left. -/
def AnswersInOrder (elements : List Json) (moments : Nat → Moment) (world : World)
    (answers : List Json) : Prop :=
  answers.length = elements.length ∧ ∀ i element, elements[i]? = some element →
    ∃ answer, answers[i]? = some answer ∧
      (act host cfg (moments i) (worldAfter host cfg (elements.take i) moments world) element).1 =
        .ok answer

variable {host cfg}

theorem AnswersInOrder.cons {joAction answer : Json} {rest answers : List Json}
    {moments : Nat → Moment} {world : World}
    (first : (act host cfg (moments 0) world joAction).1 = .ok answer)
    (later : AnswersInOrder host cfg rest (fun index => moments (index + 1))
      (act host cfg (moments 0) world joAction).2.after answers) :
    AnswersInOrder host cfg (joAction :: rest) moments world (answer :: answers) := by
  refine ⟨congrArg (· + 1) later.1, fun i element isElement => ?_⟩
  cases i with
  | zero =>
    cases isElement
    exact ⟨answer, rfl, first⟩
  | succ i => exact later.2 i element isElement

theorem stops_of_fault {moment : Moment} {world : World} {joAction : Json} {fault : Fault}
    {handled : Exchange} (acted : act host cfg moment world joAction = (.error fault, handled)) :
    Stops host cfg handled := by
  have isHandled : handled =
      exchange host cfg moment world (actionParse moment world.db joAction) := by
    have same := congrArg Prod.snd acted
    exact same.symm
  have faulty : handled.answer host = .error fault := by
    rw [isHandled]
    exact congrArg Prod.fst acted
  by_contra goesOn
  rw [isHandled] at faulty goesOn
  obtain ⟨jo, answered⟩ := (answered_iff (actionParse_wellTagged moment world.db joAction)).mpr goesOn
  cases faulty.symm.trans answered

theorem goesOn_of_answer {moment : Moment} {world : World} {joAction jo : Json}
    {handled : Exchange} (acted : act host cfg moment world joAction = (.ok jo, handled)) :
    ¬ Stops host cfg handled := by
  have isHandled : handled =
      exchange host cfg moment world (actionParse moment world.db joAction) := by
    have same := congrArg Prod.snd acted
    exact same.symm
  rw [isHandled]
  exact (answered_iff (actionParse_wellTagged moment world.db joAction)).mp
    ⟨jo, congrArg Prod.fst acted⟩

/-- The loop meets no null element and no action that stops the process, and returns what it had
already and one answer for each element; or it meets one, and does not return. -/
theorem interpretElements_spec (elements : List Json) (moments : Nat → Moment) (world : World)
    (output : List Json) :
    (.null ∉ elements ∧
        (∀ handled ∈ (interpretElements host cfg elements moments world output).exchanges,
          ¬ Stops host cfg handled) ∧
        ∃ answers, (interpretElements host cfg elements moments world output).output =
            .ok (.array (output ++ answers)) ∧
          AnswersInOrder host cfg elements moments world answers) ∨
      ((.null ∈ elements ∨
          ∃ handled ∈ (interpretElements host cfg elements moments world output).exchanges,
            Stops host cfg handled) ∧
        ∃ fault, (interpretElements host cfg elements moments world output).output =
          .error fault) := by
  fun_induction interpretElements host cfg elements moments world output with
  | case1 moments world output =>
    refine Or.inl ⟨List.not_mem_nil, fun _ isHandled => absurd isHandled List.not_mem_nil, [], ?_, ?_⟩
    · rw [List.append_nil]
    · exact ⟨rfl, fun _ _ isElement => by cases isElement⟩
  | case2 rest moments world output =>
    exact Or.inr ⟨Or.inl List.mem_cons_self, .assertion, rfl⟩
  | case3 joAction rest moments world output notNull fault handled acted =>
    exact Or.inr ⟨Or.inr ⟨handled, List.mem_singleton.mpr rfl, stops_of_fault acted⟩, fault, rfl⟩
  | case4 joAction rest moments world output notNull jo handled acted later ih =>
    have firstGoesOn := goesOn_of_answer acted
    rcases ih with ⟨noNull, goOn, answers, isOutput, inOrder⟩ | ⟨stops, fault, isOutput⟩
    · refine Or.inl ⟨?_, ?_, jo :: answers, ?_, ?_⟩
      · rw [List.mem_cons, not_or]
        exact ⟨fun isNull => notNull isNull.symm, noNull⟩
      · exact List.forall_mem_cons.mpr ⟨firstGoesOn, goOn⟩
      · show later.output = _
        rw [isOutput, List.append_assoc]
        rfl
      · refine AnswersInOrder.cons (congrArg Prod.fst acted) ?_
        rw [acted]
        exact inOrder
    · refine Or.inr ⟨?_, fault, isOutput⟩
      rcases stops with isNull | ⟨stopping, isHandled, stops⟩
      · exact Or.inl (List.mem_cons_of_mem _ isNull)
      · exact Or.inr ⟨stopping, List.mem_cons_of_mem _ isHandled, stops⟩

/-! ### Requests -/

/-- **The documented answer to a request.** -/
structure InterpretsAsDocumented (host : Host) (cfg : Cfg) (moments : Nat → Moment) (world : World)
    (joInput : Json) : Prop where
  /-- An array is answered with an array of the answers to its elements, in order; anything else
  with an array of one answer. -/
  returns : ∃ answers,
    (tchatator413Interpret host cfg moments world joInput).output = .ok (.array answers) ∧
      match joInput with
      | .array elements => AnswersInOrder host cfg elements moments world answers
      | _ => answers.length = 1
  /-- An object is answered like the array that holds it. -/
  single : ∀ members, joInput = .object members →
    (tchatator413Interpret host cfg moments world joInput).output =
      (tchatator413Interpret host cfg moments world (.array [joInput])).output

/-- No element of an array is null. -/
def WithoutNullElement : Json → Prop
  | .array elements => .null ∉ elements
  | _ => True

/-- An object is answered like the array that holds it. -/
theorem interpret_object (host : Host) (cfg : Cfg) (moments : Nat → Moment) (world : World)
    (members : List (CString × Json)) :
    tchatator413Interpret host cfg moments world (.object members) =
      tchatator413Interpret host cfg moments world (.array [.object members]) := by
  simp only [tchatator413Interpret, interpretElements]
  rcases act host cfg (moments 0) world (.object members) with ⟨fault | jo, handled⟩ <;> rfl

/-- What the loop returns is in order. -/
theorem interpretElements_inOrder {elements : List Json} {moments : Nat → Moment} {world : World}
    {answers : List Json}
    (returned : (interpretElements host cfg elements moments world []).output =
      .ok (.array answers)) : AnswersInOrder host cfg elements moments world answers := by
  rcases interpretElements_spec elements moments world [] with
    ⟨_, _, others, isOutput, inOrder⟩ | ⟨_, fault, isOutput⟩
  · cases isOutput.symm.trans returned
    exact inOrder
  · cases isOutput.symm.trans returned

/-- A request is an array, an object, or neither. -/
theorem request_cases (joInput : Json) :
    (∃ elements, joInput = .array elements) ∨ (∃ members, joInput = .object members) ∨
      (∀ elements, joInput ≠ .array elements) ∧ ∀ members, joInput ≠ .object members := by
  cases joInput with
  | array elements => exact Or.inl ⟨elements, rfl⟩
  | object members => exact Or.inr (Or.inl ⟨members, rfl⟩)
  | _ => exact Or.inr (Or.inr ⟨nofun, nofun⟩)

/-- **A value that is no request is answered**, and no action is handled. -/
theorem interpret_other (host : Host) (cfg : Cfg) {joInput : Json}
    (notArray : ∀ elements, joInput ≠ .array elements)
    (notObject : ∀ members, joInput ≠ .object members) :
    WithoutNullElement joInput ∧ ∃ answer,
      responseToJson host (notARequest joInput) = .ok answer ∧
      ∀ moments world, tchatator413Interpret host cfg moments world joInput =
        ⟨.ok (.array [answer]), [], world⟩ := by
  obtain ⟨_, answer, encoded⟩ : Encodes host (notARequest joInput) := encodes_error rfl (by simp)
  cases joInput with
  | array elements => exact absurd rfl (notArray elements)
  | object members => exact absurd rfl (notObject members)
  | _ =>
    refine ⟨trivial, answer, encoded, fun moments world => ?_⟩
    simp only [tchatator413Interpret, encoded]
    rfl

/-- An object has no null element, nor has the array that holds it. -/
theorem withoutNullElement_object (members : List (CString × Json)) :
    WithoutNullElement (.object members) ↔ .null ∉ [Json.object members] :=
  iff_of_true trivial (by simp)

/-- The loop returns, or meets a null element or an action that stops the process. -/
theorem interpretElements_cases (elements : List Json) (moments : Nat → Moment) (world : World) :
    ((.null ∉ elements ∧
        ∀ handled ∈ (interpretElements host cfg elements moments world []).exchanges,
          ¬ Stops host cfg handled) ∧
      ∃ answers, (interpretElements host cfg elements moments world []).output =
        .ok (.array answers)) ∨
    (¬ (.null ∉ elements ∧
        ∀ handled ∈ (interpretElements host cfg elements moments world []).exchanges,
          ¬ Stops host cfg handled) ∧
      ∃ fault, (interpretElements host cfg elements moments world []).output = .error fault) := by
  rcases interpretElements_spec elements moments world [] with
    ⟨noNull, goOn, answers, isOutput, _⟩ | ⟨stops, fault, isOutput⟩
  · exact Or.inl ⟨⟨noNull, goOn⟩, answers, isOutput⟩
  · refine Or.inr ⟨?_, fault, isOutput⟩
    rintro ⟨noNull, goOn⟩
    rcases stops with isNull | ⟨handled, isHandled, stopping⟩
    · exact noNull isNull
    · exact goOn handled isHandled stopping

/-- **A request is answered, or the process is stopped** by a null element or by a handled action. -/
theorem interpret_cases (host : Host) (cfg : Cfg) (moments : Nat → Moment) (world : World)
    (joInput : Json) :
    ((WithoutNullElement joInput ∧
        ∀ handled ∈ (tchatator413Interpret host cfg moments world joInput).exchanges,
          ¬ Stops host cfg handled) ∧
      ∃ answers, (tchatator413Interpret host cfg moments world joInput).output =
        .ok (.array answers)) ∨
    (¬ (WithoutNullElement joInput ∧
        ∀ handled ∈ (tchatator413Interpret host cfg moments world joInput).exchanges,
          ¬ Stops host cfg handled) ∧
      ∃ fault, (tchatator413Interpret host cfg moments world joInput).output = .error fault) := by
  rcases request_cases joInput with ⟨elements, rfl⟩ | ⟨members, rfl⟩ | ⟨notArray, notObject⟩
  · exact interpretElements_cases elements moments world
  · rw [interpret_object host cfg moments world members, withoutNullElement_object]
    exact interpretElements_cases [.object members] moments world
  · obtain ⟨noNull, answer, _, interpreted⟩ := interpret_other host cfg notArray notObject
    rw [interpreted moments world]
    exact Or.inl ⟨⟨noNull, fun _ none => absurd none List.not_mem_nil⟩, [answer], rfl⟩

/-- **A request is answered exactly when no element of an array is null and no handled action stops
the process.** -/
theorem interpret_returns_iff (host : Host) (cfg : Cfg) (moments : Nat → Moment) (world : World)
    (joInput : Json) :
    (∃ answers, (tchatator413Interpret host cfg moments world joInput).output =
        .ok (.array answers)) ↔
      WithoutNullElement joInput ∧
        ∀ handled ∈ (tchatator413Interpret host cfg moments world joInput).exchanges,
          ¬ Stops host cfg handled := by
  rcases interpret_cases host cfg moments world joInput with
    ⟨goesOn, answered⟩ | ⟨stops, fault, stopped⟩
  · exact iff_of_true answered goesOn
  · refine iff_of_false ?_ stops
    rintro ⟨answers, answered⟩
    cases stopped.symm.trans answered

theorem interpretElements_returns_iff (elements : List Json) (moments : Nat → Moment)
    (world : World) :
    (∃ answers, (interpretElements host cfg elements moments world []).output =
        .ok (.array answers)) ↔
      .null ∉ elements ∧
        ∀ handled ∈ (interpretElements host cfg elements moments world []).exchanges,
          ¬ Stops host cfg handled :=
  interpret_returns_iff host cfg moments world (.array elements)

/-- **A request is answered as documented exactly when no element of an array is null and no
handled action stops the process.** -/
theorem interprets_iff (host : Host) (cfg : Cfg) (moments : Nat → Moment) (world : World)
    (joInput : Json) :
    InterpretsAsDocumented host cfg moments world joInput ↔
      WithoutNullElement joInput ∧
        ∀ handled ∈ (tchatator413Interpret host cfg moments world joInput).exchanges,
          ¬ Stops host cfg handled := by
  rw [← interpret_returns_iff host cfg moments world joInput]
  constructor
  · rintro ⟨⟨answers, returned, _⟩, _⟩
    exact ⟨answers, returned⟩
  · rintro ⟨answers, returned⟩
    rcases request_cases joInput with ⟨elements, rfl⟩ | ⟨members, rfl⟩ | ⟨notArray, notObject⟩
    · exact ⟨⟨answers, returned, interpretElements_inOrder returned⟩,
        fun _ isObject => by cases isObject⟩
    · have sameArray := interpret_object host cfg moments world members
      refine ⟨⟨answers, returned, ?_⟩, fun _ _ => congrArg Interpretation.output sameArray⟩
      rw [sameArray] at returned
      exact (interpretElements_inOrder returned).1
    · obtain ⟨_, answer, _, interpreted⟩ := interpret_other host cfg notArray notObject
      refine ⟨⟨[answer], ?_, ?_⟩, fun members isObject => absurd isObject (notObject members)⟩
      · rw [interpreted moments world]
      · cases joInput with
        | array elements => exact absurd rfl (notArray elements)
        | _ => rfl

end

/-- A null element ends the process. -/
theorem nullElement_not_interpreted :
    ¬ InterpretsAsDocumented testHost testCfg (fun _ => allUp 0) testWorld (.array [.null]) := by
  rintro ⟨⟨answers, returned, _⟩, _⟩
  cases returned

end Tchatator
