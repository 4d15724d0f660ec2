/-
**What parsing decides before it looks at the database** (`action_parse`).

* `Form` — a request that has been read as far as it can be without the database: its connection
  string, the value that names a user, if its kind takes one, and the action that is left once this
  user is known;
* `requestForm` — a request is read into a form, or refused, whatever the moment and the database;
* **`parseAction_eq`** — parsing is reading the form, then resolving its user;
* `requestForm_refuses` — a refusal is a bad request, unless the name of the action is unknown;
* `actionParse_of_form` — what the database can make of a form;
* **`actionParse_wellTagged`** — the errors parsing stores are well tagged, and none is a broken
  invariant.
-/

import Tchatator.Proof.Parsing

namespace Tchatator

/-! ### Users -/

/-- A value that can name a user: a positive number, or a text that is not too long. -/
def UserKey : Json → Prop
  | .int value => 0 < value
  | .string text => text.length ≤ max emailLength pseudoLength
  | _ => False

instance : DecidablePred UserKey
  | .int value => inferInstanceAs (Decidable (0 < value))
  | .string text => inferInstanceAs (Decidable (text.length ≤ max emailLength pseudoLength))
  | .null | .boolean _ | .double _ | .array _ | .object _ => .isFalse id

/-- Any other value names nobody. -/
theorem getUserId_of_not_userKey (moment : Moment) (db : Db) {joUser : Json}
    (notKey : ¬ UserKey joUser) : getUserId moment db joUser = Errstatus.error.code := by
  cases joUser with
  | int value =>
    have notPositive : ¬ 0 < clampInt32 value := fun kept => notKey (clampInt32_pos.mp kept)
    exact if_neg notPositive
  | string text => exact if_pos (Nat.lt_of_not_le notKey)
  | _ => rfl

/-- `getarg_user`, as far as it does not look at the database. -/
def getargUserKey (kind : ActionKind) (joWith : Json) (key : String) : Except ActionError Json := do
  let jo ← getargKey kind joWith key
  if UserKey jo then .ok jo else failInvalid (argLoc kind key) jo (lit "invalid user key")

/-- `getarg_user`, the rest. -/
def resolveUser (moment : Moment) (db : Db) (kind : ActionKind) (key : String) (joUser : Json) :
    Except ActionError Int :=
  let userId := getUserId moment db joUser
  if userId = Errstatus.error.code then
    failInvalid (argLoc kind key) joUser (lit "invalid user key")
  else if userId = Errstatus.handled.code then failOther
  else .ok userId

theorem getargUser_eq (moment : Moment) (db : Db) (kind : ActionKind) (joWith : Json)
    (key : String) :
    getargUser kind joWith moment db key =
      getargUserKey kind joWith key >>= resolveUser moment db kind key := by
  unfold getargUser getargUserKey
  cases getargKey kind joWith key with
  | error _ => rfl
  | ok joUser =>
    by_cases isKey : UserKey joUser
    · simp only [bind, Except.bind, if_pos isKey, resolveUser]
    · simp only [bind, Except.bind, if_neg isKey, getUserId_of_not_userKey moment db isKey, if_true]
      rfl

/-! ### Forms -/

/-- **A request that waits for its user.** -/
structure Form where
  constr : Constr
  /-- The key and the value that name a user, if the kind takes one. -/
  user : Option (String × Json)
  /-- The action, by its user. -/
  action : Int → Action

/-- The branch of one kind, as far as it does not look at the database. -/
def parseForm (kind : ActionKind) (joWith : Json) : Except ActionError Form := do
  let constr ← getargConstr kind joWith "constr"
  match kind with
  | .whois => do
      let joUser ← getargUserKey kind joWith "user"
      return ⟨constr, some ("user", joUser), .whois constr⟩
  | .send => do
      let content ← getargString kind joWith "content"
      let joDest ← getargUserKey kind joWith "dest"
      return ⟨constr, some ("dest", joDest), fun dest => .send constr dest content⟩
  | .motd => return ⟨constr, none, fun _ => .motd constr⟩
  | .inbox => do
      let page ← getargPage kind joWith "page"
      return ⟨constr, none, fun _ => .inbox constr page⟩
  | .outbox => do
      let page ← getargPage kind joWith "page"
      return ⟨constr, none, fun _ => .outbox constr page⟩
  | .edit => do
      let msgId ← getargInt kind joWith "msg_id"
      let newContent ← getargString kind joWith "new_content"
      return ⟨constr, none, fun _ => .edit constr msgId newContent⟩
  | .rm => do
      let msgId ← getargInt kind joWith "msg_id"
      return ⟨constr, none, fun _ => .rm constr msgId⟩
  | .block => do
      let joUser ← getargUserKey kind joWith "user"
      return ⟨constr, some ("user", joUser), .block constr⟩
  | .unblock => do
      let joUser ← getargUserKey kind joWith "user"
      return ⟨constr, some ("user", joUser), .unblock constr⟩
  | .ban => do
      let joUser ← getargUserKey kind joWith "user"
      return ⟨constr, some ("user", joUser), .ban constr⟩
  | .unban => do
      let joUser ← getargUserKey kind joWith "user"
      return ⟨constr, some ("user", joUser), .unban constr⟩

/-- The action of a form, once its user is known. -/
def Form.resolve (form : Form) (moment : Moment) (db : Db) (kind : ActionKind) :
    Except ActionError Action :=
  match form.user with
  | none => .ok (form.action 0)
  | some (key, joUser) => (resolveUser moment db kind key joUser).map form.action

/-- **A branch reads its form, then resolves its user.** -/
theorem parseWith_eq (moment : Moment) (db : Db) (kind : ActionKind) (joWith : Json) :
    parseWith moment db kind joWith =
      parseForm kind joWith >>= fun form => form.resolve moment db kind := by
  cases kind with
  | whois | block | unblock | ban | unban =>
    simp only [parseWith, parseForm, getargUser_eq]
    cases getargConstr _ joWith "constr" with
    | error _ => rfl
    | ok constr =>
      cases getargUserKey _ joWith "user" with
      | error _ => rfl
      | ok joUser =>
        simp only [bind, Except.bind, pure, Except.pure, Form.resolve]
        cases resolveUser moment db _ "user" joUser <;> rfl
  | send =>
    simp only [parseWith, parseForm, getargUser_eq]
    cases getargConstr _ joWith "constr" with
    | error _ => rfl
    | ok constr =>
      cases getargString _ joWith "content" with
      | error _ => rfl
      | ok content =>
        cases getargUserKey _ joWith "dest" with
        | error _ => rfl
        | ok joDest =>
          simp only [bind, Except.bind, pure, Except.pure, Form.resolve]
          cases resolveUser moment db _ "dest" joDest <;> rfl
  | motd =>
    simp only [parseWith, parseForm]
    cases getargConstr _ joWith "constr" <;> rfl
  | inbox | outbox =>
    simp only [parseWith, parseForm]
    cases getargConstr _ joWith "constr" with
    | error _ => rfl
    | ok constr => cases getargPage _ joWith "page" <;> rfl
  | rm =>
    simp only [parseWith, parseForm]
    cases getargConstr _ joWith "constr" with
    | error _ => rfl
    | ok constr => cases getargInt _ joWith "msg_id" <;> rfl
  | edit =>
    simp only [parseWith, parseForm]
    cases getargConstr _ joWith "constr" with
    | error _ => rfl
    | ok constr =>
      cases getargInt _ joWith "msg_id" with
      | error _ => rfl
      | ok msgId => cases getargString _ joWith "new_content" <;> rfl

/-! ### Requests -/

/-- The branch of a request: the kind of its action, and the value of `with`. -/
def requestBranch (jo : Json) : Except ActionError (ActionKind × Json) :=
  match jsonObjectObjectGetEx jo (clit "do") with
  | none => failMissingKey (lit "action.do")
  | some joDo =>
      match jsonObjectGetStringStrict joDo with
      | none => failType (lit "action") joDo .string
      | some actionName =>
          match jsonObjectObjectGetEx jo (clit "with") with
          | none => failMissingKey (lit "action.with")
          | some joWith =>
              match actionIs (cstring actionName) with
              | none => failOther
              | some kind => .ok (kind, joWith)

/-- **A request, read as far as it can be without the database.** -/
def requestForm (jo : Json) : Except ActionError (ActionKind × Form) := do
  let (kind, joWith) ← requestBranch jo
  let form ← parseForm kind joWith
  return (kind, form)

/-- The action a request names is none of the eleven. -/
def UnknownAction (jo : Json) : Prop :=
  ∃ name joWith, jsonObjectObjectGetEx jo (clit "do") = some (.string name) ∧
    jsonObjectObjectGetEx jo (clit "with") = some joWith ∧ actionIs (cstring name) = none

/-- **The outcomes of reading the branch.** -/
theorem requestBranch_cases (jo : Json) :
    (∃ stored, requestBranch jo = .error stored ∧ BadRequest stored ∧ ¬ UnknownAction jo) ∨
    (requestBranch jo = failOther ∧ UnknownAction jo) ∨
    ∃ name joWith kind, requestBranch jo = .ok (kind, joWith) ∧
      jsonObjectObjectGetEx jo (clit "do") = some (.string name) ∧
      jsonObjectObjectGetEx jo (clit "with") = some joWith ∧
      actionIs (cstring name) = some kind := by
  cases isDo : jsonObjectObjectGetEx jo (clit "do") with
  | none =>
    refine Or.inl ⟨⟨.missingKey, .missingKey (lit "action.do")⟩, ?_, ⟨rfl, Or.inr (Or.inl rfl)⟩, ?_⟩
    · simp only [requestBranch, isDo]
      rfl
    · rintro ⟨name, _, alsoDo, _⟩
      cases isDo.symm.trans alsoDo
  | some joDo =>
    cases isName : jsonObjectGetStringStrict joDo with
    | none =>
      refine Or.inl ⟨⟨.type, .type (lit "action") joDo .string⟩, ?_, ⟨rfl, Or.inl rfl⟩, ?_⟩
      · simp only [requestBranch, isDo, isName]
        rfl
      · rintro ⟨name, _, alsoDo, _⟩
        cases isDo.symm.trans alsoDo
        cases isName
    | some name =>
      have isText : joDo = .string name := by
        cases joDo <;> cases isName
        rfl
      subst isText
      cases isWith : jsonObjectObjectGetEx jo (clit "with") with
      | none =>
        refine Or.inl ⟨⟨.missingKey, .missingKey (lit "action.with")⟩, ?_,
          ⟨rfl, Or.inr (Or.inl rfl)⟩, ?_⟩
        · simp only [requestBranch, isDo, isName, isWith]
          rfl
        · rintro ⟨_, joWith, _, alsoWith, _⟩
          cases isWith.symm.trans alsoWith
      | some joWith =>
        cases isKind : actionIs (cstring name) with
        | none =>
          refine Or.inr (Or.inl ⟨?_, name, joWith, isDo, isWith, isKind⟩)
          simp only [requestBranch, isDo, isName, isWith, isKind]
        | some kind =>
          refine Or.inr (Or.inr ⟨name, joWith, kind, ?_, rfl, rfl, isKind⟩)
          simp only [requestBranch, isDo, isName, isWith, isKind]

/-- Parsing a request is parsing the arguments of its branch. -/
theorem parseAction_branch (moment : Moment) (db : Db) (jo : Json) :
    parseAction moment db jo =
      requestBranch jo >>= fun (kind, joWith) => parseWith moment db kind joWith := by
  cases isDo : jsonObjectObjectGetEx jo (clit "do") with
  | none => simp only [parseAction, requestBranch, isDo]; rfl
  | some joDo =>
    cases isName : jsonObjectGetStringStrict joDo with
    | none => simp only [parseAction, requestBranch, isDo, isName]; rfl
    | some name =>
      cases isWith : jsonObjectObjectGetEx jo (clit "with") with
      | none => simp only [parseAction, requestBranch, isDo, isName, isWith]; rfl
      | some joWith =>
        cases isKind : actionIs (cstring name) <;>
          (simp only [parseAction, requestBranch, isDo, isName, isWith, isKind]; rfl)

/-- **Parsing a request is reading its form, then resolving its user.** -/
theorem parseAction_eq (moment : Moment) (db : Db) (jo : Json) :
    parseAction moment db jo =
      requestForm jo >>= fun (kind, form) => form.resolve moment db kind := by
  rw [parseAction_branch, requestForm]
  cases requestBranch jo with
  | error _ => rfl
  | ok branch =>
    obtain ⟨kind, joWith⟩ := branch
    show parseWith moment db kind joWith = _
    rw [parseWith_eq]
    simp only [bind, Except.bind]
    cases parseForm kind joWith <;> rfl

/-! ### Refusals -/

theorem throws_getargUserKey (kind : ActionKind) (joWith : Json) (key : String) :
    Throws BadRequest (getargUserKey kind joWith key) := by
  refine (throws_getargKey kind joWith key).bind fun jo => ?_
  split
  · exact .ok _
  · exact throws_failInvalid _ _ _

theorem throws_parseForm (kind : ActionKind) (joWith : Json) :
    Throws BadRequest (parseForm kind joWith) := by
  refine (throws_getargConstr _ _ _).bind fun constr => ?_
  cases kind with
  | whois | block | unblock | ban | unban =>
    exact (throws_getargUserKey _ _ _).bind fun _ => .ok _
  | send =>
    exact (throws_getargString _ _ _).bind fun _ => (throws_getargUserKey _ _ _).bind fun _ => .ok _
  | motd => exact .ok _
  | inbox | outbox => exact (throws_getargPage _ _ _).bind fun _ => .ok _
  | edit =>
    exact (throws_getargInt _ _ _).bind fun _ => (throws_getargString _ _ _).bind fun _ => .ok _
  | rm => exact (throws_getargInt _ _ _).bind fun _ => .ok _

/-- **A request that is refused is a bad request, or its action is unknown**, which is reported as an
error nobody specified. -/
theorem requestForm_refuses {jo : Json} {stored : ActionError}
    (refused : requestForm jo = .error stored) :
    (BadRequest stored ∧ ¬ UnknownAction jo) ∨
      (UnknownAction jo ∧ stored = ⟨.other, .other .internalServerError⟩) := by
  rw [requestForm] at refused
  rcases requestBranch_cases jo with
    ⟨first, isFirst, bad, known⟩ | ⟨failed, unknown⟩ | ⟨name, joWith, kind, isBranch, isDo, _, isKind⟩
  · rw [isFirst] at refused
    cases refused
    exact Or.inl ⟨bad, known⟩
  · rw [failed] at refused
    cases refused
    exact Or.inr ⟨unknown, rfl⟩
  · rw [isBranch] at refused
    have thrown : parseForm kind joWith = .error stored := by
      cases parsed : parseForm kind joWith with
      | error first =>
        simp only [bind, Except.bind, parsed] at refused
        cases refused
        rfl
      | ok form =>
        simp only [bind, Except.bind, parsed] at refused
        cases refused
    refine Or.inl ⟨throws_parseForm kind joWith stored thrown, ?_⟩
    rintro ⟨_, _, alsoDo, _, unknown⟩
    cases isDo.symm.trans alsoDo
    cases isKind.symm.trans unknown

/-! ### What a form carries -/

theorem form_of_parseForm {kind : ActionKind} {joWith : Json} {form : Form}
    (parsed : parseForm kind joWith = .ok form) (userId : Int) :
    (form.action userId).constr? = some form.constr ∧
      (form.action userId).type = .action kind := by
  obtain ⟨constr, _, rest⟩ := bind_eq_ok parsed
  cases kind with
  | motd =>
    cases rest
    exact ⟨rfl, rfl⟩
  | whois | block | unblock | ban | unban | inbox | outbox | rm =>
    obtain ⟨_, _, rest⟩ := bind_eq_ok rest
    cases rest
    exact ⟨rfl, rfl⟩
  | send | edit =>
    obtain ⟨_, _, rest⟩ := bind_eq_ok rest
    obtain ⟨_, _, rest⟩ := bind_eq_ok rest
    cases rest
    exact ⟨rfl, rfl⟩

/-- **The action of a form is of the form's kind and carries its connection string.** -/
theorem form_of_requestForm {jo : Json} {kind : ActionKind} {form : Form}
    (isForm : requestForm jo = .ok (kind, form)) (userId : Int) :
    (form.action userId).constr? = some form.constr ∧
      (form.action userId).type = .action kind := by
  obtain ⟨⟨_, joWith⟩, _, rest⟩ := bind_eq_ok isForm
  obtain ⟨_, parsed, rest⟩ := bind_eq_ok rest
  cases rest
  exact form_of_parseForm parsed userId

/-! ### Resolving -/

section Resolving

variable (moment : Moment) (db : Db) {jo : Json}

/-- A request that is refused is an error, whatever the moment and the database. -/
theorem actionParse_of_refused {stored : ActionError} (refused : requestForm jo = .error stored) :
    actionParse moment db jo = .error stored := by
  have failed : parseAction moment db jo = .error stored := by
    rw [parseAction_eq, refused]
    rfl
  rw [actionParse, failed]

/-- What is reported of a value that names nobody. -/
def invalidUser (kind : ActionKind) (key : String) (joUser : Json) : ActionError :=
  ⟨.invalid, .invalid (argLoc kind key) (lit "invalid user key") joUser⟩

/-- **The outcomes of a form**: it needs no user; its value names nobody, which is a bad request; the
database did not answer; or its user is known. -/
theorem actionParse_of_form {kind : ActionKind} {form : Form}
    (isForm : requestForm jo = .ok (kind, form)) :
    (form.user = none ∧ actionParse moment db jo = form.action 0) ∨
    ∃ key joUser, form.user = some (key, joUser) ∧
      ((getUserId moment db joUser = Errstatus.error.code ∧
        actionParse moment db jo = .error (invalidUser kind key joUser)) ∨
      (getUserId moment db joUser = Errstatus.handled.code ∧
        actionParse moment db jo = .error ⟨.other, .other .internalServerError⟩) ∨
      (getUserId moment db joUser ≠ Errstatus.error.code ∧
        getUserId moment db joUser ≠ Errstatus.handled.code ∧
        actionParse moment db jo = form.action (getUserId moment db joUser))) := by
  have resolved : parseAction moment db jo = form.resolve moment db kind := by
    rw [parseAction_eq, isForm]
    rfl
  cases isUser : form.user with
  | none =>
    refine Or.inl ⟨rfl, ?_⟩
    simp only [actionParse, resolved, Form.resolve, isUser]
  | some user =>
    obtain ⟨key, joUser⟩ := user
    refine Or.inr ⟨key, joUser, rfl, ?_⟩
    simp only [actionParse, resolved, Form.resolve, isUser]
    by_cases isError : getUserId moment db joUser = Errstatus.error.code
    · refine Or.inl ⟨isError, ?_⟩
      rw [resolveUser, if_pos isError]
      rfl
    · by_cases isHandled : getUserId moment db joUser = Errstatus.handled.code
      · refine Or.inr (Or.inl ⟨isHandled, ?_⟩)
        rw [resolveUser, if_neg isError, if_pos isHandled]
        rfl
      · refine Or.inr (Or.inr ⟨isError, isHandled, ?_⟩)
        rw [resolveUser, if_neg isError, if_neg isHandled]
        rfl

/-- **An error of parsing** is a bad request or unspecified, and any other action is that of its
form. -/
theorem actionParse_cases (jo : Json) :
    (∃ stored, actionParse moment db jo = .error stored ∧
      (BadRequest stored ∨ stored = ⟨.other, .other .internalServerError⟩)) ∨
    ∃ kind form userId, requestForm jo = .ok (kind, form) ∧
      actionParse moment db jo = form.action userId := by
  rcases isForm : requestForm jo with stored | ⟨kind, form⟩
  · refine Or.inl ⟨stored, actionParse_of_refused moment db isForm, ?_⟩
    rcases requestForm_refuses isForm with ⟨bad, _⟩ | ⟨_, unspecified⟩
    · exact Or.inl bad
    · exact Or.inr unspecified
  · rcases actionParse_of_form moment db isForm with
      ⟨_, parsed⟩ | ⟨key, joUser, _, ⟨_, parsed⟩ | ⟨_, parsed⟩ | ⟨_, _, parsed⟩⟩
    · exact Or.inr ⟨kind, form, 0, rfl, parsed⟩
    · exact Or.inl ⟨_, parsed, Or.inl ⟨rfl, Or.inr (Or.inr rfl)⟩⟩
    · exact Or.inl ⟨_, parsed, Or.inr rfl⟩
    · exact Or.inr ⟨kind, form, _, rfl, parsed⟩

/-- Every error of parsing is well tagged. -/
theorem reports_parseAction (jo : Json) : Reports (parseAction moment db jo) := by
  intro stored thrown
  have parsed : actionParse moment db jo = .error stored := by
    rw [actionParse, thrown]
  rcases actionParse_cases moment db jo with
    ⟨other, alsoParsed, bad | rfl⟩ | ⟨kind, form, userId, isForm, alsoParsed⟩
  · cases parsed.symm.trans alsoParsed
    refine ⟨bad.1, fun isInvariant => ?_⟩
    rcases bad.2 with isType | isType | isType <;> cases isType.symm.trans isInvariant
  · cases parsed.symm.trans alsoParsed
    exact ⟨rfl, by decide⟩
  · have isKind := (form_of_requestForm isForm userId).2
    rw [← alsoParsed, parsed] at isKind
    cases isKind

/-- **Parsing returns well tagged actions.** -/
theorem actionParse_wellTagged (jo : Json) : (actionParse moment db jo).WellTagged := by
  unfold actionParse
  split
  · exact reports_parseAction moment db jo _ ‹_›
  · rename_i action parsed
    obtain ⟨kind, _, _, branch⟩ := parseWith_of_parseAction moment db parsed
    have isKind := type_of_parseWith moment db branch
    cases action with
    | error => cases isKind
    | _ => trivial

end Resolving

end Tchatator
