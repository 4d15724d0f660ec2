/-
**The integers of a request** (`get_user_id`, `getarg_int`, `getarg_page`).

* `GivesInteger` — a request gives its action a user, a message or a page as a JSON integer, of any
  magnitude;
* `number_of_wellFormed` — a well-formed request is parsed to an action that holds this integer,
  *saturated* to 32 bits;
* **`integerFaithful_iff`** — so the action holds exactly the integer, in `1 .. 2^31 - 1`, or there
  is none, exactly when the request is not well formed or the integer was in these bounds.
-/

import Tchatator.Model.ActionJson
import Tchatator.Model.TestData
import Tchatator.Proof.Protocol

namespace Tchatator

/-! ### Integers that are given -/

/-- The argument of an action that can be an integer. -/
def integerKey : ActionKind → Option String
  | .whois | .block | .unblock | .ban | .unban => some "user"
  | .send => some "dest"
  | .motd => none
  | .inbox | .outbox => some "page"
  | .edit | .rm => some "msg_id"

/-- The user, the message or the page an action is about. -/
def Action.number? : Action → Option Int
  | .error _ => none
  | .whois _ userId => some userId
  | .send _ destUserId _ => some destUserId
  | .motd _ => none
  | .inbox _ page => some page
  | .outbox _ page => some page
  | .edit _ msgId _ => some msgId
  | .rm _ msgId => some msgId
  | .block _ userId => some userId
  | .unblock _ userId => some userId
  | .ban _ userId => some userId
  | .unban _ userId => some userId

/-- **A request gives an integer** as the user, the message or the page of its action. -/
def GivesInteger (jo : Json) (value : Int) : Prop :=
  ∃ kind name joWith key, jsonObjectObjectGetEx jo (clit "do") = some (.string name) ∧
    cstring name = clit (ActionKind.name kind) ∧
    jsonObjectObjectGetEx jo (clit "with") = some joWith ∧ integerKey kind = some key ∧
    jsonObjectObjectGetEx joWith (clit key) = some (.int value)

/-- **An integer is taken as it is**: parsing returns an error, or an action about exactly this
integer, which is a valid identifier or page number. -/
def IntegerFaithful (moment : Moment) (db : Db) (jo : Json) (value : Int) : Prop :=
  (∃ stored, actionParse moment db jo = .error stored) ∨
    ((actionParse moment db jo).number? = some value ∧ 1 ≤ value ∧ value ≤ int32Max)

/-! ### Arguments -/

section Arguments

variable {kind : ActionKind} {joWith : Json} {key : String} {value : Int}

/-- A page that is read is the saturated integer. -/
theorem getargPage_of_int {page : Int}
    (given : jsonObjectObjectGetEx joWith (clit key) = some (.int value))
    (read : getargPage kind joWith key = .ok page) : page = clampInt32 value := by
  simp only [getargPage, given, getargInt_of_int given, bind, Except.bind] at read
  split at read
  · cases read
  · cases read
    rfl

/-- A user that is given as an integer is read when it is positive. -/
theorem getargUserKey_of_int {joUser : Json}
    (given : jsonObjectObjectGetEx joWith (clit key) = some (.int value))
    (read : getargUserKey kind joWith key = .ok joUser) : joUser = .int value ∧ 0 < value := by
  simp only [getargUserKey, getargKey_of_member given, bind, Except.bind] at read
  split at read
  · rename_i isKey
    cases read
    exact ⟨rfl, isKey⟩
  · cases read

/-- **A positive integer is resolved without the database**, to the saturated integer. -/
theorem resolveUser_of_int (moment : Moment) (db : Db) (positive : 0 < value) :
    resolveUser moment db kind key (.int value) = .ok (clampInt32 value) := by
  obtain ⟨notError, notHandled⟩ := positive_not_status (clampInt32_pos.mpr positive)
  rw [resolveUser, getUserId_of_positive moment db positive]
  exact (if_neg notError).trans (if_neg notHandled)

theorem resolve_of_int (moment : Moment) (db : Db) {form : Form}
    (isUser : form.user = some (key, .int value)) (positive : 0 < value) :
    form.resolve moment db kind = .ok (form.action (clampInt32 value)) := by
  simp only [Form.resolve, isUser, resolveUser_of_int moment db positive]
  rfl

end Arguments

/-! ### Requests -/

section Requests

variable (moment : Moment) (db : Db) {jo : Json} {value : Int}

/-- **A form that gives an integer is resolved to an action that holds it, saturated.** -/
theorem number_of_form {kind : ActionKind} {joWith : Json} {form : Form} {key : String}
    (isKey : integerKey kind = some key)
    (given : jsonObjectObjectGetEx joWith (clit key) = some (.int value))
    (parsed : parseForm kind joWith = .ok form) :
    ∃ action, form.resolve moment db kind = .ok action ∧
      action.number? = some (clampInt32 value) := by
  obtain ⟨constr, _, rest⟩ := bind_eq_ok parsed
  cases kind with
  | motd => cases isKey
  | whois | block | unblock | ban | unban =>
    cases isKey
    obtain ⟨joUser, isUser, rest⟩ := bind_eq_ok rest
    obtain ⟨rfl, positive⟩ := getargUserKey_of_int given isUser
    cases rest
    exact ⟨_, resolve_of_int moment db rfl positive, rfl⟩
  | send =>
    cases isKey
    obtain ⟨content, _, rest⟩ := bind_eq_ok rest
    obtain ⟨joDest, isDest, rest⟩ := bind_eq_ok rest
    obtain ⟨rfl, positive⟩ := getargUserKey_of_int given isDest
    cases rest
    exact ⟨_, resolve_of_int moment db rfl positive, rfl⟩
  | inbox | outbox =>
    cases isKey
    obtain ⟨page, isPage, rest⟩ := bind_eq_ok rest
    obtain rfl := getargPage_of_int given isPage
    cases rest
    exact ⟨_, rfl, rfl⟩
  | rm =>
    cases isKey
    obtain ⟨msgId, isId, rest⟩ := bind_eq_ok rest
    cases (getargInt_of_int given).symm.trans isId
    cases rest
    exact ⟨_, rfl, rfl⟩
  | edit =>
    cases isKey
    obtain ⟨msgId, isId, rest⟩ := bind_eq_ok rest
    cases (getargInt_of_int given).symm.trans isId
    obtain ⟨newContent, _, rest⟩ := bind_eq_ok rest
    cases rest
    exact ⟨_, rfl, rfl⟩

/-- **A well-formed request is parsed to an action that holds the integer, saturated.** -/
theorem number_of_wellFormed (given : GivesInteger jo value) (wellFormed : WellFormed jo) :
    (actionParse moment db jo).number? = some (clampInt32 value) := by
  obtain ⟨kind, name, joWith, key, isDo, isName, isWith, isKey, isGiven⟩ := given
  obtain ⟨⟨_, form⟩, isForm⟩ := (requestForm_returns_iff jo).mpr wellFormed
  obtain ⟨branch, isBranch, rest⟩ := bind_eq_ok isForm
  cases (requestBranch_ok_iff.mpr ⟨name, isDo, isName, isWith⟩).symm.trans isBranch
  obtain ⟨_, parsed, rest⟩ := bind_eq_ok rest
  cases rest
  obtain ⟨action, resolved, isNumber⟩ := number_of_form moment db isKey isGiven parsed
  have isAction : parseAction moment db jo = .ok action := by
    rw [parseAction_eq, isForm]
    exact resolved
  rw [actionParse, isAction]
  exact isNumber

/-- **An integer is taken as it is exactly when the request is not well formed or the integer is in
bounds.** -/
theorem integerFaithful_iff (given : GivesInteger jo value) :
    IntegerFaithful moment db jo value ↔ (WellFormed jo → 1 ≤ value ∧ value ≤ int32Max) := by
  constructor
  · intro faithful wellFormed
    rcases faithful with ⟨stored, isError⟩ | ⟨_, inBounds⟩
    · have isNumber := number_of_wellFormed moment db given wellFormed
      rw [isError] at isNumber
      cases isNumber
    · exact inBounds
  · intro inBounds
    by_cases wellFormed : WellFormed jo
    · obtain ⟨low, high⟩ := inBounds wellFormed
      refine Or.inr ⟨?_, low, high⟩
      have fits : int32Min ≤ value := by
        unfold int32Min
        omega
      rw [number_of_wellFormed moment db given wellFormed,
        clampInt32_eq_self_iff.mpr ⟨fits, high⟩]
    · rcases read : requestForm jo with stored | parsed
      · exact Or.inl ⟨stored, actionParse_of_refused moment db read⟩
      · exact absurd ((requestForm_returns_iff jo).mp ⟨parsed, read⟩) wellFormed

end Requests

/-- The first test member asks who a user is. -/
def whoisRequest (userId : Int) : Json :=
  .object [member "do" (.string (lit "whois")), member "with" (.object
    [member "constr" (.string (lit "123e4567-e89b-12d3-a456-426614174000¤member1_mdp")),
      member "user" (.int userId)])]

theorem whoisRequest_gives (userId : Int) : GivesInteger (whoisRequest userId) userId :=
  ⟨.whois, _, _, _, rfl, rfl, rfl, rfl, rfl⟩

/-- A professional of the test data is asked for by the identifier. -/
theorem whoisPro1_faithful :
    IntegerFaithful (allUp 0) useTestDataUsers (whoisRequest 1001) 1001 :=
  (integerFaithful_iff (allUp 0) useTestDataUsers (whoisRequest_gives 1001)).mpr
    fun _ => by decide

/-- The first test member removes a message. -/
def rmRequest (msgId : Int) : Json :=
  .object [member "do" (.string (lit "rm")), member "with" (.object
    [member "constr" (.string (lit "123e4567-e89b-12d3-a456-426614174000¤member1_mdp")),
      member "msg_id" (.int msgId)])]

/-- A user beyond 32 bits is taken for another one, and a negative message is accepted. -/
theorem whoisHuge_not_faithful :
    (actionParse (allUp 0) useTestDataUsers (whoisRequest 4294967297) =
        .whois constrMember1 2147483647 ∧
      ¬ IntegerFaithful (allUp 0) useTestDataUsers (whoisRequest 4294967297) 4294967297) ∧
    actionParse (allUp 0) useTestDataUsers (rmRequest (-5)) = .rm constrMember1 (-5) ∧
      ¬ IntegerFaithful (allUp 0) useTestDataUsers (rmRequest (-5)) (-5) := by
  have isWhois : actionParse (allUp 0) useTestDataUsers (whoisRequest 4294967297) =
      .whois constrMember1 2147483647 := rfl
  have isRm : actionParse (allUp 0) useTestDataUsers (rmRequest (-5)) = .rm constrMember1 (-5) := rfl
  refine ⟨⟨isWhois, ?_⟩, isRm, ?_⟩
  · rintro (⟨stored, isError⟩ | ⟨_, _, high⟩)
    · cases isWhois.symm.trans isError
    · exact absurd high (by decide)
  · rintro (⟨stored, isError⟩ | ⟨_, low, _⟩)
    · cases isRm.symm.trans isError
    · exact absurd low (by decide)

end Tchatator
