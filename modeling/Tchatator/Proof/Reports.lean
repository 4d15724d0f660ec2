/-
**What parsing reports about arguments is true** (`action_parse`).

* `listedArguments` — the arguments of an action, in the order its branch reads them;
* `ReportsArgument` — an error says of an argument what is the case: its key is missing, its value is
  of another type, its value is the one reported;
* `FirstReported`, `parseForm_reports` — the first argument that is not acceptable is reported: each
  `getarg` reports its own argument, and the arguments are read one after the other;
* `user_of_parseForm` — the value that names a user is that of the last argument;
* **`argument_reports_truthful`** — an error at the location of an argument is true of it, its tag is
  that of what it holds, and every argument before it was acceptable; acceptable arguments are never
  reported.
-/

import Tchatator.Model.TestData
import Tchatator.Proof.Protocol

namespace Tchatator

/-! ### Reports -/

/-- The arguments of an action, in the order of its branch. -/
def listedArguments : ActionKind → List (String × ArgumentType)
  | .send => [("constr", .connectionString), ("content", .string), ("dest", .userKey)]
  | kind => documentedArguments kind

/-- **An error reports an argument** as it is. -/
inductive ReportsArgument (kind : ActionKind) (joWith : Json) (key : String) : ActionError → Prop
  | missing : jsonObjectObjectGetEx joWith (clit key) = none →
      ReportsArgument kind joWith key ⟨.missingKey, .missingKey (argLoc kind key)⟩
  | mistyped {joActual : Json} {expected : JsonType} :
      jsonObjectObjectGetEx joWith (clit key) = some joActual →
      jsonObjectGetType joActual ≠ expected →
      ReportsArgument kind joWith key ⟨.type, .type (argLoc kind key) joActual expected⟩
  | invalid {joBad : Json} {reason : Bytes} :
      jsonObjectObjectGetEx joWith (clit key) = some joBad →
      ReportsArgument kind joWith key ⟨.invalid, .invalid (argLoc kind key) reason joBad⟩

/-- **The first argument of a list that is not acceptable is reported.** -/
def FirstReported (kind : ActionKind) (joWith : Json) (stored : ActionError) :
    List (String × ArgumentType) → Prop
  | [] => False
  | argument :: arguments =>
      ReportsArgument kind joWith argument.1 stored ∨
        (argument.2.Accepts (jsonObjectObjectGetEx joWith (clit argument.1)) ∧
          FirstReported kind joWith stored arguments)

/-! ### One argument -/

section Arguments

variable {kind : ActionKind} {joWith : Json} {key : String} {stored : ActionError}

theorem getargKey_reports (thrown : getargKey kind joWith key = .error stored) :
    ReportsArgument kind joWith key stored := by
  unfold getargKey at thrown
  split at thrown
  · cases thrown
    exact .missing ‹_›
  · cases thrown

/-- A `getarg` fails on its key, or on the value that is there. -/
theorem bind_getargKey_reports {α : Type} {next : Json → Except ActionError α}
    (later : ∀ jo, jsonObjectObjectGetEx joWith (clit key) = some jo → next jo = .error stored →
      ReportsArgument kind joWith key stored)
    (thrown : getargKey kind joWith key >>= next = .error stored) :
    ReportsArgument kind joWith key stored := by
  cases found : getargKey kind joWith key with
  | error first =>
    rw [found] at thrown
    cases thrown
    exact getargKey_reports found
  | ok jo =>
    rw [found] at thrown
    exact later jo (getargKey_ok found) thrown

theorem getargInt_reports (thrown : getargInt kind joWith key = .error stored) :
    ReportsArgument kind joWith key stored := by
  refine bind_getargKey_reports (fun jo given thrown => ?_) thrown
  cases jo <;> cases thrown <;> exact .mistyped given (by simp [jsonObjectGetType])

theorem getargString_reports (thrown : getargString kind joWith key = .error stored) :
    ReportsArgument kind joWith key stored := by
  refine bind_getargKey_reports (fun jo given thrown => ?_) thrown
  cases jo <;> cases thrown <;> exact .mistyped given (by simp [jsonObjectGetType])

theorem getargConstr_reports (thrown : getargConstr kind joWith key = .error stored) :
    ReportsArgument kind joWith key stored := by
  refine bind_getargKey_reports (fun jo given thrown => ?_) thrown
  cases jo with
  | string text =>
    simp only [jsonObjectGetStringStrict] at thrown
    split at thrown
    · cases thrown
      exact .invalid given
    · cases thrown
  | _ => cases thrown; exact .mistyped given (by simp [jsonObjectGetType])

theorem getargUserKey_reports (thrown : getargUserKey kind joWith key = .error stored) :
    ReportsArgument kind joWith key stored := by
  refine bind_getargKey_reports (fun jo given thrown => ?_) thrown
  split at thrown
  · cases thrown
  · cases thrown
    exact .invalid given

theorem getargPage_reports (thrown : getargPage kind joWith key = .error stored) :
    ReportsArgument kind joWith key stored := by
  unfold getargPage at thrown
  split at thrown
  · cases thrown
  · rename_i jo given
    cases isPage : getargInt kind joWith key with
    | error first =>
      rw [isPage] at thrown
      cases thrown
      exact getargInt_reports isPage
    | ok page =>
      simp only [isPage, bind, Except.bind] at thrown
      split at thrown
      · cases thrown
        exact .invalid given
      · cases thrown

end Arguments

/-! ### The branches -/

section Branches

variable {α β : Type} {kind : ActionKind} {joWith : Json}

/-- **Arguments are read one after the other**: a later one is reached when this one is acceptable. -/
theorem firstReported_bind {parsed : Except ActionError α} {next : α → Except ActionError β}
    {argument : String × ArgumentType} {arguments : List (String × ArgumentType)}
    (fails : ∀ {stored}, parsed = .error stored → ReportsArgument kind joWith argument.1 stored)
    (accepts : Returns parsed ↔
      argument.2.Accepts (jsonObjectObjectGetEx joWith (clit argument.1)))
    (later : ∀ value,
      Throws (fun stored => FirstReported kind joWith stored arguments) (next value)) :
    Throws (fun stored => FirstReported kind joWith stored (argument :: arguments))
      (parsed >>= next) := by
  intro stored thrown
  cases isRead : parsed with
  | error first =>
    rw [isRead] at thrown
    cases thrown
    exact Or.inl (fails isRead)
  | ok value =>
    rw [isRead] at thrown
    exact Or.inr ⟨accepts.mp ⟨value, isRead⟩, later value stored thrown⟩

variable (kind joWith)

theorem parseForm_reports :
    Throws (fun stored => FirstReported kind joWith stored (listedArguments kind))
      (parseForm kind joWith) := by
  cases kind with
  | motd =>
    exact firstReported_bind getargConstr_reports (getargConstr_returns_iff _ _ _) fun _ => .ok _
  | whois | block | unblock | ban | unban =>
    exact firstReported_bind getargConstr_reports (getargConstr_returns_iff _ _ _) fun _ =>
      firstReported_bind getargUserKey_reports (getargUserKey_returns_iff _ _ _) fun _ => .ok _
  | send =>
    exact firstReported_bind getargConstr_reports (getargConstr_returns_iff _ _ _) fun _ =>
      firstReported_bind getargString_reports (getargString_returns_iff _ _ _) fun _ =>
        firstReported_bind getargUserKey_reports (getargUserKey_returns_iff _ _ _) fun _ => .ok _
  | inbox | outbox =>
    exact firstReported_bind getargConstr_reports (getargConstr_returns_iff _ _ _) fun _ =>
      firstReported_bind getargPage_reports (getargPage_returns_iff _ _ _) fun _ => .ok _
  | edit =>
    exact firstReported_bind getargConstr_reports (getargConstr_returns_iff _ _ _) fun _ =>
      firstReported_bind getargInt_reports (getargInt_returns_iff _ _ _) fun _ =>
        firstReported_bind getargString_reports (getargString_returns_iff _ _ _) fun _ => .ok _
  | rm =>
    exact firstReported_bind getargConstr_reports (getargConstr_returns_iff _ _ _) fun _ =>
      firstReported_bind getargInt_reports (getargInt_returns_iff _ _ _) fun _ => .ok _

variable {kind joWith}

/-- The arguments an action lists are the documented ones. -/
theorem mem_listedArguments {argument : String × ArgumentType} :
    argument ∈ listedArguments kind ↔ argument ∈ documentedArguments kind := by
  cases kind with
  | send =>
    simp only [listedArguments, documentedArguments, List.mem_cons, List.not_mem_nil, or_false]
    tauto
  | _ => exact Iff.rfl

/-- **The value that names a user** is that of a listed argument. -/
theorem user_of_parseForm {form : Form} {key : String} {joUser : Json}
    (parsed : parseForm kind joWith = .ok form) (isUser : form.user = some (key, joUser)) :
    (key, .userKey) ∈ listedArguments kind ∧
      jsonObjectObjectGetEx joWith (clit key) = some joUser := by
  have given {user : String} {value : Json} (read : getargUserKey kind joWith user = .ok value) :
      jsonObjectObjectGetEx joWith (clit user) = some value := by
    obtain ⟨jo, found, rest⟩ := bind_eq_ok read
    split at rest
    · cases rest
      exact getargKey_ok found
    · cases rest
  obtain ⟨constr, _, rest⟩ := bind_eq_ok parsed
  cases kind with
  | motd =>
    cases rest
    cases isUser
  | inbox | outbox | rm =>
    obtain ⟨_, _, rest⟩ := bind_eq_ok rest
    cases rest
    cases isUser
  | edit =>
    obtain ⟨_, _, rest⟩ := bind_eq_ok rest
    obtain ⟨_, _, rest⟩ := bind_eq_ok rest
    cases rest
    cases isUser
  | whois | block | unblock | ban | unban =>
    obtain ⟨value, read, rest⟩ := bind_eq_ok rest
    cases rest
    cases isUser
    exact ⟨List.mem_cons_of_mem _ List.mem_cons_self, given read⟩
  | send =>
    obtain ⟨_, _, rest⟩ := bind_eq_ok rest
    obtain ⟨value, read, rest⟩ := bind_eq_ok rest
    cases rest
    cases isUser
    exact ⟨List.mem_cons_of_mem _ (List.mem_cons_of_mem _ List.mem_cons_self), given read⟩

end Branches

/-! ### Locations -/

theorem lit_injective : Function.Injective lit := by
  intro text other same
  have bytes : text.toUTF8 = other.toUTF8 := ByteArray.ext (Array.ext' same)
  exact String.toByteArray_inj.mp bytes

theorem argLoc_injective (kind : ActionKind) : Function.Injective (argLoc kind) := by
  intro key other same
  exact lit_injective (List.append_cancel_left same)

/-- The location of an error, if it has one. -/
def ActionError.location? (stored : ActionError) : Option Bytes :=
  match stored.info with
  | .type location _ _ => some location
  | .missingKey location => some location
  | .invalid location _ _ => some location
  | _ => none

/-- **An error is true of the argument at a key**, and the arguments before it were acceptable. -/
structure TruthfulAt (kind : ActionKind) (joWith : Json) (key : String) (stored : ActionError) :
    Prop where
  /-- The client is told the member that was stored. -/
  tagged : stored.WellTagged
  missing : ∀ location, stored.info = .missingKey location →
    jsonObjectObjectGetEx joWith (clit key) = none
  mistyped : ∀ location joActual expected, stored.info = .type location joActual expected →
    jsonObjectObjectGetEx joWith (clit key) = some joActual ∧ jsonObjectGetType joActual ≠ expected
  invalid : ∀ location reason joBad, stored.info = .invalid location reason joBad →
    jsonObjectObjectGetEx joWith (clit key) = some joBad
  earlier : ∀ argument ∈ (listedArguments kind).takeWhile (·.1 ≠ key),
    argument.2.Accepts (jsonObjectObjectGetEx joWith (clit argument.1))

section Locations

variable {kind : ActionKind} {joWith : Json} {key : String} {stored : ActionError}

theorem ReportsArgument.wellTagged (reports : ReportsArgument kind joWith key stored) :
    stored.WellTagged := by
  cases reports <;> rfl

theorem ReportsArgument.location (reports : ReportsArgument kind joWith key stored) :
    stored.location? = some (argLoc kind key) := by
  cases reports <;> rfl

/-- The argument that is reported first is the one at the location of the error, and those before it
are acceptable. -/
theorem FirstReported.at_location {arguments : List (String × ArgumentType)}
    (reported : FirstReported kind joWith stored arguments) :
    ∃ argument ∈ arguments, ReportsArgument kind joWith argument.1 stored ∧
      ∀ earlier ∈ arguments.takeWhile (·.1 ≠ argument.1),
        earlier.2.Accepts (jsonObjectObjectGetEx joWith (clit earlier.1)) := by
  induction arguments with
  | nil => exact reported.elim
  | cons head arguments ih =>
    rcases reported with here | ⟨accepted, later⟩
    · refine ⟨head, List.mem_cons_self, here, fun earlier before => ?_⟩
      rw [List.takeWhile_cons_of_neg (by simp)] at before
      cases before
    · obtain ⟨argument, member, reports, before⟩ := ih later
      refine ⟨argument, List.mem_cons_of_mem _ member, reports, fun earlier isBefore => ?_⟩
      by_cases same : head.1 = argument.1
      · rw [List.takeWhile_cons_of_neg (by simpa using same)] at isBefore
        cases isBefore
      · rw [List.takeWhile_cons_of_pos (by simpa using same)] at isBefore
        rcases List.mem_cons.mp isBefore with rfl | isBefore
        · exact accepted
        · exact before earlier isBefore

theorem truthfulAt_of_reports (reports : ReportsArgument kind joWith key stored)
    (earlier : ∀ argument ∈ (listedArguments kind).takeWhile (·.1 ≠ key),
      argument.2.Accepts (jsonObjectObjectGetEx joWith (clit argument.1))) :
    TruthfulAt kind joWith key stored := by
  refine ⟨reports.wellTagged, ?_, ?_, ?_, earlier⟩
  · intro location isMissing
    cases reports <;> cases isMissing
    assumption
  · intro location joActual expected isType
    cases reports <;> cases isType
    exact ⟨‹_›, ‹_›⟩
  · intro location reason joBad isInvalid
    cases reports <;> cases isInvalid
    assumption

end Locations

/-! ### Requests -/

/-- **The lookups of a request succeed**: the value that names a user is looked up to an identifier. -/
def LookupsSucceed (moment : Moment) (db : Db) (kind : ActionKind) (joWith : Json) : Prop :=
  ∀ key joUser, (key, ArgumentType.userKey) ∈ listedArguments kind →
    jsonObjectObjectGetEx joWith (clit key) = some joUser →
    getUserId moment db joUser ≠ Errstatus.error.code ∧
      getUserId moment db joUser ≠ Errstatus.handled.code

/-- The lookup of a request fails in the database. -/
def UserLookupFails (moment : Moment) (db : Db) (kind : ActionKind) (joWith : Json) : Prop :=
  ∃ key joUser, (key, ArgumentType.userKey) ∈ listedArguments kind ∧
    jsonObjectObjectGetEx joWith (clit key) = some joUser ∧
    getUserId moment db joUser = Errstatus.handled.code

section Requests

variable (moment : Moment) (db : Db) {jo joWith : Json} {kind : ActionKind}

/-- **An error of parsing reports an argument**, with the arguments before it acceptable, unless a
lookup fails. -/
theorem actionParse_reports {stored : ActionError} (isBranch : requestBranch jo = .ok (kind, joWith))
    (thrown : actionParse moment db jo = .error stored) :
    (∃ argument ∈ listedArguments kind, ReportsArgument kind joWith argument.1 stored ∧
      ∀ earlier ∈ (listedArguments kind).takeWhile (·.1 ≠ argument.1),
        earlier.2.Accepts (jsonObjectObjectGetEx joWith (clit earlier.1))) ∨
    (stored = ⟨.other, .other .internalServerError⟩ ∧
      UserLookupFails moment db kind joWith) := by
  cases parsed : parseForm kind joWith with
  | error first =>
    have refused : requestForm jo = .error first := by
      rw [requestForm, isBranch]
      simp only [bind, Except.bind, parsed]
    rw [actionParse_of_refused moment db refused] at thrown
    cases thrown
    exact Or.inl (FirstReported.at_location (parseForm_reports kind joWith stored parsed))
  | ok form =>
    have isForm : requestForm jo = .ok (kind, form) := by
      rw [requestForm, isBranch]
      simp only [bind, Except.bind, parsed]
      rfl
    have acceptable := (parseForm_returns_iff kind joWith).mp ⟨form, parsed⟩
    have notError (userId : Int) : form.action userId ≠ .error stored := by
      intro isError
      have isKind := (form_of_requestForm isForm userId).2
      rw [isError] at isKind
      cases isKind
    rcases actionParse_of_form moment db isForm with
      ⟨_, action⟩ | ⟨key, joUser, isUser, ⟨_, failed⟩ | ⟨isHandled, failed⟩ | ⟨_, _, action⟩⟩
    · exact absurd (action.symm.trans thrown) (notError _)
    · obtain ⟨listed, given⟩ := user_of_parseForm parsed isUser
      cases failed.symm.trans thrown
      refine Or.inl ⟨_, listed, .invalid given, fun earlier before => ?_⟩
      exact acceptable earlier (mem_listedArguments.mp (List.takeWhile_subset _ before))
    · obtain ⟨listed, given⟩ := user_of_parseForm parsed isUser
      cases failed.symm.trans thrown
      exact Or.inr ⟨rfl, key, joUser, listed, given, isHandled⟩
    · exact absurd (action.symm.trans thrown) (notError _)

/-- **Acceptable arguments are parsed**, when the lookups succeed. -/
theorem actionParse_of_acceptable (isBranch : requestBranch jo = .ok (kind, joWith))
    (acceptable : ∀ argument ∈ listedArguments kind,
      argument.2.Accepts (jsonObjectObjectGetEx joWith (clit argument.1)))
    (succeed : LookupsSucceed moment db kind joWith) :
    (actionParse moment db jo).type = .action kind := by
  obtain ⟨form, parsed⟩ := (parseForm_returns_iff kind joWith).mpr fun argument documented =>
    acceptable argument (mem_listedArguments.mpr documented)
  have isForm : requestForm jo = .ok (kind, form) := by
    rw [requestForm, isBranch]
    simp only [bind, Except.bind, parsed]
    rfl
  rcases actionParse_of_form moment db isForm with
    ⟨_, action⟩ | ⟨key, joUser, isUser, ⟨isError, _⟩ | ⟨isHandled, _⟩ | ⟨_, _, action⟩⟩
  · rw [action]
    exact (form_of_requestForm isForm _).2
  · obtain ⟨listed, given⟩ := user_of_parseForm parsed isUser
    exact absurd isError (succeed key joUser listed given).1
  · obtain ⟨listed, given⟩ := user_of_parseForm parsed isUser
    exact absurd isHandled (succeed key joUser listed given).2
  · rw [action]
    exact (form_of_requestForm isForm _).2

/-- **What parsing reports about arguments is true, and minimal.** An error at the location of an
argument is true of it and tagged as what it is, with the arguments before it acceptable; every error
is at the location of an argument the action lists, or unspecified since a lookup failed; and
acceptable arguments are not reported. -/
theorem argument_reports_truthful {name : Bytes}
    (isDo : jsonObjectObjectGetEx jo (clit "do") = some (.string name))
    (isName : cstring name = clit kind.name)
    (isWith : jsonObjectObjectGetEx jo (clit "with") = some joWith) :
    (∀ stored key, actionParse moment db jo = .error stored →
      stored.location? = some (argLoc kind key) → TruthfulAt kind joWith key stored) ∧
    (∀ stored, actionParse moment db jo = .error stored →
      (∃ argument ∈ listedArguments kind, stored.location? = some (argLoc kind argument.1)) ∨
        (stored = ⟨.other, .other .internalServerError⟩ ∧
          UserLookupFails moment db kind joWith)) ∧
    ((∀ argument ∈ listedArguments kind,
        argument.2.Accepts (jsonObjectObjectGetEx joWith (clit argument.1))) →
      LookupsSucceed moment db kind joWith →
      (actionParse moment db jo).type = .action kind) := by
  have isBranch : requestBranch jo = .ok (kind, joWith) :=
    requestBranch_ok_iff.mpr ⟨name, isDo, isName, isWith⟩
  refine ⟨fun stored key thrown here => ?_, fun stored thrown => ?_,
    actionParse_of_acceptable moment db isBranch⟩
  · rcases actionParse_reports moment db isBranch thrown with
      ⟨argument, _, reports, earlier⟩ | ⟨rfl, _⟩
    · have same := reports.location.symm.trans here
      obtain rfl := argLoc_injective kind (Option.some.inj same)
      exact truthfulAt_of_reports reports earlier
    · cases here
  · rcases actionParse_reports moment db isBranch thrown with
      ⟨argument, listed, reports, _⟩ | failed
    · exact Or.inl ⟨argument, listed, reports.location⟩
    · exact Or.inr failed

end Requests

/-- The arguments of a `send` whose content is a number. -/
def numberContent : Json :=
  .object
    [(clit "constr", .string (lit "123e4567-e89b-12d3-a456-426614174000¤member1_mdp")),
      (clit "content", .int 5), (clit "dest", .int 1001)]

def sendNumber : Json :=
  .object [(clit "do", .string (lit "send")), (clit "with", numberContent)]

theorem sendNumber_reported (moment : Moment) (db : Db) :
    actionParse moment db sendNumber =
      .error ⟨.type, .type (argLoc .send "content") (.int 5) .string⟩ := rfl

/-- Its error is true of the content, and the connection string before it was acceptable. -/
theorem sendNumber_truthful :
    TruthfulAt .send numberContent "content"
      ⟨.type, .type (argLoc .send "content") (.int 5) .string⟩ :=
  have isDo : jsonObjectObjectGetEx sendNumber (clit "do") = some (.string (lit "send")) := rfl
  (argument_reports_truthful (allUp 0) useTestDataUsers isDo rfl rfl).1 _ _
    (sendNumber_reported _ _) rfl

end Tchatator
