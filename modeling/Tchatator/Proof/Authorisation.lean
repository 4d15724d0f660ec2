/-
**Who an action is done for** (`action_evaluate`).

The same switch on `db_verify_user_constr` opens each of the eleven branches.

* `actionEvaluate_eq` — every action but an error is `identified` with the roles of its kind, then
  its own `branch`: the eleven openings differ in nothing but their roles;
* `evaluation_cases` — the opening ends the evaluation on the database it found, or it has a
  verified user whose role is allowed and goes on with the branch. What a branch does is proved
  about the branch alone, and lifted by this lemma;
* **`evaluation_authorised`** — an effect or an answer is for a user who was verified and whose role
  is documented for the action; a refused connection string gives `401`, a failed lookup `500`, and
  neither changes anything.
-/

import Tchatator.Model.ActionEvaluate
import Tchatator.Proof.Authentication

namespace Tchatator

/-! ### The documented roles -/

/-- The roles the protocol documents for an action. -/
def documentedRoles : ActionKind → List Nat
  | .whois | .send | .motd | .inbox | .outbox | .edit | .rm => [roleAdmin, roleMember, rolePro]
  | .block | .unblock | .ban | .unban => [roleAdmin, rolePro]

/-- The mask the branch of an action checks. -/
def allowedRoles : ActionKind → Nat
  | .whois | .send | .motd | .inbox | .outbox | .edit | .rm => roleAll
  | .block | .unblock | .ban | .unban => roleAdmin ||| rolePro

/-- The mask lets the documented roles through, and no other valid role. -/
theorem allowedRoles_iff {role : Nat}
    (valid : role = roleAdmin ∨ role = roleMember ∨ role = rolePro) (kind : ActionKind) :
    role &&& allowedRoles kind ≠ 0 ↔ role ∈ documentedRoles kind := by
  rcases valid with rfl | rfl | rfl <;> cases kind <;> decide

/-! ### One opening, eleven branches -/

section

variable (host : Host) (cfg : Cfg) (moment : Moment) (world : World)

/-- The response each branch starts from. -/
def initialResponse (action : Action) : Response :=
  { type := action.type, hasNextPage := false, body := .zero }

/-- What an action does once its user is identified. -/
def branch (action : Action) (user : UserIdentity) : Evaluation :=
  let rep := initialResponse action
  match action with
  | .whois _ userId => evaluateWhois host moment world rep userId
  | .send _ destUserId content => evaluateSend host cfg moment world rep destUserId content user
  | .inbox _ page => evaluateInbox cfg moment world rep page user
  | .rm _ msgId => evaluateRm moment world rep msgId user
  | _ => (.ok rep, world)

/-- **Every branch opens in the same way.** -/
theorem actionEvaluate_eq {action : Action} {constr : Constr} {kind : ActionKind}
    (carries : action.constr? = some constr) (isKind : action.type = .action kind) :
    actionEvaluate host cfg moment world action =
      identified host cfg moment world (initialResponse action) constr (allowedRoles kind)
        (branch host cfg moment world action) := by
  cases action <;> cases isKind <;> cases carries <;> rfl

/-- An error is stored in the response, and that is all. -/
theorem actionEvaluate_error (stored : ActionError) :
    actionEvaluate host cfg moment world (.error stored) =
      (.ok ⟨.error, false, .error stored⟩, world) := rfl

/-- An action is an error, or it has a connection string and a kind. -/
theorem Action.cases_constr (action : Action) :
    (∃ stored, action = .error stored) ∨
      ∃ constr kind, action.constr? = some constr ∧ action.type = .action kind := by
  cases action with
  | error stored => exact Or.inl ⟨stored, rfl⟩
  | _ => exact Or.inr ⟨_, _, rfl, rfl⟩

end

/-! ### The opening -/

section

variable {host : Host} {cfg : Cfg} {moment : Moment} {world : World} {rep : Response}
  {constr : Constr} {allowed : Nat} {go : UserIdentity → Evaluation} {user : UserIdentity}

theorem identified_fault {fault : Fault}
    (stopped : dbVerifyUserConstr host cfg moment world.db .indeterminate constr = .error fault) :
    identified host cfg moment world rep constr allowed go = (.error fault, world) := by
  rw [identified, stopped]

theorem identified_handled
    (failed : dbVerifyUserConstr host cfg moment world.db .indeterminate constr =
      .ok (.handled, user)) :
    identified host cfg moment world rep constr allowed go =
      (.ok (fail rep .internalServerError), world) := by
  rw [identified, failed]

theorem identified_error
    (refused : dbVerifyUserConstr host cfg moment world.db .indeterminate constr =
      .ok (.error, user)) :
    identified host cfg moment world rep constr allowed go =
      (.ok (fail rep .unauthorized), world) := by
  rw [identified, refused]

theorem identified_ok
    (verified : dbVerifyUserConstr host cfg moment world.db .indeterminate constr =
      .ok (.ok, user)) (isAllowed : user.role &&& allowed ≠ 0) :
    identified host cfg moment world rep constr allowed go = go user := by
  rw [identified, verified]
  exact if_neg isAllowed

/-- **The opening ends the evaluation where it found it, or goes on for a verified user.** -/
theorem identified_cases :
    (∃ fault, identified host cfg moment world rep constr allowed go = (.error fault, world)) ∨
    (∃ status, identified host cfg moment world rep constr allowed go =
      (.ok (fail rep status), world)) ∨
    ∃ user, dbVerifyUserConstr host cfg moment world.db .indeterminate constr =
        .ok (.ok, user) ∧ user.role &&& allowed ≠ 0 ∧
      identified host cfg moment world rep constr allowed go = go user := by
  rcases outcome : dbVerifyUserConstr host cfg moment world.db .indeterminate constr with
    fault | ⟨_ | _ | _, user⟩
  · exact Or.inl ⟨fault, identified_fault outcome⟩
  · exact Or.inr (Or.inl ⟨_, identified_handled outcome⟩)
  · exact Or.inr (Or.inl ⟨_, identified_error outcome⟩)
  · by_cases isAllowed : user.role &&& allowed = 0
    · refine Or.inr (Or.inl ⟨.forbidden, ?_⟩)
      rw [identified, outcome]
      exact if_pos isAllowed
    · exact Or.inr (Or.inr ⟨user, rfl, isAllowed, identified_ok outcome isAllowed⟩)

end

section

variable (host : Host) (cfg : Cfg) (moment : Moment) (world : World) (action : Action)
  {constr : Constr} {kind : ActionKind}

/-- Every verified role is among all the roles. -/
theorem role_and_roleAll {user : UserIdentity}
    (valid : user.role = roleAdmin ∨ user.role = roleMember ∨ user.role = rolePro) :
    user.role &&& roleAll ≠ 0 := by
  rcases valid with isRole | isRole | isRole <;> rw [isRole] <;> decide

/-- **Any verified user gets the branch** of an action that is open to all roles. -/
theorem evaluation_of_verified {user : UserIdentity} (carries : action.constr? = some constr)
    (isKind : action.type = .action kind) (isOpen : allowedRoles kind = roleAll)
    (verified : dbVerifyUserConstr host cfg moment world.db .indeterminate constr =
      .ok (.ok, user)) :
    actionEvaluate host cfg moment world action = branch host cfg moment world action user := by
  rw [actionEvaluate_eq host cfg moment world carries isKind, isOpen,
    identified_ok verified (role_and_roleAll (role_of_verified verified))]

/-- **The outcomes of the opening of an action.** -/
theorem evaluation_cases (carries : action.constr? = some constr)
    (isKind : action.type = .action kind) :
    (∃ fault, actionEvaluate host cfg moment world action = (.error fault, world)) ∨
    (∃ status, actionEvaluate host cfg moment world action =
      (.ok ⟨.error, false, .error ⟨.other, .other status⟩⟩, world)) ∨
    ∃ user, dbVerifyUserConstr host cfg moment world.db .indeterminate constr =
        .ok (.ok, user) ∧ user.role &&& allowedRoles kind ≠ 0 ∧
      actionEvaluate host cfg moment world action =
        branch host cfg moment world action user := by
  rw [actionEvaluate_eq host cfg moment world carries isKind]
  exact identified_cases

end

/-! ### Authorised evaluations -/

/-- **The authorisation an evaluation owes.** -/
structure EvaluationAuthorised (host : Host) (cfg : Cfg) (moment : Moment) (world : World)
    (action : Action) : Prop where
  /-- Who changes the database or gets an answer was verified with a documented role. -/
  granted :
    (actionEvaluate host cfg moment world action).2 ≠ world ∨
      (∃ rep, (actionEvaluate host cfg moment world action).1 = .ok rep ∧ rep.type ≠ .error) →
    ∃ constr kind user, action.constr? = some constr ∧ action.type = .action kind ∧
      dbVerifyUserConstr host cfg moment world.db .indeterminate constr = .ok (.ok, user) ∧
      user.role ∈ documentedRoles kind
  /-- A refused connection string gives `401`. -/
  refused : ∀ constr user, action.constr? = some constr →
    dbVerifyUserConstr host cfg moment world.db .indeterminate constr = .ok (.error, user) →
    actionEvaluate host cfg moment world action =
      (.ok ⟨.error, false, .error ⟨.other, .other .unauthorized⟩⟩, world)
  /-- A lookup that fails gives `500`. -/
  failed : ∀ constr user, action.constr? = some constr →
    dbVerifyUserConstr host cfg moment world.db .indeterminate constr = .ok (.handled, user) →
    actionEvaluate host cfg moment world action =
      (.ok ⟨.error, false, .error ⟨.other, .other .internalServerError⟩⟩, world)
  /-- A check that does not return leaves the database as it was. -/
  stopped : ∀ constr fault, action.constr? = some constr →
    dbVerifyUserConstr host cfg moment world.db .indeterminate constr = .error fault →
    actionEvaluate host cfg moment world action = (.error fault, world)

theorem Action.kind_of_constr {action : Action} {constr : Constr}
    (carries : action.constr? = some constr) : ∃ kind, action.type = .action kind := by
  rcases action.cases_constr with ⟨stored, rfl⟩ | ⟨_, kind, _, isKind⟩
  · cases carries
  · exact ⟨kind, isKind⟩

/-- Nothing is done and nothing is answered unless a user is verified with a documented role. -/
theorem granted_of_effect (host : Host) (cfg : Cfg) (moment : Moment) (world : World)
    {action : Action} {constr : Constr} {kind : ActionKind}
    (carries : action.constr? = some constr) (isKind : action.type = .action kind)
    (effect : (actionEvaluate host cfg moment world action).2 ≠ world ∨
      ∃ rep, (actionEvaluate host cfg moment world action).1 = .ok rep ∧ rep.type ≠ .error) :
    ∃ user, dbVerifyUserConstr host cfg moment world.db .indeterminate constr = .ok (.ok, user) ∧
      user.role ∈ documentedRoles kind := by
  rcases evaluation_cases host cfg moment world action carries isKind with
    ⟨fault, stopped⟩ | ⟨status, failed⟩ | ⟨user, verified, isAllowed, _⟩
  · rw [stopped] at effect
    rcases effect with changed | ⟨rep, answered, _⟩
    · exact absurd rfl changed
    · cases answered
  · rw [failed] at effect
    rcases effect with changed | ⟨rep, answered, notError⟩
    · exact absurd rfl changed
    · cases answered
      exact absurd rfl notError
  · exact ⟨user, verified, (allowedRoles_iff (role_of_verified verified) kind).mp isAllowed⟩

/-- **Every evaluation is authorised.** -/
theorem evaluation_authorised (host : Host) (cfg : Cfg) (moment : Moment) (world : World)
    (action : Action) : EvaluationAuthorised host cfg moment world action := by
  refine ⟨?_, ?_, ?_, ?_⟩
  · intro effect
    rcases action.cases_constr with ⟨stored, rfl⟩ | ⟨constr, kind, carries, isKind⟩
    · rw [actionEvaluate_error] at effect
      rcases effect with changed | ⟨rep, answered, notError⟩
      · exact absurd rfl changed
      · cases answered
        exact absurd rfl notError
    · obtain ⟨user, verified, documented⟩ :=
        granted_of_effect host cfg moment world carries isKind effect
      exact ⟨constr, kind, user, carries, isKind, verified, documented⟩
  · intro constr user carries refused
    obtain ⟨kind, isKind⟩ := Action.kind_of_constr carries
    rw [actionEvaluate_eq host cfg moment world carries isKind, identified_error refused]
    rfl
  · intro constr user carries failed
    obtain ⟨kind, isKind⟩ := Action.kind_of_constr carries
    rw [actionEvaluate_eq host cfg moment world carries isKind, identified_handled failed]
    rfl
  · intro constr fault carries stopped
    obtain ⟨kind, isKind⟩ := Action.kind_of_constr carries
    rw [actionEvaluate_eq host cfg moment world carries isKind, identified_fault stopped]

end Tchatator
