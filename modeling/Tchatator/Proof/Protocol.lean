/-
**What the protocol asks of a request** (`action_parse`).

* `documentedArguments` — the arguments of every action with their types, as the protocol lists
  them; `WellFormed` — a request names an action and gives its arguments values of their types;
* `parseForm_returns_iff` — the branch of an action reads its arguments exactly when they are;
* **`requestForm_returns_iff`** — a request is read exactly when it is well formed, whichever
  arguments it gives beside, and in whichever order.
-/

import Tchatator.Proof.Forms

namespace Tchatator

/-! ### The documented arguments -/

/-- The documented types of arguments. -/
inductive ArgumentType
  | connectionString
  | userKey
  | integer
  | string
  | page
deriving DecidableEq

/-- **A value is of a type**; a page may be left out. -/
def ArgumentType.Accepts : ArgumentType → Option Json → Prop
  | .connectionString, value =>
      ∃ text, value = some (.string text) ∧ ∃ apiKey, uuid4ParseSlice text = some apiKey
  | .userKey, value => ∃ joUser, value = some joUser ∧ UserKey joUser
  | .integer, value => ∃ number, value = some (.int number)
  | .string, value => ∃ text, value = some (.string text)
  | .page, value => value = none ∨ ∃ number, value = some (.int number) ∧ 1 ≤ number

/-- The documented arguments of an action. -/
def documentedArguments : ActionKind → List (String × ArgumentType)
  | .motd => [("constr", .connectionString)]
  | .whois | .block | .unblock | .ban | .unban =>
      [("constr", .connectionString), ("user", .userKey)]
  | .send => [("constr", .connectionString), ("dest", .userKey), ("content", .string)]
  | .inbox | .outbox => [("constr", .connectionString), ("page", .page)]
  | .edit => [("constr", .connectionString), ("msg_id", .integer), ("new_content", .string)]
  | .rm => [("constr", .connectionString), ("msg_id", .integer)]

/-- **A request is well formed**: it names an action, and its arguments are there and of their
types. -/
def WellFormed (jo : Json) : Prop :=
  ∃ kind name joWith, jsonObjectObjectGetEx jo (clit "do") = some (.string name) ∧
    cstring name = clit (ActionKind.name kind) ∧
    jsonObjectObjectGetEx jo (clit "with") = some joWith ∧
    ∀ argument ∈ documentedArguments kind,
      argument.2.Accepts (jsonObjectObjectGetEx joWith (clit argument.1))

/-! ### Computations that return -/

/-- A computation returns. -/
def Returns {ε α : Type} (parsed : Except ε α) : Prop := ∃ value, parsed = .ok value

section Returns

variable {ε α β : Type}

@[simp]
theorem returns_ok (value : α) : Returns (.ok value : Except ε α) := ⟨value, rfl⟩

@[simp]
theorem not_returns_error (stored : ε) : ¬ Returns (.error stored : Except ε α) := by
  rintro ⟨_, ⟨⟩⟩

/-- A computation in two steps returns when both do. -/
theorem returns_bind_iff {parsed : Except ε α} {next : α → Except ε β} {P : Prop}
    (later : ∀ value, Returns (next value) ↔ P) :
    Returns (parsed >>= next) ↔ Returns parsed ∧ P := by
  cases parsed with
  | error stored =>
    refine iff_of_false ?_ fun both => not_returns_error stored both.1
    rintro ⟨_, ⟨⟩⟩
  | ok value =>
    rw [and_iff_right (returns_ok value), ← later value]
    rfl

end Returns

section Arguments

variable (kind : ActionKind) (joWith : Json) (key : String)

/-- The value of an argument. -/
theorem getargKey_eq :
    getargKey kind joWith key =
      match jsonObjectObjectGetEx joWith (clit key) with
      | none => failMissingKey (argLoc kind key)
      | some jo => .ok jo := rfl

theorem getargInt_returns_iff :
    Returns (getargInt kind joWith key) ↔
      ArgumentType.integer.Accepts (jsonObjectObjectGetEx joWith (clit key)) := by
  rw [getargInt, getargKey_eq]
  rcases jsonObjectObjectGetEx joWith (clit key) with _ | jo
  · simp [ArgumentType.Accepts, bind, Except.bind, failMissingKey]
  · cases jo <;>
      simp [ArgumentType.Accepts, bind, Except.bind, failType, jsonObjectGetIntStrict]

theorem getargString_returns_iff :
    Returns (getargString kind joWith key) ↔
      ArgumentType.string.Accepts (jsonObjectObjectGetEx joWith (clit key)) := by
  rw [getargString, getargKey_eq]
  rcases jsonObjectObjectGetEx joWith (clit key) with _ | jo
  · simp [ArgumentType.Accepts, bind, Except.bind, failMissingKey]
  · cases jo <;>
      simp [ArgumentType.Accepts, bind, Except.bind, failType, jsonObjectGetStringStrict]

theorem getargConstr_returns_iff :
    Returns (getargConstr kind joWith key) ↔
      ArgumentType.connectionString.Accepts (jsonObjectObjectGetEx joWith (clit key)) := by
  rw [getargConstr, getargKey_eq]
  rcases jsonObjectObjectGetEx joWith (clit key) with _ | jo
  · simp [ArgumentType.Accepts, bind, Except.bind, failMissingKey]
  · cases jo with
    | string text =>
      cases parsed : uuid4ParseSlice text <;>
        simp [ArgumentType.Accepts, bind, Except.bind, jsonObjectGetStringStrict, failInvalid,
          parsed]
    | _ => simp [ArgumentType.Accepts, bind, Except.bind, failType, jsonObjectGetStringStrict]

theorem getargUserKey_returns_iff :
    Returns (getargUserKey kind joWith key) ↔
      ArgumentType.userKey.Accepts (jsonObjectObjectGetEx joWith (clit key)) := by
  rw [getargUserKey, getargKey_eq]
  cases jsonObjectObjectGetEx joWith (clit key) with
  | none => simp [ArgumentType.Accepts, bind, Except.bind, failMissingKey]
  | some joUser =>
    by_cases isKey : UserKey joUser <;>
      simp [ArgumentType.Accepts, bind, Except.bind, failInvalid, isKey]

theorem clampInt32_lt_one {value : Int} : clampInt32 value < 1 ↔ value < 1 := by
  have sign : 0 < clampInt32 value ↔ 0 < value := clampInt32_pos
  omega

theorem getargPage_returns_iff :
    Returns (getargPage kind joWith key) ↔
      ArgumentType.page.Accepts (jsonObjectObjectGetEx joWith (clit key)) := by
  rw [getargPage, getargInt, getargKey_eq]
  rcases jsonObjectObjectGetEx joWith (clit key) with _ | jo
  · simp [ArgumentType.Accepts]
  · cases jo with
    | int value =>
      by_cases low : value < 1
      · have notHigh : ¬ 1 ≤ value := by omega
        simp [ArgumentType.Accepts, bind, Except.bind, jsonObjectGetIntStrict, failInvalid,
          clampInt32_lt_one, low, notHigh]
      · have high : 1 ≤ value := by omega
        simp [ArgumentType.Accepts, bind, Except.bind, jsonObjectGetIntStrict, clampInt32_lt_one,
          low, high]
    | _ => simp [ArgumentType.Accepts, bind, Except.bind, failType, jsonObjectGetIntStrict]

end Arguments

/-! ### Requests -/

/-- **The branch of an action reads its arguments exactly when they are there and of their types.** -/
theorem parseForm_returns_iff (kind : ActionKind) (joWith : Json) :
    Returns (parseForm kind joWith) ↔
      ∀ argument ∈ documentedArguments kind,
        argument.2.Accepts (jsonObjectObjectGetEx joWith (clit argument.1)) := by
  cases kind with
  | motd =>
    refine (returns_bind_iff fun _ => iff_of_true ⟨_, rfl⟩ trivial).trans ?_
    rw [getargConstr_returns_iff]
    simp [documentedArguments]
  | whois | block | unblock | ban | unban =>
    refine (returns_bind_iff fun _ =>
      returns_bind_iff fun _ => iff_of_true ⟨_, rfl⟩ trivial).trans ?_
    rw [getargConstr_returns_iff, getargUserKey_returns_iff]
    simp [documentedArguments]
  | send =>
    refine (returns_bind_iff fun _ => returns_bind_iff fun _ =>
      returns_bind_iff fun _ => iff_of_true ⟨_, rfl⟩ trivial).trans ?_
    rw [getargConstr_returns_iff, getargString_returns_iff, getargUserKey_returns_iff]
    simp [documentedArguments, and_comm]
  | inbox | outbox =>
    refine (returns_bind_iff fun _ =>
      returns_bind_iff fun _ => iff_of_true ⟨_, rfl⟩ trivial).trans ?_
    rw [getargConstr_returns_iff, getargPage_returns_iff]
    simp [documentedArguments]
  | edit =>
    refine (returns_bind_iff fun _ => returns_bind_iff fun _ =>
      returns_bind_iff fun _ => iff_of_true ⟨_, rfl⟩ trivial).trans ?_
    rw [getargConstr_returns_iff, getargInt_returns_iff, getargString_returns_iff]
    simp [documentedArguments]
  | rm =>
    refine (returns_bind_iff fun _ =>
      returns_bind_iff fun _ => iff_of_true ⟨_, rfl⟩ trivial).trans ?_
    rw [getargConstr_returns_iff, getargInt_returns_iff]
    simp [documentedArguments]

/-- An action is known by its name. -/
theorem actionIs_iff {name : CString} {kind : ActionKind} :
    actionIs name = some kind ↔ name = clit kind.name := by
  constructor
  · intro isKind
    have named := List.find?_some isKind
    simpa [streq, eq_comm] using named
  · rintro rfl
    cases kind <;> rfl

/-- The branch of a request is read from the members `do` and `with`. -/
theorem requestBranch_ok_iff {jo : Json} {kind : ActionKind} {joWith : Json} :
    requestBranch jo = .ok (kind, joWith) ↔
      ∃ name, jsonObjectObjectGetEx jo (clit "do") = some (.string name) ∧
        cstring name = clit kind.name ∧ jsonObjectObjectGetEx jo (clit "with") = some joWith := by
  constructor
  · intro isBranch
    rcases requestBranch_cases jo with
      ⟨stored, isError, _⟩ | ⟨failed, _⟩ | ⟨name, _, _, alsoBranch, isDo, isWith, isKind⟩
    · cases isError.symm.trans isBranch
    · cases failed.symm.trans isBranch
    · cases alsoBranch.symm.trans isBranch
      exact ⟨name, isDo, actionIs_iff.mp isKind, isWith⟩
  · rintro ⟨name, isDo, isName, isWith⟩
    simp only [requestBranch, isDo, jsonObjectGetStringStrict, isWith, actionIs_iff.mpr isName]

/-- **A request is read exactly when it is well formed.** -/
theorem requestForm_returns_iff (jo : Json) : Returns (requestForm jo) ↔ WellFormed jo := by
  have read : Returns (requestForm jo) ↔
      ∃ kind joWith, requestBranch jo = .ok (kind, joWith) ∧ Returns (parseForm kind joWith) := by
    rw [requestForm]
    cases requestBranch jo with
    | error stored => simp [bind, Except.bind]
    | ok branch =>
      obtain ⟨kind, joWith⟩ := branch
      have parsed : Returns (parseForm kind joWith >>= fun form => .ok (kind, form)) ↔
          Returns (parseForm kind joWith) ∧ True :=
        returns_bind_iff fun form => iff_of_true (returns_ok (kind, form)) trivial
      simp only [Except.ok.injEq, Prod.mk.injEq]
      refine parsed.trans ⟨fun both => ⟨kind, joWith, ⟨rfl, rfl⟩, both.1⟩, ?_⟩
      rintro ⟨_, _, ⟨rfl, rfl⟩, returned⟩
      exact ⟨returned, trivial⟩
  rw [read]
  constructor
  · rintro ⟨kind, joWith, isBranch, returned⟩
    obtain ⟨name, isDo, isName, isWith⟩ := requestBranch_ok_iff.mp isBranch
    exact ⟨kind, name, joWith, isDo, isName, isWith,
      (parseForm_returns_iff kind joWith).mp returned⟩
  · rintro ⟨kind, name, joWith, isDo, isName, isWith, accepted⟩
    exact ⟨kind, joWith, requestBranch_ok_iff.mpr ⟨name, isDo, isName, isWith⟩,
      (parseForm_returns_iff kind joWith).mpr accepted⟩

end Tchatator
