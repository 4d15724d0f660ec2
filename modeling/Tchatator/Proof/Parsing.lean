/-
**What parsing returns** (`action_parse`).

* `bind_eq_ok` — a `getarg` that returns does not fail, and hands its argument on: every fact about
  a parsed action is read off the source's `getarg`s with this lemma;
* `throws_getargInt` and its siblings — an argument that is missing, of a wrong type or invalid is
  reported as a bad request, in an error that is well tagged;
* `clampInt32_eq_self_iff`, `clampInt32_pos` — an integer is saturated to 32 bits, and keeps its sign;
* `getargString_ok`, `getargConstr_ok` — an argument that is read comes from the text of its member;
* `parseAction_of_kind` — a request whose action is known is parsed by the branch of its action;
* `content_of_parsed` — the content of a parsed `send` is the JSON text of its argument, cut at the
  first zero byte, with the length of the text.
-/

import Tchatator.Model.ActionParse

namespace Tchatator

/-! ### Computations that throw -/

theorem bind_eq_ok {ε α β : Type} {parsed : Except ε α} {next : α → Except ε β} {result : β}
    (returned : (parsed >>= next) = .ok result) :
    ∃ value, parsed = .ok value ∧ next value = .ok result := by
  cases parsed with
  | error _ => cases returned
  | ok value => exact ⟨value, rfl, returned⟩

/-- Every error thrown is of some kind. -/
def Throws {α : Type} (P : ActionError → Prop) (parsed : Except ActionError α) : Prop :=
  ∀ stored, parsed = .error stored → P stored

section Throws

variable {α β : Type} {P : ActionError → Prop}

theorem Throws.ok (value : α) : Throws P (.ok value) := by
  rintro _ ⟨⟩

theorem Throws.bind {parsed : Except ActionError α} {next : α → Except ActionError β}
    (throws : Throws P parsed) (later : ∀ value, Throws P (next value)) :
    Throws P (parsed >>= next) := by
  intro stored thrown
  cases parsed with
  | error first =>
    cases thrown
    exact throws _ rfl
  | ok value => exact later value stored thrown

end Throws

/-- Every error thrown is well tagged, and not a broken invariant. -/
def Reports {α : Type} (parsed : Except ActionError α) : Prop :=
  ∀ stored, parsed = .error stored → stored.WellTagged ∧ stored.type ≠ .invariant

/-- **A bad request**: a missing key, a wrong type or an invalid value. -/
def BadRequest (stored : ActionError) : Prop :=
  stored.WellTagged ∧ (stored.type = .type ∨ stored.type = .missingKey ∨ stored.type = .invalid)

section Failures

variable {α : Type} (location : Bytes)

theorem throws_failMissingKey :
    Throws BadRequest (failMissingKey location : Except ActionError α) := by
  rintro _ ⟨⟩
  exact ⟨rfl, Or.inr (Or.inl rfl)⟩

theorem throws_failType (joActual : Json) (expected : JsonType) :
    Throws BadRequest (failType location joActual expected : Except ActionError α) := by
  rintro _ ⟨⟩
  exact ⟨rfl, Or.inl rfl⟩

theorem throws_failInvalid (joBad : Json) (reason : Bytes) :
    Throws BadRequest (failInvalid location joBad reason : Except ActionError α) := by
  rintro _ ⟨⟩
  exact ⟨rfl, Or.inr (Or.inr rfl)⟩

end Failures

/-! ### Arguments -/

section Arguments

variable (kind : ActionKind) (joWith : Json) (key : String)

theorem throws_getargKey : Throws BadRequest (getargKey kind joWith key) := by
  unfold getargKey
  split
  · exact throws_failMissingKey _
  · exact .ok _

theorem throws_getargInt : Throws BadRequest (getargInt kind joWith key) := by
  refine (throws_getargKey kind joWith key).bind fun jo => ?_
  split
  · exact throws_failType _ _ _
  · exact .ok _

theorem throws_getargString : Throws BadRequest (getargString kind joWith key) := by
  refine (throws_getargKey kind joWith key).bind fun jo => ?_
  split
  · exact throws_failType _ _ _
  · exact .ok _

theorem throws_getargConstr : Throws BadRequest (getargConstr kind joWith key) := by
  refine (throws_getargKey kind joWith key).bind fun jo => ?_
  split
  · exact throws_failType _ _ _
  · split
    · exact throws_failInvalid _ _ _
    · exact .ok _

theorem throws_getargPage : Throws BadRequest (getargPage kind joWith key) := by
  unfold getargPage
  split
  · exact .ok _
  · refine (throws_getargInt kind joWith key).bind fun page => ?_
    split
    · exact throws_failInvalid _ _ _
    · exact .ok _

variable {kind joWith key}

/-- What a `getarg` finds is there. -/
theorem getargKey_ok {jo : Json} (found : getargKey kind joWith key = .ok jo) :
    jsonObjectObjectGetEx joWith (clit key) = some jo := by
  unfold getargKey at found
  split at found
  · cases found
  · cases found
    assumption

/-- **A text that is read** is cut at its first zero byte, and counted as a whole. -/
theorem getargString_ok {slice : Slice} (read : getargString kind joWith key = .ok slice) :
    ∃ text, jsonObjectObjectGetEx joWith (clit key) = some (.string text) ∧
      slice = ⟨text.length, cstring text⟩ := by
  obtain ⟨jo, found, rest⟩ := bind_eq_ok read
  cases jo with
  | string text =>
    cases rest
    exact ⟨text, getargKey_ok found, rfl⟩
  | _ => cases rest

/-- **A connection string that is read** starts with a UUID. -/
theorem getargConstr_ok {constr : Constr} (read : getargConstr kind joWith key = .ok constr) :
    ∃ text, jsonObjectObjectGetEx joWith (clit key) = some (.string text) ∧
      uuid4ParseSlice text = some constr.apiKey ∧ constr.password = constrPassword text := by
  obtain ⟨jo, found, rest⟩ := bind_eq_ok read
  cases jo with
  | string text =>
    refine ⟨text, getargKey_ok found, ?_⟩
    simp only [jsonObjectGetStringStrict] at rest
    split at rest
    · cases rest
    · cases rest
      exact ⟨by assumption, rfl⟩
  | _ => cases rest

end Arguments

/-! ### Integers -/

section Integers

variable {value : Int}

/-- Saturation keeps an integer exactly when it fits. -/
theorem clampInt32_eq_self_iff :
    clampInt32 value = value ↔ int32Min ≤ value ∧ value ≤ int32Max := by
  unfold clampInt32 int32Min int32Max
  omega

/-- Saturation keeps the sign. -/
theorem clampInt32_pos : 0 < clampInt32 value ↔ 0 < value := by
  unfold clampInt32 int32Min int32Max
  omega

/-- An identifier is not an error status. -/
theorem positive_not_status (positive : 0 < value) :
    value ≠ Errstatus.error.code ∧ value ≠ Errstatus.handled.code := by
  constructor
  · show value ≠ 0
    omega
  · show value ≠ -1
    omega

/-- An argument that is there is what `getarg` finds. -/
theorem getargKey_of_member {kind : ActionKind} {joWith jo : Json} {key : String}
    (given : jsonObjectObjectGetEx joWith (clit key) = some jo) :
    getargKey kind joWith key = .ok jo := by
  rw [getargKey, given]

theorem getargInt_of_int {kind : ActionKind} {joWith : Json} {key : String}
    (given : jsonObjectObjectGetEx joWith (clit key) = some (.int value)) :
    getargInt kind joWith key = .ok (clampInt32 value) := by
  rw [getargInt, getargKey_of_member given]
  rfl

/-- **A positive number names a user by itself**: the database is not asked. -/
theorem getUserId_of_positive (moment : Moment) (db : Db) (positive : 0 < value) :
    getUserId moment db (.int value) = clampInt32 value :=
  if_pos (clampInt32_pos.mpr positive)

end Integers

/-! ### Connection strings -/

section ConnectionStrings

variable {apiKey : Bytes} (isKey : apiKey.length = uuid4ReprLength)
include isKey

/-- An API key alone has no password. -/
theorem constrPassword_alone : constrPassword apiKey = none := by
  have short : ¬ uuid4ReprLength + delimiter.length ≤ apiKey.length := by
    rw [isKey]
    decide
  exact if_neg fun both => short both.1

/-- **What follows the delimiter is the password**, up to its first zero byte. -/
theorem constrPassword_delimited (password : Bytes) :
    constrPassword (apiKey ++ (delimiter ++ password)) = some (cstring password) := by
  have afterKey : (apiKey ++ (delimiter ++ password)).drop uuid4ReprLength =
      delimiter ++ password := List.drop_left' isKey
  have afterDelimiter : (apiKey ++ (delimiter ++ password)).drop
      (uuid4ReprLength + delimiter.length) = password := by
    rw [← List.drop_drop, afterKey, List.drop_left]
  rw [constrPassword, afterDelimiter, afterKey, List.take_left]
  refine if_pos ⟨?_, rfl⟩
  rw [List.length_append, List.length_append, isKey]
  omega

end ConnectionStrings

/-! ### Actions -/

section Actions

variable (moment : Moment) (db : Db)

/-- An action that is parsed is of the kind of its branch. -/
theorem type_of_parseWith {kind : ActionKind} {joWith : Json} {action : Action}
    (parsed : parseWith moment db kind joWith = .ok action) : action.type = .action kind := by
  cases kind with
  | motd =>
    obtain ⟨_, _, rest⟩ := bind_eq_ok parsed
    cases rest
    rfl
  | whois | block | unblock | ban | unban | inbox | outbox | rm =>
    obtain ⟨_, _, rest⟩ := bind_eq_ok parsed
    obtain ⟨_, _, rest⟩ := bind_eq_ok rest
    cases rest
    rfl
  | send | edit =>
    obtain ⟨_, _, rest⟩ := bind_eq_ok parsed
    obtain ⟨_, _, rest⟩ := bind_eq_ok rest
    obtain ⟨_, _, rest⟩ := bind_eq_ok rest
    cases rest
    rfl

section Steps

variable {moment db} {jo joWith : Json} {name : Bytes}

/-- **A request whose action is known is parsed by the branch of its action.** -/
theorem parseAction_of_kind {kind : ActionKind}
    (isDo : jsonObjectObjectGetEx jo (clit "do") = some (.string name))
    (isWith : jsonObjectObjectGetEx jo (clit "with") = some joWith)
    (isKind : actionIs (cstring name) = some kind) :
    parseAction moment db jo = parseWith moment db kind joWith := by
  simp only [parseAction, isDo, isWith, jsonObjectGetStringStrict, isKind]

theorem parseAction_unknown
    (isDo : jsonObjectObjectGetEx jo (clit "do") = some (.string name))
    (isWith : jsonObjectObjectGetEx jo (clit "with") = some joWith)
    (unknown : actionIs (cstring name) = none) :
    parseAction moment db jo = failOther := by
  simp only [parseAction, isDo, isWith, jsonObjectGetStringStrict, unknown]

theorem parseAction_without_with
    (isDo : jsonObjectObjectGetEx jo (clit "do") = some (.string name))
    (absent : jsonObjectObjectGetEx jo (clit "with") = none) :
    parseAction moment db jo = failMissingKey (lit "action.with") := by
  simp only [parseAction, isDo, absent, jsonObjectGetStringStrict]

theorem actionIs_name (kind : ActionKind) : actionIs (clit kind.name) = some kind := by
  cases kind <;> rfl

end Steps

/-- A parsed action was parsed by the branch of its kind, from the member `with`. -/
theorem parseWith_of_parseAction {jo : Json} {action : Action}
    (parsed : parseAction moment db jo = .ok action) :
    ∃ kind joWith, jsonObjectObjectGetEx jo (clit "with") = some joWith ∧
      parseWith moment db kind joWith = .ok action := by
  unfold parseAction at parsed
  split at parsed
  · cases parsed
  · split at parsed
    · cases parsed
    · split at parsed
      · cases parsed
      · rename_i joWith found
        split at parsed
        · cases parsed
        · exact ⟨_, joWith, found, parsed⟩

variable {moment db}

/-- **The content of a parsed `send`** is the text of its argument. -/
theorem content_of_parsed {jo : Json} {constr : Constr} {destUserId : Int} {content : Slice}
    (parsed : actionParse moment db jo = .send constr destUserId content) :
    ∃ joWith text, jsonObjectObjectGetEx jo (clit "with") = some joWith ∧
      jsonObjectObjectGetEx joWith (clit "content") = some (.string text) ∧
      content = ⟨text.length, cstring text⟩ := by
  unfold actionParse at parsed
  split at parsed
  · cases parsed
  · rename_i action isOk
    subst parsed
    obtain ⟨kind, joWith, found, branch⟩ := parseWith_of_parseAction moment db isOk
    have isKind := type_of_parseWith moment db branch
    cases isKind
    obtain ⟨_, _, rest⟩ := bind_eq_ok branch
    obtain ⟨slice, isContent, rest⟩ := bind_eq_ok rest
    obtain ⟨_, _, rest⟩ := bind_eq_ok rest
    cases rest
    obtain ⟨text, isText, rfl⟩ := getargString_ok isContent
    exact ⟨joWith, text, found, isText, rfl⟩

end Actions

end Tchatator
