/-
**The reader of connection strings** (`getarg_constr`).

* `IsConnectionString` — a UUID, alone or followed by the delimiter and a password;
* `HasTrailingText` — a UUID followed by anything else;
* `ReadExactly` — what is accepted is a connection string, writing it back gives the text up to the
  case of its digits, and a text that was written is read back;
* **`readExactly_iff`** — a text without a zero byte is read exactly unless it has trailing text: it
  is then accepted as a UUID alone.
-/

import Tchatator.Proof.Commands
import Tchatator.Proof.Protocol

namespace Tchatator

/-- **A connection string**: a UUID, and maybe the delimiter and a password. -/
def IsConnectionString (text : Bytes) : Prop :=
  ∃ key rest, text = key ++ rest ∧ IsUuid key ∧
    (rest = [] ∨ ∃ password, rest = delimiter ++ password)

/-- A UUID, and something else than the delimiter. -/
def HasTrailingText (text : Bytes) : Prop :=
  ∃ key rest, text = key ++ rest ∧ IsUuid key ∧
    rest ≠ [] ∧ ∀ password, rest ≠ delimiter ++ password

/-- A connection string with the digits of its UUID in lower case. -/
def lowerKey (text : Bytes) : Bytes :=
  (text.take uuid4ReprLength).map lowerDigit ++ text.drop uuid4ReprLength

/-- **An argument is read exactly.** -/
structure ReadExactly (kind : ActionKind) (joWith : Json) (key : String) (text : Bytes) :
    Prop where
  accepts : Returns (getargConstr kind joWith key) ↔ IsConnectionString text
  writtenBack : ∀ constr, getargConstr kind joWith key = .ok constr →
    constrText constr = lowerKey text
  readBack : ∀ constr, constrText constr = text → getargConstr kind joWith key = .ok constr

section Reading

variable {kind : ActionKind} {joWith : Json} {key : String} {text : Bytes}

/-- What is accepted starts with a UUID. -/
theorem accepted_iff (given : jsonObjectObjectGetEx joWith (clit key) = some (.string text)) :
    Returns (getargConstr kind joWith key) ↔ ∃ apiKey rest, text = apiKey ++ rest ∧ IsUuid apiKey := by
  rw [getargConstr_returns_iff, given]
  constructor
  · rintro ⟨_, isText, reads⟩
    cases isText
    exact ⟨_, _, (List.take_append_drop uuid4ReprLength text).symm,
      (uuid4ParseSlice_returns_iff text).mp reads⟩
  · rintro ⟨apiKey, rest, rfl, isUuid⟩
    refine ⟨_, rfl, (uuid4ParseSlice_returns_iff _).mpr ?_⟩
    rw [List.take_left' isUuid.length]
    exact isUuid

/-- A text is split in one way. -/
theorem rest_unique {first second rest other : Bytes} (isUuid : IsUuid first)
    (isUuidToo : IsUuid second) (same : first ++ rest = second ++ other) : rest = other :=
  (List.append_inj same (isUuid.length.trans isUuidToo.length.symm)).2

/-- **A connection string that is read is written back**, with its digits in lower case. -/
theorem constrText_of_read {constr : Constr} (noZero : 0 ∉ text)
    (given : jsonObjectObjectGetEx joWith (clit key) = some (.string text))
    (isConstr : IsConnectionString text) (read : getargConstr kind joWith key = .ok constr) :
    constrText constr = lowerKey text := by
  obtain ⟨other, found, isKey, isPassword⟩ := getargConstr_ok read
  cases given.symm.trans found
  have written := uuid4Repr_of_parsed isKey
  obtain ⟨apiKey, rest, rfl, isUuid, alone | ⟨password, delimited⟩⟩ := isConstr
  · subst alone
    rw [List.append_nil, constrPassword_alone isUuid.length] at isPassword
    rw [constrText, isPassword, written, lowerKey, List.append_nil, List.append_nil,
      List.drop_of_length_le (le_of_eq isUuid.length), List.append_nil]
  · subst delimited
    rw [constrPassword_delimited isUuid.length] at isPassword
    have plain : 0 ∉ password := fun isIn =>
      noZero (List.mem_append_right _ (List.mem_append_right _ isIn))
    rw [constrText, isPassword, written, lowerKey, List.drop_left' isUuid.length]
    show _ ++ (delimiter ++ (cstring password).1) = _
    rw [cstring_of_no_zero plain]

/-- **A text without a zero byte is read exactly unless it has trailing text.** -/
theorem readExactly_iff (noZero : 0 ∉ text)
    (given : jsonObjectObjectGetEx joWith (clit key) = some (.string text)) :
    ReadExactly kind joWith key text ↔ ¬ HasTrailingText text := by
  constructor
  · rintro isExact ⟨apiKey, rest, isText, isUuid, notAlone, notDelimited⟩
    obtain ⟨second, other, same, isUuidToo, isRest⟩ :=
      isExact.accepts.mp ((accepted_iff given).mpr ⟨apiKey, rest, isText, isUuid⟩)
    have sameRest := rest_unique isUuid isUuidToo (isText.symm.trans same)
    subst sameRest
    rcases isRest with alone | ⟨password, delimited⟩
    · exact notAlone alone
    · exact notDelimited password delimited
  · intro noTrailing
    have accepts : Returns (getargConstr kind joWith key) ↔ IsConnectionString text := by
      rw [accepted_iff given]
      constructor
      · rintro ⟨apiKey, rest, isText, isUuid⟩
        refine ⟨apiKey, rest, isText, isUuid, ?_⟩
        by_contra neither
        obtain ⟨notAlone, notDelimited⟩ := not_or.mp neither
        exact noTrailing ⟨apiKey, rest, isText, isUuid, notAlone, not_exists.mp notDelimited⟩
      · rintro ⟨apiKey, rest, isText, isUuid, _⟩
        exact ⟨apiKey, rest, isText, isUuid⟩
    refine ⟨accepts, fun constr read => ?_, ?_⟩
    · exact constrText_of_read noZero given (accepts.mp ⟨constr, read⟩) read
    · rintro constr rfl
      exact getargConstr_text given

end Reading

/-- The connection string of the first test member is read exactly. -/
theorem constrMember1_readExactly :
    ReadExactly .motd (.object [(clit "constr", .string (constrText constrMember1))]) "constr"
      (constrText constrMember1) := by
  refine (readExactly_iff (by decide) rfl).mpr ?_
  rintro ⟨apiKey, rest, same, isUuid, _, notDelimited⟩
  have isRest : rest = delimiter ++ lit "member1_mdp" :=
    (List.append_inj same.symm (isUuid.length.trans (uuid4Repr_length _).symm)).2
  exact notDelimited _ isRest

/-- A UUID with a forgotten delimiter. -/
def undelimited : Bytes := lit "123e4567-e89b-12d3-a456-426614174000member1_mdp"

/-- A password behind a forgotten delimiter is dropped: the key is accepted alone. -/
theorem undelimited_accepted :
    getargConstr .motd (.object [(clit "constr", .string undelimited)]) "constr" =
        .ok ⟨apiKeyMember1, none⟩ ∧
      ¬ IsConnectionString undelimited ∧
      ¬ ReadExactly .motd (.object [(clit "constr", .string undelimited)]) "constr" undelimited := by
  have accepted : getargConstr .motd (.object [(clit "constr", .string undelimited)]) "constr" =
      .ok ⟨apiKeyMember1, none⟩ := rfl
  have notString : ¬ IsConnectionString undelimited := by
    rintro ⟨apiKey, rest, same, isUuid, isRest⟩
    have whole : undelimited = lit "123e4567-e89b-12d3-a456-426614174000" ++ lit "member1_mdp" := rfl
    obtain rfl : rest = lit "member1_mdp" :=
      (List.append_inj (same.symm.trans whole) isUuid.length).2
    rcases isRest with alone | ⟨password, delimited⟩
    · cases alone
    · exact absurd (List.cons.inj delimited).1 (by decide)
  exact ⟨accepted, notString, fun readExactly => notString (readExactly.accepts.mp ⟨_, accepted⟩)⟩

end Tchatator
