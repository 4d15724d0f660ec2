/-
**The texts of a request** (`getarg_string`, `getarg_constr`, `action_is`).

* `givenText` — the texts a request gives its action: its name, the password behind the connection
  string, and the content, each with all its bytes;
* `text_of_parsed`, `slice_of_parsed` — an action holds each of them up to its first zero byte, and
  a slice counts all of them;
* `TextsKept`, `TextsFaithful` — the texts of a request are kept byte for byte, what a `send` stores
  is what was counted, and different texts make different actions;
* **`textsFaithful_iff`** — that is so exactly when no text has a zero byte.
-/

import Tchatator.Model.ActionJson
import Tchatator.Model.TestData
import Tchatator.Proof.Evaluation
import Tchatator.Proof.Protocol

namespace Tchatator

/-! ### Texts that are given -/

/-- The texts of a request; the content is that of a `send`, or the new one of an `edit`. -/
inductive RequestText
  | name
  | password
  | content

/-- The argument that holds the content. -/
def contentKey : ActionKind → Option String
  | .send => some "content"
  | .edit => some "new_content"
  | _ => none

/-- The bytes of a member that is a string. -/
def memberText (jo : Json) (key : String) : Option Bytes :=
  (jsonObjectObjectGetEx jo (clit key)).bind jsonObjectGetStringStrict

/-- What follows the delimiter of a connection string. -/
def passwordText (constr : Bytes) : Option Bytes :=
  if (constr.drop uuid4ReprLength).take delimiter.length = delimiter then
    some (constr.drop (uuid4ReprLength + delimiter.length))
  else none

/-- **A text of a request**, with all its bytes. -/
def givenText (jo : Json) : RequestText → Option Bytes
  | .name => memberText jo "do"
  | .password => do
      let joWith ← jsonObjectObjectGetEx jo (clit "with")
      let constr ← memberText joWith "constr"
      passwordText constr
  | .content => do
      let name ← memberText jo "do"
      let kind ← actionIs (cstring name)
      let key ← contentKey kind
      let joWith ← jsonObjectObjectGetEx jo (clit "with")
      memberText joWith key

/-- The slice an action holds. -/
def Action.slice? : Action → Option Slice
  | .send _ _ content => some content
  | .edit _ _ newContent => some newContent
  | _ => none

/-- **A text of an action.** -/
def Action.text? (action : Action) : RequestText → Option CString
  | .name =>
      match action.type with
      | .error => none
      | .action kind => some (clit kind.name)
  | .password => action.constr?.bind Constr.password
  | .content => action.slice?.map Slice.val

/-- No text of a request has a zero byte. -/
def NoZeroText (jo : Json) : Prop :=
  ∀ which text, givenText jo which = some text → 0 ∉ text

/-- **The texts of a request are kept**: a slice counts what it holds, every text is there byte for
byte, and what a `send` stores is what was counted. -/
structure TextsKept (jo : Json) (action : Action) : Prop where
  counted : ∀ slice, action.slice? = some slice → slice.val.1.length = slice.len
  whole : ∀ which, (action.text? which).map Subtype.val = givenText jo which
  stored : ∀ host cfg moment world constr destUserId content,
    action = .send constr destUserId content →
    ∀ row ∈ (actionEvaluate host cfg moment world action).2.db.1.msgs, row ∉ world.db.1.msgs →
      row.content.1.length = content.len ∧ givenText jo .content = some row.content.1

/-- **Texts are faithful**: those of two requests are kept, and they are the same when the actions
are. -/
structure TextsFaithful (first : Json) (action : Action) (second : Json) (other : Action) :
    Prop where
  kept : TextsKept first action
  alsoKept : TextsKept second other
  distinguished : action = other → ∀ which, givenText first which = givenText second which

/-! ### Texts that are read -/

/-- The password that is read is the one that is given, up to its first zero byte. -/
theorem constrPassword_eq (constr : Bytes) :
    constrPassword constr = (passwordText constr).map cstring := by
  unfold constrPassword passwordText
  by_cases delimited : (constr.drop uuid4ReprLength).take delimiter.length = delimiter
  · have long : uuid4ReprLength + delimiter.length ≤ constr.length := by
      have count := congrArg List.length delimited
      have isTwo : delimiter.length = 2 := rfl
      rw [List.length_take, List.length_drop] at count
      omega
    rw [if_pos ⟨long, delimited⟩, if_pos delimited]
    rfl
  · rw [if_neg fun both => delimited both.2, if_neg delimited]
    rfl

section Parsed

variable {moment : Moment} {db : Db} {jo joWith : Json} {kind : ActionKind} {action : Action}

/-- The branch of an action reads its connection string first. -/
theorem constr_of_parseWith (parsed : parseWith moment db kind joWith = .ok action) :
    ∃ constr, action.constr? = some constr ∧ getargConstr kind joWith "constr" = .ok constr := by
  cases kind with
  | motd =>
    obtain ⟨constr, isConstr, rest⟩ := bind_eq_ok parsed
    cases rest
    exact ⟨constr, rfl, isConstr⟩
  | whois | block | unblock | ban | unban | inbox | outbox | rm =>
    obtain ⟨constr, isConstr, rest⟩ := bind_eq_ok parsed
    obtain ⟨_, _, rest⟩ := bind_eq_ok rest
    cases rest
    exact ⟨constr, rfl, isConstr⟩
  | send | edit =>
    obtain ⟨constr, isConstr, rest⟩ := bind_eq_ok parsed
    obtain ⟨_, _, rest⟩ := bind_eq_ok rest
    obtain ⟨_, _, rest⟩ := bind_eq_ok rest
    cases rest
    exact ⟨constr, rfl, isConstr⟩

/-- **The slice of an action** counts the bytes of its argument, and holds them up to the first zero
byte. -/
theorem slice_of_parseWith (parsed : parseWith moment db kind joWith = .ok action) :
    action.slice? = ((contentKey kind).bind (memberText joWith)).map fun text =>
      ⟨text.length, cstring text⟩ := by
  cases kind with
  | motd =>
    obtain ⟨_, _, rest⟩ := bind_eq_ok parsed
    cases rest
    rfl
  | whois | block | unblock | ban | unban | inbox | outbox | rm =>
    obtain ⟨_, _, rest⟩ := bind_eq_ok parsed
    obtain ⟨_, _, rest⟩ := bind_eq_ok rest
    cases rest
    rfl
  | send =>
    obtain ⟨_, _, rest⟩ := bind_eq_ok parsed
    obtain ⟨content, isContent, rest⟩ := bind_eq_ok rest
    obtain ⟨_, _, rest⟩ := bind_eq_ok rest
    cases rest
    obtain ⟨text, found, rfl⟩ := getargString_ok isContent
    simp only [contentKey, Option.bind_some, memberText, found]
    rfl
  | edit =>
    obtain ⟨_, _, rest⟩ := bind_eq_ok parsed
    obtain ⟨_, _, rest⟩ := bind_eq_ok rest
    obtain ⟨newContent, isContent, rest⟩ := bind_eq_ok rest
    cases rest
    obtain ⟨text, found, rfl⟩ := getargString_ok isContent
    simp only [contentKey, Option.bind_some, memberText, found]
    rfl

/-- An action that is not an error is parsed by the branch of its name. -/
theorem branch_of_parsed (parsed : actionParse moment db jo = action)
    (isAction : action.type ≠ .error) :
    ∃ kind name joWith, action.type = .action kind ∧
      jsonObjectObjectGetEx jo (clit "do") = some (.string name) ∧
      cstring name = clit kind.name ∧ jsonObjectObjectGetEx jo (clit "with") = some joWith ∧
      parseWith moment db kind joWith = .ok action := by
  unfold actionParse at parsed
  split at parsed
  · subst parsed
    exact absurd rfl isAction
  · rename_i read
    subst parsed
    rw [parseAction_branch] at read
    obtain ⟨⟨kind, joWith⟩, isBranch, branch⟩ := bind_eq_ok read
    obtain ⟨name, isDo, isName, isWith⟩ := requestBranch_ok_iff.mp isBranch
    exact ⟨kind, name, joWith, type_of_parseWith moment db branch, isDo, isName, isWith, branch⟩

/-- The slice of a parsed action is that of the content that is given. -/
theorem slice_of_parsed (parsed : actionParse moment db jo = action)
    (isAction : action.type ≠ .error) :
    action.slice? = (givenText jo .content).map fun text => ⟨text.length, cstring text⟩ := by
  obtain ⟨kind, name, joWith, _, isDo, isName, isWith, branch⟩ := branch_of_parsed parsed isAction
  rw [slice_of_parseWith branch]
  have isKind := actionIs_iff.mpr isName
  have given : givenText jo .content = (contentKey kind).bind (memberText joWith) := by
    simp only [givenText, memberText, isDo, isWith, Option.bind_some, jsonObjectGetStringStrict,
      bind, isKind]
    rfl
  rw [given]

/-- **An action holds every text that is given, up to its first zero byte.** -/
theorem text_of_parsed (parsed : actionParse moment db jo = action)
    (isAction : action.type ≠ .error) (which : RequestText) :
    action.text? which = (givenText jo which).map cstring := by
  obtain ⟨kind, name, joWith, isType, isDo, isName, isWith, branch⟩ :=
    branch_of_parsed parsed isAction
  cases which with
  | name =>
    simp only [Action.text?, isType, givenText, memberText, isDo, Option.bind_some,
      jsonObjectGetStringStrict, Option.map_some, isName]
  | password =>
    obtain ⟨constr, carries, isConstr⟩ := constr_of_parseWith branch
    obtain ⟨text, found, _, isPassword⟩ := getargConstr_ok isConstr
    simp only [Action.text?, carries, givenText, memberText, isWith, found, Option.bind_some, bind,
      jsonObjectGetStringStrict, isPassword, constrPassword_eq]
  | content =>
    rw [Action.text?, slice_of_parsed parsed isAction, Option.map_map]
    rfl

/-! ### Texts that are kept -/

/-- What a `send` stores is its content. -/
theorem stored_of_send {host : Host} {cfg : Cfg} {world : World} {constr : Constr}
    {destUserId : Int} {content : Slice} {row : MsgRow}
    (isIn : row ∈ (actionEvaluate host cfg moment world
      (.send constr destUserId content)).2.db.1.msgs)
    (isNew : row ∉ world.db.1.msgs) : row.content = content.val := by
  rcases database_outcomes host cfg moment world (.send constr destUserId content) with
    untouched | ⟨_, _, _, user, _, isSend, _, inserted⟩ | ⟨_, _, _, _, _, isRm, _, _⟩
  · rw [untouched.tables] at isIn
    exact absurd isIn isNew
  · cases isSend
    rw [inserted.tables] at isIn
    rcases List.mem_cons.mp isIn with rfl | old
    · rfl
    · exact absurd old isNew
  · cases isRm

/-- **The texts of a request are kept exactly when none has a zero byte.** -/
theorem textsKept_iff (parsed : actionParse moment db jo = action)
    (isAction : action.type ≠ .error) : TextsKept jo action ↔ NoZeroText jo := by
  constructor
  · intro kept which text given
    have whole := kept.whole which
    rw [text_of_parsed parsed isAction, given] at whole
    have same : (cstring text).1 = text := Option.some.inj whole
    rw [← same]
    exact (cstring text).2
  · intro noZero
    have kept : ∀ which text, givenText jo which = some text → (cstring text).1 = text :=
      fun which text given => cstring_of_no_zero (noZero which text given)
    have counted : ∀ slice, action.slice? = some slice →
        ∃ text, givenText jo .content = some text ∧ slice.val.1 = text ∧ slice.len = text.length := by
      intro slice isSlice
      rw [slice_of_parsed parsed isAction] at isSlice
      obtain ⟨text, given, rfl⟩ := Option.map_eq_some_iff.mp isSlice
      exact ⟨text, given, kept .content text given, rfl⟩
    refine ⟨fun slice isSlice => ?_, fun which => ?_, ?_⟩
    · obtain ⟨text, _, same, count⟩ := counted slice isSlice
      rw [same, count]
    · rw [text_of_parsed parsed isAction, Option.map_map]
      cases given : givenText jo which with
      | none => rfl
      | some text => exact congrArg some (kept which text given)
    · rintro host cfg later world constr destUserId content rfl row isIn isNew
      obtain ⟨text, given, same, count⟩ := counted content rfl
      rw [stored_of_send isIn isNew, given, same, count]
      exact ⟨rfl, rfl⟩

end Parsed

/-- **Texts are faithful exactly when none has a zero byte**, over all pairs of requests that are
parsed to actions. -/
theorem textsFaithful_iff {moment later : Moment} {db otherDb : Db} {first second : Json}
    {action other : Action} (parsed : actionParse moment db first = action)
    (isAction : action.type ≠ .error) (alsoParsed : actionParse later otherDb second = other)
    (isOtherAction : other.type ≠ .error) :
    TextsFaithful first action second other ↔ NoZeroText first ∧ NoZeroText second := by
  have firstKept := textsKept_iff parsed isAction
  have secondKept := textsKept_iff alsoParsed isOtherAction
  constructor
  · intro faithful
    exact ⟨firstKept.mp faithful.kept, secondKept.mp faithful.alsoKept⟩
  · rintro ⟨noZero, alsoNoZero⟩
    have kept := firstKept.mpr noZero
    have alsoKept := secondKept.mpr alsoNoZero
    refine ⟨kept, alsoKept, fun same which => ?_⟩
    rw [← kept.whole which, same, alsoKept.whole which]

/-- The first test member sends a content to a professional. -/
def sendRequest (content : Bytes) : Json :=
  .object [member "do" (.string (lit "send")), member "with" (.object
    [member "constr" (.string (lit "123e4567-e89b-12d3-a456-426614174000¤member1_mdp")),
      member "content" (.string content), member "dest" (.int 1001)])]

/-- Two messages without a zero byte. -/
theorem salut_faithful :
    TextsFaithful (sendRequest (lit "salut")) (.send constrMember1 1001 ⟨5, clit "salut"⟩)
      (sendRequest (lit "encore")) (.send constrMember1 1001 ⟨6, clit "encore"⟩) := by
  have noZero : ∀ content : Bytes, 0 ∉ content → NoZeroText (sendRequest content) := by
    intro content plain which text given
    cases which <;> cases given
    · decide
    · decide
    · exact plain
  have salut : actionParse (allUp 0) useTestDataUsers (sendRequest (lit "salut")) =
      .send constrMember1 1001 ⟨5, clit "salut"⟩ := rfl
  have encore : actionParse (allUp 0) useTestDataUsers (sendRequest (lit "encore")) =
      .send constrMember1 1001 ⟨6, clit "encore"⟩ := rfl
  exact (textsFaithful_iff salut (by decide) encore (by decide)).mpr
    ⟨noZero _ (by decide), noZero _ (by decide)⟩

/-- Two messages that differ after a zero byte are parsed to the same action, whose slice counts
more bytes than it holds. -/
theorem zeroByte_not_faithful :
    actionParse (allUp 0) useTestDataUsers (sendRequest [115, 97, 0, 108]) =
        .send constrMember1 1001 ⟨4, clit "sa"⟩ ∧
      actionParse (allUp 0) useTestDataUsers (sendRequest [115, 97, 0, 109]) =
        .send constrMember1 1001 ⟨4, clit "sa"⟩ ∧
      ¬ TextsFaithful (sendRequest [115, 97, 0, 108]) (.send constrMember1 1001 ⟨4, clit "sa"⟩)
        (sendRequest [115, 97, 0, 109]) (.send constrMember1 1001 ⟨4, clit "sa"⟩) := by
  refine ⟨rfl, rfl, fun faithful => ?_⟩
  have same := faithful.distinguished rfl .content
  cases same

end Tchatator
