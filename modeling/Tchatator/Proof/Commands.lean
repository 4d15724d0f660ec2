/-
**Documented requests are parsed as what they ask for** (`action_parse`).

* `Command` — what the protocol lets a client ask for, its arguments in their documented domains: an
  identifier or a page number is a `Serial`, a text has no zero byte, a page may be left out;
* `Documents` — a JSON object asks for a command: its members and the members of `with` are there,
  in any order and among any others, and a page that is left out is not there;
* **`actionParse_documented`** — parsing returns exactly the action of the command, whatever the
  database.
-/

import Tchatator.Model.TestData
import Tchatator.Proof.Parsing
import Tchatator.Proof.Uuid

namespace Tchatator

open Keyed

/-! ### What a client may ask for -/

/-- An identifier, or a page number. -/
abbrev Serial := {number : Int // 1 ≤ number ∧ number ≤ int32Max}

/-- **A command of the protocol**, beside the connection string. -/
inductive Command
  | whois (user : Serial)
  | send (dest : Serial) (content : CString)
  | motd
  | inbox (page : Option Serial)
  | outbox (page : Option Serial)
  | edit (msgId : Serial) (newContent : CString)
  | rm (msgId : Serial)
  | block (user : Serial)
  | unblock (user : Serial)
  | ban (user : Serial)
  | unban (user : Serial)

namespace Command

def kind : Command → ActionKind
  | whois _ => .whois
  | send _ _ => .send
  | motd => .motd
  | inbox _ => .inbox
  | outbox _ => .outbox
  | edit _ _ => .edit
  | rm _ => .rm
  | block _ => .block
  | unblock _ => .unblock
  | ban _ => .ban
  | unban _ => .unban

/-- A text with its byte length. -/
def slice (text : CString) : Slice := ⟨text.1.length, text⟩

/-- The page that is asked for: the first one when it is left out. -/
def pageNumber : Option Serial → Int
  | none => 1
  | some page => page

/-- **The action a command is.** -/
def action (constr : Constr) : Command → Action
  | whois user => .whois constr user
  | send dest content => .send constr dest (slice content)
  | motd => .motd constr
  | inbox page => .inbox constr (pageNumber page)
  | outbox page => .outbox constr (pageNumber page)
  | edit msgId newContent => .edit constr msgId (slice newContent)
  | rm msgId => .rm constr msgId
  | block user => .block constr user
  | unblock user => .unblock constr user
  | ban user => .ban constr user
  | unban user => .unban constr user

end Command

/-- A connection string: the API key, and the password after the delimiter. -/
def constrText (constr : Constr) : Bytes :=
  uuid4Repr constr.apiKey ++
    match constr.password with
    | none => []
    | some password => delimiter ++ password.1

namespace Command

/-- The members of `with`, beside the connection string. -/
def arguments : Command → List (CString × Json)
  | whois user => [(clit "user", .int user)]
  | send dest content => [(clit "dest", .int dest), (clit "content", .string content.1)]
  | motd => []
  | inbox page => page.toList.map fun number => (clit "page", .int number)
  | outbox page => page.toList.map fun number => (clit "page", .int number)
  | edit msgId newContent =>
      [(clit "msg_id", .int msgId), (clit "new_content", .string newContent.1)]
  | rm msgId => [(clit "msg_id", .int msgId)]
  | block user => [(clit "user", .int user)]
  | unblock user => [(clit "user", .int user)]
  | ban user => [(clit "user", .int user)]
  | unban user => [(clit "user", .int user)]

/-- The page is left out. -/
def omitsPage : Command → Prop
  | inbox page => page = none
  | outbox page => page = none
  | _ => False

end Command

/-- **A JSON object asks for a command.** The keys of an object are pairwise different. -/
structure Documents (constr : Constr) (command : Command) (members args : List (CString × Json)) :
    Prop where
  memberNames : Unique Prod.fst members
  hasDo : (clit "do", Json.string (lit command.kind.name)) ∈ members
  hasWith : (clit "with", Json.object args) ∈ members
  argNames : Unique Prod.fst args
  hasConstr : (clit "constr", Json.string (constrText constr)) ∈ args
  hasArguments : ∀ argument ∈ command.arguments, argument ∈ args
  omitsPage : command.omitsPage → ∀ argument ∈ args, argument.1 ≠ clit "page"

/-! ### Members of an object -/

section Lookup

variable {members : List (CString × Json)} {key : CString} {value : Json}

/-- **With different keys, a member that is there is found**, wherever it stands. -/
theorem lookupMember_of_mem (unique : Unique Prod.fst members) (isMember : (key, value) ∈ members) :
    lookupMember key members = some value := by
  induction members with
  | nil => cases isMember
  | cons first rest ih =>
    obtain ⟨fresh, uniqueRest⟩ := unique_cons.mp unique
    rcases List.mem_cons.mp isMember with rfl | later
    · exact if_pos rfl
    · have other : first.1 ≠ key := fun same => fresh _ later same.symm
      exact (if_neg other).trans (ih uniqueRest later)

theorem lookupMember_of_absent (absent : ∀ member ∈ members, member.1 ≠ key) :
    lookupMember key members = none := by
  induction members with
  | nil => rfl
  | cons first rest ih =>
    obtain ⟨other, absentRest⟩ := List.forall_mem_cons.mp absent
    exact (if_neg other).trans (ih absentRest)

end Lookup

/-! ### Arguments -/

section Arguments

variable {kind : ActionKind} {joWith : Json} {key : String}

/-- The connection string is split at its delimiter. -/
theorem constrPassword_text (constr : Constr) :
    constrPassword (constrText constr) = constr.password := by
  obtain ⟨apiKey, password⟩ := constr
  have reprLength := uuid4Repr_length apiKey
  cases password with
  | none =>
    show constrPassword (uuid4Repr apiKey ++ []) = none
    rw [List.append_nil, constrPassword_alone reprLength]
  | some password =>
    show constrPassword (uuid4Repr apiKey ++ (delimiter ++ password.1)) = some password
    rw [constrPassword_delimited reprLength, cstring_val]

theorem getargConstr_text {constr : Constr}
    (found : jsonObjectObjectGetEx joWith (clit key) = some (.string (constrText constr))) :
    getargConstr kind joWith key = .ok constr := by
  have isKey : uuid4ParseSlice (constrText constr) = some constr.apiKey := by
    have long : ¬ (constrText constr).length < uuid4ReprLength := by
      rw [constrText, List.length_append, uuid4Repr_length]
      omega
    rw [uuid4ParseSlice, if_neg long]
    exact uuid4Parse_repr constr.apiKey _
  simp only [getargConstr, getargKey, found, bind, Except.bind, jsonObjectGetStringStrict, isKey,
    constrPassword_text]

theorem clampInt32_serial (number : Serial) : clampInt32 number = number := by
  obtain ⟨number, low, high⟩ := number
  have above : int32Min ≤ number := by
    unfold int32Min
    omega
  exact clampInt32_eq_self_iff.mpr ⟨above, high⟩

theorem getargInt_serial {number : Serial}
    (found : jsonObjectObjectGetEx joWith (clit key) = some (.int number)) :
    getargInt kind joWith key = .ok number := by
  rw [getargInt_of_int found, clampInt32_serial]

theorem getargString_text {text : CString}
    (found : jsonObjectObjectGetEx joWith (clit key) = some (.string text.1)) :
    getargString kind joWith key = .ok (Command.slice text) := by
  simp only [getargString, getargKey, found, bind, Except.bind, jsonObjectGetStringStrict,
    cstring_val, Command.slice]

theorem getargUser_serial (moment : Moment) (db : Db) {user : Serial}
    (found : jsonObjectObjectGetEx joWith (clit key) = some (.int user)) :
    getargUser kind joWith moment db key = .ok user := by
  have positive : 0 < (user : Int) := user.2.1
  obtain ⟨notError, notHandled⟩ := positive_not_status positive
  have isUser : getUserId moment db (.int user) = user := by
    rw [getUserId_of_positive moment db positive, clampInt32_serial]
  simp only [getargUser, getargKey_of_member found, bind, Except.bind, isUser, if_neg notError,
    if_neg notHandled]

theorem getargPage_serial {page : Serial}
    (found : jsonObjectObjectGetEx joWith (clit key) = some (.int page)) :
    getargPage kind joWith key = .ok page := by
  have notBefore : ¬ (page : Int) < 1 := by
    have positive := page.2.1
    omega
  simp only [getargPage, found, getargInt_serial found]
  exact if_neg notBefore

theorem getargPage_omitted (absent : jsonObjectObjectGetEx joWith (clit key) = none) :
    getargPage kind joWith key = .ok 1 := by
  simp only [getargPage, absent]

end Arguments

/-! ### Commands -/

section Commands

variable {constr : Constr} {command : Command} {members args : List (CString × Json)}

/-- **The branch of a command reads its arguments.** -/
theorem parseWith_documented (moment : Moment) (db : Db)
    (documents : Documents constr command members args) :
    parseWith moment db command.kind (.object args) = .ok (command.action constr) := by
  have found : ∀ {key : String} {value : Json}, (clit key, value) ∈ command.arguments →
      jsonObjectObjectGetEx (.object args) (clit key) = some value := fun isArgument =>
    lookupMember_of_mem documents.argNames (documents.hasArguments _ isArgument)
  have isConstr : ∀ kind, getargConstr kind (.object args) "constr" = .ok constr := fun _ =>
    getargConstr_text (lookupMember_of_mem documents.argNames documents.hasConstr)
  have isPage : ∀ kind (page : Option Serial),
      (∀ number ∈ page, (clit "page", Json.int number) ∈ command.arguments) →
      (page = none → command.omitsPage) →
      getargPage kind (.object args) "page" = .ok (Command.pageNumber page) := by
    intro kind page isArgument omitted
    cases page with
    | none => exact getargPage_omitted (lookupMember_of_absent (documents.omitsPage (omitted rfl)))
    | some number => exact getargPage_serial (found (isArgument number rfl))
  cases command with
  | whois user | block user | unblock user | ban user | unban user =>
    have isUser : ∀ kind, getargUser kind (.object args) moment db "user" = .ok user := fun _ =>
      getargUser_serial moment db (found (List.mem_singleton.mpr rfl))
    simp only [Command.kind, parseWith, isConstr, isUser]
    rfl
  | send dest content =>
    have isDest : ∀ kind, getargUser kind (.object args) moment db "dest" = .ok dest := fun _ =>
      getargUser_serial moment db (found (by simp [Command.arguments]))
    have isContent : ∀ kind, getargString kind (.object args) "content" =
        .ok (Command.slice content) := fun _ =>
      getargString_text (found (by simp [Command.arguments]))
    simp only [Command.kind, parseWith, isConstr, isContent, isDest]
    rfl
  | motd =>
    simp only [Command.kind, parseWith, isConstr]
    rfl
  | inbox page | outbox page =>
    have isNumber := fun kind => isPage kind page (fun number given => by
      cases given
      exact List.mem_singleton.mpr rfl) id
    simp only [Command.kind, parseWith, isConstr, isNumber]
    rfl
  | edit msgId newContent =>
    have isMsgId : ∀ kind, getargInt kind (.object args) "msg_id" = .ok msgId := fun _ =>
      getargInt_serial (found (by simp [Command.arguments]))
    have isContent : ∀ kind, getargString kind (.object args) "new_content" =
        .ok (Command.slice newContent) := fun _ =>
      getargString_text (found (by simp [Command.arguments]))
    simp only [Command.kind, parseWith, isConstr, isMsgId, isContent]
    rfl
  | rm msgId =>
    have isMsgId : ∀ kind, getargInt kind (.object args) "msg_id" = .ok msgId := fun _ =>
      getargInt_serial (found (List.mem_singleton.mpr rfl))
    simp only [Command.kind, parseWith, isConstr, isMsgId]
    rfl

/-- **A documented request is parsed as the action it asks for**, with its connection string, its
numbers, its page and its texts, whatever the moment and the database. -/
theorem actionParse_documented (moment : Moment) (db : Db)
    (documents : Documents constr command members args) :
    actionParse moment db (.object members) = command.action constr := by
  have isDo : jsonObjectObjectGetEx (.object members) (clit "do") =
      some (.string (lit command.kind.name)) :=
    lookupMember_of_mem documents.memberNames documents.hasDo
  have isWith : jsonObjectObjectGetEx (.object members) (clit "with") = some (.object args) :=
    lookupMember_of_mem documents.memberNames documents.hasWith
  rw [actionParse, parseAction_of_kind isDo isWith (actionIs_name _),
    parseWith_documented moment db documents]

end Commands

/-- A member asks for their messages, without a page and with a remark of their own. -/
theorem inboxRequest_parsed :
    actionParse (allUp 0) useTestDataUsers (.object
        [(clit "with", .object [(clit "remark", .null),
          (clit "constr", .string (lit "123e4567-e89b-12d3-a456-426614174000¤member1_mdp"))]),
        (clit "do", .string (lit "inbox"))]) =
      .inbox constrMember1 1 := by
  have sameText : lit "123e4567-e89b-12d3-a456-426614174000¤member1_mdp" =
      constrText constrMember1 := by decide
  rw [sameText]
  have documents : Documents constrMember1 (.inbox none)
      [(clit "with", .object [(clit "remark", .null),
        (clit "constr", .string (constrText constrMember1))]), (clit "do", .string (lit "inbox"))]
      [(clit "remark", .null), (clit "constr", .string (constrText constrMember1))] :=
    { memberNames := by decide
      hasDo := List.mem_cons_of_mem _ List.mem_cons_self
      hasWith := List.mem_cons_self
      argNames := by decide
      hasConstr := List.mem_cons_of_mem _ List.mem_cons_self
      hasArguments := fun _ isArgument => absurd isArgument List.not_mem_nil
      omitsPage := by
        intro _ argument isArgument
        simp only [List.mem_cons, List.not_mem_nil, or_false] at isArgument
        rcases isArgument with rfl | rfl <;> decide }
  exact actionParse_documented (allUp 0) useTestDataUsers documents

end Tchatator
