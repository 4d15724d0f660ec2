/-
**The client and the server do not speak the same protocol** (`client.c`, `action_parse`).

* `Agrees` — a request of a menu entry is parsed into an action of the kind the entry names, with
  the destination, the content, the identifier or the user that was typed;
* `parseWith_without_constr` — each of the eleven branches starts by asking for a connection string;
* **`client_never_agrees`** — no entry of the menu ever agrees with the server, whatever is typed: a
  request of the client holds the token of a login that the server does not know, where the
  server asks for a connection string.
-/

import Tchatator.Model.Client
import Tchatator.Model.TestData
import Tchatator.Proof.Parsing

namespace Tchatator

/-! ### Agreement -/

/-- The action a menu entry names. Logging in and out are no actions of the protocol. -/
def menuNames : Int → Option ActionKind
  | 3 => some .send
  | 5 => some .rm
  | 6 => some .inbox
  | 7 => some .motd
  | 8 => some .outbox
  | 9 => some .block
  | 10 => some .unblock
  | 11 => some .ban
  | 12 => some .unban
  | _ => none

/-- An action carries what the user typed; a user is typed by name. -/
def CarriesTyped (moment : Moment) (db : Db) (typed : Typed) : Action → Prop
  | .error _ => False
  | .send _ destUserId content =>
      destUserId = getUserId moment db (jsonObjectNewString typed.destBuffer) ∧
        content.val = typed.contentBuffer
  | .rm _ msgId => msgId = typed.msgId
  | .block _ userId | .unblock _ userId | .ban _ userId | .unban _ userId =>
      userId = getUserId moment db (jsonObjectNewString typed.destBuffer)
  | _ => True

/-- **Client and server agree on a request.** -/
structure Agrees (moment : Moment) (db : Db) (typed : Typed) (choix : Int) (jo : Json) : Prop where
  kind : ∃ kind ∈ menuNames choix, (actionParse moment db jo).type = .action kind
  carries : CarriesTyped moment db typed (actionParse moment db jo)

theorem not_agrees_of_error {moment : Moment} {db : Db} {typed : Typed} {choix : Int} {jo : Json}
    {stored : ActionError} (failed : parseAction moment db jo = .error stored) :
    ¬ Agrees moment db typed choix jo := by
  rintro ⟨_, carries⟩
  rw [actionParse, failed] at carries
  exact carries

/-! ### What the server misses -/

section

variable (moment : Moment) (db : Db)

/-- **Every branch asks for a connection string first.** -/
theorem parseWith_without_constr (kind : ActionKind) {joWith : Json}
    (absent : jsonObjectObjectGetEx joWith (clit "constr") = none) :
    parseWith moment db kind joWith =
      .error ⟨.missingKey, .missingKey (argLoc kind "constr")⟩ := by
  have missing : getargConstr kind joWith "constr" =
      .error ⟨.missingKey, .missingKey (argLoc kind "constr")⟩ := by
    simp only [getargConstr, getargKey, absent]
    rfl
  cases kind <;> (simp only [parseWith, missing]; rfl)

/-- A request with a token where the server expects a connection string. -/
theorem requestWithToken_refused (kind : ActionKind) (token : Int) {args : List (CString × Json)}
    (absent : lookupMember (clit "constr") args = none) :
    parseAction moment db (requestWithToken kind.name token args) =
      .error ⟨.missingKey, .missingKey (argLoc kind "constr")⟩ := by
  have noConstr : jsonObjectObjectGetEx (.object (member "token" (.int token) :: args))
      (clit "constr") = none := absent
  rw [requestWithToken, parseAction_of_kind rfl rfl (actionIs_name kind),
    parseWith_without_constr moment db kind noConstr]

/-- **Every request of the client is parsed as an error.** -/
theorem menuRequest_refused {token : Int} {typed : Typed} {choix : Int} {jo : Json}
    (sent : menuRequest token typed choix = some jo) :
    ∃ stored, parseAction moment db jo = .error stored := by
  unfold menuRequest at sent
  split at sent <;> cases sent
  · exact ⟨_, parseAction_unknown rfl rfl rfl⟩
  · exact ⟨_, parseAction_without_with rfl rfl⟩
  · exact ⟨_, requestWithToken_refused moment db .send token rfl⟩
  · exact ⟨_, parseAction_without_with rfl rfl⟩
  · exact ⟨_, requestWithToken_refused moment db .inbox token rfl⟩
  · exact ⟨_, requestWithToken_refused moment db .motd token rfl⟩
  · exact ⟨_, requestWithToken_refused moment db .outbox token rfl⟩
  · exact ⟨_, requestWithToken_refused moment db .block token rfl⟩
  · exact ⟨_, requestWithToken_refused moment db .unblock token rfl⟩
  · exact ⟨_, requestWithToken_refused moment db .block token rfl⟩
  · exact ⟨_, requestWithToken_refused moment db .unblock token rfl⟩

/-- **No entry of the menu agrees with the server**: what it sends is parsed as an error, whatever
the token, what is typed and the database. -/
theorem client_never_agrees (token : Int) (typed : Typed) (choix : Int) :
    ∀ jo ∈ menuRequest token typed choix,
      (∃ stored, actionParse moment db jo = .error stored) ∧
        ¬ Agrees moment db typed choix jo := by
  intro jo sent
  obtain ⟨stored, failed⟩ := menuRequest_refused moment db sent
  exact ⟨⟨stored, by rw [actionParse, failed]⟩, not_agrees_of_error failed⟩

end

/-- What a user types to write to a professional of the test data. -/
def typedSalut : Typed :=
  { apiKey := [], password := [], dest := lit "pro1 corp\n", content := lit "salut\n", msgId := 0 }

/-- Writing a message is refused. -/
theorem salut_never_agrees :
    (∃ stored, actionParse (allUp 0) useTestDataUsers
        (sendMessage 0 (clit "pro1 corp") (clit "salut")) = .error stored) ∧
      ¬ Agrees (allUp 0) useTestDataUsers typedSalut 3
        (sendMessage 0 (clit "pro1 corp") (clit "salut")) :=
  client_never_agrees (allUp 0) useTestDataUsers 0 typedSalut 3 _ (by
    show some (sendMessage 0 typedSalut.destBuffer typedSalut.contentBuffer) = _
    have isDest : typedSalut.destBuffer = clit "pro1 corp" := by decide
    have isContent : typedSalut.contentBuffer = clit "salut" := by decide
    rw [isDest, isContent])

/-- Banning a user sends the request of another entry, and it is refused too. -/
theorem ban_not_agrees :
    menuRequest 0 typedSalut 11 = some (clientBlock 0 typedSalut.destBuffer) ∧
      ¬ Agrees (allUp 0) useTestDataUsers typedSalut 11 (clientBlock 0 typedSalut.destBuffer) :=
  ⟨rfl, not_agrees_of_error (requestWithToken_refused (allUp 0) useTestDataUsers .block 0 rfl)⟩

end Tchatator
