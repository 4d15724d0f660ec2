/-
**What is kept secret** (`db_verify_user_constr`, `db_get_inbox`, and everything else).

The server is followed in two databases that differ in the API keys and the password hashes of their
users and in the contents of some messages, and in nothing else.

* `Secrets` — an API key and a password hash for every user, and other contents for some messages;
  `withSecrets` puts them in some tables, in a database, in the process;
* the lemmas on the data layer — `db_verify_user_constr` reads the credentials, `db_get_inbox` the
  contents, and nothing else does; what is written in one database is written in the other;
* `Unnoticed` — an action whose connection string is judged alike in both, and which reads no inbox
  that holds a message with another content;
* `actionEvaluate_withSecrets`, `interpret_withSecrets` — it has the same answer and the same effect,
  and so have the actions of a request;
* `Unnoticed.of_spared` — a connection string is judged alike if its key is not one that is given or
  taken away;
* **`run_withSecrets`** — in every run whose actions are all unnoticed, the process goes through the
  same points and sends every client the same bytes, whatever the secrets are.
-/

import Tchatator.Proof.History
import Tchatator.Proof.Interactive

namespace Tchatator

open Keyed

/-! ### Other secrets -/

/-- An API key and a password hash for every user, and other contents for some messages. -/
structure Secrets where
  credentials : Int → Uuid4 × Option CString
  contents : Int → Option CString

section

variable (secrets : Secrets)

def UserRow.withSecrets (user : UserRow) : UserRow :=
  { userId := user.userId
    apiKey := (secrets.credentials user.userId).1
    passwordHash := (secrets.credentials user.userId).2 }

def UserViewRow.withSecrets (row : UserViewRow) : UserViewRow :=
  { row with
    apiKey := (secrets.credentials row.userId).1
    passwordHash := (secrets.credentials row.userId).2 }

def MsgRow.withSecrets (row : MsgRow) : MsgRow :=
  { row with content := (secrets.contents row.msgId).getD row.content }

namespace Tables

variable (tables : Tables)

/-- **The same tables, with other secrets.** -/
def withSecrets : Tables :=
  { tables with
    users := tables.users.map (UserRow.withSecrets secrets)
    msgs := tables.msgs.map (MsgRow.withSecrets secrets) }

theorem hasUser_withSecrets (userId : Int) :
    (tables.withSecrets secrets).HasUser userId ↔ tables.HasUser userId := by
  show (∃ row ∈ tables.users.map (UserRow.withSecrets secrets), row.userId = userId) ↔
    ∃ row ∈ tables.users, row.userId = userId
  simp only [List.mem_map, exists_exists_and_eq_and, UserRow.withSecrets]

theorem userPkey_withSecrets :
    Unique UserRow.userId (tables.withSecrets secrets).users ↔
      Unique UserRow.userId tables.users := by
  unfold Keyed.Unique withSecrets
  rw [List.map_map]
  rfl

theorem msgPkey_withSecrets :
    Unique MsgRow.msgId (tables.withSecrets secrets).msgs ↔ Unique MsgRow.msgId tables.msgs := by
  unfold Keyed.Unique withSecrets
  rw [List.map_map]
  rfl

theorem msgAdmissible_withSecrets (row : MsgRow) :
    (tables.withSecrets secrets).MsgAdmissible (row.withSecrets secrets) ↔
      tables.MsgAdmissible row := by
  refine ⟨fun admissible => { admissible with
      fkUserSender := fun sender isSender => ?_, fkUserRecipient := fun recipient isRecipient => ?_ },
    fun admissible => { admissible with
      fkUserSender := fun sender isSender => ?_, fkUserRecipient := fun recipient isRecipient => ?_ }⟩
  · exact (hasUser_withSecrets ..).mp (admissible.fkUserSender sender isSender)
  · exact (hasUser_withSecrets ..).mp (admissible.fkUserRecipient recipient isRecipient)
  · exact (hasUser_withSecrets ..).mpr (admissible.fkUserSender sender isSender)
  · exact (hasUser_withSecrets ..).mpr (admissible.fkUserRecipient recipient isRecipient)

theorem msgRows_withSecrets :
    (∀ row ∈ (tables.withSecrets secrets).msgs, (tables.withSecrets secrets).MsgAdmissible row) ↔
      ∀ row ∈ tables.msgs, tables.MsgAdmissible row := by
  show (∀ row ∈ tables.msgs.map (MsgRow.withSecrets secrets), _) ↔ _
  simp only [List.forall_mem_map, msgAdmissible_withSecrets]

/-- **No constraint is about a secret.** -/
theorem admissible_withSecrets : (tables.withSecrets secrets).Admissible ↔ tables.Admissible := by
  refine ⟨fun admissible => { admissible with
      userPkey := (userPkey_withSecrets ..).mp admissible.userPkey
      msgPkey := (msgPkey_withSecrets ..).mp admissible.msgPkey
      msgRows := (msgRows_withSecrets ..).mp admissible.msgRows
      memberFkUser := fun row member => ?_, proFkUser := fun row member => ?_
      adminFkUser := fun row member => ?_ },
    fun admissible => { admissible with
      userPkey := (userPkey_withSecrets ..).mpr admissible.userPkey
      msgPkey := (msgPkey_withSecrets ..).mpr admissible.msgPkey
      msgRows := (msgRows_withSecrets ..).mpr admissible.msgRows
      memberFkUser := fun row member => ?_, proFkUser := fun row member => ?_
      adminFkUser := fun row member => ?_ }⟩
  · exact (hasUser_withSecrets ..).mp (admissible.memberFkUser row member)
  · exact (hasUser_withSecrets ..).mp (admissible.proFkUser row member)
  · exact (hasUser_withSecrets ..).mp (admissible.adminFkUser row member)
  · exact (hasUser_withSecrets ..).mpr (admissible.memberFkUser row member)
  · exact (hasUser_withSecrets ..).mpr (admissible.proFkUser row member)
  · exact (hasUser_withSecrets ..).mpr (admissible.adminFkUser row member)

end Tables

/-- A database with other secrets. -/
def Db.withSecrets (db : Db) : Db :=
  ⟨db.1.withSecrets secrets, (db.1.admissible_withSecrets secrets).mpr db.2⟩

/-- **A statement is accepted under both.** -/
theorem Db.commit_withSecrets (tables : Tables) :
    Db.commit (tables.withSecrets secrets) = (Db.commit tables).map (Db.withSecrets secrets) := by
  by_cases admissible : tables.Admissible
  · rw [Db.commit_of_admissible admissible,
      Db.commit_of_admissible ((tables.admissible_withSecrets secrets).mpr admissible)]
    rfl
  · rw [Db.commit_eq_none_iff.mpr admissible,
      Db.commit_eq_none_iff.mpr (mt (tables.admissible_withSecrets secrets).mp admissible)]
    rfl

def World.withSecrets (world : World) : World :=
  { world with db := world.db.withSecrets secrets }

/-- An outcome, in a database with other secrets. -/
def Evaluation.withSecrets (evaluation : Evaluation) : Evaluation :=
  (evaluation.1, evaluation.2.withSecrets secrets)

/-- An exchange, in a database with other secrets. -/
def Exchange.withSecrets (handled : Exchange) : Exchange :=
  { handled with
    before := handled.before.withSecrets secrets
    after := handled.after.withSecrets secrets }

/-- What is left of a request, in a database with other secrets. -/
def Interpretation.withSecrets (interpreted : Interpretation) : Interpretation :=
  { output := interpreted.output
    exchanges := interpreted.exchanges.map (Exchange.withSecrets secrets)
    world := interpreted.world.withSecrets secrets }

def ServerState.withSecrets (state : ServerState) : ServerState :=
  { state with world := state.world.withSecrets secrets }

/-- The messages with another content are messages of the past. -/
def Secrets.Past (world : World) : Prop :=
  ∀ msgId : Int, (world.lastMsgId : Int) < msgId → secrets.contents msgId = none

end

theorem Secrets.Past.mono {secrets : Secrets} {before after : World} (past : secrets.Past before)
    (kept : KeepsHistory before after) : secrets.Past after := by
  intro msgId later
  have earlier : before.lastMsgId ≤ after.lastMsgId := kept.sequence
  exact past msgId (by omega)

/-! ### The data layer -/

section

variable (secrets : Secrets) (host : Host) (moment : Moment) (world : World)

/-- A user is found under both. -/
theorem userViewOf_withSecrets (tables : Tables) (userId : Int) :
    (tables.withSecrets secrets).userView.filter (fun row => row.userId = userId) =
      (tables.userView.filter fun row => row.userId = userId).map
        (UserViewRow.withSecrets secrets) := by
  have sameView : (tables.withSecrets secrets).userView =
      tables.userView.map (UserViewRow.withSecrets secrets) := by
    unfold Tables.userView Tables.withSecrets
    rw [List.map_map, List.map_map]
    rfl
  rw [sameView, List.filter_map]
  rfl

theorem memberView_withSecrets (tables : Tables) :
    (tables.withSecrets secrets).memberView = tables.memberView := by
  unfold Tables.memberView
  simp only [Tables.hasUser_withSecrets]
  rfl

theorem proView_withSecrets (tables : Tables) :
    (tables.withSecrets secrets).proView = tables.proView := by
  unfold Tables.proView
  simp only [Tables.hasUser_withSecrets]
  rfl

theorem msgView_withSecrets (tables : Tables) :
    (tables.withSecrets secrets).msgView = tables.msgView.map (MsgRow.withSecrets secrets) := by
  unfold Tables.msgView Tables.withSecrets
  rw [List.filter_map]
  rfl

/-- **The inbox holds the same messages**, some of them with another content. -/
theorem inboxRows_withSecrets (db : Db) (recipientId : Int) :
    inboxRows (db.withSecrets secrets) recipientId =
      (inboxRows db recipientId).map (MsgRow.withSecrets secrets) := by
  have sameOrder : (db.1.withSecrets secrets).msgOrdered =
      db.1.msgOrdered.map (MsgRow.withSecrets secrets) := by
    unfold Tables.msgOrdered
    rw [msgView_withSecrets]
    exact (List.map_insertionSort NewestFirst NewestFirst (MsgRow.withSecrets secrets) db.1.msgView
      fun _ _ _ _ => Iff.rfl).symm
  show ((db.1.withSecrets secrets).msgOrdered.filter _) = _
  rw [sameOrder, List.filter_map]
  rfl

theorem dbGetUserRole_withSecrets (db : Db) (userId : Int) :
    dbGetUserRole host moment (db.withSecrets secrets) userId =
      dbGetUserRole host moment db userId := by
  unfold dbGetUserRole Db.withSecrets
  rw [userViewOf_withSecrets]
  cases db.1.userView.filter fun row => row.userId = userId <;> rfl

theorem dbGetUser_withSecrets (db : Db) (user : User) :
    dbGetUser host moment (db.withSecrets secrets) user = dbGetUser host moment db user := by
  unfold dbGetUser Db.withSecrets
  rw [userViewOf_withSecrets]
  cases db.1.userView.filter fun row => row.userId = user.id <;> rfl

theorem dbGetUserIdByName_withSecrets (db : Db) (name : CString) :
    dbGetUserIdByName moment (db.withSecrets secrets) name = dbGetUserIdByName moment db name := by
  unfold dbGetUserIdByName Db.withSecrets
  simp only [memberView_withSecrets, proView_withSecrets]

theorem insertMsg_withSecrets (past : secrets.Past world) (now sender recipient : Int)
    (content : CString) :
    insertMsg now (world.withSecrets secrets) sender recipient content =
      Prod.map id (World.withSecrets secrets) (insertMsg now world sender recipient content) := by
  unfold insertMsg World.nextval
  by_cases isLeft : world.lastMsgId < 2147483647
  · let row := newMsgRow now (world.lastMsgId + 1) sender recipient content
    have isNew : secrets.contents (world.lastMsgId + 1) = none := past _ (by omega)
    have sameRow : row.withSecrets secrets = row := by
      unfold MsgRow.withSecrets
      show { row with content := (secrets.contents (world.lastMsgId + 1)).getD row.content } = row
      rw [isNew]
      rfl
    have sameTables : ({ world.db.1 with msgs := row :: world.db.1.msgs } : Tables).withSecrets
        secrets = { (world.withSecrets secrets).db.1 with
          msgs := row :: (world.withSecrets secrets).db.1.msgs } := by
      show ({ (world.withSecrets secrets).db.1 with msgs := row.withSecrets secrets :: _ } : Tables) =
        _
      rw [sameRow]
      rfl
    have committed := Db.commit_withSecrets secrets
      { world.db.1 with msgs := row :: world.db.1.msgs }
    rw [sameTables] at committed
    rw [if_pos isLeft, if_pos (show (world.withSecrets secrets).lastMsgId < 2147483647 from isLeft)]
    dsimp only
    rw [show (world.withSecrets secrets).lastMsgId = world.lastMsgId from rfl, committed]
    cases Db.commit { world.db.1 with msgs := row :: world.db.1.msgs } <;> rfl
  · rw [if_neg isLeft, if_neg (show ¬ (world.withSecrets secrets).lastMsgId < 2147483647 from isLeft)]
    rfl

/-- **What is sent under one is sent under the other.** -/
theorem dbSendMsg_withSecrets (past : secrets.Past world) (senderId recipientId : Int)
    (content : CString) :
    dbSendMsg moment (world.withSecrets secrets) senderId recipientId content =
      Prod.map id (World.withSecrets secrets)
        (dbSendMsg moment world senderId recipientId content) := by
  have sent : sendMsg moment.now (world.withSecrets secrets) senderId recipientId content =
      Prod.map id (World.withSecrets secrets)
        (sendMsg moment.now world senderId recipientId content) := by
    unfold sendMsg
    rw [insertMsg_withSecrets secrets world past,
      apply_ite (Prod.map id (World.withSecrets secrets))]
    rfl
  unfold dbSendMsg
  rw [sent]
  by_cases isUp : moment.up .sendMsg = true
  · rw [if_pos isUp, if_pos isUp]
    obtain ⟨msgId | _, after⟩ := sendMsg moment.now world senderId recipientId content <;> rfl
  · rw [if_neg isUp, if_neg isUp]
    rfl

theorem ftgMsgDelete_withSecrets (now : Int) (tables : Tables) (old : MsgRow) :
    ftgMsgDelete now (tables.withSecrets secrets) (old.withSecrets secrets) =
      (ftgMsgDelete now tables old).map (Tables.withSecrets secrets) := by
  have found : rowWith MsgRow.msgId (old.withSecrets secrets).msgId
      (tables.withSecrets secrets).msgs =
        (rowWith MsgRow.msgId old.msgId tables.msgs).map (MsgRow.withSecrets secrets) :=
    rowWith_map (MsgRow.withSecrets secrets) (fun _ => rfl) old.msgId tables.msgs
  have marked : ∀ age, ({ tables with msgs := tables.msgs.map fun msg =>
        if msg.msgId = old.msgId then { msg with deletedAge := some age } else msg } :
          Tables).withSecrets secrets =
      { tables.withSecrets secrets with msgs := (tables.withSecrets secrets).msgs.map fun msg =>
        if msg.msgId = (old.withSecrets secrets).msgId then { msg with deletedAge := some age }
        else msg } := by
    intro age
    unfold Tables.withSecrets
    simp only [List.map_map, Tables.mk.injEq, true_and, and_true]
    refine List.map_congr_left fun msg _ => ?_
    exact apply_ite (MsgRow.withSecrets secrets) _ _ _
  unfold ftgMsgDelete
  rw [found]
  cases rowWith MsgRow.msgId old.msgId tables.msgs with
  | none => rfl
  | some row =>
    dsimp only [Option.map_some]
    rw [show (row.withSecrets secrets).deletedAge = row.deletedAge from rfl,
      show (row.withSecrets secrets).sentAt = row.sentAt from rfl]
    split
    · rw [Option.map_map]
      refine Option.map_congr fun age _ => ?_
      exact (marked age).symm
    · rfl

/-- The trigger fires for the same rows. -/
theorem deletes_withSecrets (now : Int) (rows : List MsgRow) (tables : Tables) :
    (rows.map (MsgRow.withSecrets secrets)).foldlM (ftgMsgDelete now) (tables.withSecrets secrets) =
      (rows.foldlM (ftgMsgDelete now) tables).map (Tables.withSecrets secrets) := by
  induction rows generalizing tables with
  | nil => rfl
  | cons row rows ih =>
    rw [List.map_cons, List.foldlM_cons, List.foldlM_cons, ftgMsgDelete_withSecrets]
    cases ftgMsgDelete now tables row with
    | none => rfl
    | some next => exact ih next

theorem deleteMsg_withSecrets (now msgId : Int) :
    deleteMsg now (world.withSecrets secrets) msgId =
      (deleteMsg now world msgId).map (Prod.map id (World.withSecrets secrets)) := by
  have sameRows : ((world.withSecrets secrets).db.1.msgView.filter fun row => row.msgId = msgId) =
      (world.db.1.msgView.filter fun row => row.msgId = msgId).map (MsgRow.withSecrets secrets) := by
    show ((world.db.1.withSecrets secrets).msgView.filter _) = _
    rw [msgView_withSecrets, List.filter_map]
    rfl
  have fired := deletes_withSecrets secrets now
    (world.db.1.msgView.filter fun row => row.msgId = msgId) world.db.1
  unfold deleteMsg
  rw [sameRows]
  dsimp only
  rw [show (world.withSecrets secrets).db.1 = world.db.1.withSecrets secrets from rfl, fired,
    List.length_map]
  cases (world.db.1.msgView.filter fun row => row.msgId = msgId).foldlM (ftgMsgDelete now)
    world.db.1 with
  | none => rfl
  | some tables =>
    show (Db.commit (tables.withSecrets secrets)).map _ = ((Db.commit tables).map _).map _
    rw [Db.commit_withSecrets]
    cases Db.commit tables <;> rfl

/-- **What is deleted under one is deleted under the other.** -/
theorem dbRmMsg_withSecrets (msgId : Int) :
    dbRmMsg moment (world.withSecrets secrets) msgId =
      Prod.map id (World.withSecrets secrets) (dbRmMsg moment world msgId) := by
  unfold dbRmMsg
  rw [deleteMsg_withSecrets]
  split
  · cases deleteMsg moment.now world msgId with
    | none => rfl
    | some outcome =>
      obtain ⟨count, after⟩ := outcome
      by_cases isOne : count = 1
      · simp only [Option.map_some, Prod.map_apply, id, if_pos isOne]
      · simp only [Option.map_some, Prod.map_apply, id, if_neg isOne]
  · rfl

end

/-! ### Actions -/

section

variable (secrets : Secrets) (host : Host) (cfg : Cfg) (moment : Moment) (world : World)

/-- **A request is read alike.** -/
theorem actionParse_withSecrets (db : Db) (jo : Json) :
    actionParse moment (db.withSecrets secrets) jo = actionParse moment db jo := by
  have sameUser : ∀ joUser, getUserId moment (db.withSecrets secrets) joUser =
      getUserId moment db joUser := by
    intro joUser
    unfold getUserId
    simp only [dbGetUserIdByName_withSecrets]
  have branches : ∀ kind joWith, parseWith moment (db.withSecrets secrets) kind joWith =
      parseWith moment db kind joWith := by
    intro kind joWith
    unfold parseWith getargUser
    simp only [sameUser]
  unfold actionParse parseAction
  simp only [branches]

theorem sendAndReport_withSecrets (past : secrets.Past world) (rep : Response)
    (user : UserIdentity) (destUserId : Int) (content : Slice) :
    sendAndReport moment (world.withSecrets secrets) rep user destUserId content =
      (sendAndReport moment world rep user destUserId content).withSecrets secrets := by
  unfold sendAndReport
  rw [dbSendMsg_withSecrets secrets moment world past]
  obtain ⟨msgId, after⟩ := dbSendMsg moment world user.id destUserId content.val
  simp only [Prod.map_apply, id]
  split_ifs <;> rfl

theorem evaluateSend_withSecrets (past : secrets.Past world) (rep : Response) (destUserId : Int)
    (content : Slice) (user : UserIdentity) :
    evaluateSend host cfg moment (world.withSecrets secrets) rep destUserId content user =
      (evaluateSend host cfg moment world rep destUserId content user).withSecrets secrets := by
  have sameRole : dbGetUserRole host moment (world.withSecrets secrets).db destUserId =
      dbGetUserRole host moment world.db destUserId := dbGetUserRole_withSecrets ..
  have sameChecks : ∀ destRole, checkInvariants moment (world.withSecrets secrets).db user destRole
      destUserId rep = checkInvariants moment world.db user destRole destUserId rep := fun _ => rfl
  unfold evaluateSend
  rw [sameRole]
  dsimp only
  rw [sameChecks]
  split_ifs
  · rfl
  · rfl
  · rfl
  · exact sendAndReport_withSecrets secrets moment world past _ _ _ _

theorem evaluateWhois_withSecrets (rep : Response) (userId : Int) :
    evaluateWhois host moment (world.withSecrets secrets) rep userId =
      (evaluateWhois host moment world rep userId).withSecrets secrets := by
  have sameUser : dbGetUser host moment (world.withSecrets secrets).db ⟨userId, 0, .unset⟩ =
      dbGetUser host moment world.db ⟨userId, 0, .unset⟩ := dbGetUser_withSecrets ..
  unfold evaluateWhois
  rw [sameUser]
  obtain ⟨_ | _ | _, user⟩ := dbGetUser host moment world.db ⟨userId, 0, .unset⟩ <;> rfl

/-- **An inbox without a message of another content is read alike.** -/
theorem evaluateInbox_withSecrets (rep : Response) (page : Int) (user : UserIdentity)
    (unread : ∀ row ∈ inboxRows world.db user.id, row.withSecrets secrets = row) :
    evaluateInbox cfg moment (world.withSecrets secrets) rep page user =
      (evaluateInbox cfg moment world rep page user).withSecrets secrets := by
  have sameRows : inboxRows (world.withSecrets secrets).db user.id = inboxRows world.db user.id := by
    calc inboxRows (world.db.withSecrets secrets) user.id
        = (inboxRows world.db user.id).map (MsgRow.withSecrets secrets) :=
          inboxRows_withSecrets secrets world.db user.id
      _ = (inboxRows world.db user.id).map id := List.map_congr_left unread
      _ = inboxRows world.db user.id := List.map_id _
  unfold evaluateInbox dbGetInbox
  rw [sameRows]
  split_ifs
  · cases limitOffset cfg.pageInbox (wrap32 (cfg.pageInbox * (page - 1)))
      (inboxRows world.db user.id) <;> rfl
  · rfl

theorem evaluateRm_withSecrets (rep : Response) (msgId : Int) (user : UserIdentity) :
    evaluateRm moment (world.withSecrets secrets) rep msgId user =
      (evaluateRm moment world rep msgId user).withSecrets secrets := by
  unfold evaluateRm
  rw [dbRmMsg_withSecrets]
  obtain ⟨_ | _ | _, after⟩ := dbRmMsg moment world msgId
  · rfl
  · rfl
  · show (if _ then _ else _) = _
    split_ifs <;> rfl

/-- **No branch but that of `inbox` reads a secret.** -/
theorem branch_withSecrets (past : secrets.Past world) (action : Action) (user : UserIdentity)
    (unread : ∀ constr page, action = .inbox constr page →
      ∀ row ∈ inboxRows world.db user.id, row.withSecrets secrets = row) :
    branch host cfg moment (world.withSecrets secrets) action user =
      (branch host cfg moment world action user).withSecrets secrets := by
  cases action with
  | whois _ userId => exact evaluateWhois_withSecrets ..
  | send _ destUserId content => exact evaluateSend_withSecrets _ _ _ _ _ past _ _ _ _
  | inbox constr page => exact evaluateInbox_withSecrets _ _ _ _ _ _ _ (unread constr page rfl)
  | rm _ msgId => exact evaluateRm_withSecrets ..
  | _ => rfl

/-! ### Unnoticed -/

/-- **The secrets make no difference to an action**: its connection string is judged alike, and an
inbox that it reads holds no message with another content. -/
structure Unnoticed (handled : Exchange) : Prop where
  judged : ∀ constr ∈ handled.action.constr?,
    dbVerifyUserConstr host cfg handled.moment (handled.before.db.withSecrets secrets)
        .indeterminate constr =
      dbVerifyUserConstr host cfg handled.moment handled.before.db .indeterminate constr
  unread : ∀ constr page user, handled.action = .inbox constr page →
    dbVerifyUserConstr host cfg handled.moment handled.before.db .indeterminate constr =
      .ok (.ok, user) →
    ∀ row ∈ inboxRows handled.before.db user.id, row.withSecrets secrets = row

/-- **An unnoticed action has the same outcome.** -/
theorem actionEvaluate_withSecrets (past : secrets.Past world) {action : Action}
    (unnoticed : Unnoticed secrets host cfg (exchange host cfg moment world action)) :
    actionEvaluate host cfg moment (world.withSecrets secrets) action =
      (actionEvaluate host cfg moment world action).withSecrets secrets := by
  rcases action.cases_constr with ⟨stored, rfl⟩ | ⟨constr, kind, carries, isKind⟩
  · rfl
  · have sameVerdict : dbVerifyUserConstr host cfg moment (world.withSecrets secrets).db
        .indeterminate constr = dbVerifyUserConstr host cfg moment world.db .indeterminate constr :=
      unnoticed.judged constr carries
    rw [actionEvaluate_eq host cfg moment _ carries isKind,
      actionEvaluate_eq host cfg moment _ carries isKind]
    unfold identified
    rw [sameVerdict]
    rcases verdict : dbVerifyUserConstr host cfg moment world.db .indeterminate constr with
      fault | ⟨_ | _ | _, user⟩
    · rfl
    · rfl
    · rfl
    · dsimp only
      split_ifs
      · rfl
      · refine branch_withSecrets secrets host cfg moment world past action user ?_
        rintro other page rfl
        obtain rfl : other = constr := Option.some.inj carries
        exact unnoticed.unread other page user rfl verdict

theorem act_withSecrets (past : secrets.Past world) (joAction : Json)
    (unnoticed : Unnoticed secrets host cfg (act host cfg moment world joAction).2) :
    act host cfg moment (world.withSecrets secrets) joAction =
      ((act host cfg moment world joAction).1,
        (act host cfg moment world joAction).2.withSecrets secrets) := by
  have sameAction : actionParse moment (world.withSecrets secrets).db joAction =
      actionParse moment world.db joAction := actionParse_withSecrets ..
  have sameOutcome := actionEvaluate_withSecrets secrets host cfg moment world past unnoticed
  unfold act exchange
  rw [sameAction]
  dsimp only
  rw [sameOutcome]
  rfl

end

/-! ### Requests -/

section

variable (secrets : Secrets) (host : Host) (cfg : Cfg)

theorem interpretElements_withSecrets (elements : List Json) (moments : Nat → Moment)
    (world : World) (output : List Json) (past : secrets.Past world)
    (unnoticed : ∀ handled ∈ (interpretElements host cfg elements moments world output).exchanges,
      Unnoticed secrets host cfg handled) :
    interpretElements host cfg elements moments (world.withSecrets secrets) output =
      (interpretElements host cfg elements moments world output).withSecrets secrets := by
  fun_induction interpretElements host cfg elements moments world output with
  | case1 => rfl
  | case2 => rfl
  | case3 joAction rest moments world output notNull fault handled acted =>
    have acts := act_withSecrets secrets host cfg (moments 0) world past joAction
      (by rw [acted]; exact unnoticed handled (List.mem_singleton_self handled))
    rw [acted] at acts
    rw [interpretElements, acts]
    · rfl
    · exact notNull
  | case4 joAction rest moments world output notNull jo handled acted later ih =>
    have acts := act_withSecrets secrets host cfg (moments 0) world past joAction
      (by rw [acted]; exact unnoticed handled List.mem_cons_self)
    have isHandled : (act host cfg (moments 0) world joAction).2 = handled := by rw [acted]
    have kept : KeepsHistory world handled.after := by
      rw [← isHandled]
      exact keepsHistory_evaluation _
    have laters : interpretElements host cfg rest (fun index => moments (index + 1))
        (handled.withSecrets secrets).after (output ++ [jo]) = later.withSecrets secrets :=
      ih (past.mono kept) fun other member => unnoticed other (List.mem_cons_of_mem _ member)
    rw [acted] at acts
    rw [interpretElements, acts]
    · dsimp only
      rw [laters]
      rfl
    · exact notNull

/-- **A request whose actions are unnoticed has the same answer**, and the same effect. -/
theorem interpret_withSecrets (moments : Nat → Moment) (world : World) (joInput : Json)
    (past : secrets.Past world)
    (unnoticed : ∀ handled ∈ (tchatator413Interpret host cfg moments world joInput).exchanges,
      Unnoticed secrets host cfg handled) :
    tchatator413Interpret host cfg moments (world.withSecrets secrets) joInput =
      (tchatator413Interpret host cfg moments world joInput).withSecrets secrets := by
  cases joInput with
  | array elements =>
    exact interpretElements_withSecrets secrets host cfg elements moments world [] past unnoticed
  | object members =>
    have acts := act_withSecrets secrets host cfg (moments 0) world past (.object members)
      (unnoticed _ (List.mem_singleton_self _))
    unfold tchatator413Interpret
    dsimp only
    rw [acts]
    rfl
  | _ => rfl

end

/-! ### Keys that are not presented -/

section

variable {secrets : Secrets} {host : Host} {cfg : Cfg}

/-- The key of a connection string is neither given to a user nor taken from one. -/
def Spares (secrets : Secrets) (db : Db) (constr : Constr) : Prop :=
  ∀ user ∈ db.1.users, user.withSecrets secrets = user ∨
    (user.apiKey ≠ constr.apiKey ∧ (secrets.credentials user.userId).1 ≠ constr.apiKey)

/-- The rows of a key that is spared are the same. -/
theorem selectByApiKey_withSecrets {db : Db} {constr : Constr}
    (spares : Spares secrets db constr) :
    selectByApiKey (db.withSecrets secrets) constr.apiKey = selectByApiKey db constr.apiKey := by
  have sameRows : ∀ users : List UserRow, (∀ user ∈ users, user ∈ db.1.users) →
      (users.map fun user => db.1.userViewRow (user.withSecrets secrets)).filter
          (fun row => row.apiKey = constr.apiKey) =
        (users.map db.1.userViewRow).filter fun row => row.apiKey = constr.apiKey := by
    intro users
    induction users with
    | nil => exact fun _ => rfl
    | cons user users ih =>
      intro inTable
      have later := ih fun other member => inTable other (List.mem_cons_of_mem user member)
      rw [List.map_cons, List.map_cons, List.filter_cons, List.filter_cons, later]
      rcases spares user (inTable user List.mem_cons_self) with same | ⟨taken, given⟩
      · rw [same]
      · have notGiven : ¬ decide ((db.1.userViewRow (user.withSecrets secrets)).apiKey =
            constr.apiKey) = true := mt of_decide_eq_true given
        have notTaken : ¬ decide ((db.1.userViewRow user).apiKey = constr.apiKey) = true :=
          mt of_decide_eq_true taken
        rw [if_neg notGiven, if_neg notTaken]
  have sameView : (db.1.withSecrets secrets).userView =
      db.1.users.map fun user => db.1.userViewRow (user.withSecrets secrets) := List.map_map
  show ((db.1.withSecrets secrets).userView.filter _) = _
  rw [sameView]
  exact sameRows db.1.users fun _ member => member

/-- **A connection string whose key is spared is judged alike.** -/
theorem Unnoticed.of_spared {handled : Exchange}
    (spared : ∀ constr ∈ handled.action.constr?, Spares secrets handled.before.db constr)
    (noInbox : ∀ constr page, handled.action ≠ .inbox constr page) :
    Unnoticed secrets host cfg handled := by
  refine ⟨fun constr carries => ?_, fun constr page _ isInbox => absurd isInbox (noInbox constr page)⟩
  unfold dbVerifyUserConstr
  rw [selectByApiKey_withSecrets (spared constr carries)]

end

/-! ### The process -/

section

variable (secrets : Secrets) (tokener : Tokener) (host : Host) (cfg : Cfg) (allocator : Allocator)

/-- The actions that the next statement of the process handles. -/
def ServerState.exchanges (state : ServerState) : List Exchange :=
  match state.point with
  | .interpreting peer joInput =>
      (tchatator413Interpret host cfg peer.moments state.world joInput).exchanges
  | _ => []

/-- **Something happens, and the secrets make no difference to it.** -/
def ObservesUnnoticed (before : ServerState × Transcript) (event : Event)
    (after : ServerState × Transcript) : Prop :=
  Observes tokener host cfg allocator before event after ∧
    ∀ handled ∈ before.1.exchanges host cfg, Unnoticed secrets host cfg handled

variable {secrets tokener host cfg allocator} {state next : ServerState}

/-- **A statement of the loop does the same under both.** -/
theorem step_withSecrets (past : secrets.Past state.world)
    (unnoticed : ∀ handled ∈ state.exchanges host cfg, Unnoticed secrets host cfg handled) :
    (state.withSecrets secrets).step tokener host cfg allocator =
      (state.step tokener host cfg allocator).map (ServerState.withSecrets secrets) := by
  obtain ⟨gsSock, listening, connections, turnstile, world, point⟩ := state
  unfold ServerState.withSecrets ServerState.step
  cases point with
  | interpreting peer joInput =>
    have interpreted := interpret_withSecrets secrets host cfg peer.moments world joInput past
      unnoticed
    dsimp only
    rw [interpreted]
    rfl
  | calling sock =>
    dsimp only
    split_ifs <;> rfl
  | interrupted =>
    dsimp only
    split_ifs <;> rfl
  | failed errno => cases errno <;> rfl
  | answering peer index output =>
    dsimp only
    cases peer.accepts index with
    | none => rfl
    | some accepted =>
      dsimp only
      split_ifs <;> rfl
  | _ => rfl

/-- A signal is delivered alike. -/
theorem signal_withSecrets :
    (state.withSecrets secrets).signal = state.signal.withSecrets secrets := by
  obtain ⟨gsSock, listening, connections, turnstile, world, point⟩ := state
  cases gsSock <;> cases point <;> rfl

theorem interrupt_withSecrets :
    (state.withSecrets secrets).interrupt = state.interrupt.withSecrets secrets := by
  obtain ⟨gsSock, listening, connections, turnstile, world, point⟩ := state
  cases point <;> rfl

/-- **Whatever happens, happens alike under the other secrets.** -/
theorem observes_withSecrets {before after : ServerState × Transcript} {event : Event}
    (past : secrets.Past before.1.world)
    (observed : ObservesUnnoticed secrets tokener host cfg allocator before event after) :
    Observes tokener host cfg allocator (before.1.withSecrets secrets, before.2) event
      (after.1.withSecrets secrets, after.2) := by
  obtain ⟨⟨happens, isAfter⟩, unnoticed⟩ := observed
  refine ⟨?_, isAfter⟩
  generalize after.1 = next at happens
  cases happens with
  | own taken =>
    refine .own ?_
    rw [step_withSecrets past unnoticed, taken]
    rfl
  | connect peer isBlocked => exact .connect _ peer isBlocked
  | interrupt =>
    rw [← interrupt_withSecrets]
    exact .interrupt _
  | signal =>
    rw [← signal_withSecrets]
    exact .signal _

/-- **Whatever happens keeps the history.** -/
theorem happens_keepsHistory {event : Event}
    (happens : Happens tokener host cfg allocator state event next) :
    KeepsHistory state.world next.world := by
  cases happens with
  | own taken =>
    obtain ⟨gsSock, listening, connections, turnstile, world, point⟩ := state
    have unchanged : ∀ other : ServerState, some other = some next → other.world = world →
        KeepsHistory world next.world := by
      intro other isNext same
      rw [← Option.some.inj isNext, same]
      exact .refl world
    unfold ServerState.step at taken
    cases point with
    | interpreting peer joInput =>
      cases taken
      exact keepsHistory_run (tchatator413Interpret_run host cfg peer.moments world joInput)
    | calling sock =>
      dsimp only at taken
      split_ifs at taken <;> exact unchanged _ taken rfl
    | failed errno => cases errno <;> exact unchanged _ taken rfl
    | interrupted =>
      dsimp only at taken
      split_ifs at taken <;> exact unchanged _ taken rfl
    | answering peer index output =>
      dsimp only at taken
      cases isAccepted : peer.accepts index with
      | none =>
        rw [isAccepted] at taken
        exact unchanged _ taken rfl
      | some accepted =>
        rw [isAccepted] at taken
        dsimp only at taken
        split_ifs at taken <;> exact unchanged _ taken rfl
    | blocked | returned | acceptExit | stopped _ => cases taken
    | _ => exact unchanged _ taken rfl
  | connect peer isBlocked => exact .refl _
  | interrupt =>
    obtain ⟨gsSock, listening, connections, turnstile, world, point⟩ := state
    cases point <;> exact .refl world
  | signal =>
    obtain ⟨gsSock, listening, connections, turnstile, world, point⟩ := state
    cases gsSock <;> cases point <;> exact .refl world

/-- **Secrets make no difference to those who do not share them.** Whatever happens to a process, in
any order, as long as connection strings are judged as they would be under other credentials and no
inbox is read that holds a message of another content, a process that starts with the other secrets
goes through the same points, sends the same bytes to every client, and leaves the same database, but
for the secrets. -/
theorem run_withSecrets {sock : Nat} {world : World} {events : List Event}
    {transcript : Transcript} (past : secrets.Past world)
    (run : Run (ObservesUnnoticed secrets tokener host cfg allocator) (.start sock world, [])
      events (state, transcript)) :
    Run (Observes tokener host cfg allocator) (.start sock (world.withSecrets secrets), []) events
      (state.withSecrets secrets, transcript) :=
  run.maps (fun observed => (observed.1.withSecrets secrets, observed.2))
    (fun observed => secrets.Past observed.1.world)
    (fun _ _ _ observed past => past.mono (happens_keepsHistory observed.1.1))
    (fun _ _ _ observed past => observes_withSecrets past observed) past

end

/-! ### A key that is rotated, and a message that is reworded -/

/-- The second member has another key and no password, and the first message is another. -/
def otherSecrets : Secrets :=
  { credentials := fun userId =>
      if userId = 1004 then (uuidOf "c0ffee00-0000-4000-8000-000000000000", none)
      else ((rowWith UserRow.userId userId useTestDataUsers.1.users).map fun user =>
        (user.apiKey, user.passwordHash)).getD (.zero, none)
    contents := fun msgId => if msgId = 1 then some (clit "adieu") else none }

/-- The request of a member who writes to a professional, as a text. -/
def memberToProText : CString :=
  cstring (lit "\x7b\"do\":\"send\",\"with\":\x7b\"constr\":" ++
    lit "\"123e4567-e89b-12d3-a456-426614174000¤member1_mdp\"," ++
    lit "\"content\":\"salut\",\"dest\":1001\x7d\x7d")

/-- A parser that knows one text. -/
def memberToProTokener : Tokener :=
  { parse := fun buffer => if buffer = memberToProText then memberToProRequest else .null
    Complete := fun buffer => buffer = memberToProText
    parse_incomplete := fun _ incomplete => if_neg incomplete }

/-- The first member, who writes to a professional. -/
def sender : Peer :=
  { connection := ⟨2130706433, 0⟩
    reads := some [memberToProText.1]
    accepts := fun _ => some bufsiz
    moments := fun _ => allUp 0 }

theorem sender_unnoticed :
    ∀ handled ∈ (tchatator413Interpret testHost testCfg sender.moments worldWithMessage
      memberToProRequest).exchanges, Unnoticed otherSecrets testHost testCfg handled := by
  intro handled member
  obtain rfl := List.mem_singleton.mp member
  refine .of_spared (fun constr carries => ?_) (fun _ _ isInbox => by cases isInbox)
  obtain rfl : constrMember1 = constr := Option.some.inj carries
  show ∀ user ∈ useTestDataUsers.1.users, _
  decide

/-- A statement of the loop that handles no action, or unnoticed ones. -/
theorem ObservesUnnoticed.own {secrets : Secrets} {tokener : Tokener} {host : Host} {cfg : Cfg}
    {allocator : Allocator} {state next : ServerState} {transcript : Transcript}
    (taken : state.step tokener host cfg allocator = some next)
    (unnoticed : ∀ handled ∈ state.exchanges host cfg, Unnoticed secrets host cfg handled) :
    ObservesUnnoticed secrets tokener host cfg allocator (state, transcript) .own
      (next, transcribe state transcript .own) :=
  ⟨⟨.own taken, rfl⟩, unnoticed⟩

/-- A member sends another message, and nobody notices the secrets of others. -/
theorem sender_served_unnoticed :
    ∃ (events : List Event) (state : ServerState) (transcript : Transcript),
      Event.connect sender ∈ events ∧ state.world.db.1.msgs.length = 2 ∧
      worldWithMessage.withSecrets otherSecrets ≠ worldWithMessage ∧
      Run (Observes memberToProTokener testHost testCfg ⟨fun _ => false⟩)
        (.start 3 (worldWithMessage.withSecrets otherSecrets), []) events
        (state.withSecrets otherSecrets, transcript) := by
  have isReceived : receivedJson memberToProTokener [memberToProText.1] = memberToProRequest := by
    rw [receivedJson, requestBuffer_whole (by decide)]
    show (if memberToProText = memberToProText then memberToProRequest else .null) = _
    exact if_pos rfl
  have unnoticed : ∀ handled ∈ (tchatator413Interpret testHost testCfg sender.moments
      worldWithMessage (receivedJson memberToProTokener [memberToProText.1])).exchanges,
        Unnoticed otherSecrets testHost testCfg handled := by
    rw [isReceived]
    exact sender_unnoticed
  have isSent : (tchatator413Interpret testHost testCfg sender.moments worldWithMessage
      (receivedJson memberToProTokener [memberToProText.1])).world.db.1.msgs.length = 2 := by
    rw [isReceived]
    rfl
  have past : otherSecrets.Past worldWithMessage := by
    intro msgId later
    have isLater : (1 : Int) < msgId := later
    exact if_neg (by omega)
  have nothing : ∀ handled ∈ ([] : List Exchange),
      Unnoticed otherSecrets testHost testCfg handled := fun _ none => absurd none List.not_mem_nil
  have connects : ∀ state : ServerState, state.point = .blocked →
      ObservesUnnoticed otherSecrets memberToProTokener testHost testCfg ⟨fun _ => false⟩
        (state, []) (.connect sender) (state.connect sender, [(sender, [])]) := by
    refine fun state isBlocked => ⟨⟨.connect state sender isBlocked, rfl⟩, ?_⟩
    unfold ServerState.exchanges
    dsimp only
    rw [isBlocked]
    exact nothing
  refine ⟨[.own, .own, .connect sender, .own, .own, .own], _, _, ?_, isSent, by decide,
    run_withSecrets past (.more (.own rfl nothing) (.more (.own rfl nothing)
      (.more (connects _ rfl) (.more (.own rfl nothing) (.more (.own rfl nothing)
        (.single (.own rfl unnoticed)))))))⟩
  simp

end Tchatator
