/-
**The server as a system of mailboxes** (`send`, `inbox`, `rm`).

Seen by its readers, the database is an inbox for every user, and every action the server handles is
one of three things: nothing, a delivery to one inbox, or the withdrawal of one message from
wherever it is.

* `Chronological` — no message was sent after the clock, nor has an identifier past the sequence:
  it holds without messages and is kept by every handled action, so it holds of every `Reachable`
  database;
* `mailboxEvent` — what an exchange does to the inboxes, read off its action and its answer;
* **`run_refines_mailboxes`** — the inboxes after a run of requests at nondecreasing times are those
  before it, to which the events of its exchanges have happened, in order, and nothing else;
* **`send_then_rm`** — from the JSON of a request to the inboxes: a `send` that succeeds puts its
  message, as it was written, at the front of one inbox and leaves every other one alone, and an
  `rm` of it that succeeds puts every inbox back as it was.
-/

import Tchatator.Proof.Inbox
import Tchatator.Proof.Responses
import Tchatator.Proof.Runs

namespace Tchatator

/-! ### Time and identifiers -/

/-- No message was sent after the clock, and the sequence is past every identifier. -/
def Chronological (clock : Int) (world : World) : Prop :=
  ∀ row ∈ world.db.1.msgs, row.sentAt ≤ clock ∧ row.msgId ≤ world.lastMsgId

section

variable {host : Host} {cfg : Cfg} {moment : Moment} {clock : Int} {world : World}

/-- The next message is newer than all others. -/
theorem Chronological.newest (chronological : Chronological clock world)
    (later : clock ≤ moment.now) :
    ∀ row ∈ world.db.1.msgs, row.sentAt ≤ moment.now ∧ row.msgId ≤ world.nextMsgId := by
  intro row member
  obtain ⟨sentBefore, below⟩ := chronological row member
  refine ⟨sentBefore.trans later, ?_⟩
  show row.msgId ≤ (world.lastMsgId : Int) + 1
  omega

/-- **Every handled action keeps the order of time and identifiers.** -/
theorem Chronological.evaluation (chronological : Chronological clock world)
    (later : clock ≤ moment.now) (action : Action) :
    Chronological moment.now (actionEvaluate host cfg moment world action).2 := by
  intro row member
  rcases database_outcomes host cfg moment world action with
    untouched | ⟨_, _, _, _, _, _, _, inserted⟩ | ⟨_, _, _, _, _, _, _, removed⟩
  · rw [untouched.tables] at member
    obtain ⟨sentBefore, below⟩ := chronological row member
    have grows := untouched.sequence
    exact ⟨sentBefore.trans later, by omega⟩
  · rw [inserted.tables] at member
    rw [inserted.sequence]
    rcases List.mem_cons.mp member with rfl | old
    · exact ⟨le_refl _, le_refl _⟩
    · obtain ⟨sentBefore, below⟩ := chronological row old
      exact ⟨sentBefore.trans later, by omega⟩
  · rw [removed.tables] at member
    rw [removed.sequence]
    obtain ⟨old, inMsgs, rfl⟩ := List.mem_map.mp member
    obtain ⟨sentBefore, below⟩ := chronological old inMsgs
    rw [markDeleted_msgId, markDeleted_sentAt]
    exact ⟨sentBefore.trans later, below⟩

/-- **A reachable database**, with the time of the last change: it had no messages, or the server
has handled an action, or the rest of the site has changed the users and their blocks (a user who
is deleted takes their messages along). -/
inductive Reachable (host : Host) (cfg : Cfg) : Int → World → Prop
  | start {clock : Int} {world : World} : world.db.1.msgs = [] → Reachable host cfg clock world
  | handles {clock : Int} {world after : World} {handled : Exchange} :
      Reachable host cfg clock world → clock ≤ handled.moment.now →
      Handles host cfg world handled after → Reachable host cfg handled.moment.now after
  | administers {clock now : Int} {world after : World} :
      Reachable host cfg clock world → clock ≤ now →
      after.db.1.msgs.Sublist world.db.1.msgs → world.lastMsgId ≤ after.lastMsgId →
      Reachable host cfg now after

/-- **Reachable databases are chronological.** -/
theorem Reachable.chronological (reachable : Reachable host cfg clock world) :
    Chronological clock world := by
  induction reachable with
  | start empty =>
    intro row member
    rw [empty] at member
    cases member
  | handles _ later handles ih =>
    obtain ⟨⟨moment, joAction, rfl⟩, rfl⟩ := handles
    exact ih.evaluation later _
  | administers _ later fewer grows ih =>
    intro row member
    obtain ⟨sentBefore, below⟩ := ih row (fewer.subset member)
    exact ⟨sentBefore.trans later, by omega⟩

/-! ### Deliveries and withdrawals -/

/-- A message newer than all others is delivered. -/
theorem wholeInbox_inserted {now : Int} {after : World} {sender recipient : Int}
    {content : CString} (inserted : Inserted now world after sender recipient content)
    (newest : ∀ row ∈ world.db.1.msgs, row.sentAt ≤ now ∧ row.msgId ≤ world.nextMsgId) :
    wholeInbox after.db = Mailbox.deliver recipient
      (inboxMsg recipient (newMsgRow now world.nextMsgId sender recipient content))
      (wholeInbox world.db) := by
  funext userId
  rw [wholeInbox, inboxRows_inserted inserted newest]
  by_cases own : userId = recipient
  · subst own
    rw [if_pos rfl, Mailbox.deliver_same]
    rfl
  · rw [if_neg own, Mailbox.deliver_other own]
    rfl

/-- A message that is marked is discarded. -/
theorem wholeInbox_removed {after : World} {msgId age : Int}
    (removed : Removed world after msgId age) :
    wholeInbox after.db = Mailbox.discard Msg.id msgId (wholeInbox world.db) := by
  funext userId
  rw [wholeInbox, inboxRows_removed removed, Mailbox.discard, wholeInbox, List.filter_map]
  rfl

/-- The user whose key an action carries. -/
def senderId (host : Host) (cfg : Cfg) (handled : Exchange) (constr : Constr) : Int :=
  match dbVerifyUserConstr host cfg handled.moment handled.before.db .indeterminate constr with
  | .ok (.ok, user) => user.id
  | _ => 0

/-- The identifier that a response stores, over an error or not. -/
def ResponseBody.storedMsgId : ResponseBody → Option Int
  | .send msgId => some msgId
  | .sendOver msgId _ => some msgId
  | _ => none

theorem storedMsgId_sentResponse (user : UserIdentity) (destRole : Nat) (destUserId msgId : Int) :
    (sentResponse user destRole destUserId msgId).body.storedMsgId = some msgId := by
  unfold sentResponse
  split <;> rfl

/-- **What an exchange does to the inboxes**, read off its action and its answer: a `send` that
stores an identifier delivers its message, whatever else it stores, and an `rm` that succeeds
discards one. -/
def mailboxEvent (host : Host) (cfg : Cfg) (handled : Exchange) :
    Option (Mailbox.Event Int Msg Int) :=
  match handled.action, handled.response with
  | .send constr recipient content, .ok rep =>
      rep.body.storedMsgId.map fun msgId =>
        .deliver recipient (inboxMsg recipient (newMsgRow handled.moment.now msgId
          (senderId host cfg handled constr) recipient content.val))
  | .rm _ msgId, .ok ⟨.action .rm, _, _⟩ => some (.discard msgId)
  | _, _ => none

/-- Only sending and removing are events. -/
theorem quiet_refines {action : Action} (notSend : action.type ≠ .action .send)
    (notRm : action.type ≠ .action .rm) :
    wholeInbox (exchange host cfg moment world action).after.db =
      Mailbox.happen Msg.id (wholeInbox world.db)
        (mailboxEvent host cfg (exchange host cfg moment world action)) := by
  have isNone : mailboxEvent host cfg (exchange host cfg moment world action) = none := by
    cases action with
    | send => exact absurd rfl notSend
    | rm => exact absurd rfl notRm
    | _ => rfl
  rw [isNone]
  exact congrArg (fun after => wholeInbox after.db)
    (quiet_outcomes host cfg moment world notSend notRm)

/-- A `send` is the event of its message. -/
theorem send_refines (chronological : Chronological clock world) (later : clock ≤ moment.now)
    (constr : Constr) (recipient : Int) (content : Slice) :
    wholeInbox (exchange host cfg moment world (.send constr recipient content)).after.db =
      Mailbox.happen Msg.id (wholeInbox world.db)
        (mailboxEvent host cfg (exchange host cfg moment world
          (.send constr recipient content))) := by
  simp only [exchange, mailboxEvent]
  rcases send_outcomes host cfg moment world constr recipient content with
    ⟨fault, stopped⟩ | ⟨status, after, failed, untouched⟩ | ⟨user, destRole, inserts⟩
  · rw [stopped]
    rfl
  · rw [failed]
    exact congrArg wholeInbox untouched.tables
  · obtain ⟨after, evaluated, inserted⟩ := send_of_inserts inserts
    rw [evaluated]
    simp only [senderId, inserts.proceeds.verified, storedMsgId_sentResponse, Option.map_some]
    exact wholeInbox_inserted inserted (chronological.newest later)

/-- An `rm` is the event of its identifier. -/
theorem rm_refines (moment : Moment) (world : World) (constr : Constr) (msgId : Int) :
    wholeInbox (exchange host cfg moment world (.rm constr msgId)).after.db =
      Mailbox.happen Msg.id (wholeInbox world.db)
        (mailboxEvent host cfg (exchange host cfg moment world (.rm constr msgId))) := by
  simp only [exchange, mailboxEvent]
  rcases rm_outcomes host cfg moment world constr msgId with
    ⟨fault, stopped⟩ | ⟨status, failed⟩ | ⟨user, row, removes⟩
  · rw [stopped]
    rfl
  · rw [failed]
    rfl
  · obtain ⟨age, after, evaluated, removed⟩ := rm_of_removes removes
    rw [evaluated]
    exact wholeInbox_removed removed

/-- **An evaluation is the event of its exchange.** -/
theorem evaluation_refines (chronological : Chronological clock world)
    (later : clock ≤ moment.now) (action : Action) :
    wholeInbox (exchange host cfg moment world action).after.db =
      Mailbox.happen Msg.id (wholeInbox world.db)
        (mailboxEvent host cfg (exchange host cfg moment world action)) := by
  cases action with
  | send constr recipient content => exact send_refines chronological later constr recipient content
  | rm constr msgId => exact rm_refines moment world constr msgId
  | _ => exact quiet_refines (by simp [Action.type]) (by simp [Action.type])

/-- The server handles one action, not before the last one. -/
def HandlesTimed (host : Host) (cfg : Cfg) (before : Int × World) (handled : Exchange)
    (after : Int × World) : Prop :=
  before.1 ≤ handled.moment.now ∧ Handles host cfg before.2 handled after.2 ∧
    after.1 = handled.moment.now

/-- A run whose moments are in order is a timed run. -/
theorem timed_of_ordered {last : World} {exchanges : List Exchange}
    (run : Run (Handles host cfg) world exchanges last)
    (ordered : (clock :: exchanges.map fun handled => handled.moment.now).Pairwise (· ≤ ·)) :
    ∃ now, Run (HandlesTimed host cfg) (clock, world) exchanges (now, last) := by
  induction run generalizing clock with
  | done world => exact ⟨clock, .done _⟩
  | more handles _ ih =>
    obtain ⟨fromClock, rest⟩ := List.pairwise_cons.mp ordered
    obtain ⟨now, timed⟩ := ih rest
    exact ⟨now, .more ⟨fromClock _ List.mem_cons_self, handles, rfl⟩ timed⟩

/-- **A run of requests at nondecreasing times is a run of mailboxes.** -/
theorem run_refines_mailboxes (chronological : Chronological clock world)
    {requests : List Request}
    (ordered : (clock :: (runRequests host cfg world requests).1.map fun handled =>
      handled.moment.now).Pairwise (· ≤ ·)) :
    wholeInbox (runRequests host cfg world requests).2.db =
      ((runRequests host cfg world requests).1.map (mailboxEvent host cfg)).foldl
        (Mailbox.happen Msg.id) (wholeInbox world.db) := by
  obtain ⟨now, timed⟩ := timed_of_ordered (runRequests_run host cfg world requests) ordered
  rw [List.foldl_map]
  refine timed.folds (fun state => wholeInbox state.2.db)
    (fun boxes handled => Mailbox.happen Msg.id boxes (mailboxEvent host cfg handled))
    (fun state => Chronological state.1 state.2) ?_ ?_ chronological
  · rintro ⟨clock, before⟩ _ ⟨_, after⟩ ⟨later, ⟨⟨moment, joAction, rfl⟩, rfl⟩, rfl⟩ holds
    exact holds.evaluation later _
  · rintro ⟨clock, before⟩ _ ⟨_, after⟩ ⟨later, ⟨⟨moment, joAction, rfl⟩, rfl⟩, rfl⟩ holds
    exact evaluation_refines holds later _

end

/-! ### Sending and removing, from the JSON of a request to the inboxes -/

/-- The content a request asks to send. -/
def HasContent (jo : Json) (text : Bytes) : Prop :=
  ∃ joWith, jsonObjectObjectGetEx jo (clit "with") = some joWith ∧
    jsonObjectObjectGetEx joWith (clit "content") = some (.string text)

/-- The answer to a `send` that succeeds. -/
def sendAnswer (msgId : Int) : Json :=
  .object [member "body" (.object [member "msg_id" (.int msgId)])]

/-- The answer to an `rm` that succeeds. -/
def rmAnswer : Json := .object []

/-- **A message as it was sent**: never read, edited or deleted. -/
structure SentMsg (msg : Msg) (msgId sender recipient : Int) (text : Bytes) : Prop where
  id : msg.id = msgId
  sender : msg.userIdSender = sender
  recipient : msg.userIdRecipient = recipient
  content : msg.content.1 = text
  readAge : msg.readAge = 0
  editedAge : msg.editedAge = 0
  deletedAge : msg.deletedAge = 0

section

variable {host : Host} {cfg : Cfg} {moment : Moment} {clock : Int} {world : World}
  {constr : Constr} {user : UserIdentity} {destUserId msgId : Int} {content : Slice} {text : Bytes}

/-- An error is never the answer to a request that succeeds. -/
theorem error_not_answer (host : Host) (body : ResponseBody) {members : List (CString × Json)}
    (notError : ∀ joError, members ≠ [member "error" joError]) :
    responseToJson host ⟨.error, false, body⟩ ≠ .ok (.object members) := by
  intro encoded
  simp only [responseToJson] at encoded
  split at encoded
  · cases encoded
  · exact notError _ (Json.object.inj (Except.ok.inj encoded)).symm

/-- The answer to a `send` is no error. -/
theorem sendAnswer_not_error (msgId : Int) (joError : Json) :
    [member "body" (.object [member "msg_id" (.int msgId)])] ≠ [member "error" joError] := by
  intro same
  have sameKey : clit "body" = clit "error" := congrArg Prod.fst (List.cons.inj same).1
  exact absurd sameKey (by decide)

/-- A `send` that is answered with an identifier has added its message under it. -/
theorem inserts_of_answered
    (answered : (actionEvaluate host cfg moment world (.send constr destUserId content)).1.bind
      (responseToJson host) = .ok (sendAnswer msgId)) :
    msgId = world.nextMsgId ∧ ∃ user destRole,
      SendInserts host cfg moment world constr destUserId content user destRole := by
  rcases send_outcomes host cfg moment world constr destUserId content with
    ⟨fault, stopped⟩ | ⟨status, after, failed, _⟩ | ⟨user, destRole, inserts⟩
  · rw [stopped] at answered
    cases answered
  · rw [failed] at answered
    exact absurd answered (error_not_answer host (.error ⟨.other, .other status⟩)
      (sendAnswer_not_error msgId))
  · refine ⟨?_, user, destRole, inserts⟩
    obtain ⟨after, evaluated, _⟩ := send_of_inserts inserts
    rw [evaluated] at answered
    by_cases breaks : BreaksInvariant user destRole destUserId
    · rw [sentResponse, if_pos breaks] at answered
      -- The identifier was stored over the tag of an error: what the encoder makes of it is an error.
      exact absurd answered (error_not_answer host (.sendOver world.nextMsgId
        (.invariant (lit (lastBroken user destRole)))) (sendAnswer_not_error msgId))
    · rw [sentResponse, if_neg breaks] at answered
      cases answered
      rfl

/-- An `rm` that is answered without a body has marked its message. -/
theorem removes_of_answered
    (answered : (actionEvaluate host cfg moment world (.rm constr msgId)).1.bind
      (responseToJson host) = .ok rmAnswer) :
    ∃ user row, RmRemoves host cfg moment world constr msgId user row := by
  rcases rm_outcomes host cfg moment world constr msgId with
    ⟨fault, stopped⟩ | ⟨status, failed⟩ | removes
  · rw [stopped] at answered
    cases answered
  · rw [failed] at answered
    have noError : ∀ joError, ([] : List (CString × Json)) ≠ [member "error" joError] := nofun
    exact absurd answered (error_not_answer host (.error ⟨.other, .other status⟩) noError)
  · exact removes

/-- A message that was added is read as it was sent. -/
theorem sentMsg_inboxMsg (now : Int) {slice : CString} (same : slice.1 = text)
    (sender : Int) :
    SentMsg (inboxMsg destUserId (newMsgRow now msgId sender destUserId slice)) msgId sender
      destUserId text := by
  refine ⟨rfl, ?_, rfl, same, rfl, rfl, rfl⟩
  show pqRecvOrZero (if sender = 0 then none else some sender) = sender
  by_cases isRoot : sender = 0
  · rw [if_pos isRoot, isRoot]
    rfl
  · rw [if_neg isRoot]
    rfl

/-- What `act` does of an element, once it is parsed. -/
theorem act_of_parsed {joAction : Json} {action : Action}
    (parsed : actionParse moment world.db joAction = action) :
    act host cfg moment world joAction =
      ((actionEvaluate host cfg moment world action).1.bind (responseToJson host),
        exchange host cfg moment world action) := by
  rw [act, parsed]
  rfl

/-- A `send` request that is answered with an identifier inserts its message under it. -/
theorem inserted_of_answered {joSend : Json}
    (parsed : actionParse moment world.db joSend = .send constr destUserId content)
    (answered : (act host cfg moment world joSend).1 = .ok (sendAnswer msgId)) :
    msgId = world.nextMsgId ∧ ∃ user destRole,
      SendInserts host cfg moment world constr destUserId content user destRole ∧
      Inserted moment.now world (act host cfg moment world joSend).2.after user.id destUserId
        content.val := by
  rw [act_of_parsed parsed] at answered ⊢
  obtain ⟨isNext, user, destRole, inserts⟩ := inserts_of_answered answered
  obtain ⟨after, evaluated, inserted⟩ := send_of_inserts inserts
  refine ⟨isNext, user, destRole, inserts, ?_⟩
  rw [exchange, evaluated]
  exact inserted

/-- An `rm` request that is answered without a body removes its message. -/
theorem removed_of_answered {joRm : Json}
    (parsed : actionParse moment world.db joRm = .rm constr msgId)
    (answered : (act host cfg moment world joRm).1 = .ok rmAnswer) :
    ∃ age, Removed world (act host cfg moment world joRm).2.after msgId age := by
  rw [act_of_parsed parsed] at answered ⊢
  obtain ⟨user, row, removes⟩ := removes_of_answered answered
  obtain ⟨age, after, evaluated, removed⟩ := rm_of_removes removes
  refine ⟨age, ?_⟩
  rw [exchange, evaluated]
  exact removed

/-- The content that a request asks for is the content that is parsed. -/
theorem content_of_asked {joSend : Json}
    (parsed : actionParse moment world.db joSend = .send constr destUserId content)
    (asked : HasContent joSend text) (plain : 0 ∉ text) : content.val.1 = text := by
  obtain ⟨joWith, text', isWith, isContent, rfl⟩ := content_of_parsed parsed
  obtain ⟨joWith', isWith', isContent'⟩ := asked
  cases isWith.symm.trans isWith'
  cases isContent.symm.trans isContent'
  exact cstring_of_no_zero plain

/-- **Sending, then removing.** -/
theorem send_then_rm (reachable : Reachable host cfg clock world) (later : clock ≤ moment.now)
    {joSend : Json} (parsed : actionParse moment world.db joSend = .send constr destUserId content)
    (asked : HasContent joSend text) (plain : 0 ∉ text)
    (verified : dbVerifyUserConstr host cfg moment world.db .indeterminate constr =
      .ok (.ok, user))
    (answered : (act host cfg moment world joSend).1 = .ok (sendAnswer msgId)) :
    (∃ msg, SentMsg msg msgId user.id destUserId text ∧
      wholeInbox (act host cfg moment world joSend).2.after.db destUserId =
        msg :: wholeInbox world.db destUserId ∧
      ∀ other, other ≠ destUserId →
        wholeInbox (act host cfg moment world joSend).2.after.db other =
          wholeInbox world.db other) ∧
    ∀ rmMoment joRm rmConstr,
      actionParse rmMoment (act host cfg moment world joSend).2.after.db joRm =
        .rm rmConstr msgId →
      (act host cfg rmMoment (act host cfg moment world joSend).2.after joRm).1 = .ok rmAnswer →
      ∀ reader, wholeInbox (act host cfg rmMoment (act host cfg moment world joSend).2.after
        joRm).2.after.db reader = wholeInbox world.db reader := by
  obtain ⟨rfl, sender, destRole, inserts, inserted⟩ := inserted_of_answered parsed answered
  have isUser : user = sender := by
    simpa using verified.symm.trans inserts.proceeds.verified
  subst isUser
  have sameText := content_of_asked parsed asked plain
  have delivered := wholeInbox_inserted inserted (reachable.chronological.newest later)
  refine ⟨⟨_, sentMsg_inboxMsg moment.now sameText user.id, ?_, ?_⟩, ?_⟩
  · rw [delivered, Mailbox.deliver_same]
  · intro other isOther
    rw [delivered, Mailbox.deliver_other isOther]
  · intro rmMoment joRm rmConstr rmParsed rmAnswered reader
    obtain ⟨age, removed⟩ := removed_of_answered rmParsed rmAnswered
    have fresh : ∀ box, ∀ other ∈ wholeInbox world.db box, other.id ≠ world.nextMsgId := by
      intro box other inBox
      obtain ⟨old, inRows, rfl⟩ := List.mem_map.mp inBox
      exact inserts.accepts.insertable.fresh old (mem_inboxRows.mp inRows).1
    have undone := Mailbox.discard_deliver Msg.id destUserId
      (inboxMsg destUserId
        (newMsgRow moment.now world.nextMsgId user.id destUserId content.val)) fresh
    rw [wholeInbox_removed removed, delivered]
    exact congrFun undone reader

end

/-- A member writes to a professional, and removes the message. -/
theorem run_refines_mailboxes_memberToPro :
    ([0, 0, 0] : List Int).Pairwise (· ≤ ·) ∧
      wholeInbox (runRequests testHost testCfg testWorld
          [⟨fun _ => allUp 0, memberToProRequest⟩, ⟨fun _ => allUp 0, removeFirstRequest⟩]).2.db =
        ((runRequests testHost testCfg testWorld
          [⟨fun _ => allUp 0, memberToProRequest⟩, ⟨fun _ => allUp 0, removeFirstRequest⟩]).1.map
            (mailboxEvent testHost testCfg)).foldl (Mailbox.happen Msg.id)
              (wholeInbox testWorld.db) := by
  have reachable : Reachable testHost testCfg 0 testWorld := .start rfl
  have ordered : ([0, 0, 0] : List Int).Pairwise (· ≤ ·) := by decide
  exact ⟨ordered, run_refines_mailboxes reachable.chronological ordered⟩

/-- The test users after the first message. -/
def worldAfterSend : World := (act testHost testCfg (allUp 0) testWorld memberToProRequest).2.after

/-- The first message of the test users arrives, and is removed. -/
theorem memberToPro_sent_and_removed :
    (∃ msg, SentMsg msg 1 1003 1001 (lit "salut") ∧
      wholeInbox worldAfterSend.db 1001 = msg :: wholeInbox testWorld.db 1001 ∧
      ∀ other, other ≠ 1001 → wholeInbox worldAfterSend.db other = wholeInbox testWorld.db other) ∧
    ∀ reader, wholeInbox (act testHost testCfg (allUp 1000000) worldAfterSend
      removeFirstRequest).2.after.db reader = wholeInbox testWorld.db reader := by
  have reachable : Reachable testHost testCfg 0 testWorld := .start rfl
  have parsed : actionParse (allUp 0) testWorld.db memberToProRequest =
      .send constrMember1 1001 ⟨5, clit "salut"⟩ := rfl
  have verified : dbVerifyUserConstr testHost testCfg (allUp 0) testWorld.db .indeterminate
      constrMember1 = .ok (.ok, ⟨roleMember, 1003⟩) := by decide
  have answered : (act testHost testCfg (allUp 0) testWorld memberToProRequest).1 =
      .ok (sendAnswer 1) := rfl
  have law := send_then_rm reachable (le_refl 0) parsed ⟨_, rfl, rfl⟩ (by decide) verified answered
  exact ⟨law.1, law.2 (allUp 1000000) removeFirstRequest constrMember1 rfl rfl⟩

end Tchatator
