/-
**A deleted message stays deleted** (`ftg_msg_delete`, the view `msg`).

* `IsDeleted.evaluation` — no action changes or removes a message that is marked: a `send` adds
  another one, an `rm` marks one that the view shows;
* `shown_of_inbox` — what an inbox page shows is in the view;
* `rm_deleted` — an `rm` of a message that is marked finds nothing;
* **`deleted_for_good`** — so along every run of requests the row of a deleted message stays as it
  is, no page and no view shows the message, and every `rm` of it is answered `404`.
-/

import Tchatator.Proof.Batches
import Tchatator.Proof.Inbox

namespace Tchatator

open Keyed

/-- A message is in the table, marked as deleted. -/
def IsDeleted (row : MsgRow) (world : World) : Prop :=
  row ∈ world.db.1.msgs ∧ row.deletedAge ≠ none

section

variable {host : Host} {cfg : Cfg} {moment : Moment} {world : World} {row : MsgRow}

/-- The view does not show it. -/
theorem IsDeleted.invisible (isDeleted : IsDeleted row world) :
    ∀ other ∈ world.db.1.msgView, other.msgId ≠ row.msgId := by
  intro other visible same
  obtain ⟨member, notDeleted⟩ := mem_msgView.mp visible
  have sameRow := world.db.2.msgPkey.eq_of_key member isDeleted.1 same
  rw [sameRow] at notDeleted
  exact isDeleted.2 notDeleted

/-- **No action changes or removes it.** -/
theorem IsDeleted.evaluation (isDeleted : IsDeleted row world) (action : Action) :
    IsDeleted row (actionEvaluate host cfg moment world action).2 := by
  refine ⟨?_, isDeleted.2⟩
  rcases database_outcomes host cfg moment world action with
    untouched | ⟨_, _, _, _, _, _, _, inserted⟩ | ⟨_, msgId, _, marked, age, _, removes, removed⟩
  · rw [untouched.tables]
    exact isDeleted.1
  · rw [inserted.tables]
    exact List.mem_cons_of_mem _ isDeleted.1
  · have other : row.msgId ≠ msgId := by
      rw [← removes.sameId]
      exact (isDeleted.invisible marked removes.accepts.visible).symm
    rw [removed.tables]
    exact List.mem_map.mpr ⟨row, isDeleted.1, markDeleted_other other⟩

/-- What a page of an inbox shows is in the view. -/
theorem mem_msgView_of_page {limit offset userId : Int} {msgs : List Msg}
    (fetched : dbGetInbox moment world.db limit offset userId [] = (.ok, msgs)) :
    ∀ msg ∈ msgs, ∃ row ∈ world.db.1.msgView, row.msgId = msg.id := by
  unfold dbGetInbox at fetched
  split at fetched
  · split at fetched
    · cases fetched
    · rename_i rows cut
      simp only [Prod.mk.injEq, true_and] at fetched
      subst fetched
      intro msg inPage
      obtain ⟨row, isShown, rfl⟩ := List.mem_map.mp inPage
      have inRows : row ∈ inboxRows world.db userId := by
        unfold limitOffset at cut
        split at cut
        · cases cut
        · cases cut
          exact List.mem_of_mem_drop (List.mem_of_mem_take (List.mem_of_mem_take isShown))
      obtain ⟨member, notDeleted, _⟩ := mem_inboxRows.mp inRows
      exact ⟨row, mem_msgView.mpr ⟨member, notDeleted⟩, rfl⟩
  · cases fetched

theorem storeMsgId_ne_inbox (body : ResponseBody) (msgId : Int) (msgs : List Msg) :
    body.storeMsgId msgId ≠ .inbox msgs := by
  intro isInbox
  rcases body.storeMsgId_cases msgId with stored | ⟨info, stored⟩ <;>
    cases stored.symm.trans isInbox

/-- Only the branch `inbox` answers messages. -/
theorem branch_without_page {action : Action} {user : UserIdentity} {rep : Response}
    {msgs : List Msg} (notInbox : action.type ≠ .action .inbox)
    (responds : (branch host cfg moment world action user).1 = .ok rep) :
    rep.body ≠ .inbox msgs := by
  cases action with
  | inbox => exact absurd rfl notInbox
  | whois =>
    simp only [branch, evaluateWhois] at responds
    split at responds <;> cases responds <;> rintro ⟨⟩
  | send =>
    simp only [branch, evaluateSend, sendAndReport] at responds
    repeat' split at responds
    all_goals cases responds
    all_goals first | exact storeMsgId_ne_inbox _ _ _ | rintro ⟨⟩
  | rm =>
    simp only [branch, evaluateRm] at responds
    repeat' split at responds
    all_goals
      cases responds
      rintro ⟨⟩
  | _ =>
    cases responds
    rintro ⟨⟩

/-- **What a response shows of an inbox is in the view.** -/
theorem shown_of_inbox {action : Action} {rep : Response} {msgs : List Msg}
    (responds : (actionEvaluate host cfg moment world action).1 = .ok rep)
    (isInbox : rep.body = .inbox msgs) :
    ∀ msg ∈ msgs, ∃ row ∈ world.db.1.msgView, row.msgId = msg.id := by
  rcases action.cases_constr with ⟨stored, rfl⟩ | ⟨constr, kind, carries, isKind⟩
  · cases responds
    cases isInbox
  rcases evaluation_cases host cfg moment world action carries isKind with
    ⟨fault, stopped⟩ | ⟨status, failed⟩ | ⟨user, _, _, goes⟩
  · rw [stopped] at responds
    cases responds
  · rw [failed] at responds
    cases responds
    cases isInbox
  rw [goes] at responds
  cases action with
  | inbox _ page =>
    simp only [branch, evaluateInbox] at responds
    split at responds
    · rename_i shown fetched
      cases responds
      cases isInbox
      exact mem_msgView_of_page fetched
    · cases responds
      cases isInbox
  | _ => exact absurd isInbox (branch_without_page (by simp [Action.type]) responds)

/-- **An `rm` of a deleted message finds nothing.** -/
theorem rm_deleted (isDeleted : IsDeleted row world) {constr : Constr} {user : UserIdentity}
    (verified : dbVerifyUserConstr host cfg moment world.db .indeterminate constr =
      .ok (.ok, user)) (executed : moment.up .rmMsg = true) :
    (actionEvaluate host cfg moment world (.rm constr row.msgId)).1 =
      .ok ⟨.error, false, .error ⟨.other, .other .notFound⟩⟩ := by
  rw [evaluation_of_verified host cfg moment world _ rfl rfl rfl verified]
  show (evaluateRm moment world ⟨.action .rm, false, .zero⟩ row.msgId user).1 = _
  rw [evaluateRm, dbRmMsg, if_pos executed, deleteMsg_invisible _ isDeleted.invisible]
  rfl

/-! ### Runs -/

/-- A message is deleted in every database of a run. -/
theorem IsDeleted.run (isDeleted : IsDeleted row world) (host : Host) (cfg : Cfg)
    (requests : List Request) :
    IsDeleted row (runRequests host cfg world requests).2 ∧
      ∀ handled ∈ (runRequests host cfg world requests).1,
        IsDeleted row handled.before ∧ IsDeleted row handled.after := by
  obtain ⟨atEnd, onTheWay⟩ := (runRequests_run host cfg world requests).invariant (IsDeleted row)
    (fun before handled after step isDeleted => by
      obtain ⟨⟨moment, joAction, rfl⟩, rfl⟩ := step
      exact isDeleted.evaluation _) isDeleted
  refine ⟨atEnd, fun handled member => ?_⟩
  obtain ⟨before, after, ⟨⟨moment, joAction, rfl⟩, rfl⟩, before', after'⟩ := onTheWay handled member
  exact ⟨before', after'⟩

/-- The answer `404`. -/
def notFoundAnswer : Json := .object [member "error" (.object [member "status" (.int 404)])]

/-- **A deleted message stays deleted**, whatever requests follow: its row stays as it is and the
view never shows it, nor does a page of an inbox; an `rm` of it by a verified user is answered
`404` when its statement is executed. -/
theorem deleted_for_good (isDeleted : IsDeleted row world) (requests : List Request) :
    (row ∈ (runRequests host cfg world requests).2.db.1.msgs ∧
      ∀ shown ∈ (runRequests host cfg world requests).2.db.1.msgView, shown.msgId ≠ row.msgId) ∧
    ∀ handled ∈ (runRequests host cfg world requests).1,
      row ∈ handled.after.db.1.msgs ∧
      (∀ shown ∈ handled.after.db.1.msgView, shown.msgId ≠ row.msgId) ∧
      (∀ rep msgs, handled.response = .ok rep → rep.body = .inbox msgs →
        ∀ msg ∈ msgs, msg.id ≠ row.msgId) ∧
      ∀ constr user, handled.action = .rm constr row.msgId →
        dbVerifyUserConstr host cfg handled.moment handled.before.db .indeterminate constr =
          .ok (.ok, user) →
        handled.moment.up .rmMsg = true → handled.answer host = .ok notFoundAnswer := by
  obtain ⟨atEnd, onTheWay⟩ := isDeleted.run host cfg requests
  refine ⟨⟨atEnd.1, atEnd.invisible⟩, fun handled member => ?_⟩
  obtain ⟨before, after⟩ := onTheWay handled member
  have isExchange := (exchange_of_run member).1
  refine ⟨after.1, after.invisible, ?_, ?_⟩
  · intro rep msgs responds isInbox msg inPage same
    rw [isExchange] at responds
    obtain ⟨shown, visible, sameId⟩ := shown_of_inbox responds isInbox msg inPage
    exact before.invisible shown visible (sameId.trans same)
  · intro constr user isRm verified executed
    have responds := rm_deleted before verified executed
    rw [← isRm] at responds
    rw [isExchange]
    show (actionEvaluate host cfg handled.moment handled.before handled.action).1.bind _ = _
    rw [responds]
    rfl

end

/-- The message of the test member, after its deletion. -/
def deletedRow : MsgRow :=
  { newMsgRow 0 1 1003 1001 (clit "salut") with deletedAge := some 60 }

def worldWithDeleted : World :=
  { db := ⟨{ useTestDataUsers.1 with msgs := [deletedRow] }, by decide⟩
    lastMsgId := 1 }

/-- The member removes the message again, and the professional reads their inbox. -/
def removeAndRead : Request :=
  ⟨fun _ => allUp 0, .array
    [.object [member "do" (.string (lit "rm")), member "with" (.object
      [member "constr" (.string (lit "123e4567-e89b-12d3-a456-426614174000¤member1_mdp")),
        member "msg_id" (.int 1)])],
    .object [member "do" (.string (lit "inbox")), member "with" (.object
      [member "constr" (.string (lit "bb1b5a1f-a482-4858-8c6b-f4746481cffa¤pro1_mdp"))])]]⟩

/-- The message is still there, and still not in the view. -/
theorem deleted_message_stays :
    deletedRow ∈ (runRequests testHost testCfg worldWithDeleted [removeAndRead]).2.db.1.msgs ∧
      ¬ ∃ shown ∈ (runRequests testHost testCfg worldWithDeleted [removeAndRead]).2.db.1.msgView,
        shown.msgId = 1 := by
  have isDeleted : IsDeleted deletedRow worldWithDeleted :=
    ⟨List.mem_cons_self, Option.some_ne_none _⟩
  have stays : deletedRow ∈
        (runRequests testHost testCfg worldWithDeleted [removeAndRead]).2.db.1.msgs ∧
      ∀ shown ∈ (runRequests testHost testCfg worldWithDeleted [removeAndRead]).2.db.1.msgView,
        shown.msgId ≠ deletedRow.msgId := (deleted_for_good isDeleted [removeAndRead]).1
  refine ⟨stays.1, ?_⟩
  rintro ⟨shown, visible, sameId⟩
  exact stays.2 shown visible sameId

end Tchatator
