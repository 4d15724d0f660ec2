/-
**The messages are a journal** (`_msg`).

* `KeptMsg` — a row of `_msg` that is still there: as it was, or marked as deleted, once;
* `KeepsHistory` — a database after some time: nothing but `_msg` is another, and `_msg` has grown,
  by rows whose identifiers were not given before;
* `keepsHistory_evaluation`, `keepsHistory_run` — one action keeps the history, and so does a run;
* **`server_keepsHistory`** — and so does the process, whatever happens to it;
* **`acknowledged_kept`** — so a message whose `send` has been answered with an identifier is stored
  under it from then on, and no identifier is answered twice.
-/

import Tchatator.Library.Journal
import Tchatator.Proof.Mailboxes
import Tchatator.Proof.Serial

namespace Tchatator

open Keyed

/-- **A row that is still there**: only whether it is deleted may have changed, and only once. -/
def KeptMsg (row kept : MsgRow) : Prop :=
  kept = row ∨ (row.deletedAge = none ∧ ∃ age, kept = { row with deletedAge := some age })

/-- **A database some time after another.** -/
structure KeepsHistory (before after : World) : Prop where
  /-- No other table has changed. -/
  others : { after.db.1 with msgs := before.db.1.msgs } = before.db.1
  sequence : before.lastMsgId ≤ after.lastMsgId
  messages : Journal.Grows KeptMsg MsgRow.msgId before.lastMsgId after.lastMsgId before.db.1.msgs
    after.db.1.msgs

/-! ### Rows -/

theorem KeptMsg.refl (row : MsgRow) : KeptMsg row row := Or.inl rfl

theorem KeptMsg.msgId (row kept : MsgRow) (isKept : KeptMsg row kept) : kept.msgId = row.msgId := by
  rcases isKept with rfl | ⟨_, age, rfl⟩ <;> rfl

theorem KeptMsg.trans (row once twice : MsgRow) (first : KeptMsg row once)
    (second : KeptMsg once twice) : KeptMsg row twice := by
  rcases first with rfl | ⟨notDeleted, age, rfl⟩
  · exact second
  · rcases second with rfl | ⟨notDeletedAgain, _, _⟩
    · exact Or.inr ⟨notDeleted, age, rfl⟩
    · cases notDeletedAgain

section

variable {host : Host} {cfg : Cfg} {moment : Moment} {world before between after last : World}

theorem KeepsHistory.refl (world : World) : KeepsHistory world world :=
  ⟨rfl, Nat.le_refl _, Journal.Grows.refl KeptMsg.refl _ _ _⟩

/-- **Histories compose.** -/
theorem KeepsHistory.trans (first : KeepsHistory before between)
    (second : KeepsHistory between after) : KeepsHistory before after := by
  refine ⟨?_, first.sequence.trans second.sequence, ?_⟩
  · calc { after.db.1 with msgs := before.db.1.msgs }
        = { ({ after.db.1 with msgs := between.db.1.msgs } : Tables) with
            msgs := before.db.1.msgs } := rfl
      _ = before.db.1 := by rw [second.others, first.others]
  · exact Journal.Grows.trans KeptMsg.msgId KeptMsg.trans (Int.ofNat_le.mpr first.sequence)
      (Int.ofNat_le.mpr second.sequence) first.messages second.messages

/-- A message that is added. -/
theorem Inserted.keepsHistory {now sender recipient : Int} {content : CString}
    (inserted : Inserted now world after sender recipient content) : KeepsHistory world after := by
  refine ⟨by rw [inserted.tables]; rfl, by rw [inserted.sequence]; exact Nat.le_succ _, ?_⟩
  rw [inserted.tables, inserted.sequence]
  refine Journal.Grows.push KeptMsg.refl ?_ (Int.le_refl _) _
  show (world.lastMsgId : Int) < world.lastMsgId + 1
  omega

/-- A message that is marked was not. -/
theorem Removed.keepsHistory {msgId age : Int} {row : MsgRow}
    (removed : Removed world after msgId age) (visible : row ∈ world.db.1.msgView)
    (sameId : row.msgId = msgId) : KeepsHistory world after := by
  obtain ⟨inMsgs, notDeleted⟩ := mem_msgView.mp visible
  refine ⟨by rw [removed.tables]; rfl, Nat.le_of_eq removed.sequence.symm, ?_⟩
  rw [removed.tables, removed.sequence]
  refine Journal.Grows.change _ _ fun other member => ?_
  by_cases same : other.msgId = msgId
  · have isRow : other = row :=
      world.db.2.msgPkey.eq_of_key member inMsgs (same.trans sameId.symm)
    rw [markDeleted, if_pos same]
    exact Or.inr ⟨isRow ▸ notDeleted, age, rfl⟩
  · rw [markDeleted_other same]
    exact KeptMsg.refl other

/-- **One action keeps the history.** -/
theorem keepsHistory_evaluation (action : Action) :
    KeepsHistory world (actionEvaluate host cfg moment world action).2 := by
  rcases database_outcomes host cfg moment world action with
    untouched | ⟨_, _, _, _, _, _, _, inserted⟩ | ⟨_, _, _, row, _, _, removes, removed⟩
  · refine ⟨by rw [untouched.tables], untouched.sequence, ?_⟩
    rw [untouched.tables]
    exact Journal.Grows.refl KeptMsg.refl _ _ _
  · exact inserted.keepsHistory
  · exact removed.keepsHistory removes.accepts.visible removes.sameId

/-- **A run of exchanges keeps the history.** -/
theorem keepsHistory_run {exchanges : List Exchange}
    (run : Run (Handles host cfg) world exchanges last) : KeepsHistory world last := by
  induction run with
  | done world => exact .refl world
  | more handles _ ih =>
    obtain ⟨⟨moment, joAction, rfl⟩, rfl⟩ := handles
    exact (keepsHistory_evaluation _).trans ih

/-- **The process keeps the history**, whatever happens to it: no run of the server loses a message,
changes anything of it but that it is deleted, brings a deleted one back, gives an identifier again,
or changes a user, a role or a block. -/
theorem server_keepsHistory {tokener : Tokener} {allocator : Allocator} {sock : Nat}
    {state : ServerState} {events : List Event}
    (run : Run (Happens tokener host cfg allocator) (.start sock world) events state) :
    KeepsHistory world state.world := by
  obtain ⟨exchanges, handles⟩ := server_handles run
  exact keepsHistory_run handles

end

/-- A message is sent, read and removed, and the history is kept. -/
theorem server_keepsHistory_visitors :
    ∃ state : ServerState,
      Event.connect writer ∈ visits ∧ Event.connect remover ∈ visits ∧
      state.world.db.1.msgs.length = 1 ∧ state.world.db.1.msgView = [] ∧
      KeepsHistory testWorld state.world := by
  obtain ⟨state, observed, _, isWorld⟩ := visitors_run
  have run : Run (Happens visitorTokener printingHost testCfg ⟨fun _ => false⟩) (.start 3 testWorld)
      visits state :=
    observed.maps Prod.fst (fun _ => True) (fun _ _ _ _ _ => trivial)
      (fun _ _ _ observed _ => observed.1) trivial
  have stored : state.world.db.1.msgs.length = 1 ∧ state.world.db.1.msgView = [] := by
    rw [isWorld]
    exact ⟨rfl, rfl⟩
  exact ⟨state, by simp [visits, visit], by simp [visits, visit], stored.1, stored.2,
    server_keepsHistory run⟩

/-! ### Messages that are acknowledged -/

/-- **An acknowledged message**: a `send` that is answered with an identifier. -/
def Acknowledges (host : Host) (handled : Exchange) (msgId recipient : Int) (content : CString) :
    Prop :=
  (∃ constr slice, handled.action = .send constr recipient slice ∧ slice.val = content) ∧
    handled.response.bind (responseToJson host) = .ok (sendAnswer msgId)

/-- A message is stored: it may be deleted, but nothing else of it has changed. -/
def Stores (world : World) (sentAt msgId recipient : Int) (content : CString) : Prop :=
  ∃ sender, ∃ row ∈ world.db.1.msgs,
    KeptMsg (newMsgRow sentAt msgId sender recipient content) row

section

variable {host : Host} {cfg : Cfg} {world before after last : World} {sentAt msgId recipient : Int}
  {content : CString} {handled : Exchange} {exchanges : List Exchange}

/-- A stored message stays. -/
theorem Stores.kept (stored : Stores before sentAt msgId recipient content)
    (keeps : KeepsHistory before after) : Stores after sentAt msgId recipient content := by
  obtain ⟨sender, row, member, isKept⟩ := stored
  obtain ⟨later, inAfter, keptLater⟩ := keeps.messages.kept member
  exact ⟨sender, later, inAfter, isKept.trans _ _ _ keptLater⟩

/-- **The answer comes with the message**: its identifier is the next one, and it is stored. -/
theorem Acknowledges.stored (acknowledges : Acknowledges host handled msgId recipient content)
    (handles : Handles host cfg before handled after) :
    msgId = before.nextMsgId ∧ msgId = after.lastMsgId ∧
      Stores after handled.moment.now msgId recipient content := by
  obtain ⟨⟨moment, joAction, rfl⟩, rfl⟩ := handles
  obtain ⟨⟨constr, slice, parsed, rfl⟩, answered⟩ := acknowledges
  obtain ⟨isNext, user, destRole, inserts, inserted⟩ := inserted_of_answered parsed answered
  refine ⟨isNext, ?_, user.id, _, ?_, .refl _⟩
  · rw [inserted.sequence, isNext]
    rfl
  · rw [inserted.tables, isNext]
    exact List.mem_cons_self

/-- The identifiers a run acknowledges are past those that were given before it. -/
theorem acknowledged_newer (run : Run (Handles host cfg) world exchanges last) :
    ∀ handled ∈ exchanges, ∀ msgId recipient content,
      Acknowledges host handled msgId recipient content → (world.lastMsgId : Int) < msgId := by
  induction run with
  | done world => exact fun _ member => absurd member List.not_mem_nil
  | more handles _ ih =>
    rintro handled member msgId recipient content acknowledges
    rcases List.mem_cons.mp member with rfl | later
    · rw [(acknowledges.stored handles).1]
      exact Int.lt_succ _
    · have grown := (keepsHistory_run (.single handles)).sequence
      have isLater := ih handled later msgId recipient content acknowledges
      omega

/-- **A run stores what it acknowledges.** -/
theorem acknowledged_stored (run : Run (Handles host cfg) world exchanges last) :
    ∀ handled ∈ exchanges, ∀ msgId recipient content,
      Acknowledges host handled msgId recipient content →
        Stores last handled.moment.now msgId recipient content := by
  induction run with
  | done world => exact fun _ member => absurd member List.not_mem_nil
  | more handles later ih =>
    intro handled member msgId recipient content acknowledges
    rcases List.mem_cons.mp member with rfl | inRest
    · exact (acknowledges.stored handles).2.2.kept (keepsHistory_run later)
    · exact ih handled inRest msgId recipient content acknowledges

/-- **A run never acknowledges an identifier twice.** -/
theorem acknowledged_ordered (run : Run (Handles host cfg) world exchanges last) :
    exchanges.Pairwise fun earlier later => ∀ msgId recipient content,
      Acknowledges host earlier msgId recipient content → ∀ msgId' recipient' content',
        Acknowledges host later msgId' recipient' content' → msgId < msgId' := by
  induction run with
  | done world => exact .nil
  | more handles rest ih =>
    refine .cons ?_ ih
    intro later member msgId recipient content first msgId' recipient' content' second
    rw [(first.stored handles).2.1]
    exact acknowledged_newer rest later member msgId' recipient' content' second

end

/-- **No acknowledged message is lost**: whatever requests the server is sent, single actions or
arrays of them, whether or not it is stopped on the way and started again, a message whose `send`
was answered with an identifier is stored at the end under that identifier, with the recipient and
the content of the request and the time of the answer; and the identifiers it answers increase. -/
theorem acknowledged_kept (host : Host) (cfg : Cfg) (world : World) (requests : List Request) :
    (∀ handled ∈ (runRequests host cfg world requests).1, ∀ msgId recipient content,
      Acknowledges host handled msgId recipient content →
        Stores (runRequests host cfg world requests).2 handled.moment.now msgId recipient
          content) ∧
    (runRequests host cfg world requests).1.Pairwise fun earlier later =>
      ∀ msgId recipient content, Acknowledges host earlier msgId recipient content →
        ∀ msgId' recipient' content', Acknowledges host later msgId' recipient' content' →
          msgId < msgId' :=
  have run := runRequests_run host cfg world requests
  ⟨acknowledged_stored run, acknowledged_ordered run⟩

end Tchatator
