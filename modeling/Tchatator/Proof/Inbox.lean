/-
**Reading an inbox** (`db_get_inbox`).

The rows of an inbox are read off `_msg` by a filter and a sort; what the server does to `_msg` is
read here as what it does to them.

* `mem_inboxRows`, `inboxRows_ordered` — an inbox holds the messages addressed to the user that
  are not deleted, in the strict order of the view;
* `inboxRows_inserted`, `inboxRows_removed` — adding a message puts it into one inbox, at the front
  when it is the newest, and removing one takes it out of all of them;
* `Fetched`, `Browses` — a page that is fetched, and a reader who fetches pages until one is
  empty while other actions are handled in between;
* **`inbox_browse`** — such a reader misses no message that was there at the start, unless one is
  removed meanwhile, and never sees somebody else's; undisturbed, the pages are the inbox, in
  order.
-/

import Mathlib.Logic.Relation
import Tchatator.Library.Mailbox
import Tchatator.Library.Paging
import Tchatator.Model.TestData
import Tchatator.Proof.Evaluation

namespace Tchatator

open Keyed

/-! ### The rows of an inbox -/

/-- The strict order of the view `msg_ordered`. -/
def Newer (first second : MsgRow) : Prop :=
  second.sentAt < first.sentAt ∨ (first.sentAt = second.sentAt ∧ second.msgId < first.msgId)

section Rows

variable {db : Db} {userId : Int}

theorem mem_inboxRows {row : MsgRow} :
    row ∈ inboxRows db userId ↔
      row ∈ db.1.msgs ∧ row.deletedAge = none ∧ row.userIdRecipient = some userId := by
  rw [inboxRows, List.mem_filter, Tables.msgOrdered, List.mem_insertionSort, mem_msgView,
    decide_eq_true_iff, and_assoc]

/-- The identifiers of an inbox are pairwise different. -/
theorem inboxRows_unique : Unique MsgRow.msgId (inboxRows db userId) := by
  have sorted : Unique MsgRow.msgId db.1.msgOrdered :=
    (((List.perm_insertionSort NewestFirst db.1.msgView).map MsgRow.msgId).nodup_iff).mpr
      (msgView_unique db)
  exact sorted.sublist (List.filter_sublist.map MsgRow.msgId)

/-- **An inbox is in order.** -/
theorem inboxRows_ordered : (inboxRows db userId).Pairwise Newer := by
  have sorted : (inboxRows db userId).Pairwise NewestFirst :=
    (List.pairwise_insertionSort NewestFirst _).filter _
  have different : (inboxRows db userId).Pairwise fun first second =>
      first.msgId ≠ second.msgId := List.pairwise_map.mp inboxRows_unique
  refine (sorted.and different).imp ?_
  rintro first second ⟨newest | ⟨sameTime, notLater⟩, differ⟩
  · exact Or.inl newest
  · exact Or.inr ⟨sameTime, lt_of_le_of_ne notLater differ.symm⟩

end Rows

/-! ### Adding and removing -/

section Changes

variable {now : Int} {world after : World} {sender recipient : Int} {content : CString}

theorem msgView_inserted (inserted : Inserted now world after sender recipient content) :
    after.db.1.msgView =
      newMsgRow now world.nextMsgId sender recipient content :: world.db.1.msgView := by
  rw [inserted.tables]
  rfl

/-- A message that is added pushes nothing out of an inbox. -/
theorem inboxRows_sublist (inserted : Inserted now world after sender recipient content)
    (userId : Int) : (inboxRows world.db userId).Sublist (inboxRows after.db userId) := by
  refine List.Sublist.filter _ ?_
  rw [Tables.msgOrdered, Tables.msgOrdered, msgView_inserted inserted, List.insertionSort_cons]
  exact List.sublist_orderedInsert _ _

/-- **A message newer than all others is put at the front of its inbox.** -/
theorem inboxRows_inserted (inserted : Inserted now world after sender recipient content)
    (newest : ∀ row ∈ world.db.1.msgs, row.sentAt ≤ now ∧ row.msgId ≤ world.nextMsgId)
    (userId : Int) :
    inboxRows after.db userId =
      if userId = recipient then
        newMsgRow now world.nextMsgId sender recipient content :: inboxRows world.db userId
      else inboxRows world.db userId := by
  have isFirst : ∀ row ∈ world.db.1.msgView,
      NewestFirst (newMsgRow now world.nextMsgId sender recipient content) row := by
    intro row visible
    obtain ⟨notLater, notGreater⟩ := newest row (mem_msgView.mp visible).1
    rcases lt_or_eq_of_le notLater with earlier | same
    · exact Or.inl earlier
    · exact Or.inr ⟨same.symm, notGreater⟩
  rw [inboxRows, Tables.msgOrdered, msgView_inserted inserted,
    List.insertionSort_cons_of_forall_rel NewestFirst isFirst]
  by_cases own : userId = recipient
  · rw [if_pos own, List.filter_cons_of_pos (by simp [newMsgRow, own])]
    rfl
  · rw [if_neg own, List.filter_cons_of_neg (by simpa [newMsgRow] using fun same => own same.symm)]
    rfl

variable {msgId age : Int}

/-- A message that is marked leaves the view. -/
theorem msgView_removed (removed : Removed world after msgId age) :
    after.db.1.msgView = world.db.1.msgView.filter fun row => row.msgId ≠ msgId := by
  rw [removed.tables, Tables.msgView, Tables.msgView, tablesWithout, List.filter_map,
    List.filter_filter]
  have same : ∀ row ∈ world.db.1.msgs, ((fun row => row.deletedAge.isNone) ∘ markDeleted msgId age)
      row = (decide (row.msgId ≠ msgId) && row.deletedAge.isNone) := by
    intro row _
    by_cases isMarked : row.msgId = msgId
    · simp [markDeleted, isMarked]
    · simp [markDeleted, isMarked]
  rw [List.filter_congr same]
  refine (List.map_congr_left fun row kept => ?_).trans (List.map_id _)
  have other := (List.mem_filter.mp kept).2
  rw [Bool.and_eq_true, decide_eq_true_iff] at other
  exact markDeleted_other other.1

/-- **A message that is marked leaves every inbox.** -/
theorem inboxRows_removed (removed : Removed world after msgId age) (userId : Int) :
    inboxRows after.db userId =
      (inboxRows world.db userId).filter fun row => row.msgId ≠ msgId := by
  have antisymm : ∀ first ∈ world.db.1.msgView, ∀ second ∈ world.db.1.msgView,
      NewestFirst first second → NewestFirst second first → first = second := by
    intro first inView second alsoInView newer older
    refine (msgView_unique world.db).eq_of_key inView alsoInView ?_
    unfold NewestFirst at newer older
    omega
  rw [inboxRows, inboxRows, Tables.msgOrdered, Tables.msgOrdered, msgView_removed removed,
    Mailbox.filter_insertionSort NewestFirst _ antisymm, List.filter_filter, List.filter_filter]
  exact List.filter_congr fun row _ => Bool.and_comm _ _

end Changes

/-! ### Fetching pages -/

/-- A user's inbox as a whole. -/
def wholeInbox (db : Db) (userId : Int) : List Msg := (inboxRows db userId).map (inboxMsg userId)

/-- **A page is fetched**: after `skipped` pages, the user's request for the next one is answered.
Its offset fits into 32 bits. -/
structure Fetched (host : Host) (cfg : Cfg) (moment : Moment) (world : World) (constr : Constr)
    (userId : Int) (skipped : Nat) (msgs : List Msg) : Prop where
  verified : ∃ role, dbVerifyUserConstr host cfg moment world.db .indeterminate constr =
    .ok (.ok, ⟨role, userId⟩)
  offset : cfg.pageInbox * skipped < 2147483648
  answered : (actionEvaluate host cfg moment world (.inbox constr (skipped + 1))).1 =
    .ok ⟨.action .inbox, false, .inbox msgs⟩

section Fetch

variable {host : Host} {cfg : Cfg} {moment : Moment} {world : World} {constr : Constr}
  {userId : Int} {skipped : Nat} {msgs : List Msg}

/-- The offset of a page whose offset fits is not wrapped around. -/
theorem offset_of_fits (positive : 1 ≤ cfg.pageInbox)
    (fits : cfg.pageInbox * skipped < 2147483648) :
    wrap32 (cfg.pageInbox * (((skipped : Int) + 1) - 1)) =
      ((cfg.pageInbox.toNat * skipped : Nat) : Int) := by
  have nonneg : 0 ≤ cfg.pageInbox * skipped := Int.mul_nonneg (by omega) (by omega)
  have size : (cfg.pageInbox.toNat : Int) = cfg.pageInbox := Int.toNat_of_nonneg (by omega)
  rw [Int.add_sub_cancel, Int.natCast_mul, size]
  refine wrap32_of_mem ?_ ?_
  · unfold int32Min
    omega
  · unfold int32Max
    omega

/-- `limit` and `offset` cut a page out of the rows. -/
theorem limitOffset_cut {α : Type} {limit : Int} (nonneg : 0 ≤ limit) (offset : Nat)
    (rows : List α) :
    limitOffset limit offset rows = some (Paging.cut limit.toNat offset rows) := by
  have legal : ¬ (limit < 0 ∨ (offset : Int) < 0) := by omega
  rw [limitOffset, if_neg legal]
  rfl

/-- **A page that is fetched is that page of the inbox.** -/
theorem Fetched.eq_cut (positive : 1 ≤ cfg.pageInbox)
    (fetched : Fetched host cfg moment world constr userId skipped msgs) :
    msgs = (Paging.cut cfg.pageInbox.toNat (cfg.pageInbox.toNat * skipped)
      (inboxRows world.db userId)).map (inboxMsg userId) := by
  obtain ⟨⟨role, verified⟩, offset, answered⟩ := fetched
  rw [evaluation_of_verified host cfg moment world _ rfl rfl rfl verified] at answered
  simp only [branch, evaluateInbox, dbGetInbox, offset_of_fits positive offset,
    limitOffset_cut (show 0 ≤ cfg.pageInbox by omega)] at answered
  split at answered
  · rename_i shown got
    split at got
    · simp only [Prod.mk.injEq, true_and] at got
      cases answered
      rw [← got, Paging.take_cut]
    · cases got
  · cases answered

end Fetch

/-- Actions are handled, none of which removes a message. -/
def Grows (host : Host) (cfg : Cfg) : World → World → Prop :=
  Relation.ReflTransGen fun before after => ∃ moment action,
    action.type ≠ .action .rm ∧ after = (actionEvaluate host cfg moment before action).2

/-- **A reader** fetches pages until one is empty; between two fetches the database goes from one
state to another. -/
inductive Browses (host : Host) (cfg : Cfg) (constr : Constr) (userId : Int)
    (between : World → World → Prop) : Nat → World → List (List Msg) → Prop
  | stop {moment : Moment} {skipped : Nat} {world : World} :
      Fetched host cfg moment world constr userId skipped [] →
      Browses host cfg constr userId between skipped world [[]]
  | next {moment : Moment} {skipped : Nat} {world later : World} {msgs : List Msg}
      {pages : List (List Msg)} :
      Fetched host cfg moment world constr userId skipped msgs → msgs ≠ [] →
      between world later → Browses host cfg constr userId between (skipped + 1) later pages →
      Browses host cfg constr userId between skipped world (msgs :: pages)

section Browse

variable {host : Host} {cfg : Cfg} {constr : Constr} {userId : Int}

/-- An action that removes no message pushes nothing out of an inbox. -/
theorem inboxRows_grows {world later : World} (grows : Grows host cfg world later) :
    (inboxRows world.db userId).Sublist (inboxRows later.db userId) := by
  induction grows with
  | refl => exact .refl _
  | tail _ step ih =>
    refine ih.trans ?_
    obtain ⟨moment, action, notRm, rfl⟩ := step
    rcases database_outcomes host cfg moment _ action with
      untouched | ⟨_, _, _, _, _, _, _, inserted⟩ | ⟨_, _, _, _, _, rfl, _, _⟩
    · rw [untouched.tables]
    · exact inboxRows_sublist inserted userId
    · exact absurd rfl notRm

/-- **A reader of an inbox is a reader of its rows.** -/
theorem Browses.rows {between : World → World → Prop} (grows : List MsgRow → List MsgRow → Prop)
    (positive : 1 ≤ cfg.pageInbox)
    (keeps : ∀ {world later}, between world later →
      grows (inboxRows world.db userId) (inboxRows later.db userId))
    {skipped : Nat} {world : World} {pages : List (List Msg)}
    (browses : Browses host cfg constr userId between skipped world pages) :
    ∃ rowPages, Paging.Browse cfg.pageInbox.toNat grows (cfg.pageInbox.toNat * skipped)
        (inboxRows world.db userId) rowPages ∧
      pages = rowPages.map (List.map (inboxMsg userId)) := by
  induction browses with
  | stop fetched =>
    have empty := List.map_eq_nil_iff.mp (fetched.eq_cut positive).symm
    exact ⟨[[]], .stop _ _ empty, rfl⟩
  | next fetched some between _ ih =>
    obtain ⟨rowPages, browse, same⟩ := ih
    have page := fetched.eq_cut positive
    refine ⟨_ :: rowPages, .next _ _ _ _ (fun empty => some ?_) (keeps between) ?_, ?_⟩
    · rw [page, empty]
      rfl
    · exact browse
    · rw [page, same]
      rfl

/-- What a reader is shown is addressed to the reader when it is shown. -/
theorem Browses.own (positive : 1 ≤ cfg.pageInbox) {skipped : Nat} {world : World}
    {pages : List (List Msg)}
    (browses : Browses host cfg constr userId (Grows host cfg) skipped world pages) :
    ∀ page ∈ pages, ∀ msg ∈ page, ∃ later, Grows host cfg world later ∧
      ∃ row ∈ later.db.1.msgView, row.userIdRecipient = some userId ∧ msg = inboxMsg userId row := by
  induction browses with
  | stop _ =>
    intro page inPages msg inPage
    rw [List.mem_singleton.mp inPages] at inPage
    cases inPage
  | next fetched _ grows _ ih =>
    intro page inPages msg inPage
    rcases List.mem_cons.mp inPages with rfl | later
    · rw [fetched.eq_cut positive] at inPage
      obtain ⟨row, inCut, rfl⟩ := List.mem_map.mp inPage
      obtain ⟨inMsgs, notDeleted, own⟩ := mem_inboxRows.mp (Paging.mem_of_mem_cut inCut)
      exact ⟨_, .refl, row, mem_msgView.mpr ⟨inMsgs, notDeleted⟩, own, rfl⟩
    · obtain ⟨world', more, shown⟩ := ih page later msg inPage
      exact ⟨world', grows.trans more, shown⟩

/-- **A reader misses nothing that stays, and sees nothing of anybody else's; undisturbed, the pages
are the inbox.** -/
theorem inbox_browse (positive : 1 ≤ cfg.pageInbox) :
    (∀ world pages, Browses host cfg constr userId (Grows host cfg) 0 world pages →
      (∀ row ∈ world.db.1.msgView, row.userIdRecipient = some userId →
        ∃ page ∈ pages, inboxMsg userId row ∈ page) ∧
      ∀ page ∈ pages, ∀ msg ∈ page, ∃ later, Grows host cfg world later ∧
        ∃ row ∈ later.db.1.msgView,
          row.userIdRecipient = some userId ∧ msg = inboxMsg userId row) ∧
    ∀ world pages, Browses host cfg constr userId Eq 0 world pages →
      ∃ rows, pages.flatten = rows.map (inboxMsg userId) ∧
        (∀ row, row ∈ rows ↔ row ∈ world.db.1.msgView ∧ row.userIdRecipient = some userId) ∧
        Unique MsgRow.msgId rows ∧ rows.Pairwise Newer := by
  have size : 0 < cfg.pageInbox.toNat := by omega
  refine ⟨fun world pages browses => ⟨?_, browses.own positive⟩, fun world pages browses => ?_⟩
  · intro row visible own
    obtain ⟨rowPages, browse, rfl⟩ := browses.rows List.Sublist positive inboxRows_grows
    obtain ⟨inMsgs, notDeleted⟩ := mem_msgView.mp visible
    obtain ⟨page, inPages, inPage⟩ := browse.covers size row
      (by simpa using mem_inboxRows.mpr ⟨inMsgs, notDeleted, own⟩)
    exact ⟨_, List.mem_map_of_mem inPages, List.mem_map_of_mem inPage⟩
  · obtain ⟨rowPages, browse, rfl⟩ := browses.rows Eq positive
      fun same => by rw [same]
    refine ⟨inboxRows world.db userId, ?_, fun row => ?_, inboxRows_unique, inboxRows_ordered⟩
    · rw [← List.map_flatten, browse.flatten_eq size, Nat.mul_zero, List.drop_zero]
    · rw [mem_inboxRows, mem_msgView, and_assoc]

end Browse

/-- The configuration with one message a page. -/
def onePerPage : Cfg := { testCfg with pageInbox := 1 }

/-- The test users, after a message of each member to a professional. -/
def twoMessages : World :=
  { db := ⟨{ useTestDataUsers.1 with
      msgs := [newMsgRow 2 2 1004 1001 (clit "bonjour"), newMsgRow 0 1 1003 1001 (clit "salut")] },
        by decide⟩
    lastMsgId := 2 }

/-- The first member writes again. -/
def writeAgain : Action := .send constrMember1 1001 ⟨4, clit "allo"⟩

def threeMessages : World := (actionEvaluate testHost onePerPage (allUp 4) twoMessages writeAgain).2

/-- What the professional is shown, if the third message comes after the first page, and if not. -/
def disturbedPages : List (List Msg) :=
  [[inboxMsg 1001 (newMsgRow 2 2 1004 1001 (clit "bonjour"))],
    [inboxMsg 1001 (newMsgRow 2 2 1004 1001 (clit "bonjour"))],
    [inboxMsg 1001 (newMsgRow 0 1 1003 1001 (clit "salut"))], []]

def undisturbedPages : List (List Msg) :=
  [[inboxMsg 1001 (newMsgRow 2 2 1004 1001 (clit "bonjour"))],
    [inboxMsg 1001 (newMsgRow 0 1 1003 1001 (clit "salut"))], []]

/-- A professional of the test data fetches two messages, one a page, while a third is sent. -/
theorem pro1_browses :
    (∀ row ∈ twoMessages.db.1.msgView, row.userIdRecipient = some 1001 →
        ∃ page ∈ disturbedPages, inboxMsg 1001 row ∈ page) ∧
      (∀ page ∈ disturbedPages, ∀ msg ∈ page, ∃ later,
        Grows testHost onePerPage twoMessages later ∧ ∃ row ∈ later.db.1.msgView,
          row.userIdRecipient = some 1001 ∧ msg = inboxMsg 1001 row) ∧
      ∃ rows, undisturbedPages.flatten = rows.map (inboxMsg 1001) ∧
        (∀ row, row ∈ rows ↔ row ∈ twoMessages.db.1.msgView ∧ row.userIdRecipient = some 1001) ∧
        Unique MsgRow.msgId rows ∧ rows.Pairwise Newer := by
  have first : Fetched testHost onePerPage (allUp 3) twoMessages constrPro1 1001 0
      [inboxMsg 1001 (newMsgRow 2 2 1004 1001 (clit "bonjour"))] :=
    ⟨⟨rolePro, by decide⟩, by decide, rfl⟩
  have second : Fetched testHost onePerPage (allUp 3) twoMessages constrPro1 1001 1
      [inboxMsg 1001 (newMsgRow 0 1 1003 1001 (clit "salut"))] :=
    ⟨⟨rolePro, by decide⟩, by decide, rfl⟩
  have third : Fetched testHost onePerPage (allUp 3) twoMessages constrPro1 1001 2 [] :=
    ⟨⟨rolePro, by decide⟩, by decide, rfl⟩
  have secondLater : Fetched testHost onePerPage (allUp 5) threeMessages constrPro1 1001 1
      [inboxMsg 1001 (newMsgRow 2 2 1004 1001 (clit "bonjour"))] :=
    ⟨⟨rolePro, by decide⟩, by decide, rfl⟩
  have thirdLater : Fetched testHost onePerPage (allUp 5) threeMessages constrPro1 1001 2
      [inboxMsg 1001 (newMsgRow 0 1 1003 1001 (clit "salut"))] :=
    ⟨⟨rolePro, by decide⟩, by decide, rfl⟩
  have lastLater : Fetched testHost onePerPage (allUp 5) threeMessages constrPro1 1001 3 [] :=
    ⟨⟨rolePro, by decide⟩, by decide, rfl⟩
  have grows : Grows testHost onePerPage twoMessages threeMessages :=
    .single ⟨allUp 4, writeAgain, nofun, rfl⟩
  have browse := @inbox_browse testHost onePerPage constrPro1 1001 (by decide)
  obtain ⟨covers, own⟩ := browse.1 twoMessages disturbedPages
    (.next first (List.cons_ne_nil _ _) grows (.next secondLater (List.cons_ne_nil _ _) .refl
      (.next thirdLater (List.cons_ne_nil _ _) .refl (.stop lastLater))))
  exact ⟨covers, own, browse.2 twoMessages undisturbedPages
    (.next first (List.cons_ne_nil _ _) rfl (.next second (List.cons_ne_nil _ _) rfl
      (.stop third)))⟩

end Tchatator
