/-
**The pages of an inbox** (`action_evaluate`, branch `inbox`).

* `PageExact`, `PagesExact` — the offset of a page is the exact product, its answer holds the
  messages at its positions, and different pages have no message in common;
* **`pagesExact_iff`** — that is so exactly when the products of both pages fit into 32 bits;
* `InboxResponse`, `FlagsNextPage` — what a client is sent for a page, and the flag that tells
  whether there is another one;
* `Follows`, `CollectsInbox` — a client that goes on while the flag is there;
* **`nextPage_flagged_iff`** — nothing ever sets the flag: it is right exactly when the following
  page is empty, and the client gets the whole inbox exactly when that fits on one page.
-/

import Tchatator.Proof.Inbox
import Tchatator.Model.Facade

namespace Tchatator

/-! ### Answered pages -/

/-- **A request for a page is answered** with these messages. -/
structure PageAnswered (host : Host) (cfg : Cfg) (moment : Moment) (world : World)
    (constr : Constr) (user : UserIdentity) (page : Int) (hasNextPage : Bool)
    (msgs : List Msg) : Prop where
  verified : dbVerifyUserConstr host cfg moment world.db .indeterminate constr = .ok (.ok, user)
  answered : (actionEvaluate host cfg moment world (.inbox constr page)).1 =
    .ok ⟨.action .inbox, hasNextPage, .inbox msgs⟩

section Answered

variable {host : Host} {cfg : Cfg} {moment : Moment} {world : World} {constr : Constr}
  {user : UserIdentity} {page : Int} {hasNextPage : Bool} {msgs : List Msg}

/-- **What a verified user is answered**: the rows cut at the offset as it was stored, without a
flag, or an error. -/
theorem inbox_evaluates
    (verified : dbVerifyUserConstr host cfg moment world.db .indeterminate constr =
      .ok (.ok, user)) :
    (actionEvaluate host cfg moment world (.inbox constr page)).1 =
      if moment.up .getInbox = true ∧ 0 ≤ cfg.pageInbox ∧
          0 ≤ wrap32 (cfg.pageInbox * (page - 1)) then
        .ok ⟨.action .inbox, false, .inbox ((Paging.cut cfg.pageInbox.toNat
          (wrap32 (cfg.pageInbox * (page - 1))).toNat (inboxRows world.db user.id)).map
            (inboxMsg user.id))⟩
      else .ok ⟨.error, false, .error ⟨.other, .other .internalServerError⟩⟩ := by
  rw [evaluation_of_verified host cfg moment world _ rfl rfl rfl verified]
  show (evaluateInbox cfg moment world ⟨.action .inbox, false, .zero⟩ page user).1 = _
  rw [evaluateInbox, dbGetInbox]
  by_cases executed : moment.up .getInbox = true
  · rw [if_pos executed, limitOffset]
    by_cases negative : cfg.pageInbox < 0 ∨ wrap32 (cfg.pageInbox * (page - 1)) < 0
    · rw [if_pos negative, if_neg (by omega)]
      rfl
    · rw [if_neg negative, if_pos (by refine ⟨executed, ?_, ?_⟩ <;> omega)]
      show Except.ok (Response.mk _ _ (.inbox (((Paging.cut _ _ _).take _).map _))) = _
      rw [Paging.take_cut]
  · rw [if_neg executed, if_neg fun read => executed read.1]
    rfl

/-- **A page is answered** when the inbox is read and neither operand is negative. -/
theorem pageAnswered_iff :
    PageAnswered host cfg moment world constr user page hasNextPage msgs ↔
      dbVerifyUserConstr host cfg moment world.db .indeterminate constr = .ok (.ok, user) ∧
      (moment.up .getInbox = true ∧ 0 ≤ cfg.pageInbox ∧
        0 ≤ wrap32 (cfg.pageInbox * (page - 1))) ∧
      hasNextPage = false ∧
      msgs = (Paging.cut cfg.pageInbox.toNat (wrap32 (cfg.pageInbox * (page - 1))).toNat
        (inboxRows world.db user.id)).map (inboxMsg user.id) := by
  constructor
  · rintro ⟨verified, answered⟩
    rw [inbox_evaluates verified] at answered
    split at answered
    · rename_i read
      cases answered
      exact ⟨verified, read, rfl, rfl⟩
    · cases answered
  · rintro ⟨verified, read, rfl, rfl⟩
    exact ⟨verified, by rw [inbox_evaluates verified, if_pos read]⟩

end Answered

/-! ### Positions -/

/-- **A page is exact**: its offset is, and a verified user whose inbox is read gets the messages at
the positions of the page. -/
structure PageExact (host : Host) (cfg : Cfg) (page : Int) : Prop where
  offset : wrap32 (cfg.pageInbox * (page - 1)) = cfg.pageInbox * (page - 1)
  holds : ∀ moment world constr user,
    dbVerifyUserConstr host cfg moment world.db .indeterminate constr = .ok (.ok, user) →
    moment.up .getInbox = true →
    ∃ hasNextPage msgs, PageAnswered host cfg moment world constr user page hasNextPage msgs ∧
      ∀ index : Nat, msgs[index]? =
        if (index : Int) < cfg.pageInbox then
          (wholeInbox world.db user.id)[(cfg.pageInbox * (page - 1) + index).toNat]?
        else none

/-- **Two pages are exact**, and have no message in common unless they are one. -/
structure PagesExact (host : Host) (cfg : Cfg) (page other : Int) : Prop where
  first : PageExact host cfg page
  second : PageExact host cfg other
  disjoint : page ≠ other → ∀ moment later world constr user flag otherFlag msgs otherMsgs,
    PageAnswered host cfg moment world constr user page flag msgs →
    PageAnswered host cfg later world constr user other otherFlag otherMsgs →
    ∀ msg ∈ msgs, ∀ otherMsg ∈ otherMsgs, msg.id ≠ otherMsg.id

section Positions

variable {host : Host} {cfg : Cfg} {page other : Int}

/-- The offset of a page is not negative, and is that of a natural number of pages. -/
theorem offset_eq (positive : 1 ≤ cfg.pageInbox) (isPage : 1 ≤ page) :
    cfg.pageInbox * (page - 1) = ((cfg.pageInbox.toNat * (page - 1).toNat : Nat) : Int) := by
  have size : (cfg.pageInbox.toNat : Int) = cfg.pageInbox := Int.toNat_of_nonneg (by omega)
  have skipped : ((page - 1).toNat : Int) = page - 1 := Int.toNat_of_nonneg (by omega)
  rw [Int.natCast_mul, size, skipped]

/-- An offset that fits is stored as it is. -/
theorem offset_of_le (positive : 1 ≤ cfg.pageInbox) (isPage : 1 ≤ page)
    (fits : cfg.pageInbox * (page - 1) ≤ int32Max) :
    wrap32 (cfg.pageInbox * (page - 1)) = cfg.pageInbox * (page - 1) := by
  have isOffset := offset_eq positive isPage
  refine wrap32_of_mem ?_ fits
  unfold int32Min
  omega

/-- **A page is exact exactly when its offset fits.** -/
theorem pageExact_iff (positive : 1 ≤ cfg.pageInbox) (isPage : 1 ≤ page) :
    PageExact host cfg page ↔ cfg.pageInbox * (page - 1) ≤ int32Max := by
  have isOffset := offset_eq positive isPage
  constructor
  · intro isExact
    exact (wrap32_eq_self_iff.mp isExact.offset).2
  · intro fits
    have offset := offset_of_le positive isPage fits
    refine ⟨offset, fun moment world constr user verified executed => ?_⟩
    refine ⟨false, _, pageAnswered_iff.mpr ⟨verified, ⟨executed, by omega, by omega⟩, rfl, rfl⟩,
      fun index => ?_⟩
    have position : (cfg.pageInbox * (page - 1) + index).toNat =
        (cfg.pageInbox * (page - 1)).toNat + index := by omega
    rw [offset, List.getElem?_map, Paging.getElem?_cut, position, wholeInbox, List.getElem?_map]
    by_cases within : (index : Int) < cfg.pageInbox
    · rw [if_pos within, if_pos (by omega)]
    · rw [if_neg within, if_neg (by omega)]
      rfl

/-- **Different pages whose offsets fit have no message in common.** -/
theorem pages_disjoint (positive : 1 ≤ cfg.pageInbox) (isPage : 1 ≤ page) (isOther : 1 ≤ other)
    (fits : cfg.pageInbox * (page - 1) ≤ int32Max) (fitsToo : cfg.pageInbox * (other - 1) ≤ int32Max)
    (different : page ≠ other) {moment later : Moment} {world : World} {constr : Constr}
    {user : UserIdentity} {flag otherFlag : Bool} {msgs otherMsgs : List Msg}
    (answered : PageAnswered host cfg moment world constr user page flag msgs)
    (answeredToo : PageAnswered host cfg later world constr user other otherFlag otherMsgs) :
    ∀ msg ∈ msgs, ∀ otherMsg ∈ otherMsgs, msg.id ≠ otherMsg.id := by
  obtain ⟨_, _, _, rfl⟩ := pageAnswered_iff.mp answered
  obtain ⟨_, _, _, rfl⟩ := pageAnswered_iff.mp answeredToo
  rw [offset_of_le positive isPage fits, offset_of_le positive isOther fitsToo,
    offset_eq positive isPage, offset_eq positive isOther, Int.toNat_natCast, Int.toNat_natCast]
  intro msg inMsgs otherMsg inOther
  obtain ⟨row, inPage, rfl⟩ := List.mem_map.mp inMsgs
  obtain ⟨otherRow, inOtherPage, rfl⟩ := List.mem_map.mp inOther
  have differ : (page - 1).toNat ≠ (other - 1).toNat := by omega
  exact Paging.cut_disjoint inboxRows_unique differ row inPage otherRow inOtherPage

/-- **Pages are exact exactly when their offsets fit into 32 bits.** -/
theorem pagesExact_iff (host : Host) (positive : 1 ≤ cfg.pageInbox) (isPage : 1 ≤ page)
    (isOther : 1 ≤ other) :
    PagesExact host cfg page other ↔
      cfg.pageInbox * (page - 1) ≤ int32Max ∧ cfg.pageInbox * (other - 1) ≤ int32Max := by
  constructor
  · intro areExact
    exact ⟨(pageExact_iff positive isPage).mp areExact.first,
      (pageExact_iff positive isOther).mp areExact.second⟩
  · rintro ⟨fits, fitsToo⟩
    refine ⟨(pageExact_iff positive isPage).mpr fits, (pageExact_iff positive isOther).mpr fitsToo,
      ?_⟩
    intro different moment later world constr user flag otherFlag msgs otherMsgs answered answeredToo
    exact pages_disjoint positive isPage isOther fits fitsToo different answered answeredToo

end Positions

/-- The first two pages of the default size are exact. -/
theorem firstPages_exact : PagesExact testHost testCfg 1 2 :=
  (pagesExact_iff testHost (by decide) (by decide) (by decide)).mpr ⟨by decide, by decide⟩

/-- The only message of a professional of the test data. -/
def onlyMessage : Msg := inboxMsg 1001 (newMsgRow 0 1 1003 1001 (clit "salut"))

/-- The offset of a page far behind the last one is stored as `0`: it is the first page again. -/
theorem farPage_repeated :
    PageAnswered testHost testCfg (allUp 0) worldWithMessage constrPro1 ⟨rolePro, 1001⟩ 1 false
      [onlyMessage] ∧
    PageAnswered testHost testCfg (allUp 0) worldWithMessage constrPro1 ⟨rolePro, 1001⟩ 1073741825
      false [onlyMessage] ∧
    ¬ PagesExact testHost testCfg 1 1073741825 := by
  have first : PageAnswered testHost testCfg (allUp 0) worldWithMessage constrPro1 ⟨rolePro, 1001⟩ 1
      false [onlyMessage] := ⟨by decide, rfl⟩
  have far : PageAnswered testHost testCfg (allUp 0) worldWithMessage constrPro1 ⟨rolePro, 1001⟩
      1073741825 false [onlyMessage] := ⟨by decide, rfl⟩
  refine ⟨first, far, fun areExact => ?_⟩
  have inPage : onlyMessage ∈ [onlyMessage] := List.mem_singleton.mpr rfl
  exact areExact.disjoint (by decide) _ _ _ _ _ _ _ _ _ first far _ inPage _ inPage rfl

/-! ### The flag -/

/-- **An inbox response**, as it is sent for a page. -/
structure InboxResponse (host : Host) (cfg : Cfg) (moment : Moment) (world : World)
    (constr : Constr) (user : UserIdentity) (page : Nat) (msgs : List Msg) (jo : Json) : Prop where
  sent : ∃ hasNextPage,
    PageAnswered host cfg moment world constr user page hasNextPage msgs ∧
      responseToJson host ⟨.action .inbox, hasNextPage, .inbox msgs⟩ = .ok jo

/-- The response carries `has_next_page`. -/
def CarriesFlag (jo : Json) : Prop :=
  jsonObjectObjectGetEx jo (clit "has_next_page") = some (.boolean true)

/-- The page after this one, of the inbox as it is. -/
def followingPage (cfg : Cfg) (db : Db) (userId : Int) (page : Nat) : List Msg :=
  Paging.cut cfg.pageInbox.toNat (cfg.pageInbox.toNat * page) (wholeInbox db userId)

/-- **The contract of the flag.** -/
def FlagsNextPage (cfg : Cfg) (db : Db) (userId : Int) (page : Nat) (jo : Json) : Prop :=
  CarriesFlag jo ↔ followingPage cfg db userId page ≠ []

/-- **A client** goes on to the next page while the flag is there. -/
inductive Follows (host : Host) (cfg : Cfg) (world : World) (constr : Constr)
    (user : UserIdentity) : Nat → List (List Msg) → Prop
  | stop {moment : Moment} {page : Nat} {msgs : List Msg} {jo : Json} :
      InboxResponse host cfg moment world constr user page msgs jo → ¬ CarriesFlag jo →
      Follows host cfg world constr user page [msgs]
  | next {moment : Moment} {page : Nat} {msgs : List Msg} {jo : Json} {pages : List (List Msg)} :
      InboxResponse host cfg moment world constr user page msgs jo → CarriesFlag jo →
      Follows host cfg world constr user (page + 1) pages →
      Follows host cfg world constr user page (msgs :: pages)

/-- **The contract of the loop**: a client that starts at page 1 gets the whole inbox, and its last
page is the last one. -/
def CollectsInbox (host : Host) (cfg : Cfg) (world : World) (constr : Constr)
    (user : UserIdentity) : Prop :=
  ∀ pages, Follows host cfg world constr user 1 pages →
    pages.flatten = wholeInbox world.db user.id ∧
      followingPage cfg world.db user.id pages.length = []

section Flag

variable {host : Host} {cfg : Cfg} {moment : Moment} {world : World} {constr : Constr}
  {user : UserIdentity} {page : Nat} {msgs : List Msg} {jo : Json}

/-- **No response carries the flag.** -/
theorem InboxResponse.bare
    (response : InboxResponse host cfg moment world constr user page msgs jo) :
    ¬ CarriesFlag jo := by
  obtain ⟨hasNextPage, answered, encoded⟩ := response.sent
  obtain ⟨_, _, rfl, _⟩ := pageAnswered_iff.mp answered
  cases encoded
  intro carries
  cases carries

theorem firstOffset : wrap32 (cfg.pageInbox * (((1 : Nat) : Int) - 1)) = 0 := by
  show wrap32 (cfg.pageInbox * 0) = 0
  rw [Int.mul_zero]
  rfl

/-- When a page is answered, so is the first one, with the newest messages. -/
theorem InboxResponse.first
    (response : InboxResponse host cfg moment world constr user page msgs jo) :
    ∃ jo, InboxResponse host cfg moment world constr user 1
      ((wholeInbox world.db user.id).take cfg.pageInbox.toNat) jo := by
  obtain ⟨hasNextPage, answered, _⟩ := response.sent
  obtain ⟨verified, ⟨executed, notNegative, _⟩, _⟩ := pageAnswered_iff.mp answered
  refine ⟨_, false, pageAnswered_iff.mpr ⟨verified, ⟨executed, notNegative, ?_⟩, rfl, ?_⟩, rfl⟩
  · rw [firstOffset]
  · rw [firstOffset, wholeInbox, ← List.map_take]
    rfl

/-- **A client stops after the first page.** -/
theorem Follows.eq_first {pages : List (List Msg)}
    (follows : Follows host cfg world constr user 1 pages) :
    pages = [(wholeInbox world.db user.id).take cfg.pageInbox.toNat] := by
  cases follows with
  | next response carries _ => exact absurd carries response.bare
  | stop response _ =>
    obtain ⟨_, answered, _⟩ := response.sent
    obtain ⟨_, _, _, rfl⟩ := pageAnswered_iff.mp answered
    rw [firstOffset, wholeInbox, ← List.map_take]
    rfl

/-- **The flag is right exactly when the following page is empty, and a client gets the whole inbox
exactly when it fits on one page.** -/
theorem nextPage_flagged_iff
    (response : InboxResponse host cfg moment world constr user page msgs jo) :
    (FlagsNextPage cfg world.db user.id page jo ↔
      followingPage cfg world.db user.id page = []) ∧
    (CollectsInbox host cfg world constr user ↔
      (wholeInbox world.db user.id).length ≤ cfg.pageInbox.toNat) := by
  constructor
  · unfold FlagsNextPage
    rw [iff_false_left response.bare, not_not]
  · constructor
    · intro collects
      obtain ⟨_, first⟩ := response.first
      have whole := (collects _ (.stop first first.bare)).1
      rw [List.flatten_singleton] at whole
      rw [← whole, List.length_take]
      exact Nat.min_le_left _ _
    · intro fits pages follows
      rw [follows.eq_first]
      refine ⟨?_, ?_⟩
      · rw [List.flatten_singleton, List.take_of_length_le fits]
      · show ((wholeInbox world.db user.id).drop (cfg.pageInbox.toNat * 1)).take _ = []
        rw [Nat.mul_one, List.drop_of_length_le fits, List.take_nil]

/-- The inbox of a professional of the test data fits on one page. -/
theorem pro1_flagged :
    ∃ jo, (FlagsNextPage testCfg worldWithMessage.db 1001 1 jo ↔
        followingPage testCfg worldWithMessage.db 1001 1 = []) ∧
      (CollectsInbox testHost testCfg worldWithMessage constrPro1 ⟨rolePro, 1001⟩ ↔
        (wholeInbox worldWithMessage.db 1001).length ≤ 20) :=
  have response : InboxResponse testHost testCfg (allUp 0) worldWithMessage constrPro1
      ⟨rolePro, 1001⟩ 1 [onlyMessage] _ := ⟨false, ⟨by decide, rfl⟩, rfl⟩
  ⟨_, nextPage_flagged_iff response⟩

/-- Two messages of the first test member to a professional. -/
def worldWithTwoMessages : World :=
  { db := ⟨{ useTestDataUsers.1 with
      msgs := [newMsgRow 0 1 1003 1001 (clit "salut"), newMsgRow 1 2 1003 1001 (clit "encore")] },
      by decide⟩
    lastMsgId := 2 }

/-- Two messages on pages of one: the first page is not flagged, and the client never asks for the
other one. -/
theorem secondPage_not_flagged :
    ∃ jo, InboxResponse testHost { testCfg with pageInbox := 1 } (allUp 0) worldWithTwoMessages
        constrPro1 ⟨rolePro, 1001⟩ 1 [inboxMsg 1001 (newMsgRow 1 2 1003 1001 (clit "encore"))] jo ∧
      ¬ FlagsNextPage { testCfg with pageInbox := 1 } worldWithTwoMessages.db 1001 1 jo ∧
      ¬ CollectsInbox testHost { testCfg with pageInbox := 1 } worldWithTwoMessages constrPro1
        ⟨rolePro, 1001⟩ := by
  have response : InboxResponse testHost { testCfg with pageInbox := 1 } (allUp 0)
      worldWithTwoMessages constrPro1 ⟨rolePro, 1001⟩ 1
      [inboxMsg 1001 (newMsgRow 1 2 1003 1001 (clit "encore"))] _ := ⟨false, ⟨by decide, rfl⟩, rfl⟩
  refine ⟨_, response, fun flags => ?_, fun collects => ?_⟩
  · exact response.bare (flags.mpr (List.cons_ne_nil _ _))
  · have missed := (collects _ (.stop response response.bare)).1
    cases congrArg List.length missed

end Flag

end Tchatator
