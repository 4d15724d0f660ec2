/-
**Which answers a branch gives** (`action_evaluate`, once the user is identified).

* `BranchConforms` — when the branch of an action answers its user by the protocol: whoever is
  looked up must have a role, and the branches that do nothing are right for whoever has nothing
  to be told;
* `SendConforms` — the case of a message that reaches the insertion: no statement before it checks
  the blocks in force, and none stops a message that breaks an invariant;
* `whois_answered_iff`, `inbox_answered_iff`, `rm_answered_iff`, `send_answered_iff`,
  `quiet_answered_iff` — the branches one by one;
* **`branch_answered_iff`** — a branch answers by the protocol exactly when it conforms.
-/

import Tchatator.Proof.Causes

namespace Tchatator

open Keyed

/-! ### Branches that answer by the protocol -/

section

variable (host : Host) (cfg : Cfg) (moment : Moment) (world : World) (user : UserIdentity)

/-- **The low half of an address is the right status** for a message that was inserted against an
invariant. -/
def StrayConforms (destUserId : Int) (row : UserViewRow) (code : Int) : Prop :=
  (code = Status.internalServerError.code ↔ CountFails host moment user row) ∧
    (¬ CountFails host moment user row →
      code = Status.unprocessableContent.code ∨
        (code = Status.forbidden.code ∧ InForce moment.now world.db.1 user.id destUserId))

/-- **A message that reaches the insertion is answered by the protocol**: one that breaks an
invariant does not fail for want of the insertion alone; one that is refused is blocked; one that
is inserted is neither blocked nor breaks an invariant; and no failed count is passed over. One that
is inserted against an invariant that is tested is answered right by chance only. -/
structure SendConforms (destUserId : Int) (row : UserViewRow) : Prop where
  failed : SendMsgFails moment world user.id destUserId →
    CountFails host moment user row ∨ ¬ BreaksDocumented host world.db user destUserId
  refused : moment.up .sendMsg = true → RunOut moment.now world.db.1 user.id destUserId →
    ¬ CountFails host moment user row ∧ InForce moment.now world.db.1 user.id destUserId
  inserted : SendMsgAccepts moment world user.id destUserId →
    ¬ BreaksInvariant user (pqRecvRole host row.role) destUserId →
    ¬ CountFails host moment user row ∧ ¬ BreaksDocumented host world.db user destUserId ∧
      ¬ InForce moment.now world.db.1 user.id destUserId
  overwritten : SendMsgAccepts moment world user.id destUserId →
    BreaksInvariant user (pqRecvRole host row.role) destUserId →
    world.nextMsgId = 5 ∧ StrayConforms host moment world user destUserId row
      (statusInAddress (host.literalAddress (lit (lastBroken user (pqRecvRole host row.role)))))

/-- **The branch of an action answers by the protocol.** The role of whoever is looked up must be
one of the three; the branches that do nothing answer whoever has nothing to be told. -/
def BranchConforms : Action → Prop
  | .error _ => True
  | .whois _ userId => moment.up .getUser = true →
      ∀ row ∈ world.db.1.userView, row.userId = userId →
        validateDbRole (pqRecvRole host row.role) = true
  | .send _ destUserId content => moment.up .getUserRole = true →
      ∀ row ∈ world.db.1.userView, row.userId = destUserId →
        validateDbRole (pqRecvRole host row.role) = true ∧
          (content.len ≤ cfg.maxMsgLength → SendConforms host moment world user destUserId row)
  | .inbox _ page => PastEnd cfg.pageInbox page (inboxRows world.db user.id).length →
      InboxFails cfg moment page
  | .rm _ msgId => moment.up .rmMsg = true →
      ∀ row ∈ world.db.1.msgView, row.msgId = msgId → MayRemove user row
  | action => ∀ status, ¬ ActionCause host cfg moment world.db user action status

/-- The answer of the branch of an action. -/
def branchAnswer (action : Action) : Except Fault Json :=
  (branch host cfg moment world action user).1.bind (responseToJson host)

/-- **The branch of an action answers its user by the protocol.** -/
def BranchAnswered (action : Action) : Prop :=
  AnsweredBy (BranchFails host cfg moment world user action)
    (ActionCause host cfg moment world.db user action) (branchAnswer host cfg moment world user action)

end

/-! ### Rows of the view `"user"` -/

section

variable {host : Host} {cfg : Cfg} {moment : Moment} {db : Db} {userId : Int} {row : UserViewRow}

theorem userView_unique (db : Db) : Unique UserViewRow.userId db.1.userView := by
  show (List.map _ (List.map _ _)).Nodup
  rw [List.map_map]
  exact db.2.userPkey

/-- A user is there, or there is no row for the user. -/
theorem view_cases (db : Db) (userId : Int) :
    (∃ row ∈ db.1.userView, row.userId = userId) ∨ ¬ db.1.HasUser userId := by
  by_cases exists' : ∃ row ∈ db.1.userView, row.userId = userId
  · exact Or.inl exists'
  · refine Or.inr ?_
    rintro ⟨row, member, sameId⟩
    exact exists' ⟨db.1.userViewRow row, List.mem_map_of_mem member, sameId⟩

/-- The rows of a user who is not there. -/
theorem select_of_absent (absent : ¬ db.1.HasUser userId) :
    (db.1.userView.filter fun row => row.userId = userId) = [] := by
  rw [List.filter_eq_nil_iff]
  intro row inView sameId
  have sameId : row.userId = userId := by simpa using sameId
  rw [← sameId] at absent
  exact absent (hasUser_of_view inView)

/-- `db_get_user_role` of a user who is there. -/
theorem dbGetUserRole_of_row (host : Host) (executed : moment.up .getUserRole = true)
    (inView : row ∈ db.1.userView) :
    dbGetUserRole host moment db row.userId =
      if validateDbRole (pqRecvRole host row.role) then ((pqRecvRole host row.role : Nat) : Int)
      else Errstatus.handled.code := by
  rw [dbGetUserRole, if_pos executed, (userView_unique db).filter_key inView]

theorem dbGetUserRole_of_absent (executed : moment.up .getUserRole = true)
    (absent : ¬ db.1.HasUser userId) :
    dbGetUserRole host moment db userId = Errstatus.error.code := by
  rw [dbGetUserRole, if_pos executed, select_of_absent absent]

/-- `db_get_user` of a user who is there returns the user, or fails for want of a role. -/
theorem dbGetUser_of_row (host : Host) (executed : moment.up .getUser = true)
    (inView : row ∈ db.1.userView) :
    (validateDbRole (pqRecvRole host row.role) = true ∧
      ∃ name, dbGetUser host moment db ⟨row.userId, 0, .unset⟩ =
        (.ok, ⟨row.userId, pqRecvRole host row.role, name⟩)) ∨
    (validateDbRole (pqRecvRole host row.role) = false ∧
      ∃ user, dbGetUser host moment db ⟨row.userId, 0, .unset⟩ = (.handled, user)) := by
  have selected := (userView_unique db).filter_key inView
  simp only [dbGetUser, if_pos executed, selected]
  by_cases isAdmin : pqRecvRole host row.role = roleAdmin
  · exact Or.inl ⟨(validateDbRole_iff _).mpr (Or.inl isAdmin), _, if_pos isAdmin⟩
  rw [if_neg isAdmin]
  by_cases isMember : pqRecvRole host row.role = roleMember
  · exact Or.inl ⟨(validateDbRole_iff _).mpr (Or.inr (Or.inl isMember)), _, if_pos isMember⟩
  rw [if_neg isMember]
  by_cases isPro : pqRecvRole host row.role = rolePro
  · exact Or.inl ⟨(validateDbRole_iff _).mpr (Or.inr (Or.inr isPro)), _, if_pos isPro⟩
  rw [if_neg isPro]
  refine Or.inr ⟨Bool.eq_false_iff.mpr fun valid => ?_, _, rfl⟩
  rcases (validateDbRole_iff _).mp valid with isRole | isRole | isRole
  · exact isAdmin isRole
  · exact isMember isRole
  · exact isPro isRole

theorem dbGetUser_of_absent (executed : moment.up .getUser = true)
    (absent : ¬ db.1.HasUser userId) :
    dbGetUser host moment db ⟨userId, 0, .unset⟩ = (.error, ⟨userId, 0, .unset⟩) := by
  simp only [dbGetUser, if_pos executed, select_of_absent absent]

end

/-! ### Branches -/

section

variable {host : Host} {cfg : Cfg} {moment : Moment} {world : World} {user : UserIdentity}

/-- **`whois`.** -/
theorem whois_answered_iff (constr : Constr) (userId : Int) :
    BranchAnswered host cfg moment world user (.whois constr userId) ↔
      BranchConforms host cfg moment world user (.whois constr userId) := by
  have start : branchAnswer host cfg moment world user (.whois constr userId) =
      (evaluateWhois host moment world ⟨.action .whois, false, .zero⟩ userId).1.bind
        (responseToJson host) := rfl
  rw [BranchAnswered, start, evaluateWhois]
  by_cases executed : moment.up .getUser = true
  · have goesOn : ¬ BranchFails host cfg moment world user (.whois constr userId) := by
      intro fails
      cases fails with
      | getUser _ _ down => cases down.symm.trans executed
    rcases view_cases world.db userId with ⟨row, inView, rfl⟩ | absent
    · have only : BranchConforms host cfg moment world user (.whois constr row.userId) ↔
          validateDbRole (pqRecvRole host row.role) = true := by
        constructor
        · exact fun conforms => conforms executed row inView rfl
        · intro valid _ other inView' sameId
          rwa [(userView_unique world.db).eq_of_key inView' inView sameId]
      rw [only]
      rcases dbGetUser_of_row host executed inView with
        ⟨valid, found, isFound⟩ | ⟨invalid, found, isFound⟩
      · rw [isFound]
        refine (answeredBy_action_iff host (encodes_whois (dbGetUser_wellTagged isFound))).trans ?_
        refine iff_of_true ⟨goesOn, fun status cause => ?_⟩ valid
        cases cause with
        | whoisNotFound _ _ absent => exact absent (hasUser_of_view inView)
      · rw [isFound]
        refine (answeredBy_internal_iff host).trans (iff_of_false goesOn ?_)
        rw [invalid]
        exact Bool.false_ne_true
    · rw [dbGetUser_of_absent executed absent]
      refine (answeredBy_status_iff host (by decide)).trans ?_
      refine iff_of_true ⟨goesOn, .whoisNotFound constr userId absent⟩ fun _ row inView sameId => ?_
      rw [← sameId] at absent
      exact absurd (hasUser_of_view inView) absent
  · rw [dbGetUser, if_neg executed]
    refine (answeredBy_internal_iff host).trans (iff_of_true (.getUser constr userId ?_) fun up => ?_)
    · simpa using executed
    · exact absurd up executed

/-- **`inbox`.** -/
theorem inbox_answered_iff (constr : Constr) (page : Int) :
    BranchAnswered host cfg moment world user (.inbox constr page) ↔
      BranchConforms host cfg moment world user (.inbox constr page) := by
  have start : branchAnswer host cfg moment world user (.inbox constr page) =
      (evaluateInbox cfg moment world ⟨.action .inbox, false, .zero⟩ page user).1.bind
        (responseToJson host) := rfl
  rw [BranchAnswered, start, evaluateInbox]
  by_cases fails : InboxFails cfg moment page
  · have failed : dbGetInbox moment world.db cfg.pageInbox (wrap32 (cfg.pageInbox * (page - 1)))
        user.id [] = (.handled, []) := by
      rw [dbGetInbox]
      by_cases executed : moment.up .getInbox = true
      · rw [if_pos executed, limitOffset, if_pos (fails.resolve_left (by simp [executed]))]
      · rw [if_neg executed]
    rw [failed]
    exact (answeredBy_internal_iff host).trans (iff_of_true (.getInbox constr page fails) fun _ => fails)
  · obtain ⟨down, notNegative⟩ := not_or.mp fails
    have read : ∃ msgs, dbGetInbox moment world.db cfg.pageInbox
        (wrap32 (cfg.pageInbox * (page - 1))) user.id [] = (.ok, msgs) := by
      rw [dbGetInbox, if_pos (by simpa using down), limitOffset, if_neg notNegative]
      exact ⟨_, rfl⟩
    obtain ⟨msgs, isRead⟩ := read
    have goesOn : ¬ BranchFails host cfg moment world user (.inbox constr page) := by
      intro failed
      cases failed with
      | getInbox _ _ alsoFails => exact fails alsoFails
    have encodes : Encodes host ⟨.action .inbox, false, .inbox msgs⟩ := ⟨trivial, _, rfl⟩
    rw [isRead]
    refine (answeredBy_action_iff host encodes).trans ?_
    rw [and_iff_right goesOn]
    constructor
    · exact fun noCause past => absurd (.inboxNotFound constr page past) (noCause .notFound)
    · intro conforms status cause
      cases cause with
      | inboxNotFound _ _ past => exact fails (conforms past)

section Removed

variable {row : MsgRow} {constr : Constr}

/-- What the protocol asks of an `rm` of a message that is visible. -/
theorem rmBranchConforms_iff (executed : moment.up .rmMsg = true)
    (isVisible : row ∈ world.db.1.msgView) :
    BranchConforms host cfg moment world user (.rm constr row.msgId) ↔ MayRemove user row := by
  constructor
  · exact fun conforms => conforms executed row isVisible rfl
  · intro mayRemove _ other isVisible' sameId
    rwa [(msgView_unique world.db).eq_of_key isVisible' isVisible sameId]

/-- **An `rm` of a visible message fails** when it is allowed and cannot be marked. -/
theorem rmFails_iff (executed : moment.up .rmMsg = true) (isVisible : row ∈ world.db.1.msgView) :
    BranchFails host cfg moment world user (.rm constr row.msgId) ↔
      MayRemove user row ∧ ¬ Deletable moment.now row := by
  constructor
  · intro fails
    cases fails with
    | rmMsg _ _ down => cases down.symm.trans executed
    | rmMsgRaises _ _ other isVisible' sameId mayRemove notDeletable =>
      rw [(msgView_unique world.db).eq_of_key isVisible' isVisible sameId] at mayRemove notDeletable
      exact ⟨mayRemove, notDeletable⟩
  · rintro ⟨mayRemove, notDeletable⟩
    exact .rmMsgRaises constr _ row isVisible rfl mayRemove notDeletable

/-- What the protocol says against an `rm` of a visible message. -/
theorem rmCause_iff (isVisible : row ∈ world.db.1.msgView) :
    (∀ status, ¬ ActionCause host cfg moment world.db user (.rm constr row.msgId) status) ↔
      MayRemove user row := by
  constructor
  · intro noCause
    by_contra unowned
    exact noCause _ (.rmInvariant constr row.msgId row isVisible rfl unowned)
  · intro mayRemove status cause
    cases cause with
    | rmNotFound _ _ invisible => exact invisible row isVisible rfl
    | rmInvariant _ _ other isVisible' sameId unowned =>
      rw [(msgView_unique world.db).eq_of_key isVisible' isVisible sameId] at unowned
      exact unowned mayRemove

end Removed

/-- **`rm`.** -/
theorem rm_answered_iff (allowed : user.role &&& roleAll ≠ 0) (constr : Constr) (msgId : Int) :
    BranchAnswered host cfg moment world user (.rm constr msgId) ↔
      BranchConforms host cfg moment world user (.rm constr msgId) := by
  have start : branchAnswer host cfg moment world user (.rm constr msgId) =
      (evaluateRm moment world ⟨.action .rm, false, .zero⟩ msgId user).1.bind
        (responseToJson host) := rfl
  rw [BranchAnswered, start, evaluateRm]
  by_cases executed : moment.up .rmMsg = true
  · by_cases visible : ∃ row ∈ world.db.1.msgView, row.msgId = msgId
    · obtain ⟨row, isVisible, rfl⟩ := visible
      rw [rmBranchConforms_iff executed isVisible]
      by_cases deletable : Deletable moment.now row
      · have goesOn : ¬ BranchFails host cfg moment world user (.rm constr row.msgId) := fun fails =>
          ((rmFails_iff executed isVisible).mp fails).2 deletable
        obtain ⟨_, _, marked, _⟩ := dbRmMsg_of_accepts ⟨executed, isVisible, deletable⟩
        rw [marked]
        dsimp only
        rw [if_neg allowed]
        have encodes : Encodes host ⟨.action .rm, false, .zero⟩ := ⟨trivial, _, rfl⟩
        refine (answeredBy_action_iff host encodes).trans ?_
        rw [and_iff_right goesOn]
        exact rmCause_iff isVisible
      · rw [dbRmMsg_of_fails (Or.inr ⟨row, isVisible, rfl, deletable⟩)]
        refine (answeredBy_internal_iff host).trans ?_
        rw [rmFails_iff executed isVisible, and_iff_left deletable]
    · have invisible : ∀ row ∈ world.db.1.msgView, row.msgId ≠ msgId :=
        fun row isVisible sameId => visible ⟨row, isVisible, sameId⟩
      have goesOn : ¬ BranchFails host cfg moment world user (.rm constr msgId) := by
        intro fails
        cases fails with
        | rmMsg _ _ down => cases down.symm.trans executed
        | rmMsgRaises _ _ row isVisible sameId _ _ => exact invisible row isVisible sameId
      rw [dbRmMsg_of_invisible executed invisible]
      refine (answeredBy_status_iff host (by decide)).trans ?_
      exact iff_of_true ⟨goesOn, .rmNotFound constr msgId invisible⟩
        fun _ row isVisible sameId => absurd sameId (invisible row isVisible)
  · have down : moment.up .rmMsg = false := by simpa using executed
    rw [dbRmMsg_of_fails (Or.inl down)]
    exact (answeredBy_internal_iff host).trans
      (iff_of_true (.rmMsg constr msgId down) fun up => absurd up executed)

/-! ### `send` -/

theorem SendMsgFails.not_accepts {sender recipient : Int}
    (fails : SendMsgFails moment world sender recipient) :
    ¬ SendMsgAccepts moment world sender recipient := by
  rintro ⟨executed, _, insertable⟩
  rcases fails with down | ⟨_, notInsertable⟩
  · cases down.symm.trans executed
  · exact notInsertable insertable

theorem SendMsgFails.not_refused {sender recipient : Int}
    (fails : SendMsgFails moment world sender recipient) (executed : moment.up .sendMsg = true) :
    ¬ RunOut moment.now world.db.1 sender recipient := by
  rcases fails with down | ⟨notRefused, _⟩
  · cases down.symm.trans executed
  · exact fun runOut => notRefused (sendMsgRefuses_iff.mpr runOut)

/-- **A `send` that is delivered fails** when the count fails, or the insertion of a message that
breaks no invariant. -/
theorem sendFails_iff {constr : Constr} {destUserId : Int} {content : Slice} {row : UserViewRow}
    (executed : moment.up .getUserRole = true)
    (deliverable : Deliverable host cfg world.db destUserId content row) :
    BranchFails host cfg moment world user (.send constr destUserId content) ↔
      CountFails host moment user row ∨
        (¬ BreaksDocumented host world.db user destUserId ∧
          SendMsgFails moment world user.id destUserId) := by
  constructor
  · intro fails
    cases fails with
    | getUserRole _ _ _ down => cases down.symm.trans executed
    | countMsg _ _ _ other alsoDeliverable countFails =>
      rw [(userView_unique world.db).eq_of_key alsoDeliverable.1 deliverable.1
        (alsoDeliverable.2.1.trans deliverable.2.1.symm)] at countFails
      exact Or.inl countFails
    | sendMsg _ _ _ other _ keeps fails => exact Or.inr ⟨keeps, fails⟩
  · rintro (countFails | ⟨keeps, fails⟩)
    · exact .countMsg constr destUserId content row deliverable countFails
    · exact .sendMsg constr destUserId content row deliverable keeps fails

/-- What the protocol says against a `send` that is delivered. -/
theorem sendCause_iff {constr : Constr} {destUserId : Int} {content : Slice} {row : UserViewRow}
    (deliverable : Deliverable host cfg world.db destUserId content row) (status : Status) :
    ActionCause host cfg moment world.db user (.send constr destUserId content) status ↔
      (status = .unprocessableContent ∧ BreaksDocumented host world.db user destUserId) ∨
        (status = .forbidden ∧ InForce moment.now world.db.1 user.id destUserId) := by
  obtain ⟨inView, rfl, _, fits⟩ := deliverable
  constructor
  · intro cause
    cases cause with
    | sendForbidden _ _ _ inForce => exact Or.inr ⟨rfl, inForce⟩
    | sendNotFound _ _ _ absent => exact absurd (hasUser_of_view inView) absent
    | sendTooLarge _ _ _ tooLong => exact absurd fits (Nat.not_le.mpr tooLong)
    | sendInvariant _ _ _ breaks => exact Or.inl ⟨rfl, breaks⟩
  · rintro (⟨rfl, breaks⟩ | ⟨rfl, inForce⟩)
    · exact .sendInvariant constr row.userId content breaks
    · exact .sendForbidden constr row.userId content inForce

/-- A `send` that is delivered has nothing said against it when it breaks no invariant and is not
blocked. -/
theorem noSendCause_iff {constr : Constr} {destUserId : Int} {content : Slice} {row : UserViewRow}
    (deliverable : Deliverable host cfg world.db destUserId content row) :
    (∀ status, ¬ ActionCause host cfg moment world.db user (.send constr destUserId content) status) ↔
      ¬ BreaksDocumented host world.db user destUserId ∧
        ¬ InForce moment.now world.db.1 user.id destUserId := by
  simp only [sendCause_iff deliverable]
  constructor
  · intro noCause
    exact ⟨fun breaks => noCause _ (Or.inl ⟨rfl, breaks⟩),
      fun inForce => noCause _ (Or.inr ⟨rfl, inForce⟩)⟩
  · rintro ⟨keeps, notInForce⟩ status (⟨_, breaks⟩ | ⟨_, inForce⟩)
    · exact keeps breaks
    · exact notInForce inForce

section Delivered

variable {constr : Constr} {destUserId : Int} {content : Slice} {row : UserViewRow}

/-- **A message that is delivered and whose insertion fails.** -/
theorem failed_answered_iff (answers : moment.up .getUserRole = true)
    (deliverable : Deliverable host cfg world.db destUserId content row)
    (fails : SendMsgFails moment world user.id destUserId) :
    BranchFails host cfg moment world user (.send constr destUserId content) ↔
      SendConforms host moment world user destUserId row := by
  rw [sendFails_iff answers deliverable]
  constructor
  · intro failed
    refine ⟨fun _ => failed.imp id And.left, fun executed runOut => ?_, fun accepts => ?_,
      fun accepts => ?_⟩
    · exact absurd runOut (fails.not_refused executed)
    · exact absurd accepts fails.not_accepts
    · exact absurd accepts fails.not_accepts
  · exact fun conforms => (conforms.failed fails).imp id fun keeps => ⟨keeps, fails⟩

/-- **A message that is delivered and refused.** -/
theorem refused_answered_iff (answers : moment.up .getUserRole = true)
    (deliverable : Deliverable host cfg world.db destUserId content row)
    (executed : moment.up .sendMsg = true)
    (runOut : RunOut moment.now world.db.1 user.id destUserId) :
    (¬ BranchFails host cfg moment world user (.send constr destUserId content) ∧
        ActionCause host cfg moment world.db user (.send constr destUserId content) .forbidden) ↔
      SendConforms host moment world user destUserId row := by
  have goesOn : ¬ SendMsgFails moment world user.id destUserId := fun fails =>
    fails.not_refused executed runOut
  rw [sendFails_iff answers deliverable]
  constructor
  · rintro ⟨noFailure, cause⟩
    have notAccepted : ¬ SendMsgAccepts moment world user.id destUserId := fun accepts =>
      accepts.notRefused (sendMsgRefuses_iff.mpr runOut)
    refine ⟨fun fails => absurd fails goesOn, fun _ _ => ⟨fun counts => noFailure (Or.inl counts), ?_⟩,
      fun accepts => absurd accepts notAccepted, fun accepts => absurd accepts notAccepted⟩
    cases cause with
    | sendForbidden _ _ _ inForce => exact inForce
  · intro conforms
    obtain ⟨counted, inForce⟩ := conforms.refused executed runOut
    refine ⟨?_, .sendForbidden constr destUserId content inForce⟩
    rintro (counts | ⟨_, fails⟩)
    · exact counted counts
    · exact goesOn fails

/-- A message that is delivered and inserted fails with the count only. -/
theorem insertedFails_iff (answers : moment.up .getUserRole = true)
    (deliverable : Deliverable host cfg world.db destUserId content row)
    (accepts : SendMsgAccepts moment world user.id destUserId) :
    BranchFails host cfg moment world user (.send constr destUserId content) ↔
      CountFails host moment user row := by
  rw [sendFails_iff answers deliverable]
  exact or_iff_left fun fails => fails.2.not_accepts accepts

/-- **A message that is delivered and inserted**, and breaks no invariant that is tested. -/
theorem inserted_answered_iff (answers : moment.up .getUserRole = true)
    (deliverable : Deliverable host cfg world.db destUserId content row)
    (accepts : SendMsgAccepts moment world user.id destUserId)
    (keeps : ¬ BreaksInvariant user (pqRecvRole host row.role) destUserId) :
    (¬ BranchFails host cfg moment world user (.send constr destUserId content) ∧
        ¬ BreaksDocumented host world.db user destUserId ∧
        ¬ InForce moment.now world.db.1 user.id destUserId) ↔
      SendConforms host moment world user destUserId row := by
  rw [insertedFails_iff answers deliverable accepts]
  constructor
  · intro right
    refine ⟨fun fails => absurd accepts fails.not_accepts, fun _ runOut => ?_, fun _ _ => right,
      fun _ breaks => absurd breaks keeps⟩
    exact absurd (sendMsgRefuses_iff.mpr runOut) accepts.notRefused
  · exact fun conforms => conforms.inserted accepts keeps

/-- **A message that is delivered and inserted against an invariant.** -/
theorem overwritten_answered_iff (answers : moment.up .getUserRole = true)
    (deliverable : Deliverable host cfg world.db destUserId content row)
    (accepts : SendMsgAccepts moment world user.id destUserId)
    (breaks : BreaksInvariant user (pqRecvRole host row.role) destUserId) :
    AnsweredBy (BranchFails host cfg moment world user (.send constr destUserId content))
        (ActionCause host cfg moment world.db user (.send constr destUserId content))
        (responseToJson host ⟨.error, false, .sendOver world.nextMsgId
          (.invariant (lit (lastBroken user (pqRecvRole host row.role))))⟩) ↔
      SendConforms host moment world user destUserId row := by
  have breaksDocumented : BreaksDocumented host world.db user destUserId :=
    ⟨row, deliverable.1, deliverable.2.1, Or.inl breaks⟩
  have onlyStray : SendConforms host moment world user destUserId row ↔
      world.nextMsgId = 5 ∧ StrayConforms host moment world user destUserId row
        (statusInAddress (host.literalAddress
          (lit (lastBroken user (pqRecvRole host row.role))))) := by
    refine ⟨fun conforms => conforms.overwritten accepts breaks, fun stray => ?_⟩
    refine ⟨fun fails => absurd accepts fails.not_accepts, fun _ runOut => ?_,
      fun _ keeps => absurd breaks keeps, fun _ _ => stray⟩
    exact absurd (sendMsgRefuses_iff.mpr runOut) accepts.notRefused
  rw [onlyStray, answeredBy_overwritten_iff host world.nextMsgId _ nofun nofun,
    insertedFails_iff answers deliverable accepts]
  refine and_congr_right fun _ => and_congr_right fun _ => imp_congr_right fun _ => ?_
  simp only [sendCause_iff deliverable]
  constructor
  · rintro ⟨status, isCode, ⟨rfl, _⟩ | ⟨rfl, inForce⟩⟩
    · exact Or.inl isCode
    · exact Or.inr ⟨isCode, inForce⟩
  · rintro (isCode | ⟨isCode, inForce⟩)
    · exact ⟨_, isCode, Or.inl ⟨rfl, breaksDocumented⟩⟩
    · exact ⟨_, isCode, Or.inr ⟨rfl, inForce⟩⟩

/-- **A message that is delivered** is answered by the protocol exactly when it conforms. -/
theorem delivered_answered_iff (executed : moment.up .getUserRole = true)
    (validUser : user.role = roleAdmin ∨ user.role = roleMember ∨ user.role = rolePro)
    (deliverable : Deliverable host cfg world.db destUserId content row) :
    AnsweredBy (BranchFails host cfg moment world user (.send constr destUserId content))
        (ActionCause host cfg moment world.db user (.send constr destUserId content))
        ((sendAndReport moment world (checkInvariants moment world.db user
          (pqRecvRole host row.role) destUserId ⟨.action .send, false, .zero⟩) user destUserId
          content).1.bind (responseToJson host)) ↔
      SendConforms host moment world user destUserId row := by
  have noPage := checkInvariants_hasNextPage moment world.db user (pqRecvRole host row.role)
    destUserId ⟨.action .send, false, .zero⟩
  rcases sendMsg_cases moment world user.id destUserId with fails | ⟨up, blocked⟩ | accepts
  · obtain ⟨_, failed, _⟩ := sendAndReport_of_fails (checkInvariants moment world.db user
      (pqRecvRole host row.role) destUserId ⟨.action .send, false, .zero⟩) content fails
    rw [failed, noPage]
    exact (answeredBy_internal_iff host).trans (failed_answered_iff executed deliverable fails)
  · rw [sendAndReport_of_blocked _ content up blocked, noPage]
    exact (answeredBy_status_iff host (by decide)).trans
      (refused_answered_iff executed deliverable up (sendMsgRefuses_iff.mp blocked))
  · obtain ⟨_, reported, _⟩ := sendAndReport_of_accepts (checkInvariants moment world.db user
      (pqRecvRole host row.role) destUserId ⟨.action .send, false, .zero⟩) content accepts
    rw [reported]
    rcases checkInvariants_spec moment world.db destUserId ⟨.action .send, false, .zero⟩ validUser
      ((validateDbRole_iff _).mp deliverable.2.2.1) with ⟨keeps, kept⟩ | ⟨breaks, stored⟩
    · have encodes : Encodes host ⟨.action .send, false, .send world.nextMsgId⟩ :=
        ⟨trivial, _, rfl⟩
      rw [kept]
      refine (answeredBy_action_iff host encodes).trans ?_
      rw [noSendCause_iff deliverable]
      exact inserted_answered_iff executed deliverable accepts keeps
    · rw [stored]
      exact overwritten_answered_iff executed deliverable accepts breaks

/-- A `send` that is not delivered fails with the lookup of its recipient only. -/
theorem not_sendFails (executed : moment.up .getUserRole = true)
    (undelivered : ∀ row, ¬ Deliverable host cfg world.db destUserId content row) :
    ¬ BranchFails host cfg moment world user (.send constr destUserId content) := by
  intro fails
  cases fails with
  | getUserRole _ _ _ down => cases down.symm.trans executed
  | countMsg _ _ _ row deliverable => exact undelivered row deliverable
  | sendMsg _ _ _ row deliverable => exact undelivered row deliverable

/-- What the protocol asks of a `send` to a user who is there. -/
theorem sendBranchConforms_iff (executed : moment.up .getUserRole = true)
    (inView : row ∈ world.db.1.userView) :
    BranchConforms host cfg moment world user (.send constr row.userId content) ↔
      validateDbRole (pqRecvRole host row.role) = true ∧
        (content.len ≤ cfg.maxMsgLength → SendConforms host moment world user row.userId row) := by
  constructor
  · exact fun conforms => conforms executed row inView rfl
  · intro conforms _ other inView' sameId
    rwa [(userView_unique world.db).eq_of_key inView' inView sameId]

/-- **A `send` to a user who is there.** -/
theorem send_answered_iff_of_row (executed : moment.up .getUserRole = true)
    (validUser : user.role = roleAdmin ∨ user.role = roleMember ∨ user.role = rolePro)
    (inView : row ∈ world.db.1.userView) :
    AnsweredBy (BranchFails host cfg moment world user (.send constr row.userId content))
        (ActionCause host cfg moment world.db user (.send constr row.userId content))
        ((evaluateSend host cfg moment world ⟨.action .send, false, .zero⟩ row.userId content
          user).1.bind (responseToJson host)) ↔
      BranchConforms host cfg moment world user (.send constr row.userId content) := by
  have found := dbGetUserRole_of_row host executed inView
  rw [sendBranchConforms_iff executed inView]
  by_cases valid : validateDbRole (pqRecvRole host row.role) = true
  · have isRole := (validateDbRole_iff _).mp valid
    rw [if_pos valid] at found
    rw [and_iff_right valid]
    by_cases fits : content.len ≤ cfg.maxMsgLength
    · rw [evaluateSend_of_fits _ user found isRole fits]
      refine (delivered_answered_iff executed validUser ⟨inView, rfl, valid, fits⟩).trans ?_
      exact ⟨fun conforms _ => conforms, fun conforms => conforms fits⟩
    · have tooLong := Nat.lt_of_not_le fits
      rw [evaluateSend_of_tooLong _ user found isRole tooLong]
      refine (answeredBy_status_iff host (by decide)).trans ?_
      refine iff_of_true ⟨not_sendFails executed fun _ deliverable => fits deliverable.2.2.2, ?_⟩
        fun isFit => absurd isFit fits
      exact .sendTooLarge constr row.userId content tooLong
  · rw [if_neg valid] at found
    rw [evaluateSend_of_handled _ content user found]
    refine (answeredBy_internal_iff host).trans (iff_of_false ?_ fun conforms => valid conforms.1)
    refine not_sendFails executed fun other deliverable => valid ?_
    rw [← (userView_unique world.db).eq_of_key deliverable.1 inView deliverable.2.1]
    exact deliverable.2.2.1

/-- **`send`.** -/
theorem send_answered_iff (constr : Constr) (destUserId : Int) (content : Slice)
    (validUser : user.role = roleAdmin ∨ user.role = roleMember ∨ user.role = rolePro) :
    BranchAnswered host cfg moment world user (.send constr destUserId content) ↔
      BranchConforms host cfg moment world user (.send constr destUserId content) := by
  have start : branchAnswer host cfg moment world user (.send constr destUserId content) =
      (evaluateSend host cfg moment world ⟨.action .send, false, .zero⟩ destUserId content
        user).1.bind (responseToJson host) := rfl
  rw [BranchAnswered, start]
  by_cases executed : moment.up .getUserRole = true
  · rcases view_cases world.db destUserId with ⟨row, inView, rfl⟩ | absent
    · exact send_answered_iff_of_row executed validUser inView
    · have noRow : ∀ row ∈ world.db.1.userView, row.userId ≠ destUserId := by
        rintro row inView rfl
        exact absent (hasUser_of_view inView)
      rw [evaluateSend_of_error _ content user (dbGetUserRole_of_absent executed absent)]
      refine (answeredBy_status_iff host (by decide)).trans (iff_of_true ⟨?_, ?_⟩ ?_)
      · exact not_sendFails executed fun row deliverable =>
          noRow row deliverable.1 deliverable.2.1
      · exact .sendNotFound constr destUserId content absent
      · exact fun _ row inView sameId => absurd sameId (noRow row inView)
  · have handled : dbGetUserRole host moment world.db destUserId = Errstatus.handled.code := by
      rw [dbGetUserRole, if_neg executed]
    rw [evaluateSend_of_handled _ content user handled]
    exact (answeredBy_internal_iff host).trans
      (iff_of_true (.getUserRole constr destUserId content (by simpa using executed))
        fun up => absurd up executed)

end Delivered

/-! ### Every branch -/

/-- **A branch that does nothing** answers by the protocol whoever has nothing to be told. -/
theorem quiet_answered_iff {action : Action} {kind : ActionKind}
    (quiet : branch host cfg moment world action user =
      (.ok ⟨.action kind, false, .zero⟩, world))
    (noBody : bodyObject kind .zero = .ok none)
    (goesOn : ¬ BranchFails host cfg moment world user action) :
    BranchAnswered host cfg moment world user action ↔
      ∀ status, ¬ ActionCause host cfg moment world.db user action status := by
  have encodes : Encodes host ⟨.action kind, false, .zero⟩ := by
    cases kind with
    | whois | send | inbox => cases noBody
    | _ => exact ⟨trivial, _, rfl⟩
  rw [BranchAnswered, branchAnswer, quiet]
  exact (answeredBy_action_iff host encodes).trans (and_iff_right goesOn)

/-- **A branch answers its user by the protocol exactly when it conforms.** -/
theorem branch_answered_iff {action : Action} {kind : ActionKind}
    (isKind : action.type = .action kind)
    (validUser : user.role = roleAdmin ∨ user.role = roleMember ∨ user.role = rolePro) :
    BranchAnswered host cfg moment world user action ↔
      BranchConforms host cfg moment world user action := by
  cases action with
  | error => cases isKind
  | whois constr userId => exact whois_answered_iff constr userId
  | send constr destUserId content => exact send_answered_iff constr destUserId content validUser
  | inbox constr page => exact inbox_answered_iff constr page
  | rm constr msgId => exact rm_answered_iff (role_and_roleAll validUser) constr msgId
  | motd | outbox | edit | block | unblock | ban | unban =>
    exact quiet_answered_iff rfl rfl fun fails => by cases fails

end

end Tchatator
