/-
**What one evaluation can do** (`action_evaluate`).

Only two of the eleven actions write, and this file says once what each of them does; every later
statement about a response or about the database is a case analysis over

* `send_outcomes` — a `send` ends on a fault, or on an error status with the tables it found, or
  it adds exactly one message: then its response is the identifier of the message, over an error
  when an invariant of the sender and the recipient was broken (`fail_invariant` stores the error
  and does not return);
* `rm_outcomes` — an `rm` ends on a fault, or on an error status with the database it found, or it
  marks exactly one message;
* `quiet_outcomes` — any other action leaves the database alone;
* `database_outcomes` — the three together, as far as the tables go.

The conditions under which a message is added or marked, `SendInserts` and `RmRemoves`, are
conditions on the database before the action: `send_of_inserts` and `rm_of_removes` are the
converses.
-/

import Tchatator.Proof.Authorisation
import Tchatator.Proof.Messages

namespace Tchatator

/-! ### The checks of `send` -/

/-- The invariants `send` tests, as it tests them: it never learns whether a member has contacted a
professional, since the count it reads is the number of rows of a count. -/
def BreaksInvariant (user : UserIdentity) (destRole : Nat) (destUserId : Int) : Prop :=
  user.id = destUserId ∨ (user.role = roleMember ∧ destRole ≠ rolePro) ∨
    (user.role = rolePro ∧ destRole ≠ roleMember)

instance (user : UserIdentity) (destRole : Nat) (destUserId : Int) :
    Decidable (BreaksInvariant user destRole destUserId) :=
  inferInstanceAs (Decidable (_ ∨ (_ ∧ _) ∨ (_ ∧ _)))

/-- The invariant named last, when one is broken: each check stores its name over the previous one. -/
def lastBroken (user : UserIdentity) (destRole : Nat) : String :=
  if user.role = rolePro ∧ destRole ≠ roleMember then "pro_responds_client"
  else if user.role = roleMember ∧ destRole ≠ rolePro then "client_send_pro"
  else "no_send_self"

/-- `!db_count_msg(...)` is never true: the query is answered with one row, or not at all. -/
theorem dbCountMsg_ne_zero (moment : Moment) (db : Db) (senderId recipientId : Int) :
    dbCountMsg moment db senderId recipientId ≠ 0 := by
  unfold dbCountMsg
  split
  · simp [selectCountMsg]
  · decide

section

variable {host : Host} {cfg : Cfg} {moment : Moment} {world : World} {constr : Constr}
  {destUserId : Int} {content : Slice} {user : UserIdentity} {destRole : Nat}

/-- **The invariant checks leave an error exactly when an invariant is broken**, under the name of the
last. -/
theorem checkInvariants_spec (moment : Moment) (db : Db) (destUserId : Int) (rep : Response)
    (validUser : user.role = roleAdmin ∨ user.role = roleMember ∨ user.role = rolePro)
    (validDest : destRole = roleAdmin ∨ destRole = roleMember ∨ destRole = rolePro) :
    (¬ BreaksInvariant user destRole destUserId ∧
      checkInvariants moment db user destRole destUserId rep = rep) ∨
    (BreaksInvariant user destRole destUserId ∧
      checkInvariants moment db user destRole destUserId rep =
        failInvariant rep (lastBroken user destRole)) := by
  have counted := dbCountMsg_ne_zero moment db destUserId user.id
  obtain ⟨role, id⟩ := user
  simp only [checkInvariants, BreaksInvariant, lastBroken, counted, or_false]
  by_cases self : id = destUserId
  · refine Or.inr ⟨Or.inl self, ?_⟩
    simp only [self, if_true]
    rcases validUser with rfl | rfl | rfl <;> rcases validDest with rfl | rfl | rfl <;> rfl
  · simp only [self, if_false, false_or]
    rcases validUser with rfl | rfl | rfl <;> rcases validDest with rfl | rfl | rfl <;>
      simp [roleAdmin, roleMember, rolePro, failInvariant]

/-- `db_get_user_role` returns an error status, or the valid role of a row. -/
theorem dbGetUserRole_cases (host : Host) (moment : Moment) (db : Db) (userId : Int) :
    dbGetUserRole host moment db userId = Errstatus.handled.code ∨
    dbGetUserRole host moment db userId = Errstatus.error.code ∨
    ∃ row ∈ db.1.userView, row.userId = userId ∧
      validateDbRole (pqRecvRole host row.role) = true ∧
      dbGetUserRole host moment db userId = (pqRecvRole host row.role : Nat) := by
  unfold dbGetUserRole
  split
  · split
    · exact Or.inr (Or.inl rfl)
    · rename_i row rest selected
      have member : row ∈ db.1.userView.filter fun row => row.userId = userId := by
        rw [selected]
        exact List.mem_cons_self
      obtain ⟨inView, sameId⟩ := List.mem_filter.mp member
      by_cases valid : validateDbRole (pqRecvRole host row.role) = true
      · exact Or.inr (Or.inr ⟨row, inView, by simpa using sameId, valid, by simp [valid]⟩)
      · exact Or.inl (by simp [valid])
  · exact Or.inl rfl

/-! ### Sending -/

/-- **A `send` gets to the insertion.** -/
structure SendProceeds (host : Host) (cfg : Cfg) (moment : Moment) (world : World)
    (constr : Constr) (destUserId : Int) (content : Slice) (user : UserIdentity)
    (destRole : Nat) : Prop where
  verified : dbVerifyUserConstr host cfg moment world.db .indeterminate constr = .ok (.ok, user)
  found : dbGetUserRole host moment world.db destUserId = (destRole : Nat)
  valid : destRole = roleAdmin ∨ destRole = roleMember ∨ destRole = rolePro
  fits : content.len ≤ cfg.maxMsgLength

/-- **A `send` adds a message.** -/
structure SendInserts (host : Host) (cfg : Cfg) (moment : Moment) (world : World)
    (constr : Constr) (destUserId : Int) (content : Slice) (user : UserIdentity)
    (destRole : Nat) : Prop where
  proceeds : SendProceeds host cfg moment world constr destUserId content user destRole
  accepts : SendMsgAccepts moment world user.id destUserId

/-- The user and the role are determined. -/
theorem SendProceeds.unique {other : UserIdentity} {otherRole : Nat}
    (first : SendProceeds host cfg moment world constr destUserId content user destRole)
    (second : SendProceeds host cfg moment world constr destUserId content other otherRole) :
    user = other ∧ destRole = otherRole := by
  have sameUser := first.verified.symm.trans second.verified
  have sameRole := first.found.symm.trans second.found
  simp only [Except.ok.injEq, Prod.mk.injEq, true_and] at sameUser
  exact ⟨sameUser, by exact_mod_cast sameRole⟩

theorem role_not_status (valid : destRole = roleAdmin ∨ destRole = roleMember ∨ destRole = rolePro) :
    ((destRole : Nat) : Int) ≠ Errstatus.handled.code ∧
      ((destRole : Nat) : Int) ≠ Errstatus.error.code := by
  rcases valid with rfl | rfl | rfl <;> decide

/-- The branch of a `send` whose recipient could not be looked up. -/
theorem evaluateSend_of_handled (rep : Response) (content : Slice) (user : UserIdentity)
    (handled : dbGetUserRole host moment world.db destUserId = Errstatus.handled.code) :
    evaluateSend host cfg moment world rep destUserId content user =
      (.ok (fail rep .internalServerError), world) := by
  simp only [evaluateSend, handled, if_true]

/-- The branch of a `send` to nobody. -/
theorem evaluateSend_of_error (rep : Response) (content : Slice) (user : UserIdentity)
    (error : dbGetUserRole host moment world.db destUserId = Errstatus.error.code) :
    evaluateSend host cfg moment world rep destUserId content user =
      (.ok (fail rep .notFound), world) := by
  rw [evaluateSend, error]
  rfl

/-- The branch of a `send` whose message is too long. -/
theorem evaluateSend_of_tooLong (rep : Response) (user : UserIdentity)
    (found : dbGetUserRole host moment world.db destUserId = (destRole : Nat))
    (valid : destRole = roleAdmin ∨ destRole = roleMember ∨ destRole = rolePro)
    (tooLong : cfg.maxMsgLength < content.len) :
    evaluateSend host cfg moment world rep destUserId content user =
      (.ok (fail rep .payloadTooLarge), world) := by
  obtain ⟨notHandled, notError⟩ := role_not_status valid
  simp only [evaluateSend, found, if_neg notHandled, if_neg notError, if_pos tooLong]

/-- The branch of a `send` that gets to the insertion, on the response its checks left. -/
theorem evaluateSend_of_fits (rep : Response) (user : UserIdentity)
    (found : dbGetUserRole host moment world.db destUserId = (destRole : Nat))
    (valid : destRole = roleAdmin ∨ destRole = roleMember ∨ destRole = rolePro)
    (fits : content.len ≤ cfg.maxMsgLength) :
    evaluateSend host cfg moment world rep destUserId content user =
      sendAndReport moment world
        (checkInvariants moment world.db user destRole destUserId rep) user destUserId content := by
  obtain ⟨notHandled, notError⟩ := role_not_status valid
  simp only [evaluateSend, found, if_neg notHandled, if_neg notError, if_neg (Nat.not_lt.mpr fits),
    Int.toNat_natCast]

theorem evaluateSend_cases (rep : Response) (destUserId : Int) (content : Slice)
    (verified : dbVerifyUserConstr host cfg moment world.db .indeterminate constr =
      .ok (.ok, user)) :
    (∃ status, evaluateSend host cfg moment world rep destUserId content user =
      (.ok (fail rep status), world)) ∨
    ∃ destRole, SendProceeds host cfg moment world constr destUserId content user destRole := by
  rcases dbGetUserRole_cases host moment world.db destUserId with
    handled | error | ⟨row, _, _, valid, found⟩
  · exact Or.inl ⟨_, evaluateSend_of_handled rep content user handled⟩
  · exact Or.inl ⟨_, evaluateSend_of_error rep content user error⟩
  · have isRole := (validateDbRole_iff _).mp valid
    by_cases fits : content.len ≤ cfg.maxMsgLength
    · exact Or.inr ⟨_, verified, found, isRole, fits⟩
    · exact Or.inl ⟨_, evaluateSend_of_tooLong rep user found isRole (Nat.lt_of_not_le fits)⟩

/-- The checks keep the flag of the page. -/
theorem checkInvariants_hasNextPage (moment : Moment) (db : Db) (user : UserIdentity)
    (destRole : Nat) (destUserId : Int) (rep : Response) :
    (checkInvariants moment db user destRole destUserId rep).hasNextPage = rep.hasNextPage := by
  unfold checkInvariants
  dsimp only
  split <;> split <;> split <;> rfl

/-- An insertion that fails is reported as such. -/
theorem sendAndReport_of_fails (rep : Response) (content : Slice)
    (fails : SendMsgFails moment world user.id destUserId) :
    ∃ after, sendAndReport moment world rep user destUserId content =
        (.ok ⟨.error, rep.hasNextPage, .error ⟨.other, .other .internalServerError⟩⟩, after) ∧
      Untouched world after := by
  obtain ⟨after, failed, untouched⟩ := dbSendMsg_of_fails content.val fails
  exact ⟨after, by rw [sendAndReport, failed]; rfl, untouched⟩

/-- A message that is refused is reported as such. -/
theorem sendAndReport_of_blocked (rep : Response) (content : Slice)
    (executed : moment.up .sendMsg = true)
    (blocked : SendMsgRefuses moment.now world.db.1 user.id destUserId) :
    sendAndReport moment world rep user destUserId content =
      (.ok ⟨.error, rep.hasNextPage, .error ⟨.other, .other .forbidden⟩⟩, world) := by
  rw [sendAndReport, dbSendMsg_of_blocked content.val executed blocked]
  rfl

/-- A message that is inserted stores its identifier in the response, whatever the checks left. -/
theorem sendAndReport_of_accepts (rep : Response) (content : Slice)
    (accepts : SendMsgAccepts moment world user.id destUserId) :
    ∃ after, sendAndReport moment world rep user destUserId content =
        (.ok { rep with body := rep.body.storeMsgId world.nextMsgId }, after) ∧
      Inserted moment.now world after user.id destUserId content.val := by
  obtain ⟨after, sent, inserted⟩ := dbSendMsg_of_accepts content.val accepts
  have notHandled : world.nextMsgId ≠ Errstatus.handled.code := by
    show (world.lastMsgId : Int) + 1 ≠ -1
    omega
  have notError : world.nextMsgId ≠ Errstatus.error.code := by
    show (world.lastMsgId : Int) + 1 ≠ 0
    omega
  refine ⟨after, ?_, inserted⟩
  rw [sendAndReport, sent]
  simp only [if_neg notHandled, if_neg notError]

/-- The evaluation of a `send` that proceeds. -/
theorem send_of_proceeds
    (proceeds : SendProceeds host cfg moment world constr destUserId content user destRole) :
    actionEvaluate host cfg moment world (.send constr destUserId content) =
      sendAndReport moment world
        (checkInvariants moment world.db user destRole destUserId
          ⟨.action .send, false, .zero⟩) user destUserId content := by
  rw [evaluation_of_verified host cfg moment world _ rfl rfl rfl proceeds.verified]
  exact evaluateSend_of_fits _ user proceeds.found proceeds.valid proceeds.fits

/-- A message that is not accepted: an error status, and the tables as they were. -/
theorem send_of_refuses
    (proceeds : SendProceeds host cfg moment world constr destUserId content user destRole)
    (refuses : ¬ SendMsgAccepts moment world user.id destUserId) :
    ∃ status after, actionEvaluate host cfg moment world (.send constr destUserId content) =
        (.ok ⟨.error, false, .error ⟨.other, .other status⟩⟩, after) ∧
      Untouched world after := by
  rw [send_of_proceeds proceeds]
  have noPage := checkInvariants_hasNextPage moment world.db user destRole destUserId
    ⟨.action .send, false, .zero⟩
  rcases sendMsg_cases moment world user.id destUserId with fails | ⟨executed, blocked⟩ | accepts
  · obtain ⟨after, failed, untouched⟩ := sendAndReport_of_fails (checkInvariants moment world.db
      user destRole destUserId ⟨.action .send, false, .zero⟩) content fails
    rw [noPage] at failed
    exact ⟨.internalServerError, after, failed, untouched⟩
  · refine ⟨.forbidden, world, ?_, .refl world⟩
    rw [sendAndReport_of_blocked _ content executed blocked, noPage]
  · exact absurd accepts refuses

/-- The response to a `send` that adds a message. -/
def sentResponse (user : UserIdentity) (destRole : Nat) (destUserId msgId : Int) : Response :=
  if BreaksInvariant user destRole destUserId then
    ⟨.error, false, .sendOver msgId (.invariant (lit (lastBroken user destRole)))⟩
  else ⟨.action .send, false, .send msgId⟩

/-- **A `send` that adds a message** answers its identifier, stored over an error when an invariant
was broken. -/
theorem send_of_inserts
    (inserts : SendInserts host cfg moment world constr destUserId content user destRole) :
    ∃ after, actionEvaluate host cfg moment world (.send constr destUserId content) =
        (.ok (sentResponse user destRole destUserId world.nextMsgId), after) ∧
      Inserted moment.now world after user.id destUserId content.val := by
  rw [send_of_proceeds inserts.proceeds]
  obtain ⟨after, reported, inserted⟩ := sendAndReport_of_accepts (checkInvariants moment world.db
    user destRole destUserId ⟨.action .send, false, .zero⟩) content inserts.accepts
  refine ⟨after, reported.trans ?_, inserted⟩
  rcases checkInvariants_spec moment world.db destUserId ⟨.action .send, false, .zero⟩
    (role_of_verified inserts.proceeds.verified) inserts.proceeds.valid with
    ⟨keeps, kept⟩ | ⟨breaks, stored⟩
  · rw [kept, sentResponse, if_neg keeps]
    rfl
  · rw [stored, sentResponse, if_pos breaks]
    rfl

/-- **The outcomes of a `send`.** -/
theorem send_outcomes (host : Host) (cfg : Cfg) (moment : Moment) (world : World)
    (constr : Constr) (destUserId : Int) (content : Slice) :
    (∃ fault, actionEvaluate host cfg moment world (.send constr destUserId content) =
      (.error fault, world)) ∨
    (∃ status after, actionEvaluate host cfg moment world (.send constr destUserId content) =
        (.ok ⟨.error, false, .error ⟨.other, .other status⟩⟩, after) ∧ Untouched world after) ∨
    ∃ user destRole, SendInserts host cfg moment world constr destUserId content user destRole := by
  rcases evaluation_cases host cfg moment world (.send constr destUserId content) rfl rfl with
    ⟨fault, stopped⟩ | ⟨status, failed⟩ | ⟨user, verified, _, goes⟩
  · exact Or.inl ⟨fault, stopped⟩
  · exact Or.inr (Or.inl ⟨status, world, failed, .refl world⟩)
  · rcases evaluateSend_cases (initialResponse (.send constr destUserId content)) destUserId
        content verified with
      ⟨status, failed⟩ | ⟨destRole, proceeds⟩
    · exact Or.inr (Or.inl ⟨status, world, goes.trans failed, .refl world⟩)
    · by_cases accepts : SendMsgAccepts moment world user.id destUserId
      · exact Or.inr (Or.inr ⟨user, destRole, proceeds, accepts⟩)
      · exact Or.inr (Or.inl (send_of_refuses proceeds accepts))

/-! ### Removing -/

/-- **An `rm` marks a message.** -/
structure RmRemoves (host : Host) (cfg : Cfg) (moment : Moment) (world : World)
    (constr : Constr) (msgId : Int) (user : UserIdentity) (row : MsgRow) : Prop where
  verified : dbVerifyUserConstr host cfg moment world.db .indeterminate constr = .ok (.ok, user)
  sameId : row.msgId = msgId
  accepts : DeleteAccepts moment world row

/-- **An `rm` that marks a message** answers without a body. -/
theorem rm_of_removes {msgId : Int} {row : MsgRow}
    (removes : RmRemoves host cfg moment world constr msgId user row) :
    ∃ age after, actionEvaluate host cfg moment world (.rm constr msgId) =
        (.ok ⟨.action .rm, false, .zero⟩, after) ∧ Removed world after msgId age := by
  obtain ⟨verified, rfl, accepts⟩ := removes
  have isAllowed := role_and_roleAll (role_of_verified verified)
  obtain ⟨age, after, marked, removed⟩ := dbRmMsg_of_accepts accepts
  refine ⟨age, after, ?_, removed⟩
  rw [evaluation_of_verified host cfg moment world _ rfl rfl rfl verified]
  show evaluateRm moment world ⟨.action .rm, false, .zero⟩ row.msgId user = _
  rw [evaluateRm, marked]
  exact if_neg isAllowed

/-- An `rm` that marks nothing answers an error status and changes nothing. -/
theorem rm_of_refuses (msgId : Int)
    (verified : dbVerifyUserConstr host cfg moment world.db .indeterminate constr =
      .ok (.ok, user))
    (refuses : ∀ row, row.msgId = msgId → ¬ DeleteAccepts moment world row) :
    ∃ status, actionEvaluate host cfg moment world (.rm constr msgId) =
      (.ok ⟨.error, false, .error ⟨.other, .other status⟩⟩, world) := by
  obtain ⟨code, refused, notOk⟩ := dbRmMsg_of_refuses refuses
  rw [evaluation_of_verified host cfg moment world _ rfl rfl rfl verified]
  show ∃ status, evaluateRm moment world ⟨.action .rm, false, .zero⟩ msgId user = _
  rw [evaluateRm, refused]
  cases code with
  | handled => exact ⟨.internalServerError, rfl⟩
  | error => exact ⟨.notFound, rfl⟩
  | ok => exact absurd rfl notOk

/-- **The outcomes of an `rm`.** -/
theorem rm_outcomes (host : Host) (cfg : Cfg) (moment : Moment) (world : World)
    (constr : Constr) (msgId : Int) :
    (∃ fault, actionEvaluate host cfg moment world (.rm constr msgId) = (.error fault, world)) ∨
    (∃ status, actionEvaluate host cfg moment world (.rm constr msgId) =
      (.ok ⟨.error, false, .error ⟨.other, .other status⟩⟩, world)) ∨
    ∃ user row, RmRemoves host cfg moment world constr msgId user row := by
  rcases evaluation_cases host cfg moment world (.rm constr msgId) rfl rfl with
    ⟨fault, stopped⟩ | ⟨status, failed⟩ | ⟨user, verified, _, _⟩
  · exact Or.inl ⟨fault, stopped⟩
  · exact Or.inr (Or.inl ⟨status, failed⟩)
  · by_cases accepts : ∃ row, row.msgId = msgId ∧ DeleteAccepts moment world row
    · obtain ⟨row, sameId, accepts⟩ := accepts
      exact Or.inr (Or.inr ⟨user, row, verified, sameId, accepts⟩)
    · exact Or.inr (Or.inl (rm_of_refuses msgId verified fun row sameId isAccepted =>
        accepts ⟨row, sameId, isAccepted⟩))

/-! ### The other actions -/

/-- **Every other action leaves the database alone.** -/
theorem quiet_outcomes (host : Host) (cfg : Cfg) (moment : Moment) (world : World)
    {action : Action} (notSend : action.type ≠ .action .send)
    (notRm : action.type ≠ .action .rm) :
    (actionEvaluate host cfg moment world action).2 = world := by
  rcases action.cases_constr with ⟨stored, rfl⟩ | ⟨constr, kind, carries, isKind⟩
  · rfl
  rcases evaluation_cases host cfg moment world action carries isKind with
    ⟨fault, stopped⟩ | ⟨status, failed⟩ | ⟨user, _, _, goes⟩
  · rw [stopped]
  · rw [failed]
  · rw [goes]
    cases action with
    | send => exact absurd rfl notSend
    | rm => exact absurd rfl notRm
    | whois =>
      simp only [branch, evaluateWhois]
      split <;> rfl
    | inbox =>
      simp only [branch, evaluateInbox]
      split <;> rfl
    | _ => rfl

/-- **What an evaluation does to the tables**: nothing, or it adds one message, or it marks one. -/
theorem database_outcomes (host : Host) (cfg : Cfg) (moment : Moment) (world : World)
    (action : Action) :
    Untouched world (actionEvaluate host cfg moment world action).2 ∨
    (∃ constr destUserId content user destRole, action = .send constr destUserId content ∧
      SendInserts host cfg moment world constr destUserId content user destRole ∧
      Inserted moment.now world (actionEvaluate host cfg moment world action).2 user.id destUserId
        content.val) ∨
    ∃ constr msgId user row age, action = .rm constr msgId ∧
      RmRemoves host cfg moment world constr msgId user row ∧
      Removed world (actionEvaluate host cfg moment world action).2 msgId age := by
  cases action with
  | send constr destUserId content =>
    rcases send_outcomes host cfg moment world constr destUserId content with
      ⟨fault, stopped⟩ | ⟨status, after, failed, untouched⟩ | ⟨user, destRole, inserts⟩
    · exact Or.inl (by rw [stopped]; exact .refl world)
    · exact Or.inl (by rw [failed]; exact untouched)
    · obtain ⟨after, evaluated, inserted⟩ := send_of_inserts inserts
      refine Or.inr (Or.inl ⟨constr, destUserId, content, user, destRole, rfl, inserts, ?_⟩)
      rw [evaluated]
      exact inserted
  | rm constr msgId =>
    rcases rm_outcomes host cfg moment world constr msgId with
      ⟨fault, stopped⟩ | ⟨status, failed⟩ | ⟨user, row, removes⟩
    · exact Or.inl (by rw [stopped]; exact .refl world)
    · exact Or.inl (by rw [failed]; exact .refl world)
    · obtain ⟨age, after, evaluated, removed⟩ := rm_of_removes removes
      refine Or.inr (Or.inr ⟨constr, msgId, user, row, age, rfl, removes, ?_⟩)
      rw [evaluated]
      exact removed
  | _ =>
    refine Or.inl ?_
    rw [quiet_outcomes host cfg moment world (by simp [Action.type]) (by simp [Action.type])]
    exact .refl world

end

end Tchatator
