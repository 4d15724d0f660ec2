/-
**What a block does** (`send_msg`).

* `InForce` — a block on the sender expires after now; `RunOut` — one expired before now;
* `sendMsgRefuses_iff` — `send_msg` refuses a message exactly when a block has run out: its two
  comparisons have `localtimestamp` on the wrong side;
* **`blocks_honoured_iff`** — a `send` that passes the earlier checks is therefore refused by the
  blocks in force, and by them only, exactly when a block in force and a block that has run out
  come together or not at all, as long as the statement is executed and an identifier is free.
-/

import Tchatator.Model.TestData
import Tchatator.Proof.Evaluation

namespace Tchatator

open Keyed

/-! ### Blocks -/

/-- A block on messages from the sender to the recipient whose expiry satisfies a condition. -/
def HasBlock (expires : Int → Prop) (tables : Tables) (sender recipient : Int) : Prop :=
  (∃ row ∈ tables.members, row.userId = sender ∧ ∃ expiry ∈ row.fullBlockExpiresAt,
    expires expiry) ∨
  ∃ row ∈ tables.singleBlocks, row.userIdMember = sender ∧ row.userIdPro = recipient ∧
    expires row.expiresAt

/-- **A block is in force.** -/
def InForce (now : Int) (tables : Tables) (sender recipient : Int) : Prop :=
  HasBlock (now < ·) tables sender recipient

/-- A block has run out. -/
def RunOut (now : Int) (tables : Tables) (sender recipient : Int) : Prop :=
  HasBlock (· < now) tables sender recipient

instance (now : Int) (tables : Tables) (sender recipient : Int) :
    Decidable (InForce now tables sender recipient) :=
  inferInstanceAs (Decidable ((∃ row ∈ tables.members, row.userId = sender ∧
    ∃ expiry ∈ row.fullBlockExpiresAt, now < expiry) ∨
    ∃ row ∈ tables.singleBlocks, row.userIdMember = sender ∧ row.userIdPro = recipient ∧
      now < row.expiresAt))

instance (now : Int) (tables : Tables) (sender recipient : Int) :
    Decidable (RunOut now tables sender recipient) :=
  inferInstanceAs (Decidable ((∃ row ∈ tables.members, row.userId = sender ∧
    ∃ expiry ∈ row.fullBlockExpiresAt, expiry < now) ∨
    ∃ row ∈ tables.singleBlocks, row.userIdMember = sender ∧ row.userIdPro = recipient ∧
      row.expiresAt < now))

section

variable {now sender recipient : Int} {db : Db}

/-- The first sub-select: the member's full block has run out. -/
theorem fullBlockTest_holds :
    (fullBlockTest now db.1 sender).Holds ↔
      ∃ row ∈ db.1.members, row.userId = sender ∧ ∃ expiry ∈ row.fullBlockExpiresAt,
        expiry < now := by
  rw [fullBlockTest, Ternary.compare_holds]
  constructor
  · rintro ⟨expiry, isExpiry, _, ⟨⟩, before⟩
    obtain ⟨row, found, stored⟩ := Option.bind_eq_some_iff.mp isExpiry
    obtain ⟨member, sameId⟩ := db.2.memberPkey.rowWith_eq_some_iff.mp found
    exact ⟨row, member, sameId, expiry, stored, by simpa using before⟩
  · rintro ⟨row, member, sameId, expiry, stored, before⟩
    refine ⟨expiry, ?_, now, rfl, by simpa using before⟩
    exact Option.bind_eq_some_iff.mpr
      ⟨row, db.2.memberPkey.rowWith_eq_some_iff.mpr ⟨member, sameId⟩, stored⟩

/-- The second sub-select: the recipient's block has run out. -/
theorem singleBlockTest_holds :
    (singleBlockTest now db.1 sender recipient).Holds ↔
      ∃ row ∈ db.1.singleBlocks, row.userIdMember = sender ∧ row.userIdPro = recipient ∧
        row.expiresAt < now := by
  rw [singleBlockTest, Ternary.compare_holds]
  constructor
  · rintro ⟨expiry, isExpiry, _, ⟨⟩, before⟩
    obtain ⟨row, found, rfl⟩ := Option.map_eq_some_iff.mp isExpiry
    obtain ⟨member, sameKey⟩ := db.2.singleBlockPk.rowWith_eq_some_iff.mp found
    obtain ⟨sameMember, samePro⟩ := Prod.mk.inj sameKey
    exact ⟨row, member, sameMember, samePro, by simpa using before⟩
  · rintro ⟨row, member, sameMember, samePro, before⟩
    refine ⟨row.expiresAt, ?_, now, rfl, by simpa using before⟩
    refine Option.map_eq_some_iff.mpr ⟨row, db.2.singleBlockPk.rowWith_eq_some_iff.mpr ?_, rfl⟩
    exact ⟨member, Prod.ext sameMember samePro⟩

/-- **`send_msg` refuses what a block that has run out stands against.** -/
theorem sendMsgRefuses_iff :
    SendMsgRefuses now db.1 sender recipient ↔ RunOut now db.1 sender recipient :=
  or_congr fullBlockTest_holds singleBlockTest_holds

end

/-! ### Sends that pass the earlier checks -/

/-- **A `send` that reaches `send_msg`** with its invariants kept. -/
structure PassesChecks (host : Host) (cfg : Cfg) (moment : Moment) (world : World)
    (constr : Constr) (destUserId : Int) (content : Slice) (user : UserIdentity)
    (destRole : Nat) : Prop where
  proceeds : SendProceeds host cfg moment world constr destUserId content user destRole
  keeps : ¬ BreaksInvariant user destRole destUserId

/-- The sequence has a next identifier, and it is free. -/
def HasRoom (world : World) : Prop :=
  world.lastMsgId < 2147483647 ∧ ∀ row ∈ world.db.1.msgs, row.msgId ≠ world.nextMsgId

instance (world : World) : Decidable (HasRoom world) :=
  inferInstanceAs (Decidable (_ ∧ ∀ row ∈ world.db.1.msgs, row.msgId ≠ world.nextMsgId))

/-- **The documented effect of blocks**: `403` and nothing inserted exactly when one is in force,
and otherwise the message is there. -/
structure BlocksHonoured (host : Host) (cfg : Cfg) (moment : Moment) (world : World)
    (constr : Constr) (destUserId : Int) (content : Slice) (user : UserIdentity) : Prop where
  refused :
    ((actionEvaluate host cfg moment world (.send constr destUserId content)).1 =
        .ok ⟨.error, false, .error ⟨.other, .other .forbidden⟩⟩ ∧
      (actionEvaluate host cfg moment world (.send constr destUserId content)).2.db = world.db) ↔
    InForce moment.now world.db.1 user.id destUserId
  inserted : ¬ InForce moment.now world.db.1 user.id destUserId →
    Inserted moment.now world
      (actionEvaluate host cfg moment world (.send constr destUserId content)).2
      user.id destUserId content.val

section

variable {host : Host} {cfg : Cfg} {moment : Moment} {world : World} {constr : Constr}
  {destUserId : Int} {content : Slice} {user : UserIdentity} {destRole : Nat}

theorem hasUser_of_view {db : Db} {row : UserViewRow} (inView : row ∈ db.1.userView) :
    db.1.HasUser row.userId := by
  obtain ⟨user, member, rfl⟩ := List.mem_map.mp inView
  exact ⟨user, member, rfl⟩

/-- After the earlier checks, only the identifier can keep a message out. -/
theorem PassesChecks.insertable_iff
    (passes : PassesChecks host cfg moment world constr destUserId content user destRole) :
    Insertable world user.id destUserId ↔ HasRoom world := by
  constructor
  · exact fun insertable => ⟨insertable.drawn, insertable.fresh⟩
  · rintro ⟨drawn, fresh⟩
    refine ⟨drawn, fresh, fun notRoot => ?_, ?_, fun _ self => passes.keeps (Or.inl self)⟩
    · rcases dbVerifyUserConstr_ok passes.proceeds.verified with rfl | ⟨row, inView, _, _, rfl⟩
      · exact absurd rfl notRoot
      · exact hasUser_of_view inView
    · obtain ⟨notHandled, notError⟩ := role_not_status passes.proceeds.valid
      rcases dbGetUserRole_cases host moment world.db destUserId with
        handled | error | ⟨row, inView, rfl, _, _⟩
      · exact absurd (passes.proceeds.found.symm.trans handled) notHandled
      · exact absurd (passes.proceeds.found.symm.trans error) notError
      · exact hasUser_of_view inView

/-- After the earlier checks, the response is still the one the branch started from. -/
theorem PassesChecks.evaluation
    (passes : PassesChecks host cfg moment world constr destUserId content user destRole) :
    actionEvaluate host cfg moment world (.send constr destUserId content) =
      sendAndReport moment world ⟨.action .send, false, .zero⟩ user destUserId content := by
  rcases checkInvariants_spec moment world.db destUserId ⟨.action .send, false, .zero⟩
    (role_of_verified passes.proceeds.verified) passes.proceeds.valid with
    ⟨_, kept⟩ | ⟨breaks, _⟩
  · rw [send_of_proceeds passes.proceeds, kept]
  · exact absurd breaks passes.keeps

/-- A block that has run out refuses the message. -/
theorem refused_of_runOut
    (passes : PassesChecks host cfg moment world constr destUserId content user destRole)
    (executed : moment.up .sendMsg = true)
    (runOut : RunOut moment.now world.db.1 user.id destUserId) :
    actionEvaluate host cfg moment world (.send constr destUserId content) =
      (.ok ⟨.error, false, .error ⟨.other, .other .forbidden⟩⟩, world) := by
  rw [passes.evaluation]
  exact sendAndReport_of_blocked _ content executed (sendMsgRefuses_iff.mpr runOut)

/-- Without one, the message is inserted, where there is room. -/
theorem inserted_of_not_runOut
    (passes : PassesChecks host cfg moment world constr destUserId content user destRole)
    (executed : moment.up .sendMsg = true) (room : HasRoom world)
    (notRunOut : ¬ RunOut moment.now world.db.1 user.id destUserId) :
    ∃ after, actionEvaluate host cfg moment world (.send constr destUserId content) =
        (.ok ⟨.action .send, false, .send world.nextMsgId⟩, after) ∧
      Inserted moment.now world after user.id destUserId content.val := by
  have accepts : SendMsgAccepts moment world user.id destUserId :=
    ⟨executed, fun refuses => notRunOut (sendMsgRefuses_iff.mp refuses),
      passes.insertable_iff.mpr room⟩
  have outcome := send_of_inserts (SendInserts.mk passes.proceeds accepts)
  rw [sentResponse, if_neg passes.keeps] at outcome
  exact outcome

/-- A statement that is not executed, or that raises, is answered with `500`. -/
theorem failed_of_no_room
    (passes : PassesChecks host cfg moment world constr destUserId content user destRole)
    (notRunOut : ¬ RunOut moment.now world.db.1 user.id destUserId ∨ moment.up .sendMsg ≠ true)
    (noRoom : ¬ (moment.up .sendMsg = true ∧ HasRoom world)) :
    ∃ after, actionEvaluate host cfg moment world (.send constr destUserId content) =
        (.ok ⟨.error, false, .error ⟨.other, .other .internalServerError⟩⟩, after) ∧
      after.db = world.db := by
  have fails : SendMsgFails moment world user.id destUserId := by
    by_cases executed : moment.up .sendMsg = true
    · have notBlocked := notRunOut.resolve_right fun notExecuted => notExecuted executed
      exact Or.inr ⟨fun refuses => notBlocked (sendMsgRefuses_iff.mp refuses),
        fun insertable => noRoom ⟨executed, passes.insertable_iff.mp insertable⟩⟩
    · exact Or.inl (by simpa using executed)
  obtain ⟨after, failed, untouched⟩ :=
    sendAndReport_of_fails ⟨.action .send, false, .zero⟩ content fails
  exact ⟨after, passes.evaluation.trans failed, untouched.tables⟩

/-- Beside a block that has run out, blocks are honoured exactly when one is in force. -/
theorem honoured_iff_of_runOut
    (passes : PassesChecks host cfg moment world constr destUserId content user destRole)
    (executed : moment.up .sendMsg = true)
    (runOut : RunOut moment.now world.db.1 user.id destUserId) :
    BlocksHonoured host cfg moment world constr destUserId content user ↔
      InForce moment.now world.db.1 user.id destUserId := by
  have refused := refused_of_runOut passes executed runOut
  constructor
  · intro honoured
    exact honoured.refused.mp ⟨congrArg Prod.fst refused, by rw [refused]⟩
  · intro inForce
    exact ⟨⟨fun _ => inForce, fun _ => ⟨congrArg Prod.fst refused, by rw [refused]⟩⟩,
      fun notInForce => absurd inForce notInForce⟩

/-- Without one, they are exactly when none is. -/
theorem honoured_iff_of_not_runOut
    (passes : PassesChecks host cfg moment world constr destUserId content user destRole)
    (executed : moment.up .sendMsg = true) (room : HasRoom world)
    (notRunOut : ¬ RunOut moment.now world.db.1 user.id destUserId) :
    BlocksHonoured host cfg moment world constr destUserId content user ↔
      ¬ InForce moment.now world.db.1 user.id destUserId := by
  obtain ⟨after, evaluated, inserted⟩ := inserted_of_not_runOut passes executed room notRunOut
  have answered : (actionEvaluate host cfg moment world (.send constr destUserId content)).1 ≠
      .ok ⟨.error, false, .error ⟨.other, .other .forbidden⟩⟩ := by
    rw [evaluated]
    simp
  constructor
  · intro honoured inForce
    exact answered (honoured.refused.mpr inForce).1
  · intro notInForce
    exact ⟨⟨fun refused => absurd refused.1 answered, fun inForce => absurd inForce notInForce⟩,
      fun _ => by rw [evaluated]; exact inserted⟩

/-- A message that is neither refused nor inserted is not as documented. -/
theorem not_honoured_of_no_room
    (passes : PassesChecks host cfg moment world constr destUserId content user destRole)
    (notRunOut : ¬ RunOut moment.now world.db.1 user.id destUserId ∨ moment.up .sendMsg ≠ true)
    (noRoom : ¬ (moment.up .sendMsg = true ∧ HasRoom world)) :
    ¬ BlocksHonoured host cfg moment world constr destUserId content user := by
  obtain ⟨after, evaluated, same⟩ := failed_of_no_room passes notRunOut noRoom
  intro honoured
  by_cases inForce : InForce moment.now world.db.1 user.id destUserId
  · have answered := (honoured.refused.mpr inForce).1
    rw [evaluated] at answered
    simp at answered
  · have inserted := honoured.inserted inForce
    rw [evaluated] at inserted
    exact inserted.changes same

/-- **Blocks are honoured exactly when a block in force and a block that has run out come together
or not at all**, the statement being executed and, where the message is to be inserted, its
identifier free. -/
theorem blocks_honoured_iff
    (passes : PassesChecks host cfg moment world constr destUserId content user destRole) :
    BlocksHonoured host cfg moment world constr destUserId content user ↔
      moment.up .sendMsg = true ∧
        (InForce moment.now world.db.1 user.id destUserId ↔
          RunOut moment.now world.db.1 user.id destUserId) ∧
        (¬ RunOut moment.now world.db.1 user.id destUserId → HasRoom world) := by
  by_cases executed : moment.up .sendMsg = true
  · by_cases runOut : RunOut moment.now world.db.1 user.id destUserId
    · rw [honoured_iff_of_runOut passes executed runOut]
      exact ⟨fun inForce => ⟨executed, iff_of_true inForce runOut, fun not => absurd runOut not⟩,
        fun condition => condition.2.1.mpr runOut⟩
    · by_cases room : HasRoom world
      · rw [honoured_iff_of_not_runOut passes executed room runOut]
        exact ⟨fun notInForce => ⟨executed, iff_of_false notInForce runOut, fun _ => room⟩,
          fun condition inForce => runOut (condition.2.1.mp inForce)⟩
      · have notHonoured := not_honoured_of_no_room passes (Or.inl runOut) fun both => room both.2
        exact ⟨fun honoured => absurd honoured notHonoured,
          fun condition => absurd (condition.2.2 runOut) room⟩
  · have notHonoured := not_honoured_of_no_room passes (Or.inr executed) fun both => executed both.1
    exact ⟨fun honoured => absurd honoured notHonoured,
      fun condition => absurd condition.1 executed⟩

end

/-! ### The test data -/

/-- The test users have no blocks, so that they are honoured. -/
theorem member1_without_blocks :
    BlocksHonoured testHost testCfg (allUp 1000) testWorld constrMember1 1001
      ⟨5, clit "salut"⟩ ⟨roleMember, 1003⟩ := by
  have passes : PassesChecks testHost testCfg (allUp 1000) testWorld constrMember1 1001
      ⟨5, clit "salut"⟩ ⟨roleMember, 1003⟩ rolePro :=
    ⟨⟨by decide, by decide, by decide, by decide⟩, by decide⟩
  exact (blocks_honoured_iff passes).mpr ⟨rfl, by decide, fun _ => by decide⟩

/-- The test users, with a full block on the first member for ever and a block of the second
professional on the second member that expired at `500`. -/
def blockedWorld : World :=
  { db := ⟨{ useTestDataUsers.1 with
      members := [⟨1003, clit "member1", some infinity⟩, ⟨1004, clit "member2", none⟩]
      singleBlocks := [⟨1004, 1002, 500⟩] }, by decide⟩
    lastMsgId := 0 }

/-- The message of a member blocked for ever is inserted, and that of a member whose block has
expired is refused. -/
theorem blocks_not_honoured :
    (¬ BlocksHonoured testHost testCfg (allUp 1000) blockedWorld constrMember1 1001
      ⟨5, clit "salut"⟩ ⟨roleMember, 1003⟩) ∧
    ¬ BlocksHonoured testHost testCfg (allUp 1000) blockedWorld constrMember2 1002
      ⟨5, clit "salut"⟩ ⟨roleMember, 1004⟩ := by
  constructor
  · intro honoured
    have passes : PassesChecks testHost testCfg (allUp 1000) blockedWorld constrMember1 1001
        ⟨5, clit "salut"⟩ ⟨roleMember, 1003⟩ rolePro :=
      ⟨⟨by decide, by decide, by decide, by decide⟩, by decide⟩
    exact (honoured_iff_of_not_runOut passes rfl (by decide) (by decide)).mp honoured (by decide)
  · intro honoured
    have passes : PassesChecks testHost testCfg (allUp 1000) blockedWorld constrMember2 1002
        ⟨5, clit "salut"⟩ ⟨roleMember, 1004⟩ rolePro :=
      ⟨⟨by decide, by decide, by decide, by decide⟩, by decide⟩
    exact absurd ((honoured_iff_of_runOut passes rfl (by decide)).mp honoured) (by decide)

end Tchatator
