/-
**Which requests release what they take** (`tchatator413_interpret`).

* `actionEvaluate_hasValue`, `actionEvaluate_clean` — an evaluation has its value;
  nobody is identified without a password, and then nothing is kept;
* `act_tracks`, `interpretElements_tracks`, `tchatator413Interpret_tracks` — one action, the elements
  of an array, a request;
* **`tchatator413Interpret_releases_iff`** — `act` never empties its memory list, so a request releases
  what it takes exactly when nothing is copied for its actions; nothing that a response is built from
  is released too early.
-/

import Tchatator.Model.TestData
import Tchatator.Proof.Resources
import Tchatator.Proof.Secrecy
import Tchatator.Proof.Texts

namespace Tchatator.Traced

open Resources

/-! ### Evaluation -/

/-- What an evaluation leaves when it returns. -/
def evaluated (evaluation : Evaluation) : Except Fault (Response × World) :=
  evaluation.1.map fun response => (response, evaluation.2)

section

variable {host : Host} {cfg : Cfg} {moment : Moment} {world : World} {rep : Response}
  {constr : Constr} {allowedRoles : Nat}

/-- Nobody is identified without a password. -/
theorem not_verified (noPassword : constr.password = none) (user : UserIdentity) :
    Tchatator.dbVerifyUserConstr host cfg moment world.db .indeterminate constr ≠
      .ok (.ok, user) := by
  intro verified
  rcases verified_cases verified with ⟨⟨_, password, given, _⟩, _⟩ | ⟨_, given, _⟩
  · rw [noPassword] at given
    cases given
  · exact given noPassword

/-- A branch that is not reached. -/
theorem identified_unreached {branch : UserIdentity → Tracing (Response × World)}
    {branchValue : UserIdentity → Evaluation}
    (unreached : ∀ user, Tchatator.dbVerifyUserConstr host cfg moment world.db .indeterminate constr =
      .ok (.ok, user) → user.role &&& allowedRoles = 0) :
    Tracks MemOk (identified host cfg moment world rep constr allowedRoles branch)
      (evaluated (Tchatator.identified host cfg moment world rep constr allowedRoles branchValue))
      True := by
  have first := dbVerifyUserConstr_tracks host cfg moment world.db .indeterminate constr
  rw [identified, Tchatator.identified]
  rcases verified : Tchatator.dbVerifyUserConstr host cfg moment world.db .indeterminate constr
    with fault | ⟨status, user⟩
  · rw [verified] at first
    exact first.stopped rfl
  · rw [verified] at first
    cases status with
    | handled =>
      exact first.afterNothing (.pure _)
    | error =>
      exact first.afterNothing (.pure _)
    | ok =>
      have noRole := unreached user verified
      refine first.afterNothing ?_
      dsimp only
      rw [if_pos noRole, if_pos noRole]
      exact .pure _

theorem identified_hasValue {branch : UserIdentity → Tracing (Response × World)}
    {branchValue : UserIdentity → Evaluation}
    (hasValue : ∀ user, HasValue MemOk (branch user) (evaluated (branchValue user))) :
    HasValue MemOk (identified host cfg moment world rep constr allowedRoles branch)
      (evaluated
        (Tchatator.identified host cfg moment world rep constr allowedRoles branchValue)) := by
  by_cases reached : ∃ user, Tchatator.dbVerifyUserConstr host cfg moment world.db .indeterminate
      constr = .ok (.ok, user) ∧ user.role &&& allowedRoles ≠ 0
  · obtain ⟨user, verified, hasRole⟩ := reached
    have first := dbVerifyUserConstr_tracks host cfg moment world.db .indeterminate constr
    rw [verified] at first
    rw [identified, Tchatator.identified, verified]
    refine .after first ?_
    dsimp only
    rw [if_neg hasRole, if_neg hasRole]
    exact hasValue user
  · refine ⟨True, identified_unreached fun user verified => ?_⟩
    by_contra hasRole
    exact reached ⟨user, verified, hasRole⟩

end

section

variable (host : Host) (cfg : Cfg) (moment : Moment) (world : World) (rep : Response)

theorem evaluateWhois_hasValue (userId : Int) :
    HasValue MemOk (evaluateWhois host moment world rep userId)
      (evaluated (Tchatator.evaluateWhois host moment world rep userId)) := by
  have first := dbGetUser_tracks host moment world.db ⟨userId, 0, .unset⟩
  rw [evaluateWhois, Tchatator.evaluateWhois]
  generalize Tchatator.dbGetUser host moment world.db ⟨userId, 0, .unset⟩ = read at first ⊢
  obtain ⟨status, user⟩ := read
  refine .after first ?_
  cases status with
  | handled => exact .pure _
  | error => exact .pure _
  | ok => exact .pure _

theorem evaluateInbox_hasValue (page : Int) (user : UserIdentity) :
    HasValue MemOk (evaluateInbox cfg moment world rep page user)
      (evaluated (Tchatator.evaluateInbox cfg moment world rep page user)) := by
  have first := dbGetInbox_tracks moment world.db cfg.pageInbox
    (wrap32 (cfg.pageInbox * (page - 1))) user.id []
  rw [evaluateInbox, Tchatator.evaluateInbox]
  generalize Tchatator.dbGetInbox moment world.db cfg.pageInbox
    (wrap32 (cfg.pageInbox * (page - 1))) user.id [] = read at first ⊢
  obtain ⟨status, msgs⟩ := read
  refine .after first ?_
  cases status with
  | handled => exact .pure _
  | error => exact .pure _
  | ok => exact .pure _

theorem evaluateRm_hasValue (msgId : Int) (user : UserIdentity) :
    HasValue MemOk (evaluateRm moment world rep msgId user)
      (evaluated (Tchatator.evaluateRm moment world rep msgId user)) := by
  have first : Tracks MemOk (dbRmMsg moment world msgId)
    (.ok (Tchatator.dbRmMsg moment world msgId)) True := cleared_tracks _
  rw [evaluateRm, Tchatator.evaluateRm]
  generalize Tchatator.dbRmMsg moment world msgId = removed at first ⊢
  obtain ⟨status, after⟩ := removed
  refine .after first ?_
  cases status with
  | handled => exact .pure _
  | error => exact .pure _
  | ok =>
    dsimp only
    by_cases noRole : user.role &&& roleAll = 0
    · rw [if_pos noRole, if_pos noRole]
      exact .pure _
    · rw [if_neg noRole, if_neg noRole]
      exact .pure _

theorem checkInvariants_hasValue (db : Db) (user : UserIdentity) (destRole : Nat)
    (destUserId : Int) :
    HasValue MemOk (checkInvariants moment db user destRole destUserId rep)
      (.ok (Tchatator.checkInvariants moment db user destRole destUserId rep)) := by
  have first : Tracks MemOk (dbCountMsg moment db destUserId user.id)
    (.ok (Tchatator.dbCountMsg moment db destUserId user.id)) True := cleared_tracks _
  rw [checkInvariants, Tchatator.checkInvariants]
  by_cases isPro : user.role &&& rolePro ≠ 0
  · rw [if_pos isPro]
    by_cases notMember : destRole &&& roleMember = 0
    · have broken : user.role &&& rolePro ≠ 0 ∧ (destRole &&& roleMember = 0 ∨
          Tchatator.dbCountMsg moment db destUserId user.id = 0) := ⟨isPro, Or.inl notMember⟩
      rw [if_pos notMember, if_pos broken]
      exact .pure _
    · rw [if_neg notMember]
      refine .after first ?_
      simp only [isPro, notMember, ne_eq, not_false_iff, true_and, false_or]
      exact .pure _
  · have notBroken : ¬ (user.role &&& rolePro ≠ 0 ∧ (destRole &&& roleMember = 0 ∨
        Tchatator.dbCountMsg moment db destUserId user.id = 0)) := fun broken => isPro broken.1
    rw [if_neg isPro, if_neg notBroken]
    exact .pure _

theorem sendAndReport_hasValue (user : UserIdentity) (destUserId : Int) (content : Slice) :
    HasValue MemOk (sendAndReport moment world rep user destUserId content)
      (evaluated (Tchatator.sendAndReport moment world rep user destUserId content)) := by
  have first := dbSendMsg_tracks moment world user.id destUserId content.val
  rw [sendAndReport, Tchatator.sendAndReport]
  generalize Tchatator.dbSendMsg moment world user.id destUserId content.val = sent at first ⊢
  obtain ⟨msgId, after⟩ := sent
  refine .after first ?_
  dsimp only
  split_ifs
  · exact .pure _
  · exact .pure _
  · exact .pure _

theorem evaluateSend_hasValue (destUserId : Int) (content : Slice) (user : UserIdentity) :
    HasValue MemOk (evaluateSend host cfg moment world rep destUserId content user)
      (evaluated (Tchatator.evaluateSend host cfg moment world rep destUserId content user)) := by
  have first : Tracks MemOk (dbGetUserRole host moment world.db destUserId)
    (.ok (Tchatator.dbGetUserRole host moment world.db destUserId)) True := cleared_tracks _
  rw [evaluateSend, Tchatator.evaluateSend]
  generalize Tchatator.dbGetUserRole host moment world.db destUserId = destRole at first ⊢
  dsimp only
  refine .after first ?_
  by_cases isHandled : destRole = Errstatus.handled.code
  · rw [if_pos isHandled, if_pos isHandled]
    exact .pure _
  by_cases isError : destRole = Errstatus.error.code
  · rw [if_neg isHandled, if_neg isHandled, if_pos isError, if_pos isError]
    exact .pure _
  by_cases long : cfg.maxMsgLength < content.len
  · rw [if_neg isHandled, if_neg isHandled, if_neg isError, if_neg isError, if_pos long,
      if_pos long]
    exact .pure _
  rw [if_neg isHandled, if_neg isHandled, if_neg isError, if_neg isError, if_neg long, if_neg long]
  obtain ⟨_, checks⟩ :=
    checkInvariants_hasValue moment rep world.db user destRole.toNat destUserId
  exact .after checks (sendAndReport_hasValue moment world
    (Tchatator.checkInvariants moment world.db user destRole.toNat destUserId rep) user destUserId
    content)

/-- **An evaluation has its value**, whatever it keeps. -/
theorem actionEvaluate_hasValue (action : Action) :
    HasValue MemOk (actionEvaluate host cfg moment world action)
      (evaluated (Tchatator.actionEvaluate host cfg moment world action)) := by
  cases action with
  | error error => exact .pure _
  | whois constr userId =>
    exact identified_hasValue fun _ => evaluateWhois_hasValue host moment world _ userId
  | send constr destUserId content =>
    exact identified_hasValue fun user =>
      evaluateSend_hasValue host cfg moment world _ destUserId content user
  | inbox constr page =>
    exact identified_hasValue fun user => evaluateInbox_hasValue cfg moment world _ page user
  | rm constr msgId =>
    exact identified_hasValue fun user => evaluateRm_hasValue moment world _ msgId user
  | motd | outbox | edit | block | unblock | ban | unban =>
    exact identified_hasValue fun _ => .pure _

/-- **An evaluation without a password keeps nothing.** -/
theorem actionEvaluate_clean {action : Action}
    (noPassword : ∀ constr ∈ action.constr?, constr.password = none) :
    Tracks MemOk (actionEvaluate host cfg moment world action)
      (evaluated (Tchatator.actionEvaluate host cfg moment world action)) True := by
  have unreached : ∀ constr ∈ action.constr?, ∀ roles user,
      Tchatator.dbVerifyUserConstr host cfg moment world.db .indeterminate constr =
        .ok (.ok, user) → user.role &&& roles = 0 :=
    fun constr carries _ user verified =>
      absurd verified (not_verified (noPassword constr carries) user)
  cases action with
  | error error => exact .pure _
  | whois | send | motd | inbox | outbox | edit | rm | block | unblock | ban | unban =>
    exact identified_unreached (unreached _ rfl _)

/-! ### Requests -/

/-- What `act` leaves when it returns. -/
def acted (done : Except Fault Json × Exchange) : Except Fault (Json × World) :=
  done.1.map fun jo => (jo, done.2.after)

/-- What an interpretation leaves when it returns. -/
def interpreted (interpretation : Interpretation) : Except Fault (Json × World) :=
  interpretation.output.map fun jo => (jo, interpretation.world)

theorem startAct_tracks : Tracks MemOk startAct (.ok ()) True where
  stops := fun _ _ _ => nofun
  returns := by
    rintro log _ _ ⟨⟩
    refine ⟨(log.ownedBy memlstInit).forgotten, [], rfl, ?_,
      ((Leaves.refl log).owns memlstInit).forgets, iff_of_true rfl trivial⟩
    rintro _ ⟨⟩

theorem useBorrowed_tracks : Tracks MemOk (useBorrowed : Tracing Unit) (.ok ()) True where
  stops := fun _ _ _ => nofun
  returns := by
    rintro log _ holds ⟨⟩
    exact ⟨log.used, [], rfl, holds, (Leaves.refl log).uses, iff_of_true rfl trivial⟩

/-- The encoding keeps nothing. -/
theorem encode_tracks (response : Response) (after : World) :
    Tracks MemOk
      (do
        useBorrowed
        let jo ← responseToJson host response
        return (jo, after) : Tracing (Json × World))
      ((responseToJson host response).map fun jo => (jo, after)) True :=
  useBorrowed_tracks.afterNothing (.liftMap _ fun jo => (jo, after))

/-- An action whose parsing copied nothing carries no password. -/
theorem noPassword_of_copiesNothing {db : Db} {jo : Json} (nothing : CopiesNothingFor jo) :
    ∀ constr ∈ (Tchatator.actionParse moment db jo).constr?, constr.password = none := by
  intro constr carries
  rw [Tchatator.actionParse] at carries
  cases parsed : Tchatator.parseAction moment db jo with
  | error error =>
    rw [parsed] at carries
    cases carries
  | ok action =>
    rw [parsed] at carries
    rw [parseAction_branch] at parsed
    obtain ⟨⟨kind, joWith⟩, isBranch, parsedWith⟩ := bind_eq_ok parsed
    obtain ⟨given, alsoCarries, isConstr⟩ := constr_of_parseWith parsedWith
    have same : given = constr := Option.some.inj (alsoCarries.symm.trans carries)
    exact (nothing kind joWith isBranch constr (same ▸ isConstr)).1

/-- An evaluation keeps nothing when nothing has been copied. -/
theorem actionEvaluate_tracks (jo : Json) :
    ∃ clean,
      Tracks MemOk
        (actionEvaluate host cfg moment world (Tchatator.actionParse moment world.db jo))
        (evaluated (Tchatator.actionEvaluate host cfg moment world
          (Tchatator.actionParse moment world.db jo))) clean ∧
        (CopiesNothingFor jo → clean) := by
  by_cases nothing : CopiesNothingFor jo
  · exact ⟨True, actionEvaluate_clean host cfg moment world
      (noPassword_of_copiesNothing moment nothing), fun _ => trivial⟩
  · obtain ⟨clean, hasValue⟩ := actionEvaluate_hasValue host cfg moment world
      (Tchatator.actionParse moment world.db jo)
    exact ⟨clean, hasValue, fun copied => absurd copied nothing⟩

/-- **An action keeps nothing exactly when nothing is copied for it.** -/
theorem act_tracks (jo : Json) :
    Tracks MemOk (act host cfg moment world jo)
      (acted (Tchatator.act host cfg moment world jo)) (CopiesNothingFor jo) := by
  have parses : Tracks MemOk (actionParse moment world.db jo)
      (.ok (Tchatator.actionParse moment world.db jo)) (CopiesNothingFor jo) := actionParse_tracks jo
  obtain ⟨clean, evaluates, noneKept⟩ := actionEvaluate_tracks host cfg moment world jo
  have encodes := fun (result : Response × World) (_ : evaluated (Tchatator.actionEvaluate host cfg
    moment world (Tchatator.actionParse moment world.db jo)) = .ok result) =>
    encode_tracks host result.1 result.2
  refine (startAct_tracks.andThen (parses.andThen (evaluates.bind encodes))).congr ?_ fun _ _ => ?_
  · rw [acted, Tchatator.act, evaluated, exchange]
    dsimp only
    generalize Tchatator.actionEvaluate host cfg moment world
      (Tchatator.actionParse moment world.db jo) = evaluation
    obtain ⟨result, after⟩ := evaluation
    cases result with
    | error fault => rfl
    | ok response => rfl
  · refine ⟨fun all => all.2.1, fun nothing => ?_⟩
    exact ⟨trivial, nothing, noneKept nothing, fun _ _ => trivial⟩

end

section

variable (host : Host) (cfg : Cfg)

/-- **The elements of an array**, by induction: they keep nothing exactly when nothing is copied for
any of them. -/
theorem interpretElements_tracks (elements : List Json) (moments : Nat → Moment) (world : World)
    (output : List Json) :
    Tracks MemOk (interpretElements host cfg elements moments world output)
      (interpreted (Tchatator.interpretElements host cfg elements moments world output))
      (∀ joAction ∈ elements, CopiesNothingFor joAction) := by
  induction elements generalizing moments world output with
  | nil => exact (Tracks.pure _).congr rfl fun _ _ => iff_of_true trivial nofun
  | cons joAction rest ih =>
    by_cases isNull : joAction = .null
    · subst isNull
      exact .throw _
    · have here := act_tracks host cfg (moments 0) world joAction
      rw [interpretElements, Tchatator.interpretElements]
      · generalize Tchatator.act host cfg (moments 0) world joAction = done at here ⊢
        obtain ⟨fault | jo, exchanged⟩ := done
        · have stops : Tracks MemOk (act host cfg (moments 0) world joAction) (.error fault)
            (CopiesNothingFor joAction) := here
          exact stops.stopped rfl
        · have returns : Tracks MemOk (act host cfg (moments 0) world joAction)
            (.ok (jo, exchanged.after)) (CopiesNothingFor joAction) := here
          have later := ih (fun index => moments (index + 1)) exchanged.after (output ++ [jo])
          exact (returns.andThen later).congr rfl fun _ _ => List.forall_mem_cons.symm
      · exact isNull
      · exact isNull

/-- The answer to what is no request keeps nothing. -/
theorem refused_tracks (world : World) (joInput : Json) :
    Tracks MemOk
      (do
        let jo ← responseToJson host (notARequest joInput)
        return (.array [jo], world) : Tracing (Json × World))
      (interpreted ⟨(responseToJson host (notARequest joInput)).map fun jo => .array [jo], [],
        world⟩) (∀ joAction ∈ ([] : List Json), CopiesNothingFor joAction) := by
  have encodes : Tracks MemOk
      (do
        let jo ← responseToJson host (notARequest joInput)
        return (.array [jo], world) : Tracing (Json × World))
      ((responseToJson host (notARequest joInput)).map fun jo => (.array [jo], world)) True :=
    .liftMap _ _
  refine encodes.congr ?_ fun _ _ => iff_of_true trivial nofun
  cases responseToJson host (notARequest joInput) <;> rfl

/-- **A request keeps nothing exactly when nothing is copied for its actions.** -/
theorem tchatator413Interpret_tracks (moments : Nat → Moment) (world : World) (joInput : Json) :
    Tracks MemOk (tchatator413Interpret host cfg moments world joInput)
      (interpreted (Tchatator.tchatator413Interpret host cfg moments world joInput))
      (∀ joAction ∈ actionsOf joInput, CopiesNothingFor joAction) := by
  cases joInput with
  | array elements => exact interpretElements_tracks host cfg elements moments world []
  | object members =>
    have here := act_tracks host cfg (moments 0) world (.object members)
    rw [tchatator413Interpret, Tchatator.tchatator413Interpret]
    generalize Tchatator.act host cfg (moments 0) world (.object members) = done at here ⊢
    obtain ⟨fault | jo, exchanged⟩ := done
    · have stops : Tracks MemOk (act host cfg (moments 0) world (.object members)) (.error fault)
        (CopiesNothingFor (.object members)) := here
      exact stops.stopped rfl
    · have returns : Tracks MemOk (act host cfg (moments 0) world (.object members))
        (.ok (jo, exchanged.after)) (CopiesNothingFor (.object members)) := here
      have wraps : Tracks MemOk (return (.array [jo], exchanged.after) : Tracing (Json × World))
        (.ok (.array [jo], exchanged.after)) True := .pure _
      exact (returns.thenNothing wraps).congr rfl fun _ _ => List.forall_mem_singleton.symm
  | _ => exact refused_tracks host world _

/-- The events of a request, where the call returns. -/
def requestEvents (moments : Nat → Moment) (world : World) (joInput : Json) :
    Except Fault (List Resources.Event) :=
  ((tchatator413Interpret host cfg moments world joInput).run (.start memlstInit)).map
    fun done => done.2.events

/-- What a request that returns leaves. -/
theorem requestEvents_leaves {moments : Nat → Moment} {world : World} {joInput jo : Json}
    (returned : (Tchatator.tchatator413Interpret host cfg moments world joInput).output = .ok jo) :
    ∃ (after : Log (Memlst Nat Dtor)) (kept : List Nat),
      requestEvents host cfg moments world joInput = .ok after.events ∧
      Leaves (.start memlstInit) after kept ∧
      (kept = [] ↔ ∀ joAction ∈ actionsOf joInput, CopiesNothingFor joAction) := by
  have isValue : interpreted (Tchatator.tchatator413Interpret host cfg moments world joInput) =
      .ok (jo, (Tchatator.tchatator413Interpret host cfg moments world joInput).world) := by
    rw [interpreted, returned]
    rfl
  have nothingOwned : MemOk (.start memlstInit) := fun _ => nofun
  obtain ⟨after, kept, ran, _, leaves, keeps⟩ :=
    (tchatator413Interpret_tracks host cfg moments world joInput).returns _ _ nothingOwned isValue
  refine ⟨after, kept, ?_, leaves, keeps⟩
  rw [requestEvents, ran]
  rfl

/-- **A request releases what it takes exactly when nothing is copied for its actions**: whatever is
registered in the memory list of an action is lost with the list, and what is taken from the database
without being cleared is taken for somebody who gave a password. Nothing that a response is built from
is released before it is encoded. -/
theorem tchatator413Interpret_releases_iff {moments : Nat → Moment} {world : World}
    {joInput jo : Json}
    (returned : (Tchatator.tchatator413Interpret host cfg moments world joInput).output = .ok jo) :
    ∃ events, requestEvents host cfg moments world joInput = .ok events ∧ InTime events ∧
      (Balanced events ↔ ∀ joAction ∈ actionsOf joInput, CopiesNothingFor joAction) := by
  obtain ⟨after, kept, isEvents, leaves, keeps⟩ := requestEvents_leaves host cfg returned
  exact ⟨after.events, isEvents, leaves.inTime, leaves.balanced_iff.trans keeps⟩

end

/-- The test member asks for the message of the day without a password. -/
def motdWithoutPassword : Json :=
  .object [member "do" (.string (lit "motd")), member "with" (.object
    [member "constr" (.string (lit "123e4567-e89b-12d3-a456-426614174000"))])]

theorem motdWithoutPassword_copiesNothing : CopiesNothingFor motdWithoutPassword := by
  intro kind joWith isBranch
  cases isBranch
  rintro constr ⟨⟩
  exact ⟨rfl, nofun, nofun⟩

/-- It is refused, and releases what it takes. -/
theorem motdWithoutPassword_releases :
    ∃ events, requestEvents testHost testCfg (fun _ => allUp 0) testWorld motdWithoutPassword =
      .ok events ∧ InTime events ∧ Balanced events := by
  have returned : (Tchatator.tchatator413Interpret testHost testCfg (fun _ => allUp 0) testWorld
      motdWithoutPassword).output = .ok (.array [.object [member "error" (.object
        [member "status" (.int 401)])]]) := rfl
  obtain ⟨events, isEvents, inTime, releases⟩ :=
    tchatator413Interpret_releases_iff testHost testCfg returned
  refine ⟨events, isEvents, inTime, releases.mpr fun joAction isAction => ?_⟩
  rw [List.mem_singleton.mp isAction]
  exact motdWithoutPassword_copiesNothing

/-- A message to a professional is sent, and neither the password, nor the content, nor the result of
the insertion is released. -/
theorem sendRequest_not_released :
    ∃ events, requestEvents testHost testCfg (fun _ => allUp 0) testWorld
        (sendRequest (lit "salut")) = .ok events ∧
      (∀ resource ∈ [0, 1, 4],
        .acquire resource ∈ events ∧ .release resource ∉ events) ∧ ¬ Balanced events := by
  refine ⟨[.acquire 0, .acquire 1, .acquire 2, .release 2, .acquire 3, .release 3, .acquire 4,
    .use []], rfl, by decide, fun balanced => ?_⟩
  have once := balanced.once 0 (by decide)
  exact Nat.zero_ne_one once

end Tchatator.Traced
