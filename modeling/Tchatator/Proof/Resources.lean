/-
**What the data layer and the parsing keep** (`db.c`, `action-json.c`).

* `MemOk` — what is in the memory list of an action has been taken; so the assertion of `memlst_add`
  does not trip on what is taken next (`register_run`);
* `dbGetUser_tracks`, `dbSendMsg_tracks`, `dbGetInbox_tracks` — these keep what they take; the other
  statements keep nothing (`cleared_tracks`);
* `CopiesNothing` — no password and no content is copied for an action;
* **`actionParse_tracks`** — parsing keeps nothing exactly when nothing is copied.
-/

import Tchatator.Model.Resources
import Tchatator.Proof.Forms
import Tchatator.Proof.Memlst
import Tchatator.Proof.Verification

namespace Tchatator.Traced

open Resources

/-! ### The memory list -/

/-- **What is in the memory list has been taken.** -/
def MemOk (log : Log (Memlst Nat Dtor)) : Prop :=
  ∀ entry ∈ arrElements log.owner, ∀ resource, entry.ptr = some resource → resource < log.taken

/-- The log after something has been taken and registered. -/
def registered (dtor : Dtor) (log : Log (Memlst Nat Dtor)) : Log (Memlst Nat Dtor) :=
  log.acquired.ownedBy (arrput log.owner ⟨some log.taken, dtor⟩)

section

variable {log : Log (Memlst Nat Dtor)} {α β : Type}

/-- **The assertion of `memlst_add` does not trip**: what has just been taken is not in the list. -/
theorem register_run (dtor : Dtor) (holds : MemOk log) :
    (register dtor).run log = .ok (log.taken, registered dtor log) := by
  have isNew : ∀ entry ∈ arrElements log.owner, entry.ptr ≠ some log.taken := by
    intro entry inList isTaken
    exact Nat.lt_irrefl _ (holds entry inList log.taken isTaken)
  have added : memlstAdd log.acquired.owner dtor (some log.taken) =
      .ok (some log.taken, arrput log.owner ⟨some log.taken, dtor⟩) := memlstAdd_new isNew
  have updates : (updateOwner fun mem =>
      (memlstAdd mem dtor (some log.taken)).map Prod.snd : Tracing Unit).run log.acquired =
      .ok ((), registered dtor log) := by
    change ((memlstAdd log.acquired.owner dtor (some log.taken)).map Prod.snd).map _ = _
    rw [added]
    rfl
  have acquires : (acquire : Tracing Nat).run log = .ok (log.taken, log.acquired) := rfl
  rw [register, StateT.run_bind, acquires]
  exact congrArg (fun ran => ran.bind fun after => .ok (log.taken, after.2)) updates

theorem memOk_registered (dtor : Dtor) (holds : MemOk log) : MemOk (registered dtor log) := by
  intro entry inList resource isResource
  rcases List.mem_append.mp inList with inList | isLast
  · exact Nat.lt_succ_of_lt (holds entry inList resource isResource)
  · rw [List.mem_singleton.mp isLast] at isResource
    cases isResource
    exact Nat.lt_succ_self log.taken

theorem leaves_registered (dtor : Dtor) (log : Log (Memlst Nat Dtor)) :
    Leaves log (registered dtor log) [log.taken] := (Leaves.takes log).owns _

theorem memOk_passes (log : Log (Memlst Nat Dtor)) (holds : MemOk log) :
    MemOk (log.acquired.released log.taken) := fun entry inList resource isResource =>
  Nat.lt_succ_of_lt (holds entry inList resource isResource)

/-- A statement whose result is cleared leaves nothing. -/
theorem cleared_tracks (value : Except Fault α) : Tracks MemOk (cleared value) value True :=
  .passing memOk_passes value

/-- What is registered and not used is kept. -/
theorem register_tracks (dtor : Dtor) (value : α) :
    Tracks MemOk (do let _resource ← register dtor; return value) (.ok value) False where
  stops := fun _ _ _ => nofun
  returns := by
    rintro log _ holds ⟨⟩
    refine ⟨registered dtor log, [log.taken], ?_, memOk_registered dtor holds,
      leaves_registered dtor log, iff_of_false (List.cons_ne_nil _ _) not_false⟩
    rw [StateT.run_bind, register_run dtor holds]
    rfl

end

/-! ### The data layer -/

section

variable (host : Host) (cfg : Cfg) (moment : Moment) (db : Db)

theorem dbVerifyUserConstr_tracks (outUser : UserIdentity) (constr : Constr) :
    Tracks MemOk (dbVerifyUserConstr host cfg moment db outUser constr)
      (Tchatator.dbVerifyUserConstr host cfg moment db outUser constr) True := by
  rw [dbVerifyUserConstr]
  rcases atRoot : cfgVerifyRootConstr host.bcrypt cfg constr with fault | isRoot
  · rw [Tchatator.dbVerifyUserConstr, atRoot]
    exact .throw fault
  · cases isRoot with
    | true =>
      rw [Tchatator.dbVerifyUserConstr, atRoot]
      exact .pure _
    | false => exact cleared_tracks _

theorem dbGetUserIdByName_tracks (name : CString) :
    Tracks MemOk (dbGetUserIdByName moment db name)
      (.ok (Tchatator.dbGetUserIdByName moment db name)) True := by
  rw [dbGetUserIdByName]
  by_cases notAMember : moment.up .memberByName = true ∧
      (db.1.memberView.filter fun row => row.userName = name).isEmpty = true
  · rw [if_pos notAMember]
    exact (cleared_tracks (.ok ())).afterNothing (cleared_tracks _)
  · rw [if_neg notAMember]
    exact cleared_tracks _

/-- The result of `db_get_user` is kept, and the name may be borrowed from it. -/
theorem dbGetUser_tracks (user : User) :
    Tracks MemOk (dbGetUser host moment db user)
      (.ok (Tchatator.dbGetUser host moment db user)) False where
  stops := fun _ _ _ => nofun
  returns := by
    rintro log _ holds ⟨⟩
    have kept := leaves_registered .pqClear log
    have notClean : [log.taken] = [] ↔ False := iff_of_false (List.cons_ne_nil _ _) not_false
    rw [dbGetUser]
    rcases Tchatator.dbGetUser host moment db user with ⟨status, after⟩
    by_cases named : after.name ≠ user.name
    · refine ⟨(registered .pqClear log).lent log.taken, [log.taken], ?_,
        memOk_registered .pqClear holds, kept.lends List.mem_cons_self, notClean⟩
      simp only [if_pos named]
      rw [StateT.run_bind, register_run .pqClear holds]
      rfl
    · refine ⟨registered .pqClear log, [log.taken], ?_, memOk_registered .pqClear holds, kept,
        notClean⟩
      simp only [if_neg named]
      rw [StateT.run_bind, register_run .pqClear holds]
      rfl

/-- The result of `db_send_msg` is kept. -/
theorem dbSendMsg_tracks (world : World) (senderId recipientId : Int) (content : CString) :
    Tracks MemOk (dbSendMsg moment world senderId recipientId content)
      (.ok (Tchatator.dbSendMsg moment world senderId recipientId content)) False where
  stops := fun _ _ _ => nofun
  returns := by
    rintro log _ holds ⟨⟩
    refine ⟨log.acquired, [log.taken], rfl, ?_, .takes log,
      iff_of_false (List.cons_ne_nil _ _) not_false⟩
    exact fun entry inList resource isResource =>
      Nat.lt_succ_of_lt (holds entry inList resource isResource)

/-- The result of `db_get_inbox` is kept, and so is the array. -/
theorem dbGetInbox_tracks (limit offset recipientId : Int) (outMsgs : List Msg) :
    Tracks MemOk (dbGetInbox moment db limit offset recipientId outMsgs)
      (.ok (Tchatator.dbGetInbox moment db limit offset recipientId outMsgs)) False where
  stops := fun _ _ _ => nofun
  returns := by
    rintro log _ holds ⟨⟩
    have kept := leaves_registered .pqClear log
    have holdsNext := memOk_registered .pqClear holds
    rw [dbGetInbox]
    rcases Tchatator.dbGetInbox moment db limit offset recipientId outMsgs with ⟨status, msgs⟩
    by_cases read : status = .ok
    · have both := kept.trans (leaves_registered .free (registered .pqClear log))
      have array : (registered .pqClear log).taken ∈
          [log.taken] ++ [(registered .pqClear log).taken] :=
        List.mem_append_right _ List.mem_cons_self
      have result : log.taken ∈ [log.taken] ++ [(registered .pqClear log).taken] :=
        List.mem_append_left _ List.mem_cons_self
      refine ⟨_, _, ?_, ?_, (both.lends array).lends result,
        iff_of_false (List.cons_ne_nil _ _) not_false⟩
      · simp only [if_pos read]
        simp only [StateT.run_bind, register_run .pqClear holds]
        exact congrArg (fun ran => ran.bind fun done =>
          .ok ((status, msgs), (done.2.lent done.1).lent log.taken)) (register_run .free holdsNext)
      · exact memOk_registered .free holdsNext
    · refine ⟨registered .pqClear log, [log.taken], ?_, holdsNext, kept,
        iff_of_false (List.cons_ne_nil _ _) not_false⟩
      simp only [if_neg read]
      rw [StateT.run_bind, register_run .pqClear holds]
      rfl

end

/-! ### Parsing -/

section

variable {kind : ActionKind} {joWith : Json} {moment : Moment} {db : Db} {α β : Type}

theorem takesNothing_tracks (value : Except ActionError α) :
    Tracks MemOk (takesNothing value).run (.ok value) True := .pure value

theorem returns_tracks (result : α) :
    Tracks MemOk (return result : Parsing α).run (.ok (.ok result)) True := .pure _

theorem copy_tracks (result : α) :
    Tracks MemOk (do let _copy ← register .free; return result : Parsing α).run
      (.ok (.ok result)) False := by
  have lifted : (do let _copy ← register .free; return result : Parsing α).run =
      (do let _copy ← register .free; return Except.ok result) :=
    ExceptT.run_bind_lift (register .free) _
  rw [lifted]
  exact register_tracks .free _

/-- A string that is given is copied. -/
theorem getargString_tracks (key : String) :
    Tracks MemOk (getargString kind joWith key).run
      (.ok (Tchatator.getargString kind joWith key))
      (∀ slice, Tchatator.getargString kind joWith key ≠ .ok slice) := by
  refine ((takesNothing_tracks (Tchatator.getargString kind joWith key)).bindExcept
    fun slice _ => copy_tracks slice).congr ?_ fun _ _ => ?_
  · cases Tchatator.getargString kind joWith key <;> rfl
  · exact and_iff_right trivial

/-- A password that is given is copied. -/
theorem getargConstr_tracks (key : String) :
    Tracks MemOk (getargConstr kind joWith key).run
      (.ok (Tchatator.getargConstr kind joWith key))
      (∀ constr, Tchatator.getargConstr kind joWith key = .ok constr →
        constr.password = none) := by
  have copies : ∀ constr : Constr, Tracks MemOk
      (do
        if constr.password ≠ none then
          let _copy ← register .free
        return constr : Parsing Constr).run (.ok (.ok constr)) (constr.password = none) := by
    intro constr
    by_cases given : constr.password ≠ none
    · simp only [if_pos given]
      exact (copy_tracks constr).congr rfl fun _ _ => iff_of_false not_false given
    · simp only [if_neg given]
      exact (returns_tracks constr).congr rfl fun _ _ =>
        iff_of_true trivial (not_not.mp given)
  refine ((takesNothing_tracks (Tchatator.getargConstr kind joWith key)).bindExcept
    fun constr _ => copies constr).congr ?_ fun _ _ => and_iff_right trivial
  cases Tchatator.getargConstr kind joWith key <;> rfl

theorem getUserId_tracks (joUser : Json) :
    Tracks MemOk (getUserId moment db joUser) (.ok (Tchatator.getUserId moment db joUser))
      True := by
  cases joUser with
  | int value => exact .pure _
  | string text =>
    rw [getUserId, Tchatator.getUserId]
    by_cases long : max emailLength pseudoLength < text.length
    · rw [if_pos long, if_pos long]
      exact .pure _
    · rw [if_neg long, if_neg long]
      dsimp only
      by_cases isEmail : strchr (cstring text) 64 = true
      · rw [if_pos isEmail, if_pos isEmail]
        exact cleared_tracks _
      · rw [if_neg isEmail, if_neg isEmail]
        exact dbGetUserIdByName_tracks moment db _
  | _ => exact .pure _

theorem getargUser_tracks (key : String) :
    Tracks MemOk (getargUser kind joWith moment db key).run
      (.ok (Tchatator.getargUser kind joWith moment db key)) True := by
  have resolves : ∀ jo (userId : Int), Tracks MemOk
      (if userId = Errstatus.error.code then
          takesNothing (failInvalid (argLoc kind key) jo (lit "invalid user key"))
        else if userId = Errstatus.handled.code then takesNothing failOther
        else return userId : Parsing Int).run
      (.ok (if userId = Errstatus.error.code then
          failInvalid (argLoc kind key) jo (lit "invalid user key")
        else if userId = Errstatus.handled.code then failOther
        else .ok userId)) True := by
    intro jo userId
    split_ifs
    · exact takesNothing_tracks _
    · exact takesNothing_tracks _
    · exact returns_tracks userId
  refine ((takesNothing_tracks (getargKey kind joWith key)).bindExcept fun jo _ =>
    (getUserId_tracks jo).bindLift fun userId _ => resolves jo userId).keepsNothing ?_
  exact ⟨trivial, fun _ _ => ⟨trivial, fun _ _ => trivial⟩⟩

/-! ### Actions -/

/-- **Nothing is copied for an action**: no password, no content. -/
def CopiesNothing (kind : ActionKind) (joWith : Json) : Prop :=
  ∀ constr, Tchatator.getargConstr kind joWith "constr" = .ok constr →
    constr.password = none ∧
      (kind = .send → ∀ content, Tchatator.getargString kind joWith "content" ≠ .ok content) ∧
      (kind = .edit → ∀ msgId, getargInt kind joWith "msg_id" = .ok msgId →
        ∀ newContent, Tchatator.getargString kind joWith "new_content" ≠ .ok newContent)

/-- A branch whose arguments after the connection string are not copied. -/
theorem constrOnly_tracks {next : Constr → Parsing Action}
    {rest : Constr → Except ActionError Action} (notSend : kind ≠ .send) (notEdit : kind ≠ .edit)
    (later : ∀ constr, Tracks MemOk (next constr).run (.ok (rest constr)) True) :
    Tracks MemOk (getargConstr kind joWith "constr" >>= next).run
      (.ok (Tchatator.getargConstr kind joWith "constr" >>= rest))
      (CopiesNothing kind joWith) := by
  refine ((getargConstr_tracks "constr").bindExcept fun constr _ => later constr).congr rfl
    fun _ _ => ?_
  rw [and_iff_left fun _ _ => trivial]
  refine forall_congr' fun constr => forall_congr' fun _ => ?_
  refine (and_iff_left ?_).symm
  exact ⟨fun isSend => absurd isSend notSend, fun isEdit => absurd isEdit notEdit⟩

theorem userThen_tracks (key : String) (result : Int → Action) :
    Tracks MemOk (do let userId ← getargUser kind joWith moment db key; return result userId).run
      (.ok (do
        let userId ← Tchatator.getargUser kind joWith moment db key
        return result userId)) True :=
  ((getargUser_tracks key).bindExcept fun userId _ =>
    returns_tracks (result userId)).keepsNothing ⟨trivial, fun _ _ => trivial⟩

theorem valueThen_tracks (value : Except ActionError α) (result : α → Action) :
    Tracks MemOk (do let argument ← takesNothing value; return result argument : Parsing Action).run
      (.ok (do let argument ← value; return result argument)) True :=
  ((takesNothing_tracks value).bindExcept fun argument _ =>
    returns_tracks (result argument)).keepsNothing ⟨trivial, fun _ _ => trivial⟩

theorem parseSend_tracks :
    Tracks MemOk (parseWith moment db .send joWith).run
      (.ok (Tchatator.parseWith moment db .send joWith)) (CopiesNothing .send joWith) := by
  refine ((getargConstr_tracks "constr").bindExcept fun constr _ =>
    (getargString_tracks "content").bindExcept fun content _ =>
      userThen_tracks "dest" (.send constr · content)).congr rfl fun _ _ => ?_
  constructor
  · rintro ⟨noPassword, noContent⟩ constr isConstr
    exact ⟨noPassword constr isConstr, fun _ => (noContent constr isConstr).1, nofun⟩
  · intro nothing
    refine ⟨fun constr isConstr => (nothing constr isConstr).1, fun constr isConstr => ?_⟩
    exact ⟨(nothing constr isConstr).2.1 rfl, fun _ _ => trivial⟩

theorem parseEdit_tracks :
    Tracks MemOk (parseWith moment db .edit joWith).run
      (.ok (Tchatator.parseWith moment db .edit joWith)) (CopiesNothing .edit joWith) := by
  refine ((getargConstr_tracks "constr").bindExcept fun constr _ =>
    (takesNothing_tracks (getargInt .edit joWith "msg_id")).bindExcept fun msgId _ =>
      (getargString_tracks "new_content").bindExcept fun newContent _ =>
        returns_tracks (Action.edit constr msgId newContent)).congr rfl fun _ _ => ?_
  constructor
  · rintro ⟨noPassword, noContent⟩ constr isConstr
    exact ⟨noPassword constr isConstr, nofun, fun _ msgId isMsgId =>
      ((noContent constr isConstr).2 msgId isMsgId).1⟩
  · intro nothing
    refine ⟨fun constr isConstr => (nothing constr isConstr).1, fun constr isConstr => ?_⟩
    refine ⟨trivial, fun msgId isMsgId => ⟨?_, fun _ _ => trivial⟩⟩
    exact (nothing constr isConstr).2.2 rfl msgId isMsgId

/-- **The branch of one kind** copies what it is given. -/
theorem parseWith_tracks (kind : ActionKind) (joWith : Json) :
    Tracks MemOk (parseWith moment db kind joWith).run
      (.ok (Tchatator.parseWith moment db kind joWith)) (CopiesNothing kind joWith) := by
  cases kind with
  | whois =>
    exact constrOnly_tracks nofun nofun fun constr => userThen_tracks "user" (.whois constr)
  | send => exact parseSend_tracks
  | motd =>
    exact constrOnly_tracks nofun nofun fun constr => returns_tracks (Action.motd constr)
  | inbox => exact constrOnly_tracks nofun nofun fun constr => valueThen_tracks _ (.inbox constr)
  | outbox => exact constrOnly_tracks nofun nofun fun constr => valueThen_tracks _ (.outbox constr)
  | edit => exact parseEdit_tracks
  | rm => exact constrOnly_tracks nofun nofun fun constr => valueThen_tracks _ (.rm constr)
  | block =>
    exact constrOnly_tracks nofun nofun fun constr => userThen_tracks "user" (.block constr)
  | unblock =>
    exact constrOnly_tracks nofun nofun fun constr => userThen_tracks "user" (.unblock constr)
  | ban => exact constrOnly_tracks nofun nofun fun constr => userThen_tracks "user" (.ban constr)
  | unban =>
    exact constrOnly_tracks nofun nofun fun constr => userThen_tracks "user" (.unban constr)

/-- **Nothing is copied for an element of a request.** -/
def CopiesNothingFor (joAction : Json) : Prop :=
  ∀ kind joWith, requestBranch joAction = .ok (kind, joWith) → CopiesNothing kind joWith

/-- Parsing a request is parsing the arguments of its branch. -/
theorem parseAction_eq (jo : Json) :
    parseAction moment db jo =
      takesNothing (requestBranch jo) >>= fun branch => parseWith moment db branch.1 branch.2 := by
  cases isDo : jsonObjectObjectGetEx jo (clit "do") with
  | none => simp only [parseAction, requestBranch, isDo]; rfl
  | some joDo =>
    cases isName : jsonObjectGetStringStrict joDo with
    | none => simp only [parseAction, requestBranch, isDo, isName]; rfl
    | some name =>
      cases isWith : jsonObjectObjectGetEx jo (clit "with") with
      | none => simp only [parseAction, requestBranch, isDo, isName, isWith]; rfl
      | some joWith =>
        cases isKind : actionIs (cstring name) <;>
          (simp only [parseAction, requestBranch, isDo, isName, isWith, isKind]; rfl)

theorem parseAction_tracks (jo : Json) :
    Tracks MemOk (parseAction moment db jo).run (.ok (Tchatator.parseAction moment db jo))
      (CopiesNothingFor jo) := by
  rw [parseAction_eq, parseAction_branch]
  refine ((takesNothing_tracks (requestBranch jo)).bindExcept fun branch _ =>
    parseWith_tracks branch.1 branch.2).congr rfl fun _ _ => ?_
  rw [and_iff_right trivial]
  exact ⟨fun all kind joWith isBranch => all (kind, joWith) isBranch,
    fun all branch isBranch => all branch.1 branch.2 isBranch⟩

theorem actionParse_tracks (jo : Json) :
    Tracks MemOk (actionParse moment db jo) (.ok (Tchatator.actionParse moment db jo))
      (CopiesNothingFor jo) := by
  have stored : Tchatator.actionParse moment db jo =
      storedAction (Tchatator.parseAction moment db jo) := by
    rw [Tchatator.actionParse]
    cases Tchatator.parseAction moment db jo <;> rfl
  rw [stored]
  exact (parseAction_tracks jo).thenNothing (.pure _)

end

end Tchatator.Traced
