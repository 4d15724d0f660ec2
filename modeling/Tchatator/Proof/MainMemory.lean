/-
**The front ends run on memory that has been released** (`main`, `CLEAN_RETURN`).

* `MainEnd.CallsFrontEnd` — the program goes on with a front end;
* `Alive` — the configuration is registered, and has only been read;
* `LeftWith` — the events with which `main` is left: by `exit`, by a `return` of a constant, or by the
  `return` of what a front end returns, which is called when the list has been destroyed;
* `Refines` — a part of `main` computes what the part of the same name computes, and keeps the
  configuration alive unless it leaves;
* `runMain_refines` — so does the whole;
* **`main_releases`** — so `main` releases nothing twice, and what it has registered once when it
  returns; and it reads nothing that it has released exactly when it calls no front end.
-/

import Tchatator.Model.MainMemory

namespace Tchatator

/-- The program goes on with a front end. -/
def MainEnd.CallsFrontEnd : MainEnd → Prop
  | .runInteractive _ | .runSocket _ => True
  | _ => False

namespace Traced

open Resources

/-! ### What is left -/

/-- The configuration has been read, some times. -/
def OnlyReads (events : List Resources.Event) : Prop := ∀ event ∈ events, event = .use [0]

/-- **The configuration is alive**: it is registered, alone, and has only been read. -/
structure Alive (log : Log (Memlst Nat MainDtor)) : Prop where
  events : ∃ reads, OnlyReads reads ∧ log.events = .acquire 0 :: reads
  taken : log.taken = 1
  borrowed : log.borrowed = [0]
  owner : log.owner = some [⟨some 0, .cfgDestroy⟩]

/-- **How `main` is left, with which events.** -/
inductive LeftWith : MainLeave → List Resources.Event → Prop
  | exits {ends : MainEnd} {reads : List Resources.Event} : ¬ ends.CallsFrontEnd →
      OnlyReads reads → LeftWith (.exits ends) (.acquire 0 :: reads)
  | returns {ends : MainEnd} {reads : List Resources.Event} : ¬ ends.CallsFrontEnd →
      OnlyReads reads → LeftWith (.returns ends) (.acquire 0 :: (reads ++ [.release 0]))
  | calls {ends : MainEnd} {reads : List Resources.Event} : ends.CallsFrontEnd →
      OnlyReads reads → LeftWith (.returns ends)
        (.acquire 0 :: (reads ++ [.acquire 1, .release 0, .release 1, .use [1, 0]]))

/-- **A part of `main` computes a value**, or leaves as it does. -/
def Refines {α : Type} (program : MainTracing α) (value : Except MainEnd α) : Prop :=
  ∀ log, Alive log →
    (∃ result after, value = .ok result ∧ program.run log = .ok (.ok result, after) ∧
      Alive after) ∨
    ∃ leave after, value = .error leave.ends ∧ program.run log = .ok (.error leave, after) ∧
      LeftWith leave after.events

/-! ### Parts -/

section

variable {α β : Type} {log : Log (Memlst Nat MainDtor)} {program : MainTracing α}
  {next : α → MainTracing β} {value : Except MainEnd α} {rest : α → Except MainEnd β}
  {ends : MainEnd}

/-- The configuration is read. -/
theorem Alive.read (alive : Alive log) : Alive log.used := by
  obtain ⟨reads, onlyReads, isEvents⟩ := alive.events
  refine ⟨⟨reads ++ [.use [0]], ?_, ?_⟩, alive.taken, alive.borrowed, alive.owner⟩
  · intro event member
    rcases List.mem_append.mp member with isOld | isNew
    · exact onlyReads event isOld
    · exact List.mem_singleton.mp isNew
  · show log.events ++ [.use log.borrowed] = _
    rw [isEvents, alive.borrowed, List.cons_append]

theorem Refines.pure (result : α) : Refines (Pure.pure result) (.ok result) := by
  intro log alive
  exact Or.inl ⟨result, log, rfl, rfl, alive⟩

/-- What comes after a part that does not leave `main`. -/
theorem run_bind {result : α} {middle : Log (Memlst Nat MainDtor)}
    (ran : program.run log = .ok (.ok result, middle)) :
    (program >>= next).run log = (next result).run middle := by
  show (program.run log >>= _) = _
  rw [ran]
  rfl

/-- **Sequences.** -/
theorem Refines.bind (first : Refines program value) (later : ∀ result, Refines (next result)
    (rest result)) : Refines (program >>= next) (value.bind rest) := by
  intro log alive
  rcases first log alive with ⟨result, middle, rfl, ran, aliveMiddle⟩ | ⟨leave, after, rfl, ran, left⟩
  · rcases later result middle aliveMiddle with
      ⟨value, after, isValue, ranLater, aliveAfter⟩ | ⟨leave, after, isValue, ranLater, left⟩
    · exact Or.inl ⟨value, after, isValue, (run_bind ran).trans ranLater, aliveAfter⟩
    · exact Or.inr ⟨leave, after, isValue, (run_bind ran).trans ranLater, left⟩
  · refine Or.inr ⟨leave, after, rfl, ?_, left⟩
    show (program.run log >>= _) = _
    rw [ran]
    rfl

/-- Reading comes first. -/
theorem Refines.reads (later : Refines program value) :
    Refines (do readKept; program) value := by
  intro log alive
  exact later log.used alive.read

theorem Refines.exits (leaves : ¬ ends.CallsFrontEnd) :
    Refines (throw (.exits ends) : MainTracing α) (.error ends) := by
  intro log alive
  obtain ⟨reads, onlyReads, isEvents⟩ := alive.events
  refine Or.inr ⟨.exits ends, log, rfl, rfl, ?_⟩
  rw [isEvents]
  exact .exits leaves onlyReads

/-- `CLEAN_RETURN` of a constant destroys the list. -/
theorem cleanReturn_run (ends : MainEnd) (log : Log (Memlst Nat MainDtor)) :
    (cleanReturn ends : MainTracing α).run log = .ok (.error (.returns ends), destroyed log) := by
  have first : destroyMemlst.run log = .ok (.ok (), destroyed log) := rfl
  exact run_bind first

/-- A front end is called when the list has been destroyed. -/
theorem cleanReturnCall_run (ends : MainEnd) (log : Log (Memlst Nat MainDtor)) :
    (cleanReturnCall ends : MainTracing α).run log =
      .ok (.error (.returns ends), (destroyed log).used) := by
  have first : destroyMemlst.run log = .ok (.ok (), destroyed log) := rfl
  have second : readKept.run (destroyed log) = .ok (.ok (), (destroyed log).used) := rfl
  exact (run_bind first).trans (run_bind second)

/-- `CLEAN_RETURN` of a constant releases the configuration. -/
theorem Refines.cleanReturn (leaves : ¬ ends.CallsFrontEnd) :
    Refines (cleanReturn ends : MainTracing α) (.error ends) := by
  intro log alive
  obtain ⟨reads, onlyReads, isEvents⟩ := alive.events
  refine Or.inr ⟨.returns ends, destroyed log, rfl, cleanReturn_run ends log, ?_⟩
  have isReleased : (destroyed log).events = log.events ++ [.release 0] := by
    simp only [destroyed, alive.owner]
    rfl
  rw [isReleased, isEvents, List.cons_append]
  exact .returns leaves onlyReads

/-- The log when the connection has been registered too. -/
def connected (log : Log (Memlst Nat MainDtor)) : Log (Memlst Nat MainDtor) :=
  (log.acquired.ownedBy (arrput log.owner ⟨some log.taken, .dbDestroy⟩)).lent log.taken

theorem keep_run (alive : Alive log) :
    (keep .dbDestroy).run log = .ok (.ok (), connected log) := by
  obtain ⟨events, taken, borrowed, owner⟩ := log
  obtain rfl : owner = _ := alive.owner
  obtain rfl : taken = 1 := alive.taken
  rfl

/-- The front end is called on what has been released. -/
theorem Refines.calls (calls : ends.CallsFrontEnd) :
    Refines (do keep .dbDestroy; cleanReturnCall ends : MainTracing α) (.error ends) := by
  intro log alive
  obtain ⟨reads, onlyReads, isEvents⟩ := alive.events
  refine Or.inr ⟨.returns ends, (destroyed (connected log)).used, rfl,
    (run_bind (keep_run alive)).trans (cleanReturnCall_run ends _), ?_⟩
  have isReleased : (destroyed (connected log)).used.events =
      log.events ++ [.acquire 1] ++ [.release 0] ++ [.release 1] ++ [.use [1, 0]] := by
    obtain ⟨events, taken, borrowed, owner⟩ := log
    obtain rfl : owner = _ := alive.owner
    obtain rfl : taken = 1 := alive.taken
    obtain rfl : borrowed = [0] := alive.borrowed
    rfl
  rw [isReleased, isEvents]
  simp only [List.cons_append, List.nil_append, List.append_assoc]
  exact .calls calls onlyReads

/-! ### The program -/

variable {environment : Environment} {state : MainState}

theorem requireEnv_refines (environment : Environment) (name : String) :
    Refines (requireEnv environment name) (Tchatator.requireEnv environment name) := by
  unfold requireEnv Tchatator.requireEnv
  cases environment.getenv name with
  | none => exact .reads (.exits id)
  | some value => exact .pure value

theorem loadRootCredentials_refines (environment : Environment) :
    Refines (loadRootCredentials environment) (Tchatator.loadRootCredentials environment) := by
  unfold loadRootCredentials Tchatator.loadRootCredentials
  refine .bind (requireEnv_refines environment _) fun repr => ?_
  cases uuid4Parse repr.1 with
  | none => exact .reads (.cleanReturn id)
  | some rootApiKey =>
    refine .bind (requireEnv_refines environment _) fun rootPassword => .reads ?_
    cases environment.hashpw rootPassword with
    | none => exact .exits id
    | some rootPasswordHash => exact .pure _

/-- A file that is loaded leads to no front end. -/
theorem loadFromFile_leaves {filename : CString} {cfg : Option CfgRecord}
    (failed : loadFromFile environment filename cfg = .error ends) : ¬ ends.CallsFrontEnd := by
  unfold loadFromFile at failed
  split at failed
  · cases failed
    exact id
  · split at failed
    · cases failed
      exact id
    · cases failed

theorem readOption_refines (environment : Environment) (state : MainState) (option : MainOption) :
    Refines (readOption environment state option)
      (Tchatator.readOption environment state option) := by
  cases option with
  | help => exact .cleanReturn id
  | version => exact .cleanReturn id
  | dumpConfig => exact .pure _
  | quiet => exact .pure _
  | verbose => exact .pure _
  | interactive => exact .pure _
  | unrecognised => exact .cleanReturn id
  | config optarg =>
    refine .reads ?_
    simp only [Tchatator.readOption]
    split
    · exact .cleanReturn id
    · cases loaded : loadFromFile environment optarg state.cfg with
      | error ends => exact .exits (loadFromFile_leaves loaded)
      | ok cfg => exact .pure _

theorem readOptions_refines (environment : Environment) (state : MainState)
    (options : List MainOption) :
    Refines (readOptions environment state options)
      (Tchatator.readOptions environment state options) := by
  induction options generalizing state with
  | nil => exact .pure state
  | cons option options ih =>
    have first := (readOption_refines environment state option).bind ih
    have isBind : Tchatator.readOptions environment state (option :: options) =
        (Tchatator.readOption environment state option).bind fun after =>
          Tchatator.readOptions environment after options := by
      rw [Tchatator.readOptions]
      cases Tchatator.readOption environment state option <;> rfl
    rw [isBind]
    exact first

/-- How the main program goes on, when its parts have been run. -/
def endOf : Except MainEnd MainEnd → MainEnd
  | .error ends => ends
  | .ok ends => ends

/-- Sequences whose last part leaves `main` in any case. -/
theorem Refines.bindEnd {next : α → MainTracing MainEnd} {rest : α → Except MainEnd MainEnd}
    (first : Refines program value)
    (later : ∀ result, Refines (next result) (.error (endOf (rest result)))) :
    Refines (program >>= next) (.error (endOf (value.bind rest))) := by
  have isBind : (.error (endOf (value.bind rest)) : Except MainEnd MainEnd) =
      value.bind fun result => .error (endOf (rest result)) := by
    cases value <;> rfl
  rw [isBind]
  exact first.bind later

theorem runServer_refines (environment : Environment) (state : MainState) :
    Refines (runServer environment state)
      (.error (endOf (Tchatator.runServer environment state))) := by
  unfold runServer Tchatator.runServer
  cases state.cfg with
  | none => exact .exits id
  | some cfg =>
    refine .reads ?_
    split
    · exact .reads (.cleanReturn id)
    · refine .bindEnd (requireEnv_refines environment _) fun host => ?_
      refine .bindEnd (requireEnv_refines environment _) fun port => ?_
      refine .bindEnd (requireEnv_refines environment _) fun database => ?_
      refine .bindEnd (requireEnv_refines environment _) fun username => ?_
      refine .bindEnd (requireEnv_refines environment _) fun password => .reads ?_
      split
      · refine .calls ?_
        split <;> exact trivial
      · exact .cleanReturn id

/-- The configuration is alive from its registration on. -/
theorem keep_alive :
    ∃ log, (keep .cfgDestroy).run (.start memlstInit) = .ok (.ok (), log) ∧ Alive log :=
  ⟨_, rfl, ⟨[], nofun, rfl⟩, rfl, rfl, rfl⟩

/-- **`main` computes what it computes**, and is left in one of three ways. -/
theorem runMain_refines (environment : Environment) (options : List MainOption) :
    ∃ leave after, leave.ends = Tchatator.runMain environment options ∧
      (runMain environment options).run (.start memlstInit) = .ok (.error leave, after) ∧
      LeftWith leave after.events := by
  obtain ⟨log, kept, alive⟩ := keep_alive
  have parts := (loadRootCredentials_refines environment).bindEnd fun cfg =>
    (readOptions_refines environment ⟨0, false, false, some cfg⟩ options).bindEnd
      (runServer_refines environment)
  rcases parts log alive with ⟨_, _, isValue, _⟩ | ⟨leave, after, isValue, ran, left⟩
  · cases isValue
  · exact ⟨leave, after, (Except.error.inj isValue).symm, (run_bind kept).trans ran, left⟩

end

/-! ### What is released -/

/-- **What `main` has released** when it is left. -/
structure Released (leave : MainLeave) (events : List Resources.Event) : Prop where
  atMostOnce : ∀ resource, events.count (.release resource) ≤ 1
  returned : ∀ ends, leave = .returns ends → ∀ resource, .acquire resource ∈ events →
    .release resource ∈ events
  exited : ∀ ends, leave = .exits ends → ∀ resource, .release resource ∉ events
  /-- Nothing is read that has been released, exactly when no front end is called. -/
  sound : InTime events ↔ ¬ leave.ends.CallsFrontEnd

section

variable {reads later : List Resources.Event} {resource : Nat}

theorem OnlyReads.unreleased (onlyReads : OnlyReads reads) (resource : Nat) :
    .release resource ∉ Event.acquire 0 :: reads := by
  intro member
  rcases List.mem_cons.mp member with same | isRead
  · cases same
  · cases onlyReads _ isRead

/-- Reading releases nothing. -/
theorem OnlyReads.count_release (onlyReads : OnlyReads reads) :
    (Event.acquire 0 :: (reads ++ later)).count (.release resource) =
      later.count (.release resource) := by
  have unreleased := List.count_eq_zero.mpr (onlyReads.unreleased resource)
  rw [← List.cons_append, List.count_append, unreleased, Nat.zero_add]

/-- What is taken when reading is the configuration. -/
theorem OnlyReads.acquired (onlyReads : OnlyReads reads)
    (isAcquired : .acquire resource ∈ Event.acquire 0 :: (reads ++ later)) :
    resource = 0 ∨ .acquire resource ∈ later := by
  rcases List.mem_cons.mp isAcquired with same | member
  · cases same
    exact Or.inl rfl
  · rcases List.mem_append.mp member with isRead | isLater
    · cases onlyReads _ isRead
    · exact Or.inr isLater

end

/-- A front end is called after the release of the configuration. -/
theorem calls_late (reads : List Resources.Event) : ¬ InTime
    (.acquire 0 :: (reads ++ [.acquire 1, .release 0, .release 1, .use [1, 0]])) := by
  intro inTime
  have split : Event.acquire 0 :: (reads ++ [.acquire 1, .release 0, .release 1, .use [1, 0]]) =
      (Event.acquire 0 :: (reads ++ [.acquire 1, .release 0, .release 1])) ++ [.use [1, 0]] := by
    simp only [List.cons_append, List.append_assoc, List.nil_append]
  have isReleased : Event.release 0 ∈
      Event.acquire 0 :: (reads ++ [.acquire 1, .release 0, .release 1]) := by
    simp
  exact inTime _ [1, 0] [] split 0 (by simp) isReleased

/-- **However `main` is left**, this is what it has released. -/
theorem LeftWith.released {leave : MainLeave} {events : List Resources.Event}
    (left : LeftWith leave events) : Released leave events := by
  cases left with
  | exits leaves onlyReads =>
    refine ⟨fun resource => ?_, fun _ isReturn => ?_, fun _ _ => onlyReads.unreleased, ?_⟩
    · rw [List.count_eq_zero.mpr (onlyReads.unreleased resource)]
      exact Nat.zero_le 1
    · cases isReturn
    · exact iff_of_true (inTime_of_unreleased onlyReads.unreleased) leaves
  | @returns ends reads leaves onlyReads =>
    refine ⟨fun resource => ?_, ?_, fun _ isExit => ?_, ?_⟩
    · rw [onlyReads.count_release]
      exact List.count_le_length
    · rintro _ _ resource isAcquired
      rcases onlyReads.acquired isAcquired with rfl | isLater
      · simp
      · cases List.mem_singleton.mp isLater
    · cases isExit
    · have inTime := (inTime_of_unreleased onlyReads.unreleased).released 0
      exact iff_of_true inTime leaves
  | @calls ends reads calls onlyReads =>
    refine ⟨fun resource => ?_, ?_, fun _ isExit => ?_, iff_of_false ?_ fun leaves => leaves calls⟩
    · rw [onlyReads.count_release]
      simp only [List.count_cons, List.count_nil, beq_iff_eq, Event.release.injEq, reduceCtorEq,
        if_false]
      split_ifs <;> omega
    · rintro _ _ resource isAcquired
      rcases onlyReads.acquired isAcquired with rfl | isLater
      · simp
      · have isDb : resource = 1 := by simpa using isLater
        simp [isDb]
    · cases isExit
    · exact calls_late reads

/-- **What `main` releases**: nothing twice, all of it when it returns, nothing when it exits. And
the front ends, which are called when the list has been destroyed, are given a configuration and a
connection that have been released; nothing else is read too late. -/
theorem main_releases (environment : Environment) (options : List MainOption) :
    ∃ leave after, leave.ends = Tchatator.runMain environment options ∧
      (runMain environment options).run (.start memlstInit) = .ok (.error leave, after) ∧
      Released leave after.events := by
  obtain ⟨leave, after, same, ran, left⟩ := runMain_refines environment options
  exact ⟨leave, after, same, ran, left.released⟩

end Traced

end Tchatator
