/-
**Resources: what is taken, and what is released.**

A computation takes resources, which are numbered in the order in which they are taken, releases
them, borrows from them and uses what it has borrowed. The log of its events also carries a state of
the owner of resources.

* `InTime`, `Balanced` — nothing that is borrowed is released before it is used; every resource that
  is taken is released exactly once, and in time;
* `Leaves` — what a part of a run adds to a log: it takes the next resources, and releases each once
  but for those it keeps, from which it may have borrowed; `Leaves.trans` — parts compose;
* **`Leaves.balanced_iff`** — a run is balanced exactly when it keeps nothing; `Leaves.inTime` — what it
  borrows is in time anyway;
* `Tracks` — a computation has the value of another, without a log, and keeps nothing exactly under a
  condition; `Tracks.andThen`, `Tracks.bind`, `Tracks.bindExcept` — sequences;
* `HasValue` — the same, whatever is kept.
-/

import Mathlib.Data.List.Count
import Mathlib.Tactic.SplitIfs

namespace Resources

/-- What happens to a resource. -/
inductive Event
  | acquire (resource : Nat)
  | release (resource : Nat)
  /-- What has been borrowed is read. -/
  | use (borrowed : List Nat)
deriving DecidableEq

/-- **Nothing that is borrowed is released before it is used.** -/
def InTime (events : List Event) : Prop :=
  ∀ before borrowed after, events = before ++ .use borrowed :: after →
    ∀ resource ∈ borrowed, .release resource ∉ before

/-- **Every resource that is taken is released once**, and in time. -/
structure Balanced (events : List Event) : Prop where
  once : ∀ resource, .acquire resource ∈ events → events.count (.release resource) = 1
  inTime : InTime events

/-- What is never released is in time. -/
theorem inTime_of_unreleased {events : List Event}
    (unreleased : ∀ resource, .release resource ∉ events) : InTime events := by
  intro before borrowed after isEvents resource _ isReleased
  refine unreleased resource ?_
  rw [isEvents]
  exact List.mem_append_left _ isReleased

/-- A release comes in time for all that was read before it. -/
theorem InTime.released {events : List Event} (inTime : InTime events) (resource : Nat) :
    InTime (events ++ [.release resource]) := by
  intro before borrowed after isEvents
  rcases List.eq_nil_or_concat after with rfl | ⟨rest, last, rfl⟩
  · have isLast := List.append_inj_right' isEvents rfl
    cases isLast
  · rw [List.concat_eq_append, ← List.cons_append, ← List.append_assoc] at isEvents
    exact inTime before borrowed rest (List.append_inj_left' isEvents rfl)

/-- The events so far, the number of resources taken, those that are borrowed from, and the state of
the owner. -/
structure Log (σ : Type*) where
  events : List Event
  taken : Nat
  borrowed : List Nat
  owner : σ

variable {σ : Type*}

/-! ### Events -/

namespace Log

variable (log : Log σ)

/-- The log of nothing yet. -/
def start (owner : σ) : Log σ := ⟨[], 0, [], owner⟩

/-- The next resource is taken. -/
def acquired : Log σ :=
  { log with events := log.events ++ [.acquire log.taken], taken := log.taken + 1 }

def released (resource : Nat) : Log σ :=
  { log with events := log.events ++ [.release resource] }

def lent (resource : Nat) : Log σ := { log with borrowed := resource :: log.borrowed }

def used : Log σ := { log with events := log.events ++ [.use log.borrowed] }

def forgotten : Log σ := { log with borrowed := [] }

def ownedBy (owner : σ) : Log σ := { log with owner := owner }

end Log

/-! ### Parts of a run -/

/-- **What a part of a run leaves**: `kept` are the resources it takes and does not release. -/
structure Leaves (log after : Log σ) (kept : List Nat) : Prop where
  taken : log.taken ≤ after.taken
  isNew : ∀ resource ∈ kept, log.taken ≤ resource ∧ resource < after.taken
  acquired : ∀ resource, .acquire resource ∈ after.events ↔
    .acquire resource ∈ log.events ∨ log.taken ≤ resource ∧ resource < after.taken
  released : ∀ resource, after.events.count (.release resource) =
    log.events.count (.release resource) +
      if log.taken ≤ resource ∧ resource < after.taken ∧ resource ∉ kept then 1 else 0
  borrowed : ∀ resource ∈ after.borrowed, resource ∈ log.borrowed ∨ resource ∈ kept
  used : ∀ borrowed, .use borrowed ∈ after.events → .use borrowed ∈ log.events ∨
    ∀ resource ∈ borrowed, resource ∈ log.borrowed ∨ resource ∈ kept

namespace Leaves

variable {log middle after : Log σ} {kept later : List Nat} {resource : Nat}

theorem refl (log : Log σ) : Leaves log log [] where
  taken := Nat.le_refl log.taken
  isNew := nofun
  acquired := fun _ => ⟨Or.inl, fun acquired => acquired.resolve_right (by omega)⟩
  released := fun _ => by rw [if_neg (by omega)]; rfl
  borrowed := fun _ => Or.inl
  used := fun _ => Or.inl

/-- **Parts compose.** -/
theorem trans (first : Leaves log middle kept) (second : Leaves middle after later) :
    Leaves log after (kept ++ later) where
  taken := Nat.le_trans first.taken second.taken
  isNew := by
    have grows := first.taken
    have growsLater := second.taken
    intro resource isKept
    rcases List.mem_append.mp isKept with isFirst | isLater
    · have range := first.isNew resource isFirst
      omega
    · have range := second.isNew resource isLater
      omega
  acquired := by
    have grows := first.taken
    have growsLater := second.taken
    intro resource
    rw [second.acquired, first.acquired, or_assoc]
    refine or_congr_right ?_
    omega
  released := by
    have grows := first.taken
    have growsLater := second.taken
    intro resource
    have inFirst := first.isNew resource
    have inSecond := second.isNew resource
    simp only [second.released, first.released, List.mem_append, Nat.add_assoc]
    by_cases isFirst : resource ∈ kept
    · have range := inFirst isFirst
      rw [if_neg (fun new => new.2.2 isFirst), if_neg (by omega),
        if_neg (fun new => new.2.2 (Or.inl isFirst))]
    by_cases isLater : resource ∈ later
    · have range := inSecond isLater
      rw [if_neg (by omega), if_neg (fun new => new.2.2 isLater),
        if_neg (fun new => new.2.2 (Or.inr isLater))]
    simp only [isFirst, isLater, or_false, not_false_iff, and_true]
    split_ifs <;> omega
  borrowed := by
    intro resource isBorrowed
    rcases second.borrowed resource isBorrowed with isBorrowed | isKept
    · exact (first.borrowed resource isBorrowed).imp_right (List.mem_append_left later)
    · exact Or.inr (List.mem_append_right kept isKept)
  used := by
    intro borrowed isUsed
    rcases second.used borrowed isUsed with isUsed | inRange
    · exact (first.used borrowed isUsed).imp_right fun inRange resource isBorrowed =>
        (inRange resource isBorrowed).imp_right (List.mem_append_left later)
    · refine Or.inr fun resource isBorrowed => ?_
      rcases inRange resource isBorrowed with isBorrowed | isKept
      · exact (first.borrowed resource isBorrowed).imp_right (List.mem_append_left later)
      · exact Or.inr (List.mem_append_right kept isKept)

/-- A part that takes the next resource. -/
theorem takes (log : Log σ) : Leaves log log.acquired [log.taken] where
  taken := Nat.le_succ log.taken
  isNew := by
    intro resource isKept
    rw [List.mem_singleton.mp isKept]
    exact ⟨Nat.le_refl log.taken, Nat.lt_succ_self log.taken⟩
  acquired := by
    intro resource
    simp only [Log.acquired, List.mem_append, List.mem_singleton, Event.acquire.injEq]
    refine or_congr_right ?_
    omega
  released := by
    intro resource
    simp only [Log.acquired, List.count_append, List.mem_singleton]
    rw [if_neg (by omega)]
    rfl
  borrowed := fun _ => Or.inl
  used := by
    intro borrowed isUsed
    rcases List.mem_append.mp isUsed with isUsed | isLast
    · exact Or.inl isUsed
    · cases List.mem_singleton.mp isLast

/-- A part that takes the next resource, and releases it. -/
theorem passes (log : Log σ) : Leaves log (log.acquired.released log.taken) [] where
  taken := Nat.le_succ log.taken
  isNew := nofun
  acquired := by
    intro resource
    refine Iff.trans ?_ ((takes log).acquired resource)
    simp [Log.released]
  released := by
    intro resource
    have notReleased : [Event.acquire log.taken].count (.release resource) = 0 := rfl
    simp only [Log.released, Log.acquired, List.count_append, notReleased, Nat.add_zero,
      List.count_singleton, beq_iff_eq, Event.release.injEq, List.not_mem_nil, not_false_iff,
      and_true]
    congr 1
    split_ifs <;> omega
  borrowed := fun _ => Or.inl
  used := by
    intro borrowed isUsed
    left
    simpa [Log.released, Log.acquired] using isUsed

/-- What is kept may be borrowed from. -/
theorem lends (part : Leaves log after kept) (isKept : resource ∈ kept) :
    Leaves log (after.lent resource) kept :=
  { part with
    borrowed := by
      intro other isBorrowed
      rcases List.mem_cons.mp isBorrowed with rfl | isBorrowed
      · exact Or.inr isKept
      · exact part.borrowed other isBorrowed }

/-- What is borrowed may be used. -/
theorem uses (part : Leaves log after kept) : Leaves log after.used kept where
  taken := part.taken
  isNew := part.isNew
  acquired := by
    intro resource
    refine Iff.trans ?_ (part.acquired resource)
    simp [Log.used]
  released := by
    intro resource
    refine Eq.trans ?_ (part.released resource)
    exact List.count_append.trans (Nat.add_zero _)
  borrowed := part.borrowed
  used := by
    intro borrowed isUsed
    rcases List.mem_append.mp isUsed with isUsed | isLast
    · exact part.used borrowed isUsed
    · cases List.mem_singleton.mp isLast
      exact Or.inr part.borrowed

theorem forgets (part : Leaves log after kept) : Leaves log after.forgotten kept :=
  { part with borrowed := nofun }

theorem owns (part : Leaves log after kept) (owner : σ) : Leaves log (after.ownedBy owner) kept :=
  { part with }

section

variable {owner : σ}

/-- What a whole run has released. -/
theorem count_released (run : Leaves (.start owner) after kept) (resource : Nat) :
    after.events.count (.release resource) =
      if resource < after.taken ∧ resource ∉ kept then 1 else 0 := by
  simpa [Log.start] using run.released resource

/-- What a whole run has taken. -/
theorem mem_acquired (run : Leaves (.start owner) after kept) :
    .acquire resource ∈ after.events ↔ resource < after.taken := by
  simpa [Log.start] using run.acquired resource

/-- **What is borrowed is in time**: it is kept. -/
theorem inTime (run : Leaves (.start owner) after kept) : InTime after.events := by
  intro before borrowed rest isEvents resource isBorrowed isReleased
  have isUsed : .use borrowed ∈ after.events := by
    rw [isEvents]
    exact List.mem_append_right before List.mem_cons_self
  have isKept : resource ∈ kept := by
    rcases run.used borrowed isUsed with never | inRange
    · cases never
    · exact (inRange resource isBorrowed).resolve_left List.not_mem_nil
  have never : after.events.count (.release resource) = 0 := by
    rw [run.count_released, if_neg fun new => new.2 isKept]
  refine List.count_eq_zero.mp never ?_
  rw [isEvents]
  exact List.mem_append_left _ isReleased

/-- **A run is balanced exactly when it keeps nothing.** -/
theorem balanced_iff (run : Leaves (.start owner) after kept) :
    Balanced after.events ↔ kept = [] := by
  constructor
  · intro balanced
    refine List.eq_nil_iff_forall_not_mem.mpr fun resource isKept => ?_
    have isTaken := (run.isNew resource isKept).2
    have once := balanced.once resource (run.mem_acquired.mpr isTaken)
    rw [run.count_released, if_neg fun new => new.2 isKept] at once
    exact Nat.zero_ne_one once
  · rintro rfl
    refine ⟨fun resource isAcquired => ?_, run.inTime⟩
    rw [run.count_released, if_pos ⟨run.mem_acquired.mp isAcquired, List.not_mem_nil⟩]

end

end Leaves

/-! ### Computations -/

section Computations

variable {σ ε α β : Type}

/-- A computation with a log, which may stop. -/
abbrev Tracked (σ ε : Type) := StateT (Log σ) (Except ε)

def acquire : Tracked σ ε Nat := fun log => .ok (log.taken, log.acquired)

def release (resource : Nat) : Tracked σ ε Unit := fun log => .ok ((), log.released resource)

def borrow (resource : Nat) : Tracked σ ε Unit := fun log => .ok ((), log.lent resource)

/-- The owner does something, which may stop the computation. -/
def updateOwner (update : σ → Except ε σ) : Tracked σ ε Unit := fun log =>
  (update log.owner).map fun owner => ((), log.ownedBy owner)

def useBorrowed : Tracked σ ε Unit := fun log => .ok ((), log.used)

/-- A resource that is released as soon as a value has been computed. -/
def passing (value : Except ε α) : Tracked σ ε α := do
  let resource ← acquire
  let result ← value
  release resource
  return result

/-- **A computation has the value of another**, wherever `inv` holds, and keeps it; it keeps no
resource exactly under the condition `clean`. -/
structure Tracks (inv : Log σ → Prop) (program : Tracked σ ε α) (value : Except ε α)
    (clean : Prop) : Prop where
  stops : ∀ log fault, inv log → value = .error fault → program.run log = .error fault
  returns : ∀ log result, inv log → value = .ok result → ∃ after kept,
    program.run log = .ok (result, after) ∧ inv after ∧ Leaves log after kept ∧
      (kept = [] ↔ clean)

namespace Tracks

variable {inv : Log σ → Prop} {program : Tracked σ ε α} {next : α → Tracked σ ε β}
  {value other : Except ε α} {rest : α → Except ε β} {clean cleanOther : Prop}
  {cleanRest : α → Prop}

theorem pure (result : α) : Tracks inv (Pure.pure result : Tracked σ ε α) (.ok result) True where
  stops := fun _ _ _ => nofun
  returns := by
    rintro log _ holds ⟨⟩
    exact ⟨log, [], rfl, holds, .refl log, iff_of_true rfl trivial⟩

theorem lift (value : Except ε α) : Tracks inv (liftM value : Tracked σ ε α) value True where
  stops := by
    rintro log fault _ rfl
    rfl
  returns := by
    rintro log result holds rfl
    exact ⟨log, [], rfl, holds, .refl log, iff_of_true rfl trivial⟩

theorem throw (fault : ε) :
    Tracks inv (throw fault : Tracked σ ε α) (.error fault) clean where
  stops := by
    rintro log _ _ ⟨⟩
    rfl
  returns := fun _ _ _ => nofun

/-- The condition and the value may be replaced by equal ones, the former where a value is
returned. -/
theorem congr (tracks : Tracks inv program value clean) (same : value = other)
    (iff : ∀ result, value = .ok result → (clean ↔ cleanOther)) :
    Tracks inv program other cleanOther := by
  subst same
  refine ⟨tracks.stops, fun log result holds isValue => ?_⟩
  obtain ⟨after, kept, ran, holdsAfter, leaves, keeps⟩ := tracks.returns log result holds isValue
  exact ⟨after, kept, ran, holdsAfter, leaves, keeps.trans (iff result isValue)⟩

theorem keepsNothing (tracks : Tracks inv program value clean) (holds : clean) :
    Tracks inv program value True :=
  tracks.congr rfl fun _ _ => iff_of_true holds trivial

/-- What comes after a computation that stops is not reached. -/
theorem stopped {fault : ε} {all : Except ε β} (first : Tracks inv program (.error fault) clean)
    (same : all = .error fault) : Tracks inv (program >>= next) all cleanOther := by
  subst same
  refine ⟨?_, fun _ _ _ => nofun⟩
  rintro log _ holds ⟨⟩
  rw [StateT.run_bind, first.stops log fault holds rfl]
  rfl

/-- **Sequences**, where the value of the first computation is known. -/
theorem andThen {result : α} {last : Except ε β}
    (first : Tracks inv program (.ok result) clean)
    (second : Tracks inv (next result) last cleanOther) :
    Tracks inv (program >>= next) last (clean ∧ cleanOther) := by
  refine ⟨?_, ?_⟩
  · intro log fault holds isFault
    obtain ⟨middle, _, ran, holdsMiddle, _, _⟩ := first.returns log result holds rfl
    rw [StateT.run_bind, ran]
    exact second.stops middle fault holdsMiddle isFault
  · intro log value holds isValue
    obtain ⟨middle, kept, ran, holdsMiddle, leaves, keeps⟩ := first.returns log result holds rfl
    obtain ⟨after, keptLater, ranLater, holdsAfter, leavesLater, keepsLater⟩ :=
      second.returns middle value holdsMiddle isValue
    refine ⟨after, kept ++ keptLater, ?_, holdsAfter, leaves.trans leavesLater, ?_⟩
    · rw [StateT.run_bind, ran]
      exact ranLater
    · rw [List.append_eq_nil_iff, keeps, keepsLater]

/-- The same, where the first computation keeps nothing. -/
theorem afterNothing {result : α} {last : Except ε β} (first : Tracks inv program (.ok result) True)
    (second : Tracks inv (next result) last clean) : Tracks inv (program >>= next) last clean :=
  (first.andThen second).congr rfl fun _ _ => and_iff_right trivial

/-- The same, where the second keeps nothing. -/
theorem thenNothing {result : α} {last : Except ε β} (first : Tracks inv program (.ok result) clean)
    (second : Tracks inv (next result) last True) : Tracks inv (program >>= next) last clean :=
  (first.andThen second).congr rfl fun _ _ => and_iff_left trivial

/-- A value that is returned in another form. -/
theorem liftMap (value : Except ε α) (form : α → β) :
    Tracks inv (do let result ← value; return form result : Tracked σ ε β) (value.map form) True := by
  have first : Tracks inv (liftM value : Tracked σ ε α) value True := .lift value
  cases value with
  | error fault => exact first.stopped rfl
  | ok result => exact first.afterNothing (.pure (form result))

/-- **Sequences.** -/
theorem bind (first : Tracks inv program value clean)
    (later : ∀ result, value = .ok result → Tracks inv (next result) (rest result)
      (cleanRest result)) :
    Tracks inv (program >>= next) (value.bind rest)
      (clean ∧ ∀ result, value = .ok result → cleanRest result) := by
  cases value with
  | error fault => exact first.stopped rfl
  | ok result =>
    refine (first.andThen (later result rfl)).congr rfl fun _ _ => and_congr_right fun _ => ?_
    refine ⟨?_, fun all => all result rfl⟩
    rintro cleanLater _ ⟨⟩
    exact cleanLater

/-- Sequences of computations that may fail without stopping. -/
theorem bindExcept {δ : Type} {program : ExceptT δ (Tracked σ ε) α}
    {next : α → ExceptT δ (Tracked σ ε) β} {value : Except δ α} {rest : α → Except δ β}
    (first : Tracks inv program.run (.ok value) clean)
    (later : ∀ result, value = .ok result →
      Tracks inv (next result).run (.ok (rest result)) (cleanRest result)) :
    Tracks inv (program >>= next).run (.ok (value >>= rest))
      (clean ∧ ∀ result, value = .ok result → cleanRest result) := by
  have continued : ∀ outcome, (Except.ok value : Except ε (Except δ α)) = .ok outcome →
      Tracks inv (ExceptT.bindCont next outcome) (.ok (outcome >>= rest))
        (∀ result, outcome = .ok result → cleanRest result) := by
    rintro outcome ⟨⟩
    cases value with
    | error failure =>
      have failed : ∀ result, Except.error failure = Except.ok result → cleanRest result := by
        rintro _ ⟨⟩
      exact (pure (Except.error failure)).congr rfl fun _ _ => iff_of_true trivial failed
    | ok result =>
      refine (later result rfl).congr rfl fun _ _ => ⟨?_, fun all => all result rfl⟩
      rintro cleanLater _ ⟨⟩
      exact cleanLater
  refine (first.bind continued).congr rfl fun _ _ => and_congr_right fun _ =>
    ⟨fun all => all value rfl, ?_⟩
  rintro cleanLater _ ⟨⟩
  exact cleanLater

/-- The same, after a computation that does not fail. -/
theorem bindLift {δ : Type} {next : α → ExceptT δ (Tracked σ ε) β}
    {rest : α → Except ε (Except δ β)} (first : Tracks inv program value clean)
    (later : ∀ result, value = .ok result →
      Tracks inv (next result).run (rest result) (cleanRest result)) :
    Tracks inv ((liftM program : ExceptT δ (Tracked σ ε) α) >>= next).run (value.bind rest)
      (clean ∧ ∀ result, value = .ok result → cleanRest result) := by
  have lifted : ((liftM program : ExceptT δ (Tracked σ ε) α) >>= next).run =
      program >>= fun result => (next result).run := ExceptT.run_bind_lift program next
  rw [lifted]
  exact first.bind later

/-- A resource that is released on the way. -/
theorem passing (keeps : ∀ log, inv log → inv (log.acquired.released log.taken))
    (value : Except ε α) : Tracks inv (passing value : Tracked σ ε α) value True where
  stops := by
    rintro log fault _ rfl
    rfl
  returns := by
    rintro log result holds rfl
    exact ⟨log.acquired.released log.taken, [], rfl, keeps log holds, .passes log,
      iff_of_true rfl trivial⟩

end Tracks

/-- **A computation has the value of another**, whatever it keeps. -/
def HasValue (inv : Log σ → Prop) (program : Tracked σ ε α) (value : Except ε α) : Prop :=
  ∃ clean, Tracks inv program value clean

namespace HasValue

variable {inv : Log σ → Prop} {program : Tracked σ ε α} {next : α → Tracked σ ε β} {clean : Prop}

theorem pure (result : α) : HasValue inv (Pure.pure result : Tracked σ ε α) (.ok result) :=
  ⟨True, .pure result⟩

theorem after {result : α} {last : Except ε β} (first : Tracks inv program (.ok result) clean)
    (second : HasValue inv (next result) last) : HasValue inv (program >>= next) last := by
  obtain ⟨cleanLater, later⟩ := second
  exact ⟨clean ∧ cleanLater, first.andThen later⟩

end HasValue

end Computations

end Resources
