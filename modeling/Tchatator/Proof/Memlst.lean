/-
**A memory list destroys what it owns, once** (`memlst.c`).

* `pendingEntries` — what has been added to a list since it was emptied, by the calls alone: the
  ledger of the calls;
* `NotAddedAgain` — no pointer is added while it is pending;
* `MemlstAccounted` — what one call does: it returns its pointer, or calls the destructors of what is
  pending, in order, and leaves the list empty;
* `memlstStep_accounted` — a call after others that have been accounted for is so too;
* **`memlst_accounted`** — so every call of a sequence is, from a null list on; and the destructors
  called in the whole sequence, followed by what is still pending, are the additions, in order.
-/

import Tchatator.Library.Ledger
import Tchatator.Model.Memlst

namespace Tchatator

variable {π δ : Type}

/-! ### What is pending -/

/-- The call empties the list. -/
def MemlstOp.empties : MemlstOp π δ → Bool
  | .add _ _ => false
  | .collect => true
  | .destroy => true

/-- What the call adds: nothing for a null pointer. -/
def MemlstOp.addition? : MemlstOp π δ → Option (MemlstEntry π δ)
  | .add dtor (some ptr) => some ⟨some ptr, dtor⟩
  | _ => none

/-- **What is pending after some calls.** -/
def pendingEntries (ops : List (MemlstOp π δ)) : List (MemlstEntry π δ) :=
  Ledger.pending MemlstOp.empties MemlstOp.addition? ops

/-- **No pointer is added again** before it has been collected. -/
def NotAddedAgain (ops : List (MemlstOp π δ)) : Prop :=
  ∀ i (inOps : i < ops.length), ∀ added ∈ ops[i].addition?, ∀ entry ∈ pendingEntries (ops.take i),
    entry.ptr ≠ added.ptr

instance [DecidableEq π] (ops : List (MemlstOp π δ)) : Decidable (NotAddedAgain ops) :=
  inferInstanceAs (Decidable (∀ i (inOps : i < ops.length), ∀ added ∈ ops[i].addition?,
    ∀ entry ∈ pendingEntries (ops.take i), entry.ptr ≠ added.ptr))

/-- **A call after others is accounted for.** -/
structure MemlstAccounted (before : List (MemlstOp π δ)) (op : MemlstOp π δ)
    (step : MemlstStep π δ) : Prop where
  returned : ∀ dtor ptr, op = .add dtor ptr → step.returned = ptr
  called : step.called = if op.empties then pendingEntries before else []
  calledOnce : (step.called.map MemlstEntry.ptr).Nodup
  emptied : op.empties = true → arrElements step.after = []
  kept : arrElements step.after = pendingEntries (before ++ [op])
  notNull : ∀ entry ∈ step.called ++ arrElements step.after, entry.ptr ≠ none

/-! ### Calls -/

theorem addsNothing_of_empties (op : MemlstOp π δ) (empties : op.empties = true) :
    op.addition? = none := by
  cases op with
  | add => cases empties
  | collect => rfl
  | destroy => rfl

theorem pendingEntries_of_empties {before : List (MemlstOp π δ)} {op : MemlstOp π δ}
    (empties : op.empties = true) : pendingEntries (before ++ [op]) = [] :=
  Ledger.pending_closed empties

theorem pendingEntries_of_add (before : List (MemlstOp π δ)) (dtor : δ) (ptr : Option π) :
    pendingEntries (before ++ [.add dtor ptr]) =
      pendingEntries before ++ (MemlstOp.add dtor ptr).addition?.toList :=
  Ledger.pending_open rfl

/-- What is pending is not null. -/
theorem pendingEntries_ne_null {ops : List (MemlstOp π δ)} {entry : MemlstEntry π δ}
    (isPending : entry ∈ pendingEntries ops) : entry.ptr ≠ none := by
  obtain ⟨op, _, added⟩ := List.mem_filterMap.mp isPending
  cases op with
  | add dtor ptr =>
    cases ptr with
    | none => cases added
    | some ptr =>
      cases added
      exact Option.some_ne_none ptr
  | collect => cases added
  | destroy => cases added

/-- What is pending after a call that adds something new is there once. -/
theorem pendingEntries_nodup {before : List (MemlstOp π δ)} {op : MemlstOp π δ}
    (once : ((pendingEntries before).map MemlstEntry.ptr).Nodup)
    (isNew : ∀ added ∈ op.addition?, ∀ entry ∈ pendingEntries before, entry.ptr ≠ added.ptr) :
    ((pendingEntries (before ++ [op])).map MemlstEntry.ptr).Nodup := by
  cases empties : op.empties with
  | true =>
    rw [pendingEntries_of_empties empties]
    exact List.nodup_nil
  | false =>
    have grown : pendingEntries (before ++ [op]) =
        pendingEntries before ++ op.addition?.toList := Ledger.pending_open empties
    rw [grown, List.map_append]
    cases added : op.addition? with
    | none =>
      rw [Option.toList_none, List.map_nil, List.append_nil]
      exact once
    | some entry =>
      refine List.nodup_append.mpr ⟨once, List.nodup_cons.mpr ⟨List.not_mem_nil, List.nodup_nil⟩, ?_⟩
      intro ptr isPending other isAdded
      obtain ⟨pending, inPending, rfl⟩ := List.mem_map.mp isPending
      rw [List.mem_singleton.mp isAdded]
      exact isNew entry added pending inPending

section

variable {memlst : Memlst π δ} {before : List (MemlstOp π δ)} {op : MemlstOp π δ}

/-- A call that adds its pointer, if it is not null. -/
theorem adding_accounted {dtor : δ} {ptr : Option π} {after : Memlst π δ}
    (kept : arrElements after = pendingEntries (before ++ [.add dtor ptr])) :
    MemlstAccounted before (.add dtor ptr) ⟨ptr, [], after⟩ := by
  refine ⟨?_, rfl, List.nodup_nil, nofun, kept, ?_⟩
  · rintro _ _ ⟨⟩
    rfl
  · rw [List.nil_append, kept]
    exact fun _ => pendingEntries_ne_null

/-- A call that empties the list. -/
theorem emptying_accounted {after : Memlst π δ} (empties : op.empties = true)
    (holds : arrElements memlst = pendingEntries before)
    (once : ((pendingEntries before).map MemlstEntry.ptr).Nodup)
    (isEmpty : arrElements after = []) :
    MemlstAccounted before op ⟨none, arrElements memlst, after⟩ := by
  refine ⟨?_, ?_, holds ▸ once, fun _ => isEmpty, ?_, ?_⟩
  · rintro _ _ rfl
    cases empties
  · rw [if_pos empties, holds]
  · rw [isEmpty, pendingEntries_of_empties empties]
  · rw [isEmpty, List.append_nil, holds]
    exact fun _ => pendingEntries_ne_null

end

section

variable [DecidableEq π] {memlst : Memlst π δ} {before : List (MemlstOp π δ)} {op : MemlstOp π δ}

/-- **Adding a new pointer.** -/
theorem memlstAdd_new {dtor : δ} {ptr : π}
    (isNew : ∀ entry ∈ arrElements memlst, entry.ptr ≠ some ptr) :
    memlstAdd memlst dtor (some ptr) = .ok (some ptr, arrput memlst ⟨some ptr, dtor⟩) := by
  rw [memlstAdd, if_neg (Option.some_ne_none ptr), if_pos isNew]

theorem memlstAdd_null (dtor : δ) : memlstAdd memlst dtor none = .ok (none, memlst) := if_pos rfl

/-- **A call is accounted for** when the list holds what is pending and what it adds is new. -/
theorem memlstStep_accounted (holds : arrElements memlst = pendingEntries before)
    (once : ((pendingEntries before).map MemlstEntry.ptr).Nodup)
    (isNew : ∀ added ∈ op.addition?, ∀ entry ∈ pendingEntries before, entry.ptr ≠ added.ptr) :
    ∃ step, memlstStep memlst op = .ok step ∧ MemlstAccounted before op step := by
  cases op with
  | add dtor ptr =>
    cases ptr with
    | none =>
      refine ⟨⟨none, [], memlst⟩, ?_, adding_accounted ?_⟩
      · rw [memlstStep, memlstAdd_null]
        rfl
      · rw [pendingEntries_of_add]
        exact holds.trans (List.append_nil _).symm
    | some ptr =>
      have isNewHere : ∀ entry ∈ arrElements memlst, entry.ptr ≠ some ptr := by
        rw [holds]
        exact isNew ⟨some ptr, dtor⟩ rfl
      refine ⟨⟨some ptr, [], arrput memlst ⟨some ptr, dtor⟩⟩, ?_, adding_accounted ?_⟩
      · rw [memlstStep, memlstAdd_new isNewHere]
        rfl
      · rw [pendingEntries_of_add, arrElements_arrput, holds]
        rfl
  | collect =>
    have isEmpty : arrElements (arrsetlen memlst 0) = [] := arrElements_arrsetlen_zero memlst
    exact ⟨⟨none, arrElements memlst, arrsetlen memlst 0⟩, rfl,
      emptying_accounted rfl holds once isEmpty⟩
  | destroy =>
    have isEmpty : arrElements (arrfree (arrsetlen memlst 0)) = [] := arrElements_arrfree _
    exact ⟨⟨none, arrElements memlst, arrfree (arrsetlen memlst 0)⟩, rfl,
      emptying_accounted rfl holds once isEmpty⟩

/-- **Every call of a sequence is accounted for**, after others that are. -/
theorem memlstRun_accounted (before ops : List (MemlstOp π δ)) (memlst : Memlst π δ)
    (holds : arrElements memlst = pendingEntries before)
    (once : ((pendingEntries before).map MemlstEntry.ptr).Nodup)
    (isNew : ∀ i (inOps : i < ops.length), ∀ added ∈ ops[i].addition?,
      ∀ entry ∈ pendingEntries (before ++ ops.take i), entry.ptr ≠ added.ptr) :
    ∃ steps, memlstRun memlst ops = .ok steps ∧ steps.length = ops.length ∧
      steps.map MemlstStep.called =
        Ledger.payments MemlstOp.empties MemlstOp.addition? before ops ∧
      ∀ i (inOps : i < ops.length), ∃ step ∈ steps[i]?,
        MemlstAccounted (before ++ ops.take i) ops[i] step := by
  induction ops generalizing before memlst with
  | nil => exact ⟨[], rfl, rfl, rfl, fun i inOps => absurd inOps (Nat.not_lt_zero i)⟩
  | cons op ops ih =>
    have isNewHere : ∀ added ∈ op.addition?, ∀ entry ∈ pendingEntries before,
        entry.ptr ≠ added.ptr := by
      have here := isNew 0 (Nat.zero_lt_succ _)
      rwa [List.take_zero, List.append_nil] at here
    obtain ⟨step, stepped, accounted⟩ := memlstStep_accounted holds once isNewHere
    have later : ∀ i (inOps : i < ops.length), ∀ added ∈ ops[i].addition?,
        ∀ entry ∈ pendingEntries ((before ++ [op]) ++ ops.take i), entry.ptr ≠ added.ptr := by
      intro i inOps
      have here := isNew (i + 1) (Nat.succ_lt_succ inOps)
      rwa [List.take_succ_cons, List.append_cons] at here
    obtain ⟨steps, ran, length, called, allAccounted⟩ :=
      ih (before ++ [op]) step.after accounted.kept (pendingEntries_nodup once isNewHere) later
    refine ⟨step :: steps, ?_, congrArg Nat.succ length, ?_, ?_⟩
    · simp only [memlstRun, stepped, ran]
      rfl
    · rw [List.map_cons, called, accounted.called]
      rfl
    · intro i inOps
      cases i with
      | zero =>
        refine ⟨step, rfl, ?_⟩
        rwa [List.take_zero, List.append_nil]
      | succ i =>
        have here := allAccounted i (Nat.lt_of_succ_lt_succ inOps)
        rwa [← List.append_cons, ← List.take_succ_cons] at here

end

/-- **A memory list destroys what it owns, once.** No call of a sequence that adds no pointer again
trips the assertion; each is accounted for; and the destructors that are called, followed by what is
pending, are the additions, in order. -/
theorem memlst_accounted [DecidableEq π] (ops : List (MemlstOp π δ)) (once : NotAddedAgain ops) :
    ∃ steps, memlstRun memlstInit ops = .ok steps ∧ steps.length = ops.length ∧
      (steps.flatMap MemlstStep.called) ++ pendingEntries ops = ops.filterMap MemlstOp.addition? ∧
      ∀ i (inOps : i < ops.length), ∃ step ∈ steps[i]?,
        MemlstAccounted (ops.take i) ops[i] step := by
  obtain ⟨steps, ran, length, called, accounted⟩ :=
    memlstRun_accounted [] ops memlstInit rfl List.nodup_nil once
  refine ⟨steps, ran, length, ?_, accounted⟩
  have conserved := Ledger.payments_pending addsNothing_of_empties [] ops
  rw [← called] at conserved
  exact conserved

/-- The calls of the test of memory lists, but for the one that trips the assertion. -/
def testedOps : List (MemlstOp Nat Bool) :=
  [.add false none, .add false none, .add true (some 19), .collect, .collect, .add true (some 100),
    .add true (some 50), .destroy, .add true (some 19), .collect]

theorem testedOps_accounted :
    ∃ steps, memlstRun memlstInit testedOps = .ok steps ∧ steps.length = testedOps.length ∧
      (steps.flatMap MemlstStep.called) ++ pendingEntries testedOps =
        testedOps.filterMap MemlstOp.addition? ∧
      ∀ i (inOps : i < testedOps.length), ∃ step ∈ steps[i]?,
        MemlstAccounted (testedOps.take i) testedOps[i] step :=
  memlst_accounted testedOps (by decide)

end Tchatator
