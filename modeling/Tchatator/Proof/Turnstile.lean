/-
**What the turnstile remembers** (`turnstile_rate_limit`).

* `Turnstile.stats` — the entry of an address; `Turnstile.Valid` — the pointer is null or points to a
  table of the heap;
* `turnstileRateLimit_spec` — a call answers by the entry of its address and updates it, or adds it,
  and leaves the other entries;
* **`stats_turnstileAfter`** — after a history, the entry of an address holds the time of its latest
  request and the lengths of its latest bursts: the induction is on the history.
-/

import Mathlib.Algebra.Order.Group.Int
import Tchatator.Library.Bursts
import Tchatator.Proof.RateLimit

namespace Tchatator

open Bursts

/-! ### Entries -/

/-- The pointer is null, or points to a table of the heap. -/
def Turnstile.Valid (turnstile : Turnstile) : Prop :=
  ∀ address ∈ turnstile.pointer, address < turnstile.heap.length

/-- The entry of an address, the first in a table. -/
def entryOf (table : TurnstileTable) (inAddr : Nat) : Option UserStats :=
  (table.find? fun entry => entry.1 = inAddr).map Prod.snd

/-- The entry of an address. -/
def Turnstile.stats (turnstile : Turnstile) (inAddr : Nat) : Option UserStats :=
  entryOf turnstile.table inAddr

section Tables

variable {table : TurnstileTable} {inAddr other key i : Nat} {stats : UserStats}

theorem entryOf_append_self (absent : entryOf table inAddr = none) :
    entryOf (table ++ [(inAddr, stats)]) inAddr = some stats := by
  have notFound : (table.find? fun entry => entry.1 = inAddr) = none := Option.map_eq_none_iff.mp absent
  rw [entryOf, List.find?_append, notFound]
  simp

theorem entryOf_append_other (different : other ≠ inAddr) :
    entryOf (table ++ [(inAddr, stats)]) other = entryOf table other := by
  have notThis : ([(inAddr, stats)].find? fun entry => entry.1 = other) = none := by
    simp [different.symm]
  rw [entryOf, List.find?_append, notThis, Option.or_none]
  rfl

/-- The entry of an address is found at the index of its key. -/
theorem entryOf_of_findIdx? (found : (table.findIdx? fun entry => entry.1 = inAddr) = some i) :
    ∃ stats, table[i]? = some (inAddr, stats) ∧ entryOf table inAddr = some stats ∧
      (∀ updated, entryOf (table.set i (inAddr, updated)) inAddr = some updated) ∧
      ∀ updated other, other ≠ inAddr →
        entryOf (table.set i (inAddr, updated)) other = entryOf table other := by
  induction table generalizing i with
  | nil => cases found
  | cons entry table ih =>
    obtain ⟨key, stats⟩ := entry
    by_cases isKey : key = inAddr
    · subst isKey
      have isFirst : i = 0 := by simpa [List.findIdx?_cons] using found.symm
      subst isFirst
      refine ⟨stats, rfl, by simp [entryOf], fun updated => by simp [entryOf], ?_⟩
      intro updated other different
      simp [entryOf, different.symm]
    · rw [List.findIdx?_cons, if_neg (by simpa using isKey)] at found
      obtain ⟨j, foundLater, rfl⟩ := Option.map_eq_some_iff.mp found
      obtain ⟨stats', isEntry, isStats, updatesSelf, keepsOthers⟩ := ih foundLater
      have skips (table' : TurnstileTable) :
          entryOf ((key, stats) :: table') inAddr = entryOf table' inAddr := by
        simp [entryOf, isKey]
      refine ⟨stats', isEntry, (skips table).trans isStats, fun updated => ?_, ?_⟩
      · exact (skips _).trans (updatesSelf updated)
      · intro updated other different
        have later := keepsOthers updated other different
        simp only [entryOf, List.set_cons_succ, List.find?_cons] at later ⊢
        split
        · rfl
        · exact later

end Tables

/-! ### Pointers -/

section Pointers

variable {turnstile : Turnstile}

theorem allocate_valid (turnstile : Turnstile) (table : TurnstileTable) :
    (turnstile.allocate table).Valid := by
  rintro address ⟨⟩
  show turnstile.heap.length < (turnstile.heap ++ [table]).length
  rw [List.length_append]
  exact Nat.lt_succ_self _

/-- **What is stored through a valid pointer is found there.** -/
theorem store_spec (valid : turnstile.Valid) (table : TurnstileTable) :
    (turnstile.store table).Valid ∧ (turnstile.store table).table = table := by
  obtain ⟨pointer, heap⟩ := turnstile
  cases pointer with
  | none => exact ⟨allocate_valid _ table, table_allocate _ table⟩
  | some address =>
    have within : address < heap.length := valid address rfl
    constructor
    · rintro _ ⟨⟩
      show address < (heap.set address table).length
      rwa [List.length_set]
    · show (heap.set address table).getD address [] = table
      rw [List.getD_eq_getElem?_getD, List.getElem?_set_self within]
      rfl

theorem hmput_spec (allocator : Allocator) (valid : turnstile.Valid) (key : Nat)
    (value : UserStats) :
    (hmput allocator turnstile key value).Valid ∧
      (hmput allocator turnstile key value).table = turnstile.table ++ [(key, value)] := by
  rw [hmput]
  split
  · exact ⟨allocate_valid _ _, table_allocate _ _⟩
  · exact store_spec valid _

/-- **`hmgeti` looks in the table, and leaves it as it is.** -/
theorem hmgeti_spec (valid : turnstile.Valid) (key : Nat) :
    ∃ after, hmgeti turnstile key =
        (turnstile.table.findIdx? fun entry => entry.1 = key, after) ∧
      after.Valid ∧ after.table = turnstile.table := by
  obtain ⟨pointer, heap⟩ := turnstile
  cases pointer with
  | none =>
    refine ⟨Turnstile.allocate ⟨none, heap⟩ [], ?_, allocate_valid _ [], table_allocate _ []⟩
    exact hmgeti_null rfl key
  | some address => exact ⟨_, rfl, valid, rfl⟩

/-- **One call**: the address is new, or its entry decides and is updated. -/
theorem turnstileRateLimit_spec (cfg : Cfg) (allocator : Allocator) (t : Int)
    (valid : turnstile.Valid) (inAddr : Nat) :
    ∃ n after, turnstileRateLimit cfg allocator t turnstile inAddr = (n, after) ∧ after.Valid ∧
      (∀ other, other ≠ inAddr → after.stats other = turnstile.stats other) ∧
      ((turnstile.stats inAddr = none ∧ n = 0 ∧ after.stats inAddr = some ⟨t, 1, 1⟩) ∨
        ∃ stats, turnstile.stats inAddr = some stats ∧ n = stats.verdict cfg t ∧
          after.stats inAddr = some (stats.request t)) := by
  obtain ⟨looked, isLooked, lookedValid, sameTable⟩ := hmgeti_spec valid inAddr
  cases found : turnstile.table.findIdx? fun entry => entry.1 = inAddr with
  | none =>
    rw [found] at isLooked
    have absent : turnstile.stats inAddr = none := by
      rw [Turnstile.stats, entryOf, Option.map_eq_none_iff, List.find?_eq_none]
      intro entry member
      simpa using List.findIdx?_eq_none_iff.mp found entry member
    obtain ⟨putValid, isPut⟩ := hmput_spec allocator lookedValid inAddr ⟨t, 1, 1⟩
    rw [sameTable] at isPut
    refine ⟨0, _, by rw [turnstileRateLimit, isLooked], putValid, ?_, Or.inl ⟨absent, rfl, ?_⟩⟩
    · intro other different
      rw [Turnstile.stats, isPut, entryOf_append_other different]
      rfl
    · rw [Turnstile.stats, isPut]
      exact entryOf_append_self absent
  | some i =>
    rw [found] at isLooked
    obtain ⟨stats, isEntry, isStats, updatesSelf, keepsOthers⟩ := entryOf_of_findIdx? found
    obtain ⟨storeValid, isStored⟩ :=
      store_spec lookedValid (turnstile.table.set i (inAddr, stats.request t))
    refine ⟨stats.verdict cfg t, _, ?_, storeValid, ?_, Or.inr ⟨stats, isStats, rfl, ?_⟩⟩
    · simp only [turnstileRateLimit, isLooked, sameTable, isEntry]
    · intro other different
      rw [Turnstile.stats, isStored, keepsOthers _ other different]
      rfl
    · rw [Turnstile.stats, isStored]
      exact updatesSelf _

end Pointers

/-! ### Histories -/

/-- The times of the calls of an address. -/
def timesOf (inAddr : Nat) (history : List Connection) : List Int :=
  (history.filter fun call => call.inAddr = inAddr).map Connection.time

/-- What is remembered of an address whose calls have the given times. -/
def statsOfTimes : List Int → Option UserStats
  | [] => none
  | time :: earlier =>
      some
        { lastRequestAt := time
          nRequestsH := wrap32 (burst 3600 (time :: earlier)).length
          nRequestsM := wrap32 (burst 60 (time :: earlier)).length }

theorem statsOfTimes_single (time : Int) : statsOfTimes [time] = some ⟨time, 1, 1⟩ := by
  simp [statsOfTimes, burst, wrap32]

theorem statsOfTimes_eq_none {times : List Int} (unknown : statsOfTimes times = none) :
    times = [] := by
  cases times with
  | nil => rfl
  | cons _ _ => cases unknown

section Histories

variable {inAddr : Nat} {call : Connection} {earlier history : List Connection}

@[simp]
theorem timesOf_cons_self (isAddr : call.inAddr = inAddr) :
    timesOf inAddr (call :: earlier) = call.time :: timesOf inAddr earlier := by
  simp [timesOf, isAddr]

@[simp]
theorem timesOf_cons_other (isOther : call.inAddr ≠ inAddr) :
    timesOf inAddr (call :: earlier) = timesOf inAddr earlier := by
  simp [timesOf, isOther]

theorem timesOf_length_le (inAddr : Nat) (history : List Connection) :
    (timesOf inAddr history).length ≤ history.length := by
  rw [timesOf, List.length_map]
  exact List.length_filter_le _ _

/-- A counter that has wrapped goes on counting the burst. -/
theorem wrap32_succ (width time last : Int) (rest : List Int) :
    wrap32 ((if width ≤ time - last then 0 else
        wrap32 ((burst width (last :: rest)).length : Int)) + 1) =
      wrap32 ((burst width (time :: last :: rest)).length : Int) := by
  by_cases gap : width ≤ time - last
  · rw [burst_of_gap gap, if_pos gap]
    rfl
  · rw [burst_of_near gap, if_neg gap, List.length_cons]
    unfold wrap32
    omega

/-- **A further request updates the counters to the bursts that it makes.** -/
theorem request_statsOfTimes {times : List Int} {stats : UserStats}
    (isStats : statsOfTimes times = some stats) (t : Int) :
    statsOfTimes (t :: times) = some (stats.request t) := by
  cases times with
  | nil => cases isStats
  | cons last rest =>
    cases isStats
    simp only [statsOfTimes, UserStats.request, wrap32_succ]

/-- **After a history, the entry of an address holds its latest time and the lengths of its latest
bursts.** -/
theorem stats_turnstileAfter (cfg : Cfg) (allocator : Allocator) (history : List Connection) :
    (turnstileAfter cfg allocator history).Valid ∧
      ∀ inAddr, (turnstileAfter cfg allocator history).stats inAddr =
        statsOfTimes (timesOf inAddr history) := by
  induction history with
  | nil => exact ⟨nofun, fun _ => rfl⟩
  | cons call earlier ih =>
    obtain ⟨valid, remembered⟩ := ih
    obtain ⟨n, after, isCall, afterValid, others, outcome⟩ :=
      turnstileRateLimit_spec cfg allocator call.time valid call.inAddr
    rw [turnstileAfter, isCall]
    refine ⟨afterValid, fun inAddr => ?_⟩
    by_cases isAddr : call.inAddr = inAddr
    · subst isAddr
      rw [timesOf_cons_self rfl]
      rw [remembered] at outcome
      rcases outcome with ⟨absent, _, isNew⟩ | ⟨stats, isStats, _, isUpdated⟩
      · rw [statsOfTimes_eq_none absent, statsOfTimes_single, isNew]
      · exact isUpdated.trans (request_statsOfTimes isStats call.time).symm
    · rw [timesOf_cons_other isAddr, others inAddr (Ne.symm isAddr), remembered]

/-- **What a call returns**: `0` to an address without calls, else the verdict of its entry. -/
theorem nextRequestAt_cases (cfg : Cfg) (allocator : Allocator) (call : Connection)
    (earlier : List Connection) :
    (timesOf call.inAddr earlier = [] ∧ nextRequestAt cfg allocator call earlier = 0) ∨
    ∃ stats, statsOfTimes (timesOf call.inAddr earlier) = some stats ∧
      nextRequestAt cfg allocator call earlier = stats.verdict cfg call.time := by
  obtain ⟨valid, remembered⟩ := stats_turnstileAfter cfg allocator earlier
  obtain ⟨n, after, isCall, _, _, outcome⟩ :=
    turnstileRateLimit_spec cfg allocator call.time valid call.inAddr
  rw [remembered] at outcome
  rw [nextRequestAt, isCall]
  rcases outcome with ⟨absent, isZero, _⟩ | ⟨stats, isStats, isVerdict, _⟩
  · exact Or.inl ⟨statsOfTimes_eq_none absent, isZero⟩
  · exact Or.inr ⟨stats, isStats, isVerdict⟩

end Histories

end Tchatator
