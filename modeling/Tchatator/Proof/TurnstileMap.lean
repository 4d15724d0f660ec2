/-
**The hash map of the rate limiter is its table** (`turnstile_rate_limit`).

* `tableRateLimit` — a call on a table of entries;
* `turnstileRateLimit_table`, `turnstileRateLimit_map` — a call on the heap and a call on the hash map
  are both this one;
* **`nextRequestAt_map`** — so after every history of fewer than `2 ^ 31` calls, where the index of an
  entry fits an `int`, a call on the hash map returns what it returns on the table.
-/

import Tchatator.Model.TestData
import Tchatator.Model.TurnstileMap
import Tchatator.Proof.HashMap
import Tchatator.Proof.Turnstile

namespace Tchatator.Stbds

/-! ### Calls -/

/-- A call on a table: its result, and the table after it. -/
def tableRateLimit (cfg : Cfg) (t : Int) (table : TurnstileTable) (inAddr : Nat) :
    Int × TurnstileTable :=
  match table.findIdx? fun entry => entry.1 = inAddr with
  | none => (0, table ++ [(inAddr, ⟨t, 1, 1⟩)])
  | some i =>
      match table[i]? with
      | none => (0, table)
      | some (key, stats) => (stats.verdict cfg t, table.set i (key, stats.request t))

section Calls

variable (cfg : Cfg) (t : Int) (inAddr : Nat)

/-- **A call on the heap is a call on the table.** -/
theorem turnstileRateLimit_table (allocator : Allocator) {turnstile : Turnstile}
    (valid : turnstile.Valid) :
    ∃ after, Tchatator.turnstileRateLimit cfg allocator t turnstile inAddr =
        ((tableRateLimit cfg t turnstile.table inAddr).1, after) ∧
      after.Valid ∧ after.table = (tableRateLimit cfg t turnstile.table inAddr).2 := by
  obtain ⟨looked, isLooked, lookedValid, sameTable⟩ := Tchatator.hmgeti_spec valid inAddr
  cases found : turnstile.table.findIdx? fun entry => entry.1 = inAddr with
  | none =>
    rw [found] at isLooked
    obtain ⟨putValid, isPut⟩ :=
      Tchatator.hmput_spec allocator lookedValid inAddr ⟨t, 1, 1⟩
    rw [sameTable] at isPut
    refine ⟨_, ?_, putValid, ?_⟩
    · simp only [Tchatator.turnstileRateLimit, isLooked, tableRateLimit, found]
    · simp only [tableRateLimit, found, isPut]
  | some i =>
    rw [found] at isLooked
    obtain ⟨stats, isEntry, _⟩ := entryOf_of_findIdx? found
    obtain ⟨storeValid, isStored⟩ :=
      store_spec lookedValid (turnstile.table.set i (inAddr, stats.request t))
    refine ⟨_, ?_, storeValid, ?_⟩
    · simp only [Tchatator.turnstileRateLimit, isLooked, sameTable, isEntry, tableRateLimit, found]
    · simp only [tableRateLimit, found, isEntry, isStored]

/-- **A call on the hash map is a call on the table**, while indices fit an `int`. -/
theorem turnstileRateLimit_map (hashSeed : UInt64) {turnstile : TurnstileMap}
    {table : TurnstileTable} (holds : Holds inAddrHash turnstile table)
    (few : table.length < 2147483648) :
    ∃ after seed, turnstileRateLimit cfg hashSeed t turnstile inAddr =
        some ((tableRateLimit cfg t table inAddr).1, after, seed) ∧
      Holds inAddrHash after (tableRateLimit cfg t table inAddr).2 := by
  obtain ⟨looked, isLooked, lookedValid⟩ := hmgeti_spec holds inAddr
  cases found : table.findIdx? fun entry => entry.1 = inAddr with
  | none =>
    have lookedHolds : Holds inAddrHash (some looked) table := lookedValid
    obtain ⟨after, seed, isPut, putValid⟩ :=
      hmput_spec lookedHolds hashSeed inAddr (⟨t, 1, 1⟩ : UserStats)
    have isNew : wrap32 (listGeti table inAddr) = -1 := by
      simp only [listGeti, found]
      decide
    refine ⟨some after, seed, ?_, ?_⟩
    · simp only [turnstileRateLimit, isLooked, if_pos isNew, isPut, tableRateLimit, found]
    · simp only [listPut, found] at putValid
      simp only [tableRateLimit, found]
      exact putValid
  | some i =>
    obtain ⟨stats, isEntry, _⟩ := entryOf_of_findIdx? found
    have within : i < table.length := (List.getElem?_eq_some_iff.mp isEntry).1
    have fits : wrap32 (listGeti table inAddr) = i := by
      simp only [listGeti, found]
      exact wrap32_of_mem (by unfold int32Min; omega) (by unfold int32Max; omega)
    have isThere : looked.entries[i]? = some (inAddr, some stats) := by
      rw [lookedValid.entries, List.getElem?_map, isEntry]
      rfl
    refine ⟨some { looked with entries := looked.entries.set i (inAddr, some (stats.request t)) },
      hashSeed, ?_, ?_⟩
    · simp only [turnstileRateLimit, isLooked, fits, Int.toNat_natCast, isThere, tableRateLimit,
        found, isEntry, if_neg (show ¬ (i : Int) = -1 by omega),
        if_neg (show ¬ (i : Int) < 0 by omega)]
    · simp only [tableRateLimit, found, isEntry]
      exact lookedValid.set found (stats.request t)

end Calls

/-! ### Histories -/

section Histories

variable (cfg : Cfg) (allocator : Allocator)

/-- A call adds at most one entry. -/
theorem length_tableRateLimit (t : Int) (table : TurnstileTable) (inAddr : Nat) :
    (tableRateLimit cfg t table inAddr).2.length ≤ table.length + 1 := by
  rw [tableRateLimit]
  split
  · rw [List.length_append, List.length_singleton]
  · split
    · exact Nat.le_succ _
    · rw [List.length_set]
      exact Nat.le_succ _

/-- After a history, the hash map holds the entries of the table. -/
theorem turnstileAfter_map (history : List Connection) (few : history.length < 2147483648) :
    ∃ turnstile seed, turnstileAfter cfg history = some (turnstile, seed) ∧
      Holds inAddrHash turnstile (Tchatator.turnstileAfter cfg allocator history).table ∧
      (Tchatator.turnstileAfter cfg allocator history).Valid ∧
      (Tchatator.turnstileAfter cfg allocator history).table.length ≤ history.length := by
  induction history with
  | nil => exact ⟨none, initialHashSeed, rfl, rfl, nofun, Nat.le_refl 0⟩
  | cons call earlier ih =>
    rw [List.length_cons] at few
    obtain ⟨turnstile, seed, isAfter, holds, valid, short⟩ := ih (by omega)
    obtain ⟨after, isCall, afterValid, sameTable⟩ :=
      turnstileRateLimit_table cfg call.time call.inAddr allocator valid
    obtain ⟨afterMap, seed', isMapCall, afterHolds⟩ :=
      turnstileRateLimit_map cfg call.time call.inAddr seed holds (by omega)
    have longer := length_tableRateLimit cfg call.time
      (Tchatator.turnstileAfter cfg allocator earlier).table call.inAddr
    simp only [turnstileAfter, isAfter, isMapCall, Tchatator.turnstileAfter, isCall]
    refine ⟨afterMap, seed', rfl, ?_, afterValid, ?_⟩
    · rw [sameTable]
      exact afterHolds
    · rw [sameTable, List.length_cons]
      omega

/-- **What the limiter returns on its hash map is what it returns on its table**, after every history
that is short enough for the index of an entry to fit an `int`: the hash map loses no address and
takes none for another. -/
theorem nextRequestAt_map (call : Connection) (earlier : List Connection)
    (few : earlier.length < 2147483648) :
    nextRequestAt cfg call earlier = some (Tchatator.nextRequestAt cfg allocator call earlier) := by
  obtain ⟨turnstile, seed, isAfter, holds, valid, short⟩ :=
    turnstileAfter_map cfg allocator earlier few
  obtain ⟨after, isCall, _⟩ :=
    turnstileRateLimit_table cfg call.time call.inAddr allocator valid
  obtain ⟨afterMap, seed', isMapCall, _⟩ :=
    turnstileRateLimit_map cfg call.time call.inAddr seed holds (by omega)
  simp only [nextRequestAt, isAfter, isMapCall, Tchatator.nextRequestAt, isCall]
  rfl

end Histories

/-- The second call of an address, after one of another. -/
theorem nextRequestAt_map_second :
    nextRequestAt testCfg ⟨2130706433, 5⟩ [⟨16777343, 2⟩, ⟨2130706433, 0⟩] =
      some (Tchatator.nextRequestAt testCfg { moves := fun _ => false } ⟨2130706433, 5⟩
        [⟨16777343, 2⟩, ⟨2130706433, 0⟩]) :=
  nextRequestAt_map testCfg _ _ _ (by decide)

end Tchatator.Stbds
