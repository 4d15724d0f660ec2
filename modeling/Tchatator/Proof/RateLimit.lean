/-
**What the turnstile lets through** (`tchatator413_run_socket`).

* `RateLimited` — no address exceeds the limit per minute in any window of 60 seconds, nor the limit
  per hour in any window of 3600;
* `reachingRequests_null` — the loop's variable is null at every iteration, so that every call
  starts from an empty table and lets its connection through: the table a call allocates is
  assigned to the parameter, and lost;
* **`rate_limited_iff`** — the connections that reach `interpret_request` are within the limits
  exactly when those that arrive are.
-/

import Tchatator.Model.TestData
import Tchatator.Model.Turnstile

namespace Tchatator

/-! ### The documented limits -/

/-- The number of connections of an address in a window of the given length. -/
def countInWindow (inAddr : Nat) (start length : Int) (connections : List Connection) : Nat :=
  (connections.filter fun connection =>
    connection.inAddr = inAddr ∧ start ≤ connection.time ∧ connection.time < start + length).length

/-- **The limits hold**, for every address and in every window. -/
structure RateLimited (cfg : Cfg) (connections : List Connection) : Prop where
  perMinute : ∀ inAddr start, countInWindow inAddr start 60 connections ≤ cfg.rateLimitM
  perHour : ∀ inAddr start, countInWindow inAddr start 3600 connections ≤ cfg.rateLimitH

/-! ### The loop -/

section

variable (cfg : Cfg) (allocator : Allocator) {turnstile : Turnstile}

/-- A table just allocated is the one the variable points to. -/
theorem table_allocate (turnstile : Turnstile) (table : TurnstileTable) :
    (turnstile.allocate table).table = table := by
  show (turnstile.heap ++ [table]).getD turnstile.heap.length [] = table
  rw [List.getD_eq_getElem?_getD, List.getElem?_append_right (Nat.le_refl _), Nat.sub_self]
  rfl

/-- `hmgeti` finds nothing through a null variable. -/
theorem hmgeti_null (isNull : turnstile.pointer = none) (key : Nat) :
    hmgeti turnstile key = (none, turnstile.allocate []) := by
  simp only [hmgeti, isNull, table_allocate]
  rfl

/-- **A call with a null variable lets the connection through.** -/
theorem turnstileRateLimit_null (isNull : turnstile.pointer = none) (t : Int) (inAddr : Nat) :
    (turnstileRateLimit cfg allocator t turnstile inAddr).1 = 0 := by
  rw [turnstileRateLimit, hmgeti_null isNull]

/-- One iteration: the connection reaches its request, and the variable is still null. -/
theorem acceptConnection_null (isNull : turnstile.pointer = none) (connection : Connection) :
    (acceptConnection cfg allocator turnstile connection).1 = true ∧
      (acceptConnection cfg allocator turnstile connection).2.pointer = none := by
  constructor
  · show decide ((turnstileRateLimit cfg allocator connection.time turnstile
      connection.inAddr).1 = 0) = true
    rw [turnstileRateLimit_null cfg allocator isNull]
    rfl
  · exact isNull

/-- **Every connection reaches its request.** -/
theorem reachingRequests_null (isNull : turnstile.pointer = none)
    (connections : List Connection) :
    reachingRequests cfg allocator turnstile connections = connections := by
  induction connections generalizing turnstile with
  | nil => rfl
  | cons connection connections ih =>
    obtain ⟨reaches, stillNull⟩ := acceptConnection_null cfg allocator isNull connection
    simp only [reachingRequests, reaches, if_true, ih stillNull]

/-- **The connections let through are within the limits exactly when the arrivals are.** -/
theorem rate_limited_iff (connections : List Connection) :
    RateLimited cfg (reachingRequests cfg allocator .null connections) ↔
      RateLimited cfg connections := by
  rw [reachingRequests_null cfg allocator rfl]

end

/-- Thirteen connections of one address within one second all reach their requests, under the
default limit of twelve per minute. -/
theorem thirteen_reach_requests :
    ¬ RateLimited testCfg (reachingRequests testCfg { moves := fun _ => false } .null
      (List.replicate 13 ⟨2130706433, 0⟩)) := by
  rw [reachingRequests_null testCfg _ rfl]
  intro limited
  exact absurd (limited.perMinute 2130706433 0) (by decide)

end Tchatator
