/-
**The rate limiter and the accept loop** (`tchatator413-server.c`).

The turnstile is an stb_ds hash map: a pointer variable to a table on the heap. `hmgeti` and `hmput`
assign a table to the variable they are given, a new one when the variable is null or when an
insertion moves the table (`Allocator.moves`). `turnstile_rate_limit` receives the pointer by value,
so the variable they assign is its own parameter: what it holds at the end is returned here beside
the result (`Turnstile`), and the loop goes on with the pointer it had. `turnstileAfter` is what the
calls would do if each were given what the one before it left.
-/

import Tchatator.Model.Cfg

namespace Tchatator

/-- `user_stats_t`. -/
structure UserStats where
  lastRequestAt : Int
  nRequestsH : Int
  nRequestsM : Int
deriving DecidableEq

/-- The entries of a table, by `in_addr_t` key. -/
abbrev TurnstileTable := List (Nat × UserStats)

/-! ### The hash map -/

/-- The tables on the heap; a pointer is an index. -/
abbrev Heap := List TurnstileTable

/-- When an insertion into a table moves it. -/
structure Allocator where
  moves : TurnstileTable → Bool

/-- A pointer variable and the heap. -/
structure Turnstile where
  pointer : Option Nat
  heap : Heap

/-- The table a pointer variable points to; null is the empty map. -/
def Turnstile.table (turnstile : Turnstile) : TurnstileTable :=
  match turnstile.pointer with
  | none => []
  | some address => turnstile.heap.getD address []

/-- Point the variable to a new table. -/
def Turnstile.allocate (turnstile : Turnstile) (table : TurnstileTable) : Turnstile :=
  { pointer := some turnstile.heap.length, heap := turnstile.heap ++ [table] }

/-- Store a table where the variable points. -/
def Turnstile.store (turnstile : Turnstile) (table : TurnstileTable) : Turnstile :=
  match turnstile.pointer with
  | none => turnstile.allocate table
  | some address => { turnstile with heap := turnstile.heap.set address table }

/-- `hmgeti`: the index of a key, `none` for `-1`. A null variable gets an empty table. -/
def hmgeti (turnstile : Turnstile) (key : Nat) : Option Nat × Turnstile :=
  let turnstile :=
    match turnstile.pointer with
    | none => turnstile.allocate []
    | some _ => turnstile
  (turnstile.table.findIdx? fun entry => entry.1 = key, turnstile)

/-- `hmput` of a key that is not in the table. -/
def hmput (allocator : Allocator) (turnstile : Turnstile) (key : Nat) (value : UserStats) :
    Turnstile :=
  let table := turnstile.table ++ [(key, value)]
  if allocator.moves turnstile.table then turnstile.allocate table else turnstile.store table

/-! ### The limiter -/

/-- The counters of an address that makes a further request at time `t`. -/
def UserStats.request (stats : UserStats) (t : Int) : UserStats :=
  let timeSinceLastRequest := t - stats.lastRequestAt
  { lastRequestAt := t
    nRequestsH := wrap32 ((if 3600 ≤ timeSinceLastRequest then 0 else stats.nRequestsH) + 1)
    nRequestsM := wrap32 ((if 60 ≤ timeSinceLastRequest then 0 else stats.nRequestsM) + 1) }

/-- The verdict on a further request: `0`, or the time of the next one that will be accepted. -/
def UserStats.verdict (stats : UserStats) (cfg : Cfg) (t : Int) : Int :=
  let timeSinceLastRequest := t - stats.lastRequestAt
  if cfg.rateLimitM ≤ (stats.request t).nRequestsM then t + 60 - timeSinceLastRequest
  else if cfg.rateLimitH ≤ (stats.request t).nRequestsH then t + 3600 - timeSinceLastRequest
  else 0

/-- `turnstile_rate_limit`, called at time `t`: its result, and its parameter as it leaves it. -/
def turnstileRateLimit (cfg : Cfg) (allocator : Allocator) (t : Int) (turnstile : Turnstile)
    (inAddr : Nat) : Int × Turnstile :=
  match hmgeti turnstile inAddr with
  | (none, turnstile) =>
      (0, hmput allocator turnstile inAddr { lastRequestAt := t, nRequestsH := 1, nRequestsM := 1 })
  | (some i, turnstile) =>
      match turnstile.table[i]? with
      | none => (0, turnstile)
      | some (key, stats) =>
          (stats.verdict cfg t, turnstile.store (turnstile.table.set i (key, stats.request t)))

/-! ### The loop -/

/-- An accepted connection: the address of the peer and the time. -/
structure Connection where
  inAddr : Nat
  time : Int
deriving DecidableEq

/-- One iteration of the loop of `tchatator413_run_socket`, as far as the turnstile goes: whether
the connection reaches `interpret_request`, and the loop's pointer variable and heap. The call
leaves its mark on the heap, not on the variable. -/
def acceptConnection (cfg : Cfg) (allocator : Allocator) (turnstile : Turnstile)
    (connection : Connection) : Bool × Turnstile :=
  let (nextRequestAt, callee) :=
    turnstileRateLimit cfg allocator connection.time turnstile connection.inAddr
  (decide (nextRequestAt = 0), { turnstile with heap := callee.heap })

/-- The connections that reach `interpret_request`. -/
def reachingRequests (cfg : Cfg) (allocator : Allocator) :
    Turnstile → List Connection → List Connection
  | _, [] => []
  | turnstile, connection :: connections =>
      let (reaches, turnstile) := acceptConnection cfg allocator turnstile connection
      let rest := reachingRequests cfg allocator turnstile connections
      if reaches then connection :: rest else rest

/-- `turnstile_entry *turnstile = NULL`. -/
def Turnstile.null : Turnstile := { pointer := none, heap := [] }

/-! ### Calls in a row -/

/-- The table that a history of calls leaves, the latest call first, when each call is given what the
call before it has left in its parameter. -/
def turnstileAfter (cfg : Cfg) (allocator : Allocator) : List Connection → Turnstile
  | [] => .null
  | call :: earlier =>
      (turnstileRateLimit cfg allocator call.time (turnstileAfter cfg allocator earlier)
        call.inAddr).2

/-- What a call returns after a history. -/
def nextRequestAt (cfg : Cfg) (allocator : Allocator) (call : Connection)
    (earlier : List Connection) : Int :=
  (turnstileRateLimit cfg allocator call.time (turnstileAfter cfg allocator earlier)
    call.inAddr).1

/-- The calls of a history that return `0`. -/
def passingCalls (cfg : Cfg) (allocator : Allocator) : List Connection → List Connection
  | [] => []
  | call :: earlier =>
      if nextRequestAt cfg allocator call earlier = 0 then
        call :: passingCalls cfg allocator earlier
      else passingCalls cfg allocator earlier

end Tchatator
