/-
**The rate limiter on its hash map** (`tchatator413-server.c` over `stb_ds.h`).

`turnstile_rate_limit` again, on the hash map of `stb_ds.h` instead of a table of entries. The index
that `hmgeti` gives is an `int` here, as the source declares it; what is read outside the entries is
`none`.
-/

import Tchatator.Model.HashMap
import Tchatator.Model.Turnstile

namespace Tchatator.Stbds

/-- `turnstile_entry *`. -/
abbrev TurnstileMap := Option (HashMap Nat UserStats)

/-- The hash of an `in_addr_t`. -/
def inAddrHash (inAddr : Nat) (seed : UInt64) : UInt64 := stbdsHashBytes (UInt32.ofNat inAddr) seed

/-- `turnstile_rate_limit`, called at time `t`: its result, its parameter as it leaves it, and
`stbds_hash_seed`. -/
def turnstileRateLimit (cfg : Cfg) (hashSeed : UInt64) (t : Int) (turnstile : TurnstileMap)
    (inAddr : Nat) : Option (Int × TurnstileMap × UInt64) :=
  match hmgeti inAddrHash turnstile inAddr with
  | none => none
  | some (index, turnstile) =>
      let i := wrap32 index
      if i = -1 then
        match hmput inAddrHash hashSeed (some turnstile) inAddr
            { lastRequestAt := t, nRequestsH := 1, nRequestsM := 1 } with
        | none => none
        | some (turnstile, hashSeed) => some (0, some turnstile, hashSeed)
      else if i < 0 then none
      else
        match turnstile.entries[i.toNat]? with
        | some (key, some stats) =>
            some (stats.verdict cfg t, some { turnstile with
              entries := turnstile.entries.set i.toNat (key, some (stats.request t)) }, hashSeed)
        | _ => none

/-- The map and `stbds_hash_seed` that a history of calls leaves, the latest call first, when each
call is given what the call before it has left in its parameter. -/
def turnstileAfter (cfg : Cfg) : List Connection → Option (TurnstileMap × UInt64)
  | [] => some (none, initialHashSeed)
  | call :: earlier =>
      match turnstileAfter cfg earlier with
      | none => none
      | some (turnstile, hashSeed) =>
          (turnstileRateLimit cfg hashSeed call.time turnstile call.inAddr).map Prod.snd

/-- What a call returns after a history. -/
def nextRequestAt (cfg : Cfg) (call : Connection) (earlier : List Connection) : Option Int :=
  match turnstileAfter cfg earlier with
  | none => none
  | some (turnstile, hashSeed) =>
      (turnstileRateLimit cfg hashSeed call.time turnstile call.inAddr).map Prod.fst

end Tchatator.Stbds
