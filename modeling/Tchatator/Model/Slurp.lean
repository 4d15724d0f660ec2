/-
**Reading a stream whole** (`fslurp`, `util.c`).

A buffer is the bytes stored in it, `none` where nothing has been stored. The sizes are `size_t`
values, which wrap around. Which allocations succeed is given, in the order in which they are made.
A call records its stores, each with the size the buffer has then, and the sizes it computes, on the
paths that return null too.
-/

import Tchatator.Model.Types

namespace Tchatator

/-- What a block of memory holds. -/
abbrev Buffer := List (Option UInt8)

/-- `malloc`. -/
def mallocBuffer (size : Nat) : Buffer := List.replicate size none

/-- `realloc`. -/
def reallocBuffer (buffer : Buffer) (size : Nat) : Buffer :=
  buffer.take size ++ List.replicate (size - buffer.length) none

/-- `INT_MAX`. -/
def intMax : Nat := 2147483647

/-- The variables of `fslurp`, and the number of allocations so far. -/
structure Slurp where
  answer : Buffer
  bufsize : UInt64
  i : UInt64
  allocations : Nat

/-- A store: its index, and the size of the buffer. -/
structure SlurpStore where
  index : Nat
  size : Nat
deriving DecidableEq

/-- A computation of a larger size. -/
structure SlurpGrowth where
  bufsize : UInt64
  grown : UInt64
deriving DecidableEq

/-- What a call does. -/
structure Slurped where
  returned : Option Buffer
  stores : List SlurpStore
  growths : List SlurpGrowth
deriving DecidableEq

/-- `bufsize > INT_MAX - 100 - bufsize / 10`: the left difference is an `int`. -/
def growthRefused (bufsize : UInt64) : Bool :=
  decide (bufsize > UInt64.ofNat (intMax - 100) - bufsize / 10)

/-- `bufsize + 100 * bufsize / 10`. -/
def grownSize (bufsize : UInt64) : UInt64 := bufsize + 100 * bufsize / 10

/-- `answer[i++] = c`. -/
def Slurp.store (slurp : Slurp) (c : UInt8) : Slurp :=
  { slurp with answer := slurp.answer.set slurp.i.toNat (some c), i := slurp.i + 1 }

/-- The store that is made at `i`. -/
def Slurp.storeHere (slurp : Slurp) : SlurpStore := ⟨slurp.i.toNat, slurp.answer.length⟩

/-- `answer = realloc(answer, bufsize)`, with the larger size. -/
def Slurp.grow (slurp : Slurp) : Slurp :=
  { slurp with
    answer := reallocBuffer slurp.answer (grownSize slurp.bufsize).toNat
    bufsize := grownSize slurp.bufsize
    allocations := slurp.allocations + 1 }

/-- The size that is computed here. -/
def Slurp.growthHere (slurp : Slurp) : SlurpGrowth := ⟨slurp.bufsize, grownSize slurp.bufsize⟩

/-- After the loop: the terminator, and a last `realloc`, whose failure leaves the buffer. -/
def Slurp.finish (succeeds : Nat → Bool) (slurp : Slurp) : Slurped :=
  let stored := slurp.store 0
  { returned := some
      (if succeeds stored.allocations then reallocBuffer stored.answer stored.i.toNat
        else stored.answer)
    stores := [slurp.storeHere]
    growths := [] }

/-- The loop, over what `fgetc` returns before `EOF`. -/
def slurpFrom (succeeds : Nat → Bool) : Bytes → Slurp → Slurped
  | [], slurp => slurp.finish succeeds
  | c :: stream, slurp =>
      if slurp.i = slurp.bufsize - 2 then
        if growthRefused slurp.bufsize then ⟨none, [], []⟩
        else if succeeds slurp.allocations then
          let later := slurpFrom succeeds stream (slurp.grow.store c)
          { later with
            stores := slurp.grow.storeHere :: later.stores
            growths := slurp.growthHere :: later.growths }
        else ⟨none, [], [slurp.growthHere]⟩
      else
        let later := slurpFrom succeeds stream (slurp.store c)
        { later with stores := slurp.storeHere :: later.stores }

/-- `fslurp`. -/
def fslurp (succeeds : Nat → Bool) (stream : Bytes) : Slurped :=
  if succeeds 0 then slurpFrom succeeds stream ⟨mallocBuffer 1024, 1024, 0, 1⟩ else ⟨none, [], []⟩

end Tchatator
