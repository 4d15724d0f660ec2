/-
**A stream is read whole, within the buffer** (`fslurp`).

* `SlurpHolds` — between two bytes: the buffer holds what has been read, there is room for one more
  byte and for the terminator, and a tenth of the size may be taken from the bound of the test;
* `grow_holds` — so the test refuses every size that is too large to be grown, and the size that is
  computed is exact;
* `SlurpsWhole` — what a call does; `slurpFrom_whole`, by induction on the stream;
* **`fslurp_whole`** — for every stream and every pattern of failures;
* `fslurp_returns` — when nothing fails, streams of up to 1024 · 11⁷ - 2 bytes are returned.
-/

import Mathlib.Algebra.Group.Nat.Defs
import Tchatator.Model.Slurp

namespace Tchatator

/-! ### Sizes -/

/-- The test, when its difference does not wrap around. -/
theorem growthRefused_iff {bufsize : UInt64} (atMost : bufsize.toNat / 10 ≤ intMax - 100) :
    growthRefused bufsize = true ↔ intMax - 100 < bufsize.toNat + bufsize.toNat / 10 := by
  have tenth : (bufsize / 10).toNat = bufsize.toNat / 10 := UInt64.toNat_div _ _
  have bound : (UInt64.ofNat (intMax - 100)).toNat = intMax - 100 := rfl
  have notMore : bufsize / 10 ≤ UInt64.ofNat (intMax - 100) := by
    rw [UInt64.le_iff_toNat_le, tenth, bound]
    exact atMost
  rw [growthRefused, decide_eq_true_iff, gt_iff_lt, UInt64.lt_iff_toNat_lt,
    UInt64.toNat_sub_of_le _ _ notMore, tenth, bound]
  omega

/-- A size that the test lets pass is computed exactly, and the test may be made of it. -/
theorem grownSize_exact {bufsize : UInt64} (atMost : bufsize.toNat / 10 ≤ intMax - 100)
    (passes : growthRefused bufsize = false) :
    bufsize.toNat + 100 * bufsize.toNat < 2 ^ 64 ∧
      (grownSize bufsize).toNat = bufsize.toNat + 100 * bufsize.toNat / 10 ∧
      (grownSize bufsize).toNat / 10 ≤ intMax - 100 := by
  have tested : bufsize.toNat + bufsize.toNat / 10 ≤ intMax - 100 :=
    Nat.le_of_not_lt (mt (growthRefused_iff atMost).mpr (Bool.eq_false_iff.mp passes))
  have isBound : intMax - 100 = 2147483547 := rfl
  rw [isBound] at tested ⊢
  have small : bufsize.toNat + 100 * bufsize.toNat < 2 ^ 64 := by omega
  have exact : (grownSize bufsize).toNat = bufsize.toNat + 100 * bufsize.toNat / 10 := by
    have hundredfold : (100 * bufsize).toNat = 100 * bufsize.toNat := by
      rw [UInt64.toNat_mul]
      exact Nat.mod_eq_of_lt (by change 100 * bufsize.toNat < _; omega)
    rw [grownSize, UInt64.toNat_add, UInt64.toNat_div, hundredfold]
    exact Nat.mod_eq_of_lt (by change bufsize.toNat + 100 * bufsize.toNat / 10 < _; omega)
  refine ⟨small, exact, ?_⟩
  rw [exact]
  omega

/-! ### Between two bytes -/

/-- **What holds between two bytes.** -/
structure SlurpHolds (read : Bytes) (slurp : Slurp) : Prop where
  answer : slurp.answer =
    read.map some ++ List.replicate (slurp.bufsize.toNat - read.length) none
  index : slurp.i.toNat = read.length
  room : read.length + 2 ≤ slurp.bufsize.toNat
  grows : slurp.bufsize.toNat / 10 ≤ intMax - 100

section

variable {read : Bytes} {slurp : Slurp}

theorem SlurpHolds.size (holds : SlurpHolds read slurp) :
    slurp.answer.length = slurp.bufsize.toNat := by
  have room := holds.room
  rw [holds.answer, List.length_append, List.length_map, List.length_replicate]
  omega

theorem SlurpHolds.storeHere_within (holds : SlurpHolds read slurp) :
    slurp.storeHere.index < slurp.storeHere.size := by
  have room := holds.room
  rw [Slurp.storeHere]
  dsimp only
  rw [holds.index, holds.size]
  omega

/-- A store at the end of what has been read. -/
theorem store_answer (holds : SlurpHolds read slurp) (c : UInt8) :
    (slurp.store c).answer =
      (read ++ [c]).map some ++
        List.replicate (slurp.bufsize.toNat - (read ++ [c]).length) none := by
  have room := holds.room
  have notEmpty : slurp.bufsize.toNat - read.length =
      slurp.bufsize.toNat - (read.length + 1) + 1 := by omega
  have atEnd : (read.map some).length = read.length := List.length_map some
  rw [Slurp.store]
  dsimp only
  rw [holds.answer, holds.index, notEmpty, List.replicate_succ, ← atEnd,
    List.set_append_right _ _ le_rfl, Nat.sub_self, List.set_cons_zero, List.map_append,
    List.append_assoc, List.length_append, List.length_singleton, atEnd]
  rfl

theorem store_index (holds : SlurpHolds read slurp) (c : UInt8) :
    (slurp.store c).i.toNat = (read ++ [c]).length := by
  have room := holds.room
  have small := slurp.bufsize.toNat_lt
  rw [Slurp.store, UInt64.toNat_add, holds.index, List.length_append, List.length_singleton]
  exact Nat.mod_eq_of_lt (by change read.length + 1 < _; omega)

/-- **A store keeps it**, when there is room for one more byte. -/
theorem store_holds (holds : SlurpHolds read slurp)
    (room : read.length + 3 ≤ slurp.bufsize.toNat) (c : UInt8) :
    SlurpHolds (read ++ [c]) (slurp.store c) := by
  refine ⟨store_answer holds c, store_index holds c, ?_, holds.grows⟩
  rw [List.length_append, List.length_singleton]
  exact room

/-- The test of the loop: there is no room for one more byte. -/
theorem full_iff (holds : SlurpHolds read slurp) :
    slurp.i = slurp.bufsize - 2 ↔ read.length + 2 = slurp.bufsize.toNat := by
  have room := holds.room
  have two : (2 : UInt64).toNat = 2 := rfl
  have notMore : (2 : UInt64) ≤ slurp.bufsize := by
    rw [UInt64.le_iff_toNat_le, two]
    omega
  rw [← UInt64.toNat_inj, UInt64.toNat_sub_of_le _ _ notMore, holds.index, two]
  omega

theorem room_of_not_full (holds : SlurpHolds read slurp)
    (notFull : slurp.i ≠ slurp.bufsize - 2) : read.length + 3 ≤ slurp.bufsize.toNat :=
  holds.room.lt_of_ne (mt (full_iff holds).mpr notFull)

/-- **Growing keeps it, and makes room**, when the test lets it pass. -/
theorem grow_holds (holds : SlurpHolds read slurp)
    (passes : growthRefused slurp.bufsize = false) :
    SlurpHolds read slurp.grow ∧ read.length + 3 ≤ slurp.grow.bufsize.toNat := by
  obtain ⟨_, exact, grows⟩ := grownSize_exact holds.grows passes
  have room := holds.room
  have larger : slurp.bufsize.toNat + 1 ≤ (grownSize slurp.bufsize).toNat := by
    rw [exact]
    omega
  have split : (grownSize slurp.bufsize).toNat - read.length =
      (slurp.bufsize.toNat - read.length) +
        ((grownSize slurp.bufsize).toNat - slurp.bufsize.toNat) := by omega
  refine ⟨⟨?_, holds.index, ?_, grows⟩, ?_⟩
  · have kept : slurp.answer.take (grownSize slurp.bufsize).toNat = slurp.answer := by
      rw [List.take_of_length_le]
      rw [holds.size]
      omega
    rw [Slurp.grow]
    dsimp only
    rw [reallocBuffer, kept, holds.size, holds.answer, split, List.append_assoc,
      List.replicate_append_replicate]
  · exact room.trans (Nat.le_of_succ_le larger)
  · rw [Slurp.grow]
    dsimp only
    omega

end

/-! ### Calls -/

section

variable {succeeds : Nat → Bool} {read stream : Bytes} {slurp : Slurp} {result : Slurped}

/-- **What the rest of a call does**, of a stream: it returns null or the bytes of the stream with
one zero byte, and no more than this when the last allocation succeeds; it stores within the buffer;
and the sizes it computes are exact. -/
structure SlurpsWhole (succeeds : Nat → Bool) (whole : Bytes) (allocations : Nat)
    (result : Slurped) : Prop where
  returned : ∀ buffer ∈ result.returned, ∃ unused,
    buffer = (whole ++ [0]).map some ++ List.replicate unused none ∧
      (succeeds (allocations + result.growths.length) = true → unused = 0)
  within : ∀ store ∈ result.stores, store.index < store.size
  exact : ∀ growth ∈ result.growths,
    growth.bufsize.toNat + 100 * growth.bufsize.toNat < 2 ^ 64 ∧
      growth.grown.toNat = growth.bufsize.toNat + 100 * growth.bufsize.toNat / 10

/-- The end of the stream: the terminator is stored in one of the two last places. -/
theorem finish_whole (holds : SlurpHolds read slurp) :
    SlurpsWhole succeeds read slurp.allocations (slurp.finish succeeds) := by
  refine ⟨?_, ?_, nofun⟩
  · rintro _ ⟨⟩
    by_cases shrinks : succeeds slurp.allocations = true
    · refine ⟨0, ?_, fun _ => rfl⟩
      have isWhole : (read ++ [0]).length = ((read ++ [0]).map some).length :=
        (List.length_map some).symm
      have noneLacking : (read ++ [0]).length - ((slurp.store 0).answer).length = 0 := by
        rw [store_answer holds, isWhole, List.length_append]
        omega
      rw [if_pos (by exact shrinks), reallocBuffer, store_index holds, noneLacking,
        store_answer holds, isWhole, List.take_left]
    · refine ⟨slurp.bufsize.toNat - (read ++ [0]).length, ?_, ?_⟩
      · rw [if_neg (by exact shrinks), store_answer holds]
      · exact fun succeeded => absurd succeeded shrinks
  · intro store isStore
    rw [List.mem_singleton.mp isStore]
    exact holds.storeHere_within

/-- A call that returns null. -/
theorem null_whole {whole : Bytes} {allocations : Nat} :
    SlurpsWhole succeeds whole allocations ⟨none, [], []⟩ := ⟨nofun, nofun, nofun⟩

/-- A store that is made first. -/
theorem stores_first {whole : Bytes} {allocations : Nat} {store : SlurpStore}
    (later : SlurpsWhole succeeds whole allocations result) (within : store.index < store.size) :
    SlurpsWhole succeeds whole allocations
      ⟨result.returned, store :: result.stores, result.growths⟩ :=
  ⟨later.returned, List.forall_mem_cons.mpr ⟨within, later.within⟩, later.exact⟩

/-- An allocation for a size that is computed first. -/
theorem grows_first {whole : Bytes} {allocations : Nat} {growth : SlurpGrowth}
    (later : SlurpsWhole succeeds whole (allocations + 1) result)
    (small : growth.bufsize.toNat + 100 * growth.bufsize.toNat < 2 ^ 64)
    (exact : growth.grown.toNat = growth.bufsize.toNat + 100 * growth.bufsize.toNat / 10) :
    SlurpsWhole succeeds whole allocations
      ⟨result.returned, result.stores, growth :: result.growths⟩ := by
  refine ⟨?_, later.within, List.forall_mem_cons.mpr ⟨⟨small, exact⟩, later.exact⟩⟩
  intro buffer isReturned
  obtain ⟨unused, isBuffer, noneUnused⟩ := later.returned buffer isReturned
  refine ⟨unused, isBuffer, fun lastSucceeds => noneUnused ?_⟩
  rw [← lastSucceeds, List.length_cons, Nat.add_right_comm, ← Nat.add_assoc]

/-- **The rest of a call**, by induction on the stream. -/
theorem slurpFrom_whole (holds : SlurpHolds read slurp) :
    SlurpsWhole succeeds (read ++ stream) slurp.allocations
      (slurpFrom succeeds stream slurp) := by
  induction stream generalizing read slurp with
  | nil =>
    rw [List.append_nil]
    exact finish_whole holds
  | cons c stream ih =>
    rw [slurpFrom, List.append_cons]
    by_cases full : slurp.i = slurp.bufsize - 2
    · rw [if_pos full]
      cases refused : growthRefused slurp.bufsize with
      | true => exact null_whole
      | false =>
        obtain ⟨grown, room⟩ := grow_holds holds refused
        obtain ⟨small, isExact, _⟩ := grownSize_exact holds.grows refused
        rw [if_neg Bool.false_ne_true]
        by_cases succeeded : succeeds slurp.allocations = true
        · have later := ih (store_holds grown room c)
          rw [if_pos succeeded]
          exact grows_first (stores_first later grown.storeHere_within) small isExact
        · rw [if_neg succeeded]
          exact grows_first null_whole small isExact
    · have room := room_of_not_full holds full
      have later := ih (store_holds holds room c)
      rw [if_neg full]
      exact stores_first later holds.storeHere_within

/-- The first buffer. -/
theorem start_holds : SlurpHolds [] ⟨mallocBuffer 1024, 1024, 0, 1⟩ :=
  ⟨rfl, rfl, by decide, by decide⟩

/-- **A stream is read whole or not at all**, whichever allocations succeed; every store is within
the buffer; and every size is computed exactly. -/
theorem fslurp_whole (succeeds : Nat → Bool) (stream : Bytes) :
    SlurpsWhole succeeds stream 1 (fslurp succeeds stream) := by
  rw [fslurp]
  by_cases succeeded : succeeds 0 = true
  · rw [if_pos succeeded]
    exact slurpFrom_whole start_holds
  · rw [if_neg succeeded]
    exact null_whole

/-- The sizes are 1024 times the powers of eleven, and all below the seventh are grown. -/
theorem grows_of_sized {grown : Nat} (holds : SlurpHolds read slurp)
    (sized : slurp.bufsize.toNat = 1024 * 11 ^ grown)
    (small : slurp.bufsize.toNat < 1024 * 11 ^ 7) :
    growthRefused slurp.bufsize = false ∧
      (grownSize slurp.bufsize).toNat = 1024 * 11 ^ (grown + 1) := by
  have fewer : grown < 7 := by
    rw [sized] at small
    exact (Nat.pow_lt_pow_iff_right (by decide)).mp (Nat.lt_of_mul_lt_mul_left small)
  have atMost : slurp.bufsize.toNat ≤ 1024 * 11 ^ 6 :=
    sized ▸ Nat.mul_le_mul_left 1024 (Nat.pow_le_pow_right (by decide) (Nat.le_of_lt_succ fewer))
  have passes : growthRefused slurp.bufsize = false := by
    refine Bool.eq_false_iff.mpr fun refused => ?_
    have tested := (growthRefused_iff holds.grows).mp refused
    have isBound : intMax - 100 = 2147483547 := rfl
    omega
  obtain ⟨_, exact, _⟩ := grownSize_exact holds.grows passes
  refine ⟨passes, ?_⟩
  rw [exact, Nat.pow_succ, ← Nat.mul_assoc, ← sized]
  omega

/-- The rest of a call in which nothing fails, of a stream that is not too long. -/
theorem slurpFrom_returns {grown : Nat} (succeed : ∀ allocation, succeeds allocation = true)
    (holds : SlurpHolds read slurp) (sized : slurp.bufsize.toNat = 1024 * 11 ^ grown)
    (short : read.length + stream.length + 2 ≤ 1024 * 11 ^ 7) :
    (slurpFrom succeeds stream slurp).returned ≠ none := by
  induction stream generalizing read slurp grown with
  | nil => exact Option.some_ne_none _
  | cons c stream ih =>
    have shorter : (read ++ [c]).length + stream.length + 2 ≤ 1024 * 11 ^ 7 := by
      rw [List.length_cons] at short
      rw [List.length_append, List.length_singleton]
      omega
    rw [slurpFrom]
    by_cases full : slurp.i = slurp.bufsize - 2
    · have isFull := (full_iff holds).mp full
      have small : slurp.bufsize.toNat < 1024 * 11 ^ 7 := by
        rw [List.length_cons] at short
        omega
      obtain ⟨passes, sizedNext⟩ := grows_of_sized holds sized small
      obtain ⟨holdsNext, room⟩ := grow_holds holds passes
      rw [if_pos full, passes, if_neg Bool.false_ne_true, if_pos (succeed _)]
      exact ih (store_holds holdsNext room c) sizedNext shorter
    · have room := room_of_not_full holds full
      rw [if_neg full]
      exact ih (store_holds holds room c) sized shorter

/-- **What is returned when nothing fails**: every stream that fits the seventh size. -/
theorem fslurp_returns (succeed : ∀ allocation, succeeds allocation = true)
    (short : stream.length + 2 ≤ 1024 * 11 ^ 7) : (fslurp succeeds stream).returned ≠ none := by
  rw [fslurp, if_pos (succeed 0)]
  have sized : (1024 : UInt64).toNat = 1024 * 11 ^ 0 := rfl
  refine slurpFrom_returns succeed start_holds sized ?_
  rwa [List.length_nil, Nat.zero_add]

end

end Tchatator
