/-
**Probing a table of buckets.**

A table has `count` buckets of `width` slots. A search visits one bucket a round: that of the next
round is one further on than the last time, modulo `count` (`bucket`). In each it starts at the same
offset, goes to the end of the bucket and then from its beginning to the offset (`rotated`).

* `bucket_eq` — the bucket of round `n` is the `n`th triangular number away from the first;
* **`bucket_injective`**, `buckets_perm` — when `count` is a power of two, no bucket is visited twice
  in `count` rounds, and so each is visited once;
* **`order_perm`** — and so is each slot of the table.
-/

import Mathlib.Data.List.Nodup
import Mathlib.Data.List.Perm.Subperm
import Mathlib.Data.Nat.ModEq
import Mathlib.Data.Nat.Prime.Basic
import Mathlib.Tactic.Ring

namespace Probing

/-! ### Buckets -/

/-- The bucket of a round. -/
def bucket (count start : Nat) : Nat → Nat
  | 0 => start % count
  | n + 1 => (bucket count start n + (n + 1)) % count

variable {count start k i j n : Nat}

theorem bucket_lt (positive : 0 < count) (n : Nat) : bucket count start n < count := by
  cases n <;> exact Nat.mod_lt _ positive

/-- The sum of the strides is a triangular number. -/
theorem bucket_eq (count start n : Nat) :
    bucket count start n = (start + n * (n + 1) / 2) % count := by
  induction n with
  | zero => simp [bucket]
  | succ n ih =>
    have step : (n + 1) * (n + 1 + 1) / 2 = n * (n + 1) / 2 + (n + 1) := by
      rw [show (n + 1) * (n + 1 + 1) = n * (n + 1) + (n + 1) * 2 by ring,
        Nat.add_mul_div_right _ _ (by decide)]
    rw [bucket, ih, step, Nat.mod_add_mod, Nat.add_assoc]

/-- Twice the distance between two triangular numbers is a product of factors of opposite parity. -/
theorem twice_triangle_sub (i d : Nat) :
    2 * ((i + d) * (i + d + 1) / 2) = 2 * (i * (i + 1) / 2) + d * (2 * i + d + 1) := by
  rw [Nat.mul_div_cancel' (Nat.even_mul_succ_self _).two_dvd,
    Nat.mul_div_cancel' (Nat.even_mul_succ_self _).two_dvd]
  ring

/-- A power of two divides the odd multiple of a positive number below it never. -/
theorem not_pow_dvd_mul_odd {a b : Nat} (positive : 0 < a) (below : a < 2 ^ k) (odd : Odd b) :
    ¬ 2 ^ k ∣ a * b := by
  intro divides
  have coprime : Nat.Coprime (2 ^ k) b := (Nat.coprime_two_left.mpr odd).pow_left k
  have dividesFactor : 2 ^ k ∣ a := coprime.dvd_of_dvd_mul_right divides
  exact absurd (Nat.le_of_dvd positive dividesFactor) (Nat.not_le.mpr below)

/-- **Two rounds of the first `2 ^ k` visit different buckets.** -/
theorem bucket_ne (later : i < j) (inRange : j < 2 ^ k) :
    bucket (2 ^ k) start i ≠ bucket (2 ^ k) start j := by
  intro same
  obtain ⟨d, rfl⟩ := Nat.exists_eq_add_of_lt later
  rw [Nat.add_assoc i d 1, bucket_eq, bucket_eq] at same
  have gap := twice_triangle_sub i (d + 1)
  have divides : 2 ^ k ∣ (start + (i + (d + 1)) * (i + (d + 1) + 1) / 2) -
      (start + i * (i + 1) / 2) := (Nat.modEq_iff_dvd' (by omega)).mp same
  have divides : 2 ^ (k + 1) ∣ (d + 1) * (2 * i + (d + 1) + 1) := by
    have product : (d + 1) * (2 * i + (d + 1) + 1) =
        2 * ((start + (i + (d + 1)) * (i + (d + 1) + 1) / 2) - (start + i * (i + 1) / 2)) := by
      omega
    rw [product, Nat.pow_succ, Nat.mul_comm (2 ^ k)]
    exact Nat.mul_dvd_mul_left 2 divides
  have bound : 2 ^ (k + 1) = 2 ^ k + 2 ^ k := by rw [Nat.pow_succ, Nat.mul_two]
  -- One factor is even and the other is odd; each is positive and below `2 ^ (k + 1)`.
  rcases Nat.even_or_odd (d + 1) with even | odd
  · have odd : Odd (2 * i + (d + 1) + 1) := by
      obtain ⟨e, isEven⟩ := even
      exact ⟨i + e, by omega⟩
    exact not_pow_dvd_mul_odd (Nat.succ_pos d) (by omega) odd divides
  · rw [Nat.mul_comm] at divides
    exact not_pow_dvd_mul_odd (Nat.succ_pos _) (by omega) odd divides

theorem bucket_injective (withinI : i < 2 ^ k) (withinJ : j < 2 ^ k)
    (same : bucket (2 ^ k) start i = bucket (2 ^ k) start j) : i = j := by
  rcases Nat.lt_trichotomy i j with less | rfl | greater
  · exact absurd same (bucket_ne less withinJ)
  · rfl
  · exact absurd same.symm (bucket_ne greater withinI)

/-- A list of `n` different numbers below `n` is a rearrangement of them. -/
theorem perm_range {numbers : List Nat} (nodup : numbers.Nodup) (length : numbers.length = n)
    (below : ∀ number ∈ numbers, number < n) : numbers.Perm (List.range n) := by
  have subset : numbers ⊆ List.range n := fun number member =>
    List.mem_range.mpr (below number member)
  refine (List.subperm_of_subset nodup subset).perm_of_length_le ?_
  rw [List.length_range, length]

/-- **In as many rounds as there are buckets, each bucket is visited once.** -/
theorem buckets_perm (k start : Nat) :
    ((List.range (2 ^ k)).map (bucket (2 ^ k) start)).Perm (List.range (2 ^ k)) := by
  refine perm_range ?_ (by rw [List.length_map, List.length_range]) ?_
  · refine List.Nodup.map_on (fun i withinI j withinJ same => ?_) List.nodup_range
    exact bucket_injective (List.mem_range.mp withinI) (List.mem_range.mp withinJ) same
  · intro number member
    obtain ⟨round, _, rfl⟩ := List.mem_map.mp member
    exact bucket_lt (Nat.two_pow_pos k) round

/-! ### Slots -/

/-- The slots of a bucket, those from an offset on first. -/
def rotated (width offset first : Nat) : List Nat :=
  (List.range' offset (width - offset) ++ List.range offset).map (first * width + ·)

/-- The slots of a bucket, in their order. -/
def inOrder (width first : Nat) : List Nat := (List.range width).map (first * width + ·)

theorem rotated_perm {width offset : Nat} (within : offset ≤ width) (first : Nat) :
    (rotated width offset first).Perm (inOrder width first) := by
  refine List.Perm.map _ (List.perm_append_comm.trans ?_)
  have joined : List.range' 0 offset ++ List.range' (0 + offset) (width - offset) =
      List.range' 0 (offset + (width - offset)) := List.range'_append_1
  rw [Nat.zero_add, Nat.add_sub_cancel' within] at joined
  rw [List.range_eq_range', List.range_eq_range', joined]

/-- The buckets one after another are the table. -/
theorem flatMap_inOrder (width count : Nat) :
    (List.range count).flatMap (inOrder width) = List.range (count * width) := by
  induction count with
  | zero => simp
  | succ count ih =>
    rw [List.range_succ, List.flatMap_append, ih, List.flatMap_singleton, Nat.succ_mul,
      List.range_add]
    rfl

/-- The slots in the order in which the first rounds visit them. -/
def order (width count offset start rounds : Nat) : List Nat :=
  (List.range rounds).flatMap fun round => rotated width offset (bucket count start round)

/-- **In as many rounds as there are buckets, each slot is visited once.** -/
theorem order_perm {width offset : Nat} (within : offset ≤ width) (k start : Nat) :
    (order width (2 ^ k) offset start (2 ^ k)).Perm (List.range (2 ^ k * width)) := by
  have inEachBucket : (order width (2 ^ k) offset start (2 ^ k)).Perm
      ((List.range (2 ^ k)).flatMap fun round => inOrder width (bucket (2 ^ k) start round)) :=
    List.Perm.flatMap_left _ fun round _ => rotated_perm within _
  have overBuckets := (buckets_perm k start).flatMap_right (inOrder width)
  rw [List.flatMap_map, flatMap_inOrder] at overBuckets
  exact inEachBucket.trans overBuckets

end Probing
