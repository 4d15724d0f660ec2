/-
**The index of a hash map** (`stb_ds.h`).

* `hashOrder` — the slots in the order in which the loops visit them;
* **`probe_permutation`** — they are all the slots, each once, whatever the hash;
* `probe_search` — a loop whose body only looks for a slot is a search along them;
* `copyOut_spec` — copying an index keeps its slots.
-/

import Tchatator.Library.OpenAddressing
import Tchatator.Library.Probing
import Tchatator.Model.HashMap

namespace Tchatator.Stbds

open OpenAddressing

/-! ### The order of the slots -/

/-- **The slots of an index in the order in which a loop visits them.** -/
def hashOrder (slotCount : Nat) (hash : UInt64) : List Nat :=
  let pos := probePosition hash slotCount
  Probing.order bucketLength (slotCount / bucketLength) (pos % bucketLength) (pos / bucketLength)
    (slotCount / bucketLength)

/-- What a loop gives that ends as its body does. -/
def Visit.result {σ ρ : Type} : Visit σ ρ → Option ρ
  | .goOn _ => none
  | .leave result => some result
  | .fault => none

theorem bucketSlots_eq (pos : Nat) :
    bucketSlots pos = Probing.rotated bucketLength (pos % bucketLength) (pos / bucketLength) := by
  have limit : pos &&& bucketMask = pos % bucketLength := Nat.and_two_pow_sub_one_eq_mod pos 3
  rw [bucketSlots, limit, Nat.shiftRight_eq_div_pow]
  rfl

/-- The order visits every slot of an index, once. -/
theorem hashOrder_perm (k : Nat) (hash : UInt64) :
    (hashOrder (2 ^ k * bucketLength) hash).Perm (List.range (2 ^ k * bucketLength)) := by
  have count : 2 ^ k * bucketLength / bucketLength = 2 ^ k :=
    Nat.mul_div_cancel _ (by decide)
  rw [hashOrder, count]
  exact Probing.order_perm (Nat.le_of_lt (Nat.mod_lt _ (by decide))) k _

section Loops

variable {σ ρ : Type} {visit : σ → Nat → Visit σ ρ}

theorem visitSlots_append (state : σ) (slots more : List Nat) :
    visitSlots visit state (slots ++ more) =
      match visitSlots visit state slots with
      | .goOn state => visitSlots visit state more
      | .leave result => .leave result
      | .fault => .fault := by
  induction slots generalizing state with
  | nil => rfl
  | cons slot slots ih =>
    rw [List.cons_append, visitSlots, visitSlots]
    cases visit state slot with
    | goOn state => exact ih state
    | leave result => rfl
    | fault => rfl

/-- What a position modulo the number of slots is: in the bucket modulo the number of buckets. -/
theorem position_mod (count first offset : Nat) (inBucket : offset < bucketLength) :
    (first * bucketLength + offset) % (bucketLength * count) =
      first % count * bucketLength + offset := by
  have low : (first * bucketLength + offset) % bucketLength = offset := by
    simp only [bucketLength] at inBucket ⊢
    omega
  have high : (first * bucketLength + offset) / bucketLength = first := by
    simp only [bucketLength] at inBucket ⊢
    omega
  rw [Nat.mod_mul, low, high, Nat.mul_comm, Nat.add_comm]

/-- **The next position**: the same in its bucket, in the bucket of the next round. -/
theorem next_position (k round offset start : Nat) (inBucket : offset < bucketLength) :
    (Probing.bucket (2 ^ k) start round * bucketLength + offset + bucketLength * (round + 1)) &&&
        (2 ^ k * bucketLength - 1) =
      Probing.bucket (2 ^ k) start (round + 1) * bucketLength + offset := by
  have size : 2 ^ k * bucketLength = 2 ^ (k + 3) := (Nat.pow_add 2 k 3).symm
  have regroup : Probing.bucket (2 ^ k) start round * bucketLength + offset +
      bucketLength * (round + 1) =
        (Probing.bucket (2 ^ k) start round + (round + 1)) * bucketLength + offset := by
    rw [Nat.add_mul, Nat.mul_comm bucketLength, Nat.add_right_comm]
  rw [regroup, size, Nat.and_two_pow_sub_one_eq_mod, ← size, Nat.mul_comm (2 ^ k),
    position_mod _ _ _ inBucket]
  rfl

/-- Some rounds visit the slots of their buckets. -/
theorem probeFrom_eq (k offset start : Nat) (inBucket : offset < bucketLength) (rounds round : Nat)
    (state : σ) :
    probeFrom (2 ^ k * bucketLength) visit rounds state
        (Probing.bucket (2 ^ k) start round * bucketLength + offset) (bucketLength * (round + 1)) =
      (visitSlots visit state ((List.range' round rounds).flatMap fun round =>
        Probing.rotated bucketLength offset (Probing.bucket (2 ^ k) start round))).result := by
  induction rounds generalizing round state with
  | zero => rfl
  | succ rounds ih =>
    have slots : bucketSlots (Probing.bucket (2 ^ k) start round * bucketLength + offset) =
        Probing.rotated bucketLength offset (Probing.bucket (2 ^ k) start round) := by
      have low : (Probing.bucket (2 ^ k) start round * bucketLength + offset) % bucketLength =
          offset := by
        simp only [bucketLength] at inBucket ⊢
        omega
      have high : (Probing.bucket (2 ^ k) start round * bucketLength + offset) / bucketLength =
          Probing.bucket (2 ^ k) start round := by
        simp only [bucketLength] at inBucket ⊢
        omega
      rw [bucketSlots_eq, low, high]
    rw [probeFrom, slots, List.range'_succ, List.flatMap_cons, visitSlots_append]
    cases visitSlots visit state
        (Probing.rotated bucketLength offset (Probing.bucket (2 ^ k) start round)) with
    | goOn state =>
      have later := ih (round + 1) state
      rw [← next_position k round offset start inBucket] at later
      exact later
    | leave result => rfl
    | fault => rfl

/-- **A loop over buckets is a pass over the slots in their order.** -/
theorem probe_eq (k : Nat) (state : σ) (hash : UInt64) :
    probe (2 ^ k * bucketLength) visit state hash =
      (visitSlots visit state (hashOrder (2 ^ k * bucketLength) hash)).result := by
  have count : 2 ^ k * bucketLength / bucketLength = 2 ^ k :=
    Nat.mul_div_cancel _ (by decide)
  have size : 2 ^ k * bucketLength = 2 ^ (k + 3) := (Nat.pow_add 2 k 3).symm
  have within : probePosition hash (2 ^ k * bucketLength) / bucketLength < 2 ^ k := by
    rw [Nat.div_lt_iff_lt_mul (by decide), probePosition, size, Nat.and_two_pow_sub_one_eq_mod]
    exact Nat.mod_lt _ (Nat.two_pow_pos _)
  have start : probePosition hash (2 ^ k * bucketLength) =
      Probing.bucket (2 ^ k) (probePosition hash (2 ^ k * bucketLength) / bucketLength) 0 *
        bucketLength + probePosition hash (2 ^ k * bucketLength) % bucketLength := by
    rw [Probing.bucket, Nat.mod_eq_of_lt within]
    exact (Nat.div_add_mod' _ _).symm
  have rounds : (2 ^ k * bucketLength) >>> bucketShift = 2 ^ k := by
    rw [Nat.shiftRight_eq_div_pow]
    exact count
  have visited : probeFrom (2 ^ k * bucketLength) visit (2 ^ k) state _ _ = _ :=
    probeFrom_eq k (probePosition hash (2 ^ k * bucketLength) % bucketLength)
      (probePosition hash (2 ^ k * bucketLength) / bucketLength) (Nat.mod_lt _ (by decide)) (2 ^ k)
      0 state
  rw [← start, ← List.range_eq_range'] at visited
  rw [probe, rounds, hashOrder, count]
  exact visited

end Loops

/-- **A loop over buckets visits every slot of the index once**, before it visits one again:
whatever the hash, and whatever its body does. -/
theorem probe_permutation (k : Nat) (hash : UInt64) :
    ∃ order, order.Perm (List.range (2 ^ k * bucketLength)) ∧
      ∀ (σ ρ : Type) (visit : σ → Nat → Visit σ ρ) (state : σ),
        probe (2 ^ k * bucketLength) visit state hash = (visitSlots visit state order).result :=
  ⟨hashOrder (2 ^ k * bucketLength) hash, hashOrder_perm k hash, fun _ _ _ state =>
    probe_eq k state hash⟩

/-! ### Slots -/

/-- What is in a slot: nothing if its hash is that of an empty one. -/
def slotsOf (storage : List HashSlot) (i : Nat) : Option HashSlot :=
  (storage[i]?).filter fun slot => slot.hash ≠ hashEmpty

/-- The slots in which an occupant may be. -/
def slotOrder (slotCount : Nat) (slot : HashSlot) : List Nat := hashOrder slotCount slot.hash

section Slots

variable {σ ρ : Type} {visit : σ → Nat → Visit σ ρ} {storage : List HashSlot} {i k : Nat}
  {slot : HashSlot}

theorem slotsOf_eq_some :
    slotsOf storage i = some slot ↔ storage[i]? = some slot ∧ slot.hash ≠ hashEmpty := by
  simp [slotsOf, Option.filter_eq_some_iff]

theorem slotsOf_eq_none (within : i < storage.length) :
    slotsOf storage i = none ↔ storage[i].hash = hashEmpty := by
  simp [slotsOf, List.getElem?_eq_getElem within, Option.filter_eq_none_iff]

theorem slotsOf_outside (beyond : storage.length ≤ i) : slotsOf storage i = none := by
  rw [slotsOf, List.getElem?_eq_none beyond]
  rfl

/-- Storing a slot that is not empty takes it. -/
theorem slotsOf_set (within : i < storage.length) (notEmpty : slot.hash ≠ hashEmpty) :
    slotsOf (storage.set i slot) = Function.update (slotsOf storage) i (some slot) := by
  funext j
  by_cases same : j = i
  · subst same
    rw [Function.update_self]
    exact slotsOf_eq_some.mpr ⟨List.getElem?_set_self within, notEmpty⟩
  · rw [Function.update_of_ne same, slotsOf, slotsOf, List.getElem?_set_ne (Ne.symm same)]

/-- The slots that are taken, in order. -/
theorem filterMap_slotsOf (storage : List HashSlot) :
    (List.range storage.length).filterMap (slotsOf storage) =
      storage.filter fun slot => slot.hash ≠ hashEmpty := by
  induction storage with
  | nil => rfl
  | cons slot storage ih =>
    have shifted : slotsOf (slot :: storage) ∘ Nat.succ = slotsOf storage := by
      funext i
      rfl
    rw [List.length_cons, List.range_succ_eq_map, List.filterMap_cons, List.filterMap_map, shifted,
      ih, List.filter_cons]
    by_cases empty : slot.hash = hashEmpty
    · simp [slotsOf, Option.filter, empty]
    · simp [slotsOf, Option.filter, empty]

/-- A body that goes on as it is at the slots of a list. -/
theorem visitSlots_goOn {state : σ} {slots : List Nat}
    (goesOn : ∀ i ∈ slots, visit state i = .goOn state) :
    visitSlots visit state slots = .goOn state := by
  induction slots with
  | nil => rfl
  | cons slot slots ih =>
    rw [visitSlots, goesOn slot List.mem_cons_self]
    exact ih fun i later => goesOn i (List.mem_cons_of_mem _ later)

/-- **A loop whose body only looks for a slot is a search**: it leaves at the slot where the search
ends. -/
theorem probe_search {hash : UInt64} {hit : HashSlot → Bool} {state : σ} {result : ρ}
    (goesOn : ∀ j < 2 ^ k * bucketLength, (slotsOf storage j).all hit = false →
      visit state j = .goOn state)
    (found : search (slotsOf storage) hit (hashOrder (2 ^ k * bucketLength) hash) = some i)
    (leaves : visit state i = .leave result) :
    probe (2 ^ k * bucketLength) visit state hash = some result := by
  obtain ⟨_, passed, rest, split, passes⟩ := List.find?_eq_some_iff_append.mp found
  have goesOn : visitSlots visit state passed = .goOn state := by
    refine visitSlots_goOn fun j member => goesOn j ?_ (by simpa using passes j member)
    have inOrder : j ∈ hashOrder (2 ^ k * bucketLength) hash := by
      rw [split]
      exact List.mem_append_left _ member
    exact List.mem_range.mp ((hashOrder_perm k hash).mem_iff.mp inOrder)
  rw [probe_eq, split, visitSlots_append, goesOn]
  simp only [visitSlots, leaves]
  rfl

end Slots

/-! ### Copying an index -/

/-- The slots of an index in use are those that are not empty. -/
def Marked (storage : List HashSlot) : Prop :=
  ∀ slot ∈ storage, 0 ≤ slot.index ↔ slot.hash ≠ hashEmpty

section Copying

variable {storage : List HashSlot} {k : Nat} {occupants : List HashSlot} {slot : HashSlot}

theorem marked_set {i : Nat} (marked : Marked storage)
    (inUse : 0 ≤ slot.index ↔ slot.hash ≠ hashEmpty) : Marked (storage.set i slot) := by
  intro other member
  rcases List.mem_or_eq_of_mem_set member with old | rfl
  · exact marked other old
  · exact inUse

/-- **One slot is copied** to an index with room: a loop ends at an empty slot, and taking it keeps
the index. -/
theorem rehash_spec (length : storage.length = 2 ^ k * bucketLength)
    (table : Table (2 ^ k * bucketLength) (slotOrder (2 ^ k * bucketLength)) (slotsOf storage)
      occupants)
    (room : occupants.length < 2 ^ k * bucketLength) (notEmpty : slot.hash ≠ hashEmpty) :
    ∃ i, probe (2 ^ k * bucketLength) (rehashVisit storage) () slot.hash = some i ∧
      Table (2 ^ k * bucketLength) (slotOrder (2 ^ k * bucketLength))
        (slotsOf (storage.set i slot)) (occupants ++ [slot]) := by
  have nothingHit : ∀ other ∈ occupants, (fun _ : HashSlot => false) other = false := fun _ _ => rfl
  obtain ⟨i, within, found, empty, reached⟩ := table.search_room slot
    (hashOrder_perm k slot.hash) room nothingHit fun j beyond => slotsOf_outside (length ▸ beyond)
  have inStorage : i < storage.length := length ▸ within
  refine ⟨i, probe_search (fun j inRange taken => ?_) found ?_, ?_⟩
  · have isThere : j < storage.length := length ▸ inRange
    have notEmpty : storage[j].hash ≠ hashEmpty := by
      intro isEmpty
      rw [(slotsOf_eq_none isThere).mpr isEmpty] at taken
      cases taken
    simp only [rehashVisit, List.getElem?_eq_getElem isThere, if_neg notEmpty]
  · have isEmpty := (slotsOf_eq_none inStorage).mp empty
    simp only [rehashVisit, List.getElem?_eq_getElem inStorage, if_pos isEmpty]
  · rw [slotsOf_set inStorage notEmpty]
    exact table.take within empty reached

/-- **Copying old slots** to an index with room for those in use. -/
theorem copyOut_spec (old : List HashSlot) (marked : Marked old)
    (length : storage.length = 2 ^ k * bucketLength)
    (table : Table (2 ^ k * bucketLength) (slotOrder (2 ^ k * bucketLength)) (slotsOf storage)
      occupants)
    (newMarked : Marked storage)
    (room : occupants.length + (old.filter fun slot => slot.hash ≠ hashEmpty).length ≤
      2 ^ k * bucketLength) :
    ∃ copied, copyOut (2 ^ k * bucketLength) old storage = some copied ∧
      copied.length = 2 ^ k * bucketLength ∧ Marked copied ∧
      Table (2 ^ k * bucketLength) (slotOrder (2 ^ k * bucketLength)) (slotsOf copied)
        (occupants ++ old.filter fun slot => slot.hash ≠ hashEmpty) := by
  induction old generalizing storage occupants with
  | nil =>
    rw [List.filter_nil, List.append_nil]
    exact ⟨storage, rfl, length, newMarked, table⟩
  | cons slot old ih =>
    have inUse := marked slot List.mem_cons_self
    have markedLater : Marked old := fun other later => marked other (List.mem_cons_of_mem _ later)
    by_cases empty : slot.hash = hashEmpty
    · have unused : ¬ 0 ≤ slot.index := fun used => inUse.mp used empty
      rw [List.filter_cons_of_neg (by simpa using empty)] at room ⊢
      rw [copyOut, if_neg unused]
      exact ih markedLater length table newMarked room
    · rw [List.filter_cons_of_pos (by simpa using empty)] at room ⊢
      rw [List.length_cons] at room
      obtain ⟨i, found, taken⟩ := rehash_spec length table (by omega) empty
      obtain ⟨copied, isCopied, copiedLength, copiedMarked, copiedTable⟩ :=
        ih markedLater ((List.length_set).trans length) taken (marked_set newMarked inUse)
          (by rw [List.length_append, List.length_singleton]; omega)
      rw [List.append_assoc] at copiedTable
      refine ⟨copied, ?_, copiedLength, copiedMarked, copiedTable⟩
      rw [copyOut, if_pos (inUse.mpr empty), found]
      exact isCopied

end Copying

end Tchatator.Stbds
