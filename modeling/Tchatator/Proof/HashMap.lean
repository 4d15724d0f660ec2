/-
**Hash maps are association lists** (`stb_ds.h`).

* `Indexed` — the index of a map has a slot for each key, and room: what every operation keeps;
* `search_present`, `search_absent` — the search for a key ends at its slot, or at an empty one;
* `growIndex_spec` — an index that is full is copied to one that is not;
* `hmgeti_spec`, `hmput_spec` — the operations on a map are those on the list of its entries;
* **`hashMap_refines`** — in every sequence of operations, every loop ends, nothing outside the slots
  or the entries is accessed, and every result is that of the list;
* **`hashMap_load`** — at most three quarters of the slots are taken, and after growing more than
  three eighths.
-/

import Tchatator.Proof.HashIndex

namespace Tchatator.Stbds

open OpenAddressing

variable {κ ν : Type} {hashBytes : κ → UInt64 → UInt64}

/-! ### The index of some keys -/

/-- What is in the slots: the hash of each key and its index. -/
def occupantsOf (hashBytes : κ → UInt64 → UInt64) (seed : UInt64) (keys : List κ) :
    List HashSlot :=
  keys.mapIdx fun i key => ⟨storedHash (hashBytes key seed), i⟩

/-- **The index of some keys**: a slot for each, within the load that it allows. -/
structure Indexed (hashBytes : κ → UInt64 → UInt64) (keys : List κ) (index : HashIndex) :
    Prop where
  buckets : ∃ k, index.slotCount = 2 ^ k * bucketLength
  length : index.storage.length = index.slotCount
  marked : Marked index.storage
  table : Table index.slotCount (slotOrder index.slotCount) (slotsOf index.storage)
    (occupantsOf hashBytes index.seed keys)
  used : index.usedCount = keys.length
  tombstones : index.tombstoneCount = 0
  threshold : index.usedCountThreshold = index.slotCount - index.slotCount >>> 2
  tombstoneThreshold : index.tombstoneCountThreshold =
    (index.slotCount >>> 3) + (index.slotCount >>> 4)
  load : keys.length ≤ index.usedCountThreshold
  notSparse : index.slotCount = bucketLength ∨ 3 * index.slotCount ≤ 8 * keys.length

theorem storedHash_ne (hash : UInt64) : storedHash hash ≠ hashEmpty := by
  rw [storedHash]
  split
  · next small =>
    intro isEmpty
    have value := congrArg UInt64.toNat isEmpty
    rw [UInt64.lt_iff_toNat_lt] at small
    have two : (2 : UInt64).toNat = 2 := rfl
    have empty : hashEmpty.toNat = 0 := rfl
    rw [UInt64.toNat_add, two, empty] at value
    omega
  · next large =>
    rintro rfl
    exact large (by decide)

section Keys

variable {keys : List κ} {index : HashIndex} {i j : Nat} {slot : HashSlot}

theorem length_occupantsOf (seed : UInt64) (keys : List κ) :
    (occupantsOf hashBytes seed keys).length = keys.length := List.length_mapIdx

theorem mem_occupantsOf {seed : UInt64} :
    slot ∈ occupantsOf hashBytes seed keys ↔
      ∃ (i : Nat) (within : i < keys.length),
        (⟨storedHash (hashBytes keys[i] seed), i⟩ : HashSlot) = slot := List.mem_mapIdx

/-- The occupants have different indices. -/
theorem occupantsOf_nodup (seed : UInt64) (keys : List κ) :
    ((occupantsOf hashBytes seed keys).map HashSlot.index).Nodup := by
  refine List.pairwise_iff_getElem.mpr fun i j withinI withinJ before same => ?_
  simp only [occupantsOf, List.getElem_map, List.getElem_mapIdx, Int.ofNat_inj] at same
  exact absurd same (Nat.ne_of_lt before)

/-- What is in a slot is the hash of a key, with its index. -/
theorem Indexed.slot_spec (indexed : Indexed hashBytes keys index) (within : i < index.slotCount)
    (isThere : slotsOf index.storage i = some slot) :
    ∃ (j : Nat) (isKey : j < keys.length),
      slot = ⟨storedHash (hashBytes keys[j] index.seed), j⟩ := by
  obtain ⟨j, isKey, isSlot⟩ := mem_occupantsOf.mp (indexed.table.mem_occupants within isThere)
  exact ⟨j, isKey, isSlot.symm⟩

/-- The order of a hash visits every slot of the index, once. -/
theorem Indexed.visits (indexed : Indexed hashBytes keys index) (hash : UInt64) :
    (hashOrder index.slotCount hash).Perm (List.range index.slotCount) := by
  obtain ⟨k, size⟩ := indexed.buckets
  rw [size]
  exact hashOrder_perm k hash

/-- There is room for one more key, and a slot beside. -/
theorem Indexed.room (indexed : Indexed hashBytes keys index) :
    keys.length < index.slotCount ∧ 4 * index.usedCountThreshold = 3 * index.slotCount := by
  obtain ⟨k, size⟩ := indexed.buckets
  have load := indexed.load
  have threshold := indexed.threshold
  have positive := Nat.two_pow_pos k
  rw [Nat.shiftRight_eq_div_pow] at threshold
  rw [bucketLength] at size
  omega

end Keys

/-! ### Growing -/

section Growing

variable {keys : List κ} {index : HashIndex} {hashSeed : UInt64}

theorem bucketLength_eq : bucketLength = 2 ^ 0 * bucketLength := (Nat.one_mul _).symm

/-- An index with nothing in it. -/
theorem slotsOf_replicate (count : Nat) :
    slotsOf (List.replicate count ⟨hashEmpty, indexEmpty⟩) = fun _ => none := by
  funext i
  rw [slotsOf, List.getElem?_replicate]
  split <;> rfl

theorem marked_replicate (count : Nat) :
    Marked (List.replicate count ⟨hashEmpty, indexEmpty⟩) := by
  intro slot member
  rw [List.eq_of_mem_replicate member]
  exact ⟨fun inUse => absurd inUse (by decide), fun notEmpty => absurd rfl notEmpty⟩

/-- **The first index** of a map. -/
theorem makeHashIndex_first (hashBytes : κ → UInt64 → UInt64) (hashSeed : UInt64) :
    ∃ index after, makeHashIndex bucketLength none hashSeed = some (index, after) ∧
      Indexed hashBytes [] index ∧ index.usedCount < index.usedCountThreshold := by
  refine ⟨emptyIndex bucketLength hashSeed, _, rfl, ⟨⟨0, bucketLength_eq⟩, List.length_replicate,
    marked_replicate _, ?_, rfl, rfl, rfl, rfl, Nat.zero_le _, .inl rfl⟩, Nat.zero_lt_succ 5⟩
  show Table _ _ (slotsOf (List.replicate bucketLength _)) []
  rw [slotsOf_replicate]
  exact Table.empty _ _

/-- **A full index is copied to one twice as large**, with the same seed. -/
theorem makeHashIndex_twice (hashSeed : UInt64) (indexed : Indexed hashBytes keys index)
    (full : index.usedCountThreshold ≤ index.usedCount) :
    ∃ larger, makeHashIndex (index.slotCount * 2) (some index) hashSeed =
        some (larger, hashSeed) ∧
      Indexed hashBytes keys larger ∧ larger.usedCount < larger.usedCountThreshold := by
  obtain ⟨k, size⟩ := indexed.buckets
  obtain ⟨room, threshold⟩ := indexed.room
  have load := indexed.load
  have used := indexed.used
  have positive := Nat.two_pow_pos k
  have twice : index.slotCount * 2 = 2 ^ (k + 1) * bucketLength := by
    rw [size, Nat.pow_succ, Nat.mul_right_comm]
  have inUse := filterMap_slotsOf index.storage
  rw [indexed.length] at inUse
  have sameOccupants := indexed.table.holds
  rw [inUse] at sameOccupants
  have asMany := sameOccupants.length_eq
  rw [length_occupantsOf] at asMany
  have empty : Table (2 ^ (k + 1) * bucketLength) (slotOrder (2 ^ (k + 1) * bucketLength))
      (slotsOf (List.replicate (2 ^ (k + 1) * bucketLength) ⟨hashEmpty, indexEmpty⟩)) [] := by
    rw [slotsOf_replicate]
    exact Table.empty _ _
  obtain ⟨copied, isCopied, length, marked, table⟩ := copyOut_spec index.storage indexed.marked
    List.length_replicate empty (marked_replicate _) (by
      rw [List.length_nil, Nat.zero_add, asMany, ← twice]
      omega)
  rw [← twice] at isCopied length table
  rw [List.nil_append] at table
  have made : makeHashIndex (index.slotCount * 2) (some index) hashSeed =
      some ({ emptyIndex (index.slotCount * 2) index.seed with
        usedCount := index.usedCount
        storage := copied }, hashSeed) := by
    simp only [makeHashIndex, emptyIndex, isCopied]
  have larger : (emptyIndex (index.slotCount * 2) index.seed).usedCountThreshold =
      index.slotCount * 2 - index.slotCount * 2 / 4 := by
    rw [emptyIndex, Nat.shiftRight_eq_div_pow]
  refine ⟨_, made, ⟨⟨k + 1, twice⟩, length, marked, table.perm sameOccupants, used, rfl, rfl,
    rfl, ?_, .inr ?_⟩, ?_⟩
  · show keys.length ≤ (emptyIndex (index.slotCount * 2) index.seed).usedCountThreshold
    omega
  · show 3 * (index.slotCount * 2) ≤ 8 * keys.length
    omega
  · show index.usedCount < (emptyIndex (index.slotCount * 2) index.seed).usedCountThreshold
    omega

/-- **An index with room for one more key**, the old one or a larger one. -/
theorem growIndex_spec (table : Option HashIndex) (none : table = none → keys = [])
    (isIndexed : ∀ index ∈ table, Indexed hashBytes keys index) (hashSeed : UInt64) :
    ∃ index after, growIndex table hashSeed = some (index, after) ∧
      Indexed hashBytes keys index ∧ index.usedCount < index.usedCountThreshold := by
  cases table with
  | none =>
    rw [none rfl]
    exact makeHashIndex_first hashBytes hashSeed
  | some index =>
    have indexed := isIndexed index rfl
    by_cases full : index.usedCountThreshold ≤ index.usedCount
    · obtain ⟨larger, made, isLarger, room⟩ := makeHashIndex_twice hashSeed indexed full
      exact ⟨larger, hashSeed, by rw [growIndex, if_pos full, made], isLarger, room⟩
    · exact ⟨index, hashSeed, by rw [growIndex, if_neg full], indexed, Nat.lt_of_not_le full⟩

end Growing

/-! ### Searching -/

section Entries

variable {entries : List (κ × Option ν)} {index : HashIndex} {i j : Nat} {slot : HashSlot}

/-- What is in a slot is the hash of the key of an entry, with its index. -/
theorem Indexed.entry_spec (indexed : Indexed hashBytes (entries.map Prod.fst) index)
    (within : i < index.slotCount) (isThere : slotsOf index.storage i = some slot) :
    ∃ (j : Nat) (isEntry : j < entries.length),
      slot = ⟨storedHash (hashBytes entries[j].1 index.seed), j⟩ := by
  obtain ⟨j, isKey, isSlot⟩ := indexed.slot_spec within isThere
  rw [List.length_map] at isKey
  refine ⟨j, isKey, ?_⟩
  rw [isSlot, List.getElem_map]

/-- Entries with the same key are the same. -/
theorem entry_unique (nodup : (entries.map Prod.fst).Nodup) (isI : i < entries.length)
    (isJ : j < entries.length) (same : entries[i].1 = entries[j].1) : i = j := by
  have inMapI : i < (entries.map Prod.fst).length := by rwa [List.length_map]
  have inMapJ : j < (entries.map Prod.fst).length := by rwa [List.length_map]
  have sameKeys : (entries.map Prod.fst)[i] = (entries.map Prod.fst)[j] := by
    rw [List.getElem_map, List.getElem_map]
    exact same
  exact nodup.getElem_inj_iff.mp sameKeys

end Entries

section Searching

variable [DecidableEq κ] {entries : List (κ × Option ν)} {index : HashIndex} {key : κ} {i : Nat}
  {slot : HashSlot} {hash : UInt64}

/-- The slot is that of the key. -/
def isSlotOf (entries : List (κ × Option ν)) (key : κ) (hash : UInt64) (slot : HashSlot) : Bool :=
  slot.hash = hash && isKeyEqual entries key slot.index = some true

theorem isKeyEqual_spec (within : i < entries.length) :
    isKeyEqual entries key i = some (decide (entries[i].1 = key)) := by
  rw [isKeyEqual, if_pos (Int.natCast_nonneg i), Int.toNat_natCast, List.getElem?_eq_getElem within]
  rfl

theorem isSlotOf_iff (within : i < entries.length) {other : UInt64} :
    isSlotOf entries key hash ⟨other, i⟩ = true ↔ other = hash ∧ entries[i].1 = key := by
  rw [isSlotOf, isKeyEqual_spec within, Bool.and_eq_true, decide_eq_true_iff, decide_eq_true_iff,
    Option.some_inj, decide_eq_true_iff]

/-- **The search for a key that has an entry ends at its slot.** -/
theorem search_present (indexed : Indexed hashBytes (entries.map Prod.fst) index)
    (nodup : (entries.map Prod.fst).Nodup) (within : i < entries.length)
    (isKey : entries[i].1 = key) (isHash : hash = storedHash (hashBytes key index.seed)) :
    ∃ s < index.slotCount, search (slotsOf index.storage) (isSlotOf entries key hash)
        (hashOrder index.slotCount hash) = some s ∧
      slotsOf index.storage s = some ⟨hash, i⟩ := by
  have visits := indexed.visits hash
  have isOccupant : (⟨hash, i⟩ : HashSlot) ∈
      occupantsOf hashBytes index.seed (entries.map Prod.fst) := by
    refine mem_occupantsOf.mpr ⟨i, by rwa [List.length_map], ?_⟩
    rw [List.getElem_map, isKey, isHash]
  obtain ⟨s, inRange, isThere⟩ := indexed.table.exists_slot isOccupant
  have reached := indexed.table.reached s _ isThere
  simp only [slotOrder] at reached
  refine ⟨s, inRange, search_hit reached isThere ((isSlotOf_iff within).mpr ⟨rfl, isKey⟩) ?_
    (visits.nodup_iff.mpr List.nodup_range), isThere⟩
  intro j other member isOther isHit
  have inRangeJ : j < index.slotCount := List.mem_range.mp (visits.mem_iff.mp member)
  obtain ⟨n, isEntry, rfl⟩ := indexed.entry_spec inRangeJ isOther
  have sameKey : entries[n].1 = key := ((isSlotOf_iff isEntry).mp isHit).2
  have same : n = i := entry_unique nodup isEntry within (sameKey.trans isKey.symm)
  exact indexed.table.slot_unique HashSlot.index (occupantsOf_nodup _ _) inRangeJ inRange isOther
    isThere (congrArg Int.ofNat same)

/-- **The search for a key without an entry ends at an empty slot.** -/
theorem search_absent (indexed : Indexed hashBytes (entries.map Prod.fst) index)
    (absent : ∀ entry ∈ entries, entry.1 ≠ key) (hash : UInt64) :
    ∃ s < index.slotCount, search (slotsOf index.storage) (isSlotOf entries key hash)
        (hashOrder index.slotCount hash) = some s ∧ slotsOf index.storage s = none ∧
      Reaches (slotsOf index.storage) (hashOrder index.slotCount hash) s := by
  have visits := indexed.visits hash
  have room : (occupantsOf hashBytes index.seed (entries.map Prod.fst)).length <
      index.slotCount := by
    rw [length_occupantsOf]
    exact indexed.room.1
  have outside : ∀ j, index.slotCount ≤ j → slotsOf index.storage j = none := by
    intro j beyond
    rw [← indexed.length] at beyond
    exact slotsOf_outside beyond
  refine indexed.table.search_room ⟨hash, 0⟩ visits room ?_ outside
  intro other isOccupant
  obtain ⟨n, isKey, rfl⟩ := mem_occupantsOf.mp isOccupant
  rw [List.length_map] at isKey
  rw [Bool.eq_false_iff]
  intro isHit
  exact absent _ (List.getElem_mem isKey) ((isSlotOf_iff isKey).mp isHit).2

/-- A slot at which the search goes on is that of an entry with another key. -/
theorem Indexed.passed_spec (indexed : Indexed hashBytes (entries.map Prod.fst) index)
    (within : i < index.slotCount)
    (passed : (slotsOf index.storage i).all (isSlotOf entries key hash) = false) :
    ∃ slot, index.storage[i]? = some slot ∧ slot.hash ≠ hashEmpty ∧ slot.index ≠ indexDeleted ∧
      (slot.hash = hash → isKeyEqual entries key slot.index = some false) := by
  cases isThere : slotsOf index.storage i with
  | none =>
    rw [isThere] at passed
    cases passed
  | some slot =>
    obtain ⟨inStorage, notEmpty⟩ := slotsOf_eq_some.mp isThere
    obtain ⟨j, isEntry, rfl⟩ := indexed.entry_spec within isThere
    refine ⟨_, inStorage, notEmpty, ?_, fun sameHash => ?_⟩
    · exact fun deleted => absurd deleted (by simp [indexDeleted])
    · rw [isThere, Option.all_some, Bool.eq_false_iff] at passed
      have otherKey : entries[j].1 ≠ key := fun same =>
        passed ((isSlotOf_iff isEntry).mpr ⟨sameHash, same⟩)
      rw [isKeyEqual_spec isEntry, decide_eq_false otherKey]

/-- Both bodies go on where the search does; no slot is a tombstone. -/
theorem Indexed.goesOn (indexed : Indexed hashBytes (entries.map Prod.fst) index)
    (within : i < index.slotCount)
    (passed : (slotsOf index.storage i).all (isSlotOf entries key hash) = false) :
    findVisit entries key hash index.storage () i = .goOn () ∧
      putVisit entries key hash index.storage (-1) i = .goOn (-1) := by
  obtain ⟨slot, isSlot, notEmpty, notDeleted, other⟩ := indexed.passed_spec within passed
  have noTombstone : ¬ ((-1 : Int) < 0 ∧ slot.index = indexDeleted) := fun both =>
    notDeleted both.2
  by_cases sameHash : slot.hash = hash
  · simp only [findVisit, putVisit, isSlot, if_pos sameHash, other sameHash, and_self]
  · simp only [findVisit, putVisit, isSlot, if_neg sameHash, if_neg notEmpty, if_neg noTombstone,
      and_self]

/-- Both loops leave at the slot of a key that has an entry. -/
theorem probe_present (indexed : Indexed hashBytes (entries.map Prod.fst) index)
    (nodup : (entries.map Prod.fst).Nodup) (within : i < entries.length)
    (isKey : entries[i].1 = key) (isHash : hash = storedHash (hashBytes key index.seed)) :
    ∃ s : Nat, index.storage[s]? = some ⟨hash, i⟩ ∧
      probe index.slotCount (findVisit entries key hash index.storage) () hash = some (s : Int) ∧
      probe index.slotCount (putVisit entries key hash index.storage) (-1) hash =
        some (.existing i) := by
  obtain ⟨k, size⟩ := indexed.buckets
  obtain ⟨s, inRange, found, isThere⟩ := search_present indexed nodup within isKey isHash
  obtain ⟨inStorage, _⟩ := slotsOf_eq_some.mp isThere
  have goesOn : ∀ j < index.slotCount,
      (slotsOf index.storage j).all (isSlotOf entries key hash) = false →
        findVisit entries key hash index.storage () j = .goOn () ∧
          putVisit entries key hash index.storage (-1) j = .goOn (-1) := fun _ => indexed.goesOn
  rw [size] at found goesOn
  rw [size]
  refine ⟨s, inStorage, ?_, ?_⟩
  · refine probe_search (fun j inRange passed => (goesOn j inRange passed).1) found ?_
    simp only [findVisit, inStorage, if_true, isKeyEqual_spec within, isKey, decide_true]
  · refine probe_search (fun j inRange passed => (goesOn j inRange passed).2) found ?_
    simp only [putVisit, inStorage, if_true, isKeyEqual_spec within, isKey, decide_true]

/-- Both loops leave at an empty slot for a key without an entry, which may take it. -/
theorem probe_absent (indexed : Indexed hashBytes (entries.map Prod.fst) index)
    (absent : ∀ entry ∈ entries, entry.1 ≠ key) (notEmpty : hash ≠ hashEmpty) :
    ∃ s < index.slotCount, slotsOf index.storage s = none ∧
      Reaches (slotsOf index.storage) (hashOrder index.slotCount hash) s ∧
      probe index.slotCount (findVisit entries key hash index.storage) () hash = some (-1) ∧
      probe index.slotCount (putVisit entries key hash index.storage) (-1) hash =
        some (.empty s (-1)) := by
  obtain ⟨k, size⟩ := indexed.buckets
  obtain ⟨s, inRange, found, isEmpty, reached⟩ := search_absent indexed absent hash
  have inStorage : s < index.storage.length := indexed.length.symm ▸ inRange
  have emptyHash := (slotsOf_eq_none inStorage).mp isEmpty
  have isSlot := List.getElem?_eq_getElem inStorage
  have otherHash : index.storage[s].hash ≠ hash := fun same => notEmpty (same ▸ emptyHash)
  have goesOn : ∀ j < index.slotCount,
      (slotsOf index.storage j).all (isSlotOf entries key hash) = false →
        findVisit entries key hash index.storage () j = .goOn () ∧
          putVisit entries key hash index.storage (-1) j = .goOn (-1) := fun _ => indexed.goesOn
  refine ⟨s, inRange, isEmpty, reached, ?_⟩
  rw [size] at found goesOn
  rw [size]
  constructor
  · refine probe_search (fun j inRange passed => (goesOn j inRange passed).1) found ?_
    simp only [findVisit, isSlot, if_neg otherHash, if_pos emptyHash]
  · refine probe_search (fun j inRange passed => (goesOn j inRange passed).2) found ?_
    simp only [putVisit, isSlot, if_neg otherHash, if_pos emptyHash]

end Searching

/-! ### Maps -/

/-- **A map that is not null holds the entries of a list.** -/
structure HashMap.Valid (hashBytes : κ → UInt64 → UInt64) (map : HashMap κ ν)
    (list : List (κ × ν)) : Prop where
  entries : map.entries = list.map fun entry => (entry.1, some entry.2)
  nodup : (list.map Prod.fst).Nodup
  capacity : map.entries.length + 1 ≤ map.capacity
  unindexed : map.hashTable = none → list = []
  indexed : ∀ index ∈ map.hashTable, Indexed hashBytes (list.map Prod.fst) index

/-- A map holds the entries of a list; null, none. -/
def Holds (hashBytes : κ → UInt64 → UInt64) (map : Option (HashMap κ ν))
    (list : List (κ × ν)) : Prop :=
  match map with
  | none => list = []
  | some map => map.Valid hashBytes list

/-- The index of a key in a list; `-1` if it is not there. -/
def listGeti [DecidableEq κ] (list : List (κ × ν)) (key : κ) : Int :=
  match list.findIdx? fun entry => entry.1 = key with
  | none => -1
  | some i => i

/-- A list with a value for a key: in its place, or at the end. -/
def listPut [DecidableEq κ] (list : List (κ × ν)) (key : κ) (value : ν) : List (κ × ν) :=
  match list.findIdx? fun entry => entry.1 = key with
  | none => list ++ [(key, value)]
  | some i => list.set i (key, value)

section Maps

variable {map : HashMap κ ν} {list : List (κ × ν)} {index : HashIndex} {key : κ} {i : Nat}

theorem HashMap.Valid.keys (valid : map.Valid hashBytes list) :
    map.entries.map Prod.fst = list.map Prod.fst := by
  rw [valid.entries, List.map_map]
  rfl

theorem newMap_valid : (newMap : HashMap κ ν).Valid hashBytes [] :=
  ⟨rfl, List.nodup_nil, Nat.le_add_left 1 3, fun _ => rfl, nofun⟩

/-- **A key takes the empty slot at which its search ends.** -/
theorem Indexed.add {keys : List κ} (indexed : Indexed hashBytes keys index)
    (room : index.usedCount < index.usedCountThreshold) (within : i < index.slotCount)
    (empty : slotsOf index.storage i = none)
    (reached : Reaches (slotsOf index.storage)
      (hashOrder index.slotCount (storedHash (hashBytes key index.seed))) i) :
    Indexed hashBytes (keys ++ [key]) { index with
      usedCount := index.usedCount + 1
      storage := index.storage.set i ⟨storedHash (hashBytes key index.seed), keys.length⟩ } := by
  have used := indexed.used
  have longer : (keys ++ [key]).length = keys.length + 1 := List.length_append
  have inStorage : i < index.storage.length := indexed.length.symm ▸ within
  have inUse : 0 ≤ (keys.length : Int) ↔ storedHash (hashBytes key index.seed) ≠ hashEmpty :=
    ⟨fun _ => storedHash_ne _, fun _ => Int.natCast_nonneg _⟩
  refine ⟨indexed.buckets, List.length_set.trans indexed.length, marked_set indexed.marked inUse,
    ?_, ?_, indexed.tombstones, indexed.threshold, indexed.tombstoneThreshold, ?_, ?_⟩
  · have more : occupantsOf hashBytes index.seed (keys ++ [key]) =
        occupantsOf hashBytes index.seed keys ++
          [⟨storedHash (hashBytes key index.seed), keys.length⟩] := List.mapIdx_concat
    have reached : Reaches (slotsOf index.storage)
        (slotOrder index.slotCount ⟨storedHash (hashBytes key index.seed), keys.length⟩) i := by
      simp only [slotOrder]
      exact reached
    have taken := indexed.table.take within empty reached
    rw [← slotsOf_set inStorage (storedHash_ne _), ← more] at taken
    exact taken
  · show index.usedCount + 1 = (keys ++ [key]).length
    omega
  · show (keys ++ [key]).length ≤ index.usedCountThreshold
    omega
  · have notSparse := indexed.notSparse
    show index.slotCount = bucketLength ∨ 3 * index.slotCount ≤ 8 * (keys ++ [key]).length
    omega

variable [DecidableEq κ]

/-- Where the key is in the list, and so in the entries. -/
theorem HashMap.Valid.present (valid : map.Valid hashBytes list)
    (found : (list.findIdx? fun entry => entry.1 = key) = some i) :
    ∃ (inList : i < list.length) (inEntries : i < map.entries.length),
      list[i].1 = key ∧ map.entries[i].1 = key := by
  obtain ⟨inList, isKey, _⟩ := List.findIdx?_eq_some_iff_getElem.mp found
  have isKey : list[i].1 = key := by simpa using isKey
  have entries := valid.entries
  have inEntries : i < map.entries.length := by rwa [entries, List.length_map]
  refine ⟨inList, inEntries, isKey, ?_⟩
  simp only [entries, List.getElem_map]
  exact isKey

/-- A key that is not in the list has no entry. -/
theorem HashMap.Valid.absent (valid : map.Valid hashBytes list)
    (notFound : (list.findIdx? fun entry => entry.1 = key) = none) :
    (∀ entry ∈ map.entries, entry.1 ≠ key) ∧ key ∉ list.map Prod.fst := by
  have others : ∀ entry ∈ list, entry.1 ≠ key := fun entry member => by
    simpa using List.findIdx?_eq_none_iff.mp notFound entry member
  refine ⟨fun entry member => ?_, fun isKey => ?_⟩
  · rw [valid.entries] at member
    obtain ⟨pair, inList, rfl⟩ := List.mem_map.mp member
    exact others pair inList
  · obtain ⟨pair, inList, isKey⟩ := List.mem_map.mp isKey
    exact others pair inList isKey

/-- **`hmgeti` is the index in the list**, and leaves the entries as they are. -/
theorem hmgeti_spec {map : Option (HashMap κ ν)} (holds : Holds hashBytes map list) (key : κ) :
    ∃ after, hmgeti hashBytes map key = some (listGeti list key, after) ∧
      after.Valid hashBytes list := by
  cases map with
  | none =>
    obtain rfl : list = [] := holds
    exact ⟨newMap, rfl, newMap_valid⟩
  | some map =>
    have valid : map.Valid hashBytes list := holds
    refine ⟨map, ?_, valid⟩
    cases isTable : map.hashTable with
    | none =>
      obtain rfl := valid.unindexed isTable
      simp only [hmgeti, isTable]
      rfl
    | some index =>
      have indexed := valid.indexed index isTable
      rw [← valid.keys] at indexed
      cases found : list.findIdx? fun entry => entry.1 = key with
      | none =>
        obtain ⟨s, _, _, _, searched, _⟩ := probe_absent indexed (valid.absent found).1
          (storedHash_ne (hashBytes key index.seed))
        have notThere : hmFindSlot hashBytes map.entries index key = some (-1) := searched
        simp only [hmgeti, isTable, notThere, listGeti, found]
        rfl
      | some i =>
        obtain ⟨_, inEntries, _, isKey⟩ := valid.present found
        obtain ⟨s, isSlot, searched, _⟩ := probe_present indexed
          (valid.keys ▸ valid.nodup) inEntries isKey rfl
        have isThere : hmFindSlot hashBytes map.entries index key = some (s : Int) := searched
        have notNegative : ¬ (s : Int) < 0 := Int.not_lt.mpr (Int.natCast_nonneg s)
        simp only [hmgeti, isTable, isThere, listGeti, found, if_neg notNegative,
          Int.toNat_natCast, isSlot]
        rfl

/-- **Storing the value of a key in its entry.** -/
theorem HashMap.Valid.set (valid : map.Valid hashBytes list)
    (found : (list.findIdx? fun entry => entry.1 = key) = some i) (value : ν) :
    ({ map with entries := map.entries.set i (key, some value) } : HashMap κ ν).Valid hashBytes
      (list.set i (key, value)) := by
  obtain ⟨inList, _, isKey, _⟩ := valid.present found
  have sameKeys : (list.set i (key, value)).map Prod.fst = list.map Prod.fst := by
    have inKeys : i < (list.map Prod.fst).length := by rwa [List.length_map]
    have isKey : (list.map Prod.fst)[i] = key := by rw [List.getElem_map, isKey]
    rw [List.map_set, ← isKey, List.set_getElem_self]
  refine ⟨?_, sameKeys ▸ valid.nodup, ?_, fun isNull => ?_, fun index isTable => ?_⟩
  · show map.entries.set i (key, some value) = _
    rw [valid.entries, List.map_set]
  · show (map.entries.set i (key, some value)).length + 1 ≤ map.capacity
    rw [List.length_set]
    exact valid.capacity
  · rw [valid.unindexed isNull]
    rfl
  · rw [sameKeys]
    exact valid.indexed index isTable

omit [DecidableEq κ] in
/-- A map with another index of the same keys. -/
theorem HashMap.Valid.reindex (valid : map.Valid hashBytes list)
    (indexed : Indexed hashBytes (list.map Prod.fst) index) :
    ({ map with hashTable := some index } : HashMap κ ν).Valid hashBytes list := by
  refine ⟨valid.entries, valid.nodup, valid.capacity, nofun, ?_⟩
  rintro _ ⟨⟩
  exact indexed

omit [DecidableEq κ] in
/-- Without a tombstone, the empty slot is taken. -/
theorem addEntry_hashTable (map : HashMap κ ν) (index : HashIndex) (key : κ) (hash : UInt64)
    (slot : Nat) :
    (addEntry map index key hash slot (-1)).hashTable = some { index with
      usedCount := index.usedCount + 1
      storage := index.storage.set slot ⟨hash, map.entries.length⟩ } := by
  have noTombstone : ¬ (0 : Int) ≤ -1 := by decide
  simp only [addEntry, if_neg noTombstone, Nat.add_sub_cancel]

/-- A key without an entry gets one, at the end. -/
theorem hmput_absent (valid : map.Valid hashBytes list)
    (indexed : Indexed hashBytes (list.map Prod.fst) index)
    (room : index.usedCount < index.usedCountThreshold)
    (notFound : (list.findIdx? fun entry => entry.1 = key) = none) (within : i < index.slotCount)
    (empty : slotsOf index.storage i = none)
    (reached : Reaches (slotsOf index.storage)
      (hashOrder index.slotCount (storedHash (hashBytes key index.seed))) i) (value : ν) :
    ({ addEntry map index key (storedHash (hashBytes key index.seed)) i (-1) with
      entries := map.entries ++ [(key, some value)] } : HashMap κ ν).Valid hashBytes
        (list ++ [(key, value)]) := by
  have length : map.entries.length = (list.map Prod.fst).length := by
    rw [valid.entries, List.length_map, List.length_map]
  have newKeys : (list ++ [(key, value)]).map Prod.fst = list.map Prod.fst ++ [key] :=
    List.map_append
  refine ⟨?_, ?_, ?_, nofun, fun grown isTable => ?_⟩
  · show map.entries ++ [(key, some value)] = _
    rw [List.map_append, valid.entries]
    rfl
  · rw [newKeys]
    refine List.nodup_append.mpr ⟨valid.nodup, List.nodup_singleton key, ?_⟩
    intro other isKey new isNew same
    rw [List.mem_singleton.mp isNew] at same
    exact (valid.absent notFound).2 (same ▸ isKey)
  · have fits := valid.capacity
    show (map.entries ++ [(key, some value)]).length + 1 ≤
      (addEntry map index key (storedHash (hashBytes key index.seed)) i (-1)).capacity
    rw [List.length_append, List.length_singleton]
    simp only [addEntry, increasedCapacity]
    split
    · split
      · omega
      · split <;> omega
    · omega
  · have added := indexed.add room within empty reached
    rw [← length] at added
    rw [newKeys]
    rw [addEntry_hashTable] at isTable
    obtain rfl := Option.some.inj isTable
    exact added

/-- **`hmput` stores the value in the list**, whether its index has grown or not. -/
theorem hmput_spec {map : Option (HashMap κ ν)} (holds : Holds hashBytes map list)
    (hashSeed : UInt64) (key : κ) (value : ν) :
    ∃ after seed, hmput hashBytes hashSeed map key value = some (after, seed) ∧
      after.Valid hashBytes (listPut list key value) := by
  have valid : (map.getD newMap).Valid hashBytes list := by
    cases map with
    | none =>
      obtain rfl : list = [] := holds
      exact newMap_valid
    | some map => exact holds
  generalize isMap : map.getD newMap = start at valid
  obtain ⟨index, seed, grown, indexed, room⟩ := growIndex_spec start.hashTable
    (fun isNone => by rw [valid.unindexed isNone]; rfl) valid.indexed hashSeed
  have inEntries := indexed
  rw [← valid.keys] at inEntries
  cases found : list.findIdx? fun entry => entry.1 = key with
  | none =>
    obtain ⟨s, within, empty, reached, _, searched⟩ := probe_absent inEntries
      (valid.absent found).1 (storedHash_ne (hashBytes key index.seed))
    have newEntry : (start.entries ++ [(key, none)]).set start.entries.length (key, some value) =
        start.entries ++ [(key, some value)] := by
      rw [List.set_append_right _ _ (Nat.le_refl _), Nat.sub_self, List.set_cons_zero]
    have put : hmput hashBytes hashSeed map key value =
        some ({ addEntry start index key (storedHash (hashBytes key index.seed)) s (-1) with
          entries := start.entries ++ [(key, some value)] }, seed) := by
      simp only [hmput, hmputKey, isMap, grown, searched, Int.toNat_natCast, addEntry, newEntry]
    refine ⟨_, seed, put, ?_⟩
    simp only [listPut, found]
    exact hmput_absent valid indexed room found within empty reached value
  | some i =>
    obtain ⟨_, inRange, _, isKey⟩ := valid.present found
    obtain ⟨s, _, _, searched⟩ := probe_present inEntries (valid.keys ▸ valid.nodup) inRange isKey
      rfl
    have put : hmput hashBytes hashSeed map key value =
        some ({ start with
          hashTable := some index
          entries := start.entries.set i (key, some value) }, seed) := by
      simp only [hmput, hmputKey, isMap, grown, searched, Int.toNat_natCast]
    refine ⟨_, seed, put, ?_⟩
    simp only [listPut, found]
    exact (valid.reindex indexed).set found value

end Maps

/-! ### Sequences of operations -/

section Runs

variable [DecidableEq κ]

/-- A sequence of operations on a list: the results of looking for keys, and the list. -/
def listRun (list : List (κ × ν)) : List (MapOp κ ν) → List Int × List (κ × ν)
  | [] => ([], list)
  | .geti key :: ops => (listGeti list key :: (listRun list ops).1, (listRun list ops).2)
  | .put key value :: ops => listRun (listPut list key value) ops

theorem mapRun_spec {map : Option (HashMap κ ν)} {list : List (κ × ν)}
    (holds : Holds hashBytes map list) (hashSeed : UInt64) (ops : List (MapOp κ ν)) :
    ∃ after seed, mapRun hashBytes hashSeed map ops = some ((listRun list ops).1, after, seed) ∧
      Holds hashBytes after (listRun list ops).2 := by
  induction ops generalizing map list hashSeed with
  | nil => exact ⟨map, hashSeed, rfl, holds⟩
  | cons op ops ih =>
    cases op with
    | geti key =>
      obtain ⟨next, isNext, nextValid⟩ := hmgeti_spec holds key
      have nextHolds : Holds hashBytes (some next) list := nextValid
      obtain ⟨after, seed, ran, holdsAfter⟩ := ih nextHolds hashSeed
      refine ⟨after, seed, ?_, holdsAfter⟩
      simp only [mapRun, isNext, ran]
      rfl
    | put key value =>
      obtain ⟨next, seed, isNext, nextValid⟩ := hmput_spec holds hashSeed key value
      have nextHolds : Holds hashBytes (some next) (listPut list key value) := nextValid
      obtain ⟨after, seed', ran, holdsAfter⟩ := ih nextHolds seed
      refine ⟨after, seed', ?_, holdsAfter⟩
      simp only [mapRun, isNext, ran]
      rfl

/-- **A hash map is an association list**, whatever the hash function and the seed: in every sequence
of operations every loop ends, no slot or entry that does not exist is accessed, every result is
that of the list, and the map ends with the entries of the list, in order. -/
theorem hashMap_refines (hashBytes : κ → UInt64 → UInt64) (hashSeed : UInt64)
    (ops : List (MapOp κ ν)) :
    ∃ after seed, mapRun hashBytes hashSeed none ops = some ((listRun [] ops).1, after, seed) ∧
      ∀ map ∈ after, map.entries = (listRun [] ops).2.map fun entry => (entry.1, some entry.2) := by
  have isNull : Holds hashBytes (none : Option (HashMap κ ν)) [] := rfl
  obtain ⟨after, seed, ran, holds⟩ := mapRun_spec isNull hashSeed ops
  refine ⟨after, seed, ran, ?_⟩
  rintro map rfl
  exact HashMap.Valid.entries holds

/-- **The load of an index**, after every sequence of operations: it counts the entries, has no
tombstone, at most three quarters of its slots are taken and, once it has grown, at least three
eighths; an empty slot is left to end the loops, and what the source asserts of its thresholds
holds. -/
theorem hashMap_load (hashBytes : κ → UInt64 → UInt64) (hashSeed : UInt64)
    (ops : List (MapOp κ ν)) :
    ∃ results after seed, mapRun hashBytes hashSeed none ops = some (results, after, seed) ∧
      ∀ map ∈ after, map.entries.length + 1 ≤ map.capacity ∧ ∀ index ∈ map.hashTable,
        index.usedCount = map.entries.length ∧ index.tombstoneCount = 0 ∧
        4 * index.usedCount ≤ 3 * index.slotCount ∧
        (index.slotCount = bucketLength ∨ 3 * index.slotCount ≤ 8 * index.usedCount) ∧
        (∃ slot ∈ index.storage, slot.hash = hashEmpty) ∧
        index.usedCountThreshold + index.tombstoneCountThreshold < index.slotCount := by
  have isNull : Holds hashBytes (none : Option (HashMap κ ν)) [] := rfl
  obtain ⟨after, seed, ran, holds⟩ := mapRun_spec isNull hashSeed ops
  refine ⟨_, after, seed, ran, ?_⟩
  rintro map rfl
  have valid : map.Valid hashBytes (listRun [] ops).2 := holds
  refine ⟨valid.capacity, fun index isTable => ?_⟩
  have indexed := valid.indexed index isTable
  obtain ⟨room, threshold⟩ := indexed.room
  have load := indexed.load
  have used := indexed.used
  have sparse := indexed.notSparse
  have entries : map.entries.length = ((listRun [] ops).2.map Prod.fst).length := by
    rw [← valid.keys, List.length_map]
  have fewer : (occupantsOf hashBytes index.seed ((listRun [] ops).2.map Prod.fst)).length <
      index.slotCount := by rwa [length_occupantsOf]
  obtain ⟨i, within, empty⟩ := exists_empty indexed.table.holds fewer
  have inStorage : i < index.storage.length := indexed.length.symm ▸ within
  refine ⟨used.trans entries.symm, indexed.tombstones, by omega, used ▸ sparse,
    ⟨_, List.getElem_mem inStorage, (slotsOf_eq_none inStorage).mp empty⟩, ?_⟩
  obtain ⟨k, size⟩ := indexed.buckets
  have positive := Nat.two_pow_pos k
  rw [indexed.tombstoneThreshold, Nat.shiftRight_eq_div_pow, Nat.shiftRight_eq_div_pow]
  rw [bucketLength] at size
  omega

end Runs

end Tchatator.Stbds
