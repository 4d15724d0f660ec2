/-
**Hash maps** (`stb_ds.h`).

A map is an array of entries in the order of their insertion, after a default element that nothing
here reads, and an index of them: a table of buckets of slots, in which a slot holds the hash of a
key and the index of its entry. A search goes through the slots of a bucket, from its position to
the end and from the beginning to the position, then goes on with a bucket further on. The loops of
the source have no bound; here they are given as many rounds as there are buckets, and `none` is a
loop that has not ended by then, or an access outside the slots or the entries.

Keys are of any type, with a hash function that is given a seed. No map of the program is for
strings, and none is deleted from.
-/

import Tchatator.Model.DynArray

namespace Tchatator.Stbds

/-! ### Slots -/

/-- `STBDS_BUCKET_LENGTH`. -/
def bucketLength : Nat := 8

/-- `STBDS_BUCKET_SHIFT`. -/
def bucketShift : Nat := 3

/-- `STBDS_BUCKET_MASK`. -/
def bucketMask : Nat := bucketLength - 1

/-- `STBDS_INDEX_EMPTY`. -/
def indexEmpty : Int := -1

/-- `STBDS_INDEX_DELETED`. -/
def indexDeleted : Int := -2

/-- `STBDS_HASH_EMPTY`. -/
def hashEmpty : UInt64 := 0

/-- A slot of a `stbds_hash_bucket`. -/
structure HashSlot where
  hash : UInt64
  index : Int
deriving DecidableEq

/-- `stbds_hash_index`; `storage` has the slots of the buckets one after another. -/
structure HashIndex where
  slotCount : Nat
  usedCount : Nat
  usedCountThreshold : Nat
  usedCountShrinkThreshold : Nat
  tombstoneCount : Nat
  tombstoneCountThreshold : Nat
  seed : UInt64
  storage : List HashSlot

/-- `stbds_probe_position`. -/
def probePosition (hash : UInt64) (slotCount : Nat) : Nat := hash.toNat &&& (slotCount - 1)

/-- The slots of the bucket of a position, in the order in which the loops visit them. -/
def bucketSlots (pos : Nat) : List Nat :=
  let limit := pos &&& bucketMask
  (List.range' limit (bucketLength - limit) ++ List.range limit).map fun i =>
    (pos >>> bucketShift) * bucketLength + i

/-! ### Probing -/

/-- What the body of a loop does with a slot. -/
inductive Visit (σ ρ : Type)
  | goOn (state : σ)
  | leave (result : ρ)
  | fault

section

variable {σ ρ : Type}

/-- The loops over the slots of a bucket. -/
def visitSlots (visit : σ → Nat → Visit σ ρ) : σ → List Nat → Visit σ ρ
  | state, [] => .goOn state
  | state, slot :: slots =>
      match visit state slot with
      | .goOn state => visitSlots visit state slots
      | .leave result => .leave result
      | .fault => .fault

/-- The loop over buckets (quadratic probing), for a number of rounds. -/
def probeFrom (slotCount : Nat) (visit : σ → Nat → Visit σ ρ) : Nat → σ → Nat → Nat → Option ρ
  | 0, _, _, _ => none
  | rounds + 1, state, pos, step =>
      match visitSlots visit state (bucketSlots pos) with
      | .goOn state =>
          probeFrom slotCount visit rounds state ((pos + step) &&& (slotCount - 1))
            (step + bucketLength)
      | .leave result => some result
      | .fault => none

/-- The loop over buckets, from the position of a hash. -/
def probe (slotCount : Nat) (visit : σ → Nat → Visit σ ρ) (state : σ) (hash : UInt64) : Option ρ :=
  probeFrom slotCount visit (slotCount >>> bucketShift) state (probePosition hash slotCount)
    bucketLength

end

/-! ### Making an index -/

/-- The copy of an old slot to new ones stops at an empty one. -/
def rehashVisit (storage : List HashSlot) (_ : Unit) (slot : Nat) : Visit Unit Nat :=
  match storage[slot]? with
  | none => .fault
  | some old => if old.hash = hashEmpty then .leave slot else .goOn ()

/-- Copy the old slots that are in use. -/
def copyOut (slotCount : Nat) : List HashSlot → List HashSlot → Option (List HashSlot)
  | [], storage => some storage
  | old :: rest, storage =>
      if 0 ≤ old.index then
        match probe slotCount (rehashVisit storage) () old.hash with
        | none => none
        | some slot => copyOut slotCount rest (storage.set slot old)
      else copyOut slotCount rest storage

/-- An index of empty slots, and its thresholds, computed without overflowing. -/
def emptyIndex (slotCount : Nat) (seed : UInt64) : HashIndex :=
  { slotCount := slotCount
    usedCount := 0
    usedCountThreshold := slotCount - (slotCount >>> 2)
    usedCountShrinkThreshold := if slotCount ≤ bucketLength then 0 else slotCount >>> 2
    tombstoneCount := 0
    tombstoneCountThreshold := (slotCount >>> 3) + (slotCount >>> 4)
    seed := seed
    storage := List.replicate slotCount ⟨hashEmpty, indexEmpty⟩ }

/-- `stbds_make_hash_index`: the index, and `stbds_hash_seed` after it. A copy has the seed of the
old index, and so its hashes. -/
def makeHashIndex (slotCount : Nat) (old : Option HashIndex) (hashSeed : UInt64) :
    Option (HashIndex × UInt64) :=
  match old with
  | none => some (emptyIndex slotCount hashSeed, hashSeed * 2862933555777941757 + 3037000493)
  | some old =>
      match copyOut slotCount old.storage (emptyIndex slotCount old.seed).storage with
      | none => none
      | some storage =>
          some ({ emptyIndex slotCount old.seed with
            usedCount := old.usedCount
            storage := storage }, hashSeed)

/-! ### Maps -/

/-- A map that is not null: the capacity of its array, its entries, whose value is stored after
their key, and its index. -/
structure HashMap (κ ν : Type) where
  capacity : Nat
  entries : List (κ × Option ν)
  hashTable : Option HashIndex

section

variable {κ ν : Type} [DecidableEq κ]

/-- The array of a map that was null: the default element, and no index. -/
def newMap : HashMap κ ν := { capacity := increasedCapacity 0 1, entries := [], hashTable := none }

/-- Hashes below 2 are not stored. -/
def storedHash (hash : UInt64) : UInt64 := if hash < 2 then hash + 2 else hash

/-- `stbds_is_key_equal`. -/
def isKeyEqual (entries : List (κ × Option ν)) (key : κ) (index : Int) : Option Bool :=
  if 0 ≤ index then (entries[index.toNat]?).map fun entry => decide (entry.1 = key) else none

/-- The search of `stbds_hm_find_slot` stops at the key or at an empty slot. -/
def findVisit (entries : List (κ × Option ν)) (key : κ) (hash : UInt64) (storage : List HashSlot)
    (_ : Unit) (slot : Nat) : Visit Unit Int :=
  match storage[slot]? with
  | none => .fault
  | some found =>
      if found.hash = hash then
        match isKeyEqual entries key found.index with
        | none => .fault
        | some true => .leave slot
        | some false => .goOn ()
      else if found.hash = hashEmpty then .leave (-1)
      else .goOn ()

/-- `stbds_hm_find_slot`. -/
def hmFindSlot (hashBytes : κ → UInt64 → UInt64) (entries : List (κ × Option ν))
    (table : HashIndex) (key : κ) : Option Int :=
  let hash := storedHash (hashBytes key table.seed)
  probe table.slotCount (findVisit entries key hash table.storage) () hash

/-- `stbds_hmget_key`, and `hmgeti`: the index of the key or `-1`, and the map. -/
def hmgeti (hashBytes : κ → UInt64 → UInt64) (map : Option (HashMap κ ν)) (key : κ) :
    Option (Int × HashMap κ ν) :=
  match map with
  | none => some (indexEmpty, newMap)
  | some map =>
      match map.hashTable with
      | none => some (-1, map)
      | some table =>
          match hmFindSlot hashBytes map.entries table key with
          | none => none
          | some slot =>
              if slot < 0 then some (indexEmpty, map)
              else (table.storage[slot.toNat]?).map fun found => (found.index, map)

/-- Where the search of `stbds_hmput_key` ends. -/
inductive PutPosition
  | existing (index : Int)
  | empty (slot : Nat) (tombstone : Int)

/-- The search of `stbds_hmput_key` remembers the first tombstone it sees. -/
def putVisit (entries : List (κ × Option ν)) (key : κ) (hash : UInt64) (storage : List HashSlot)
    (tombstone : Int) (slot : Nat) : Visit Int PutPosition :=
  match storage[slot]? with
  | none => .fault
  | some found =>
      if found.hash = hash then
        match isKeyEqual entries key found.index with
        | none => .fault
        | some true => .leave (.existing found.index)
        | some false => .goOn tombstone
      else if found.hash = hashEmpty then .leave (.empty slot tombstone)
      else if tombstone < 0 ∧ found.index = indexDeleted then .goOn slot
      else .goOn tombstone

/-- The index of `stbds_hmput_key`: a new one when there is none, or when it is full. -/
def growIndex (table : Option HashIndex) (hashSeed : UInt64) : Option (HashIndex × UInt64) :=
  match table with
  | none => makeHashIndex bucketLength none hashSeed
  | some table =>
      if table.usedCountThreshold ≤ table.usedCount then
        makeHashIndex (table.slotCount * 2) (some table) hashSeed
      else some (table, hashSeed)

/-- A new entry of `stbds_hmput_key`: its slot is taken, and its key is stored. -/
def addEntry (map : HashMap κ ν) (table : HashIndex) (key : κ) (hash : UInt64) (slot : Nat)
    (tombstone : Int) : HashMap κ ν :=
  let i := map.entries.length + 1
  { capacity := if map.capacity < i + 1 then increasedCapacity map.capacity (i + 1)
      else map.capacity
    entries := map.entries ++ [(key, none)]
    hashTable := some { table with
      usedCount := table.usedCount + 1
      tombstoneCount := if 0 ≤ tombstone then table.tombstoneCount - 1 else table.tombstoneCount
      storage := table.storage.set (if 0 ≤ tombstone then tombstone.toNat else slot)
        ⟨hash, (i - 1 : Nat)⟩ } }

/-- `stbds_hmput_key`: the index of the entry of the key, the map, and `stbds_hash_seed`. -/
def hmputKey (hashBytes : κ → UInt64 → UInt64) (hashSeed : UInt64) (map : Option (HashMap κ ν))
    (key : κ) : Option (Int × HashMap κ ν × UInt64) :=
  let map := map.getD newMap
  match growIndex map.hashTable hashSeed with
  | none => none
  | some (table, hashSeed) =>
      let hash := storedHash (hashBytes key table.seed)
      match probe table.slotCount (putVisit map.entries key hash table.storage) (-1) hash with
      | none => none
      | some (.existing index) => some (index, { map with hashTable := some table }, hashSeed)
      | some (.empty slot tombstone) =>
          some (map.entries.length, addEntry map table key hash slot tombstone, hashSeed)

/-- `hmput`: the key and its value are stored in the entry. -/
def hmput (hashBytes : κ → UInt64 → UInt64) (hashSeed : UInt64) (map : Option (HashMap κ ν))
    (key : κ) (value : ν) : Option (HashMap κ ν × UInt64) :=
  match hmputKey hashBytes hashSeed map key with
  | none => none
  | some (index, map, hashSeed) =>
      some ({ map with entries := map.entries.set index.toNat (key, some value) }, hashSeed)

end

/-! ### Sequences of operations -/

/-- An operation on a map. -/
inductive MapOp (κ ν : Type)
  | geti (key : κ)
  | put (key : κ) (value : ν)

/-- **A sequence of operations on one map**: the results of `hmgeti`, the map, and
`stbds_hash_seed`. -/
def mapRun {κ ν : Type} [DecidableEq κ] (hashBytes : κ → UInt64 → UInt64) (hashSeed : UInt64)
    (map : Option (HashMap κ ν)) :
    List (MapOp κ ν) → Option (List Int × Option (HashMap κ ν) × UInt64)
  | [] => some ([], map, hashSeed)
  | .geti key :: ops =>
      match hmgeti hashBytes map key with
      | none => none
      | some (i, map) =>
          (mapRun hashBytes hashSeed map ops).map fun (results, after) => (i :: results, after)
  | .put key value :: ops =>
      match hmput hashBytes hashSeed map key value with
      | none => none
      | some (map, hashSeed) => mapRun hashBytes hashSeed map ops

/-! ### Keys of four bytes -/

/-- `stbds_hash_bytes` of four bytes. -/
def stbdsHashBytes (key : UInt32) (seed : UInt64) : UInt64 :=
  let hash : UInt32 := key ^^^ seed.toUInt32
  let hash : UInt32 := (hash ^^^ (61 : UInt32)) ^^^ (hash >>> 16)
  let hash : UInt32 := hash + (hash <<< 3)
  let hash : UInt32 := hash ^^^ (hash >>> 4)
  let hash : UInt32 := hash * 0x27d4eb2d
  let hash : UInt32 := hash ^^^ seed.toUInt32
  let hash : UInt32 := hash ^^^ (hash >>> 15)
  ((hash.toUInt64 <<< 16 <<< 16) ||| hash.toUInt64) ^^^ seed

/-- `stbds_hash_seed`, when the program starts. -/
def initialHashSeed : UInt64 := 0x31415926

end Tchatator.Stbds
