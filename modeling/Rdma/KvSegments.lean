import Rdma.KvMaps
import Rdma.Runs

/-!
The scatter-gather put of the store (`kv_store.h`). `putSGL` sets up the entry
of the key first and copies the segments one behind the other after that. Where
the lengths of the segments add up to the size it is the put of their
concatenation (`putSGL_eq_put`). The lengths are added in 32 bits, so it does
what it is for exactly while this sum does not hide a larger one
(`put_sgl_agrees_iff`).
-/
namespace Rdma.KvSegments
open Rdma.Arrays Rdma.KvProtocols Rdma.LinearProbing Rdma.KvStores Rdma.Runs

/-- An `iovec`, with the bytes at its pointer. -/
structure Segment where
  iovBase : Nat → UInt8
  iovLen : UInt64

/-- The lengths are `size_t` and the sum is `uint32_t`. -/
def calculatedSize (segments : List Segment) : UInt32 :=
  segments.foldl (fun calculated segment => (calculated.toUInt64 + segment.iovLen).toUInt32) 0

/-- The entry of the key is set up for a value of the size before any byte is copied: the slot of the value, or nothing
    where the table is full. With a table of no positions the slot would be read before it is set. -/
def prepareSGL (hash : UInt64 → UInt64) (store : KVStore) (key : UInt64) (totalSize : UInt32) :
    Option (Option (UInt32 × KVStore)) := do
  match ← store.lookup hash key with
  | some (index, existing) =>
    let table ← store.hashTable.write index.toNat { existing with valueSize := totalSize }
    some (some (existing.slotIndex, { store with
      hashTable := table
      usedBytes := store.usedBytes - existing.valueSize.toUInt64 }))
  | none =>
    match ← store.probeFrom store.hashTableSize.toNat (hash key &&& store.hashMask) with
    | some index =>
      let slotIndex ← store.freeSlots.getLast?
      let table ← store.hashTable.write index.toNat ⟨key, slotIndex, totalSize, true, false⟩
      some (some (slotIndex, { store with
        hashTable := table
        freeSlots := store.freeSlots.dropLast
        usedSlots := store.usedSlots + 1 }))
    | none => if store.hashTableSize = 0 then none else some none

/-- Copy segments to slot. -/
def copySegments (slotPtr : UInt64) : Cells UInt8 → UInt64 → List Segment → Option (Cells UInt8)
  | pool, _, [] => some pool
  | pool, offset, segment :: rest => do
    let pool ← pool.store (slotPtr + offset).toNat segment.iovLen.toNat segment.iovBase
    copySegments slotPtr pool (offset + segment.iovLen) rest

/-- What `PutSGL` does after its checks. -/
def storeSGL (hash : UInt64 → UInt64) (store : KVStore) (key : UInt64) (segments : List Segment) (totalSize : UInt32) :
    Option (Status × KVStore) := do
  match ← prepareSGL hash store key totalSize with
  | none => some (.noSpace, store)
  | some (slotIndex, store) =>
    let pool ← copySegments (store.getSlotPtr slotIndex) store.storagePool 0 segments
    some (.ok, { store with storagePool := pool, usedBytes := store.usedBytes + totalSize.toUInt64 })

def putSGL (hash : UInt64 → UInt64) (store : KVStore) (key : UInt64) (segments : List Segment) (totalSize : UInt32) :
    Option (Status × KVStore) :=
  if !isValidValueSize totalSize || segments.isEmpty then some (.invalidRequest, store)
  else if calculatedSize segments ≠ totalSize then some (.invalidRequest, store)
  else if store.freeSlots.isEmpty then some (.noSpace, store)
  else storeSGL hash store key segments totalSize

/-! ### The concatenation of the segments -/

/-- The number of bytes of all segments. -/
def total (segments : List Segment) : Nat := (segments.map fun segment => segment.iovLen.toNat).sum

def concatenation : List Segment → Nat → UInt8
  | [], _ => 0
  | segment :: rest, i =>
    if i < segment.iovLen.toNat then segment.iovBase i else concatenation rest (i - segment.iovLen.toNat)

@[simp] theorem total_nil : total [] = 0 := rfl

@[simp] theorem total_cons (segment : Segment) (rest : List Segment) :
    total (segment :: rest) = segment.iovLen.toNat + total rest := by simp [total]

theorem calculated_from (segments : List Segment) (start : UInt32) :
    (segments.foldl (fun calculated segment => (calculated.toUInt64 + segment.iovLen).toUInt32) start).toNat =
      (start.toNat + total segments) % 2 ^ 32 := by
  induction segments generalizing start with
  | nil => simp [Nat.mod_eq_of_lt start.toNat_lt]
  | cons segment rest ih =>
    rw [List.foldl_cons, ih, total_cons]
    simp only [UInt64.toNat_toUInt32, UInt64.toNat_add, UInt32.toNat_toUInt64]
    omega

theorem calculatedSize_toNat (segments : List Segment) : (calculatedSize segments).toNat = total segments % 2 ^ 32 := by
  rw [calculatedSize, calculated_from]
  simp

/-- The check compares the sizes modulo `2 ^ 32`. -/
theorem calculatedSize_eq_iff {segments : List Segment} {totalSize : UInt32} :
    calculatedSize segments = totalSize ↔ total segments % 2 ^ 32 = totalSize.toNat := by
  rw [← UInt32.toNat_inj, calculatedSize_toNat]

/-- Writing the segments one behind the other is one write. -/
theorem copySegments_store {slotPtr : UInt64} {pool : Cells UInt8} {segments : List Segment} {offset : UInt64}
    (begins : slotPtr.toNat + offset.toNat ≤ pool.size) (small : pool.size < 2 ^ 64) :
    copySegments slotPtr pool offset segments =
      pool.store (slotPtr.toNat + offset.toNat) (total segments) (concatenation segments) := by
  induction segments generalizing pool offset with
  | nil =>
    have room : slotPtr.toNat + offset.toNat + 0 ≤ pool.size := begins
    rw [total_nil, store_inside room, paste_zero]
    rfl
  | cons segment rest ih =>
    have start : (slotPtr + offset).toNat = slotPtr.toNat + offset.toNat := by
      rw [UInt64.toNat_add, Nat.mod_eq_of_lt (by omega)]
    have later : ∀ stored, pool.store (slotPtr.toNat + offset.toNat) segment.iovLen.toNat segment.iovBase = some stored →
        copySegments slotPtr stored (offset + segment.iovLen) rest =
          stored.store (slotPtr.toNat + offset.toNat + segment.iovLen.toNat) (total rest) (concatenation rest) := by
      intro stored wrote
      obtain ⟨fits, rfl⟩ := store_some wrote
      have next : (offset + segment.iovLen).toNat = offset.toNat + segment.iovLen.toNat := by
        rw [UInt64.toNat_add, Nat.mod_eq_of_lt (by omega)]
      have begun : slotPtr.toNat + (offset + segment.iovLen).toNat ≤
          (pool.paste (slotPtr.toNat + offset.toNat) segment.iovLen.toNat segment.iovBase).size := by
        rw [paste_size, next]
        omega
      rw [ih begun small, next, Nat.add_assoc]
    rw [copySegments, start, Option.bind_eq_bind, Option.bind_congr later, store_store, total_cons]
    rfl

theorem copySegments_zero {pool : Cells UInt8} {segments : List Segment} (small : pool.size < 2 ^ 64)
    (nonempty : segments ≠ []) (slotPtr : UInt64) :
    copySegments slotPtr pool 0 segments = pool.store slotPtr.toNat (total segments) (concatenation segments) := by
  by_cases begins : slotPtr.toNat ≤ pool.size
  · exact copySegments_store begins small
  cases segments with
  | nil => exact absurd rfl nonempty
  | cons segment rest =>
    rw [copySegments, UInt64.add_zero, store_outside (by omega), store_outside (by omega)]
    rfl

theorem copySegments_size {slotPtr : UInt64} {pool copied : Cells UInt8} {offset : UInt64} {segments : List Segment}
    (copies : copySegments slotPtr pool offset segments = some copied) : copied.size = pool.size := by
  induction segments generalizing pool offset with
  | nil =>
    obtain rfl : pool = copied := by simpa [copySegments] using copies
    rfl
  | cons segment rest ih =>
    obtain ⟨written, stored, later⟩ := Option.bind_eq_some_iff.mp copies
    rw [ih later]
    unfold Cells.store at stored
    split at stored
    · obtain rfl := Option.some.inj stored
      exact paste_size ..
    · cases stored

section Puts
variable {hash : UInt64 → UInt64} {width : Nat} {store : KVStore}

/-- The store once a value is written to the slot of its entry. -/
def finished (prepared : KVStore) (slotIndex : UInt32) (valueData : Nat → UInt8) (valueSize : UInt32) : KVStore :=
  { prepared with
    storagePool := prepared.storagePool.paste (prepared.getSlotPtr slotIndex).toNat valueSize.toNat valueData
    usedBytes := prepared.usedBytes + valueSize.toUInt64 }

/-- A slot of the store is set up for the key, and writing a value to it makes up the put of the value. -/
structure Prepared (hash : UInt64 → UInt64) (store : KVStore) (key : UInt64) (size slotIndex : UInt32)
    (prepared : KVStore) : Prop where
  inside : slotIndex.toNat < store.numSlots.toNat
  config : prepared.config = store.config
  pool : prepared.storagePool = store.storagePool
  put : ∀ valueData, store.put hash key valueData size = some (.ok, finished prepared slotIndex valueData size)

/-- The entry of the key set up for another value. -/
def resized (store : KVStore) (index : UInt64) (existing : Entry) (size : UInt32) : KVStore :=
  { store with
    hashTable := store.hashTable.put index.toNat { existing with valueSize := size }
    usedBytes := store.usedBytes - existing.valueSize.toUInt64 }

/-- A new entry for the key with the slot at the back of the free slots. -/
def reserved (store : KVStore) (index key : UInt64) (slotIndex size : UInt32) : KVStore :=
  { store with
    hashTable := store.hashTable.put index.toNat ⟨key, slotIndex, size, true, false⟩
    freeSlots := store.freeSlots.dropLast
    usedSlots := store.usedSlots + 1 }

/-- The store with other bytes in the pool and a value of the size counted. -/
def written (prepared : KVStore) (pool : Cells UInt8) (size : UInt32) : KVStore :=
  { prepared with storagePool := pool, usedBytes := prepared.usedBytes + size.toUInt64 }

/-- The entry that is set up: the one of the key, or a new one at the first empty position. -/
inductive PrepareCase (hash : UInt64 → UInt64) (width : Nat) (store : KVStore) (key : UInt64) (size : UInt32) :
    UInt32 → KVStore → Prop
  | update (index : UInt64) (entry : Entry) (inside : index.toNat < 2 ^ width)
    (filled : (live store.hashTable).cell index.toNat = some entry) (same : entry.key = key) :
    PrepareCase hash width store key size entry.slotIndex (resized store index entry size)
  | insert (index : UInt64) (slotIndex : UInt32) (absent : Absent width store key)
    (last : store.freeSlots.getLast? = some slotIndex)
    (vacant : (tableLayout hash width).vacancy (live store.hashTable).cell (2 ^ width)
      ((tableLayout hash width).home key) = some index.toNat) :
    PrepareCase hash width store key size slotIndex (reserved store index key slotIndex size)

/-- Setting up the entry makes the same search as a put, which then writes its value to the slot. -/
theorem prepare_cases (tabled : Tabled hash width store) (key : UInt64) {size : UInt32}
    (valid : isValidValueSize size = true) (some_ : store.freeSlots ≠ []) :
    (prepareSGL hash store key size = some none ∧ Absent width store key ∧
        (∀ index < 2 ^ width, (live store.hashTable).cell index ≠ none) ∧
        ∀ valueData, store.put hash key valueData size = some (.noSpace, store)) ∨
      ∃ slotIndex prepared, prepareSGL hash store key size = some (some (slotIndex, prepared)) ∧
        PrepareCase hash width store key size slotIndex prepared ∧
        ∀ valueData, store.put hash key valueData size =
          (store.storagePool.store (store.getSlotPtr slotIndex).toNat size.toNat valueData).bind fun pool =>
            some (.ok, written prepared pool size) := by
  cases put_search tabled key valid some_ with
  | update index entry inside filled same found puts =>
    have wrote := write_inside (tabled.table ▸ inside : index.toNat < store.hashTable.size)
    refine .inr ⟨entry.slotIndex, _, ?_, .update index entry inside filled same, fun valueData => ?_⟩
    · simp only [prepareSGL, found, Option.bind_eq_bind, Option.bind_some, wrote]
      rfl
    · simp only [puts, KVStore.update, Option.bind_eq_bind, Option.bind_some, wrote]
      rfl
  | insert index slotIndex inside absent last vacant missing probed puts =>
    have wrote := write_inside (tabled.table ▸ inside : index.toNat < store.hashTable.size)
    refine .inr ⟨slotIndex, _, ?_, .insert index slotIndex absent last vacant, fun valueData => ?_⟩
    · simp only [prepareSGL, missing, probed, last, Option.bind_eq_bind, Option.bind_some, wrote]
      rfl
    · simp only [puts, KVStore.insert, last, Option.bind_eq_bind, Option.bind_some, wrote]
      rfl
  | full absent taken missing probed puts =>
    have positions : store.hashTableSize ≠ 0 := by
      intro zero
      have power := tabled.power
      rw [zero] at power
      exact absurd power.symm (Nat.two_pow_pos width).ne'
    refine .inl ⟨?_, absent, taken, puts⟩
    simp [prepareSGL, missing, probed, positions]

/-- Only the table, the free slots and the counters are set up. -/
theorem PrepareCase.frame {key : UInt64} {size slotIndex : UInt32} {prepared : KVStore}
    (did : PrepareCase hash width store key size slotIndex prepared) :
    prepared.config = store.config ∧ prepared.storagePool = store.storagePool ∧
      prepared.getSlotPtr slotIndex = store.getSlotPtr slotIndex := by
  cases did with
  | update => exact ⟨rfl, rfl, rfl⟩
  | insert => exact ⟨rfl, rfl, rfl⟩

/-- Under consistency the slot is one of the store, so the put succeeds. -/
theorem prepare_spec (consistent : Consistent hash width store) {key : UInt64} {size slotIndex : UInt32}
    {prepared : KVStore} (valid : isValidValueSize size = true)
    (did : PrepareCase hash width store key size slotIndex prepared)
    (puts : ∀ valueData, store.put hash key valueData size =
      (store.storagePool.store (store.getSlotPtr slotIndex).toNat size.toNat valueData).bind fun pool =>
        some (.ok, written prepared pool size)) : Prepared hash store key size slotIndex prepared := by
  obtain ⟨config, pool, slotPtr⟩ := did.frame
  have inside : slotIndex.toNat < store.numSlots.toNat := by
    cases did with
    | update index entry inside filled same => exact used_inside consistent inside filled
    | insert index _ absent last vacant => exact free_inside consistent (List.mem_of_getLast? last)
  refine ⟨inside, config, pool, fun valueData => ?_⟩
  obtain ⟨start, room⟩ := slot_inside consistent.toShaped inside
  rw [puts, store_inside (start ▸ (Nat.add_le_add_left (valid_le valid) _).trans room), Option.bind_some, finished, written,
    pool, slotPtr]

theorem putSGL_checked {segments : List Segment} {size : UInt32} (key : UInt64)
    (valid : isValidValueSize size = true) (nonempty : segments ≠ []) (calculated : calculatedSize segments = size)
    (some_ : store.freeSlots ≠ []) : putSGL hash store key segments size = storeSGL hash store key segments size := by
  have segmented : segments.isEmpty = false := by simpa using nonempty
  have free : store.freeSlots.isEmpty = false := by simpa using some_
  simp [putSGL, valid, segmented, calculated, free]

theorem putSGL_refused {segments : List Segment} {size : UInt32} (key : UInt64)
    (refused : isValidValueSize size = false ∨ segments = [] ∨ calculatedSize segments ≠ size) :
    putSGL hash store key segments size = some (.invalidRequest, store) := by
  rcases refused with invalid | rfl | different
  · simp [putSGL, invalid]
  · simp [putSGL]
  · simp [putSGL, different]

theorem putSGL_noSlot {segments : List Segment} {size : UInt32} (key : UInt64)
    (valid : isValidValueSize size = true) (nonempty : segments ≠ []) (calculated : calculatedSize segments = size)
    (none_ : store.freeSlots = []) : putSGL hash store key segments size = some (.noSpace, store) := by
  have segmented : segments.isEmpty = false := by simpa using nonempty
  simp [putSGL, valid, segmented, calculated, none_]

/-- Where the lengths add up to the size, the put of the segments is the put of their concatenation. -/
theorem putSGL_eq_put (tabled : Tabled hash width store) (small : store.storagePool.size < 2 ^ 64) (key : UInt64)
    {segments : List Segment} {size : UInt32} (nonempty : segments ≠ []) (adds : total segments = size.toNat) :
    putSGL hash store key segments size = store.put hash key (concatenation segments) size := by
  by_cases valid : isValidValueSize size = true
  swap
  · rw [Bool.not_eq_true] at valid
    rw [putSGL_refused key (.inl valid), put_invalid hash store key _ valid]
  have calculated : calculatedSize segments = size := by
    rw [calculatedSize_eq_iff, adds, Nat.mod_eq_of_lt size.toNat_lt]
  by_cases none_ : store.freeSlots = []
  · rw [putSGL_noSlot key valid nonempty calculated none_, put_noSlot hash key _ valid none_]
  rw [putSGL_checked key valid nonempty calculated none_, storeSGL]
  rcases prepare_cases tabled key valid none_ with ⟨full, -, -, puts⟩ | ⟨slotIndex, prepared, found, did, puts⟩
  · rw [full, puts]
    rfl
  · obtain ⟨-, pool, slotPtr⟩ := did.frame
    rw [found, puts, Option.bind_eq_bind, Option.bind_some]
    dsimp only
    rw [slotPtr, pool, copySegments_zero small nonempty, adds]
    rfl

/-- Where the sum in 32 bits hides a larger one, the request is not refused. -/
theorem putSGL_accepted {segments : List Segment} {size : UInt32} {key : UInt64}
    (valid : isValidValueSize size = true) (nonempty : segments ≠ []) (calculated : calculatedSize segments = size)
    {next : KVStore} : putSGL hash store key segments size ≠ some (.invalidRequest, next) := by
  by_cases none_ : store.freeSlots = []
  · rw [putSGL_noSlot key valid nonempty calculated none_]
    simp
  · rw [putSGL_checked key valid nonempty calculated none_]
    intro refused
    obtain ⟨prepared, -, later⟩ := Option.bind_eq_some_iff.mp refused
    cases prepared with
    | none => simp at later
    | some found =>
      obtain ⟨pool, -, ends⟩ := Option.bind_eq_some_iff.mp later
      simp at ends

/-! ### What a put writes -/

/-- The pool stays as it is, or a range of at most `slot_size` bytes at the beginning of a slot is written. -/
def WritesSlot (store next : KVStore) : Prop :=
  next.storagePool = store.storagePool ∨ ∃ slotIndex count values, slotIndex.toNat < store.numSlots.toNat ∧
    count ≤ store.config.slotSize.toNat ∧
    next.storagePool = store.storagePool.paste (store.getSlotPtr slotIndex).toNat count values

theorem put_writes_slot (consistent : Consistent hash width store) {key : UInt64} {valueData : Nat → UInt8}
    {size : UInt32} {status : Status} {next : KVStore}
    (did : PutCase hash width store key valueData size status next) : WritesSlot store next := by
  cases did with
  | invalid wrong => exact .inl rfl
  | noSlot none_ => exact .inl rfl
  | full absent taken => exact .inl rfl
  | update index entry valid inside filled same =>
    exact .inr ⟨entry.slotIndex, size.toNat, valueData, used_inside consistent inside filled,
      (valid_le valid).trans consistent.room, rfl⟩
  | insert index slotIndex valid absent last vacant =>
    exact .inr ⟨slotIndex, size.toNat, valueData, free_inside consistent (List.mem_of_getLast? last),
      (valid_le valid).trans consistent.room, rfl⟩

/-- The put of the segments does what the put of their concatenation does where there are segments and their lengths
    add up, and refuses the request otherwise, and it writes no more than a slot. -/
def Agrees (hash : UInt64 → UInt64) (store : KVStore) (key : UInt64) (segments : List Segment) (size : UInt32) : Prop :=
  ∃ status next, putSGL hash store key segments size = some (status, next) ∧ WritesSlot store next ∧
    if segments ≠ [] ∧ total segments = size.toNat then
      store.put hash key (concatenation segments) size = some (status, next)
    else status = .invalidRequest ∧ next = store

theorem agrees_iff (consistent : Consistent hash width store) (key : UInt64) (segments : List Segment) (size : UInt32) :
    Agrees hash store key segments size ↔
      (isValidValueSize size = true → total segments % 2 ^ 32 = size.toNat → total segments = size.toNat) := by
  by_cases whole : segments ≠ [] ∧ total segments = size.toNat
  · obtain ⟨nonempty, adds⟩ := whole
    obtain ⟨status, next, puts, did⟩ := put_cases consistent key (concatenation segments) size
    refine iff_of_true ⟨status, next, ?_, put_writes_slot consistent did, ?_⟩ fun _ _ => adds
    · rw [putSGL_eq_put consistent.tabled consistent.pool key nonempty adds, puts]
    · rw [if_pos ⟨nonempty, adds⟩, puts]
  constructor
  · rintro ⟨status, next, puts, -, outcome⟩ valid calculated
    rw [if_neg whole] at outcome
    obtain ⟨rfl, rfl⟩ := outcome
    by_contra different
    have nonempty : segments ≠ [] := by
      rintro rfl
      exact different (calculated ▸ rfl)
    exact putSGL_accepted valid nonempty (calculatedSize_eq_iff.mpr calculated) puts
  · intro adds
    refine ⟨.invalidRequest, store, putSGL_refused key ?_, .inl rfl, by rw [if_neg whole]; exact ⟨rfl, rfl⟩⟩
    by_cases valid : isValidValueSize size = true
    · by_cases nonempty : segments = []
      · exact .inr (.inl nonempty)
      · refine .inr (.inr fun calculated => whole ⟨nonempty, ?_⟩)
        exact adds valid (calculatedSize_eq_iff.mp calculated)
    · exact .inl (Bool.not_eq_true _ ▸ valid)

/-! ### Every run -/

/-- Consistency says nothing of the bytes in the pool. -/
theorem consistent_pool (consistent : Consistent hash width store) {pool : Cells UInt8}
    (size : pool.size = store.storagePool.size) : Consistent hash width { store with storagePool := pool } :=
  { consistent with
    fits := by rw [size]; exact consistent.fits
    pool := by rw [size]; exact consistent.pool }

/-- A put of segments leaves the store as it is, or sets up an entry and writes the segments to its slot. -/
theorem putSGL_some {key : UInt64} {segments : List Segment} {size : UInt32} {status : Status} {next : KVStore}
    (did : putSGL hash store key segments size = some (status, next)) :
    next = store ∨ isValidValueSize size = true ∧ store.freeSlots ≠ [] ∧ ∃ slotIndex prepared pool,
      prepareSGL hash store key size = some (some (slotIndex, prepared)) ∧
        copySegments (prepared.getSlotPtr slotIndex) prepared.storagePool 0 segments = some pool ∧
        next = written prepared pool size := by
  by_cases accepted : isValidValueSize size = true ∧ segments ≠ [] ∧ calculatedSize segments = size
  swap
  · have refused : isValidValueSize size = false ∨ segments = [] ∨ calculatedSize segments ≠ size := by
      by_cases valid : isValidValueSize size = true
      · by_cases nonempty : segments = []
        · exact .inr (.inl nonempty)
        · exact .inr (.inr fun calculated => accepted ⟨valid, nonempty, calculated⟩)
      · exact .inl (Bool.not_eq_true _ ▸ valid)
    rw [putSGL_refused key refused] at did
    exact .inl (Prod.mk.inj (Option.some.inj did)).2.symm
  obtain ⟨valid, nonempty, calculated⟩ := accepted
  by_cases none_ : store.freeSlots = []
  · rw [putSGL_noSlot key valid nonempty calculated none_] at did
    exact .inl (Prod.mk.inj (Option.some.inj did)).2.symm
  rw [putSGL_checked key valid nonempty calculated none_, storeSGL] at did
  obtain ⟨result, prepared, later⟩ := Option.bind_eq_some_iff.mp did
  cases result with
  | none => exact .inl (Prod.mk.inj (Option.some.inj later)).2.symm
  | some found =>
    obtain ⟨pool, copies, ends⟩ := Option.bind_eq_some_iff.mp later
    exact .inr ⟨valid, none_, found.1, found.2, pool, prepared, copies, (Prod.mk.inj (Option.some.inj ends)).2.symm⟩

/-- The entry set up, with what a put of the size makes of the table. -/
theorem prepare_found (tabled : Tabled hash width store) {key : UInt64} {size slotIndex : UInt32} {prepared : KVStore}
    (valid : isValidValueSize size = true) (some_ : store.freeSlots ≠ [])
    (found : prepareSGL hash store key size = some (some (slotIndex, prepared))) :
    PrepareCase hash width store key size slotIndex prepared ∧ ∀ valueData, store.put hash key valueData size =
      (store.storagePool.store (store.getSlotPtr slotIndex).toNat size.toNat valueData).bind fun pool =>
        some (.ok, written prepared pool size) := by
  rcases prepare_cases tabled key valid some_ with ⟨full, -⟩ | ⟨slotIndex', prepared', found', did, puts⟩
  · rw [full] at found
    cases found
  · rw [found'] at found
    cases found
    exact ⟨did, puts⟩

theorem PrepareCase.tabled (tabled : Tabled hash width store) {key : UInt64} {size slotIndex : UInt32}
    {prepared : KVStore} (did : PrepareCase hash width store key size slotIndex prepared) (pool : Cells UInt8) :
    Tabled hash width (written prepared pool size) := by
  cases did with
  | update index entry inside filled same =>
    have updated := updated_tabled tabled filled (fun _ => 0) size
    exact ⟨updated.short, updated.power, updated.mask, updated.table, updated.kept, updated.probed⟩
  | insert index slotIndex absent last vacant =>
    have inserted := inserted_tabled tabled absent vacant slotIndex (fun _ => 0) size
    exact ⟨inserted.short, inserted.power, inserted.mask, inserted.table, inserted.kept, inserted.probed⟩

/-- Whatever the segments overwrite, the table stays one. -/
theorem putSGL_tabled (tabled : Tabled hash width store) {key : UInt64} {segments : List Segment} {size : UInt32}
    {status : Status} {next : KVStore} (did : putSGL hash store key segments size = some (status, next)) :
    Tabled hash width next := by
  rcases putSGL_some did with rfl | ⟨valid, some_, slotIndex, prepared, pool, found, -, rfl⟩
  · exact tabled
  · exact (prepare_found tabled valid some_ found).1.tabled tabled pool

/-- Whatever the segments overwrite, the store stays consistent. -/
theorem putSGL_consistent (consistent : Consistent hash width store) {key : UInt64} {segments : List Segment}
    {size : UInt32} {status : Status} {next : KVStore}
    (puts : putSGL hash store key segments size = some (status, next)) : Consistent hash width next := by
  rcases putSGL_some puts with rfl | ⟨valid, some_, slotIndex, prepared, pool, found, copies, rfl⟩
  · exact consistent
  obtain ⟨case_, puts⟩ := prepare_found consistent.tabled valid some_ found
  have spec := prepare_spec consistent valid case_ puts
  -- the store after the put of any value of that size, with another pool
  obtain ⟨status, next, put, did⟩ := put_cases consistent key (fun _ => 0) size
  rw [spec.put] at put
  obtain ⟨rfl, rfl⟩ := Prod.mk.inj (Option.some.inj put)
  have sameSize : pool.size = prepared.storagePool.size := copySegments_size copies
  exact consistent_pool (put_consistent consistent did) sameSize

end Puts

/-- A call of the store. -/
inductive Call
  | op (op : KvMaps.Op)
  | putSGL (key : UInt64) (segments : List Segment) (totalSize : UInt32)

/-- The output of a step is the answer of the call. -/
def step (hash : UInt64 → UInt64) (store : KVStore) : Call → Option (KVStore × List KvMaps.Answer)
  | .op op => do
    let (answer, next) ← KvMaps.step hash store op
    some (next, [answer])
  | .putSGL key segments totalSize => do
    let (status, next) ← putSGL hash store key segments totalSize
    some (next, [.put status])

/-- Only a put changes the store. -/
theorem op_cases {hash : UInt64 → UInt64} {store next : KVStore} {op : KvMaps.Op} {answer : KvMaps.Answer}
    (stepped : KvMaps.step hash store op = some (answer, next)) :
    next = store ∨ ∃ key valueData valueSize status, store.put hash key valueData valueSize = some (status, next) := by
  cases op with
  | put key valueData valueSize =>
    obtain ⟨⟨status, put⟩, puts, ends⟩ := Option.bind_eq_some_iff.mp stepped
    obtain ⟨-, rfl⟩ := Prod.mk.inj (Option.some.inj ends)
    exact .inr ⟨key, valueData, valueSize, status, puts⟩
  | get key bufferSize =>
    obtain ⟨result, -, ends⟩ := Option.bind_eq_some_iff.mp stepped
    exact .inl (Prod.mk.inj (Option.some.inj ends)).2.symm
  | getInfo key =>
    obtain ⟨result, -, ends⟩ := Option.bind_eq_some_iff.mp stepped
    exact .inl (Prod.mk.inj (Option.some.inj ends)).2.symm
  | getValuePtr key =>
    obtain ⟨result, -, ends⟩ := Option.bind_eq_some_iff.mp stepped
    cases result with
    | none => exact .inl (Prod.mk.inj (Option.some.inj ends)).2.symm
    | some value =>
      obtain ⟨bytes, -, last⟩ := Option.bind_eq_some_iff.mp ends
      exact .inl (Prod.mk.inj (Option.some.inj last)).2.symm

/-- What the puts of either kind preserve holds in every state that calls lead to. -/
theorem calls_preserve {hash : UInt64 → UInt64} {invariant : KVStore → Prop}
    (put : ∀ store key valueData valueSize status next, invariant store →
      store.put hash key valueData valueSize = some (status, next) → invariant next)
    (scattered : ∀ store key segments totalSize status next, invariant store →
      putSGL hash store key segments totalSize = some (status, next) → invariant next)
    {store last : KVStore} {calls : List Call} {answers : List KvMaps.Answer} (start : invariant store)
    (ran : run (step hash) store calls = some (last, answers)) : invariant last := by
  have any : Meets (step hash) (fun _ _ => True) store calls := meets_of_forall fun _ _ => trivial
  refine invariant_of_run ?_ start any ran
  intro store call next now holds _ stepped
  cases call with
  | op op =>
    obtain ⟨⟨answer, after⟩, did, ends⟩ := Option.bind_eq_some_iff.mp stepped
    obtain ⟨rfl, -⟩ := Prod.mk.inj (Option.some.inj ends)
    rcases op_cases did with rfl | ⟨key, valueData, valueSize, status, puts⟩
    · exact holds
    · exact put store key valueData valueSize status after holds puts
  | putSGL key segments totalSize =>
    obtain ⟨⟨status, after⟩, did, ends⟩ := Option.bind_eq_some_iff.mp stepped
    obtain ⟨rfl, -⟩ := Prod.mk.inj (Option.some.inj ends)
    exact scattered store key segments totalSize status after holds did

theorem run_consistent {hash : UInt64 → UInt64} {width : Nat} {store last : KVStore} {calls : List Call}
    {answers : List KvMaps.Answer} (consistent : Consistent hash width store)
    (ran : run (step hash) store calls = some (last, answers)) : Consistent hash width last := by
  refine calls_preserve ?_ (fun _ _ _ _ _ _ consistent => putSGL_consistent consistent) consistent ran
  intro store key valueData valueSize status next consistent puts
  exact put_consistent consistent (put_did consistent.tabled puts)

/-- In every state that calls after `Initialize` lead to, the put of the segments does what it is for if and only if
    the size is not one of a value or no other number of bytes looks like it in 32 bits. -/
theorem put_sgl_agrees_iff (hash : UInt64 → UInt64) {config : StoreConfig}
    (room : MAX_VALUE_SIZE.toNat ≤ config.slotSize.toNat) (holds : config.slotSize ≤ config.totalStorageSize)
    (few : config.totalStorageSize.toNat / config.slotSize.toNat < 2 ^ 32) (rounds : config.hashTableSize.toNat ≤ 2 ^ 63)
    {storage : Nat → UInt8} {fresh store : KVStore}
    (initialized : KVStore.new.initializeWith config (some storage) = some (true, fresh)) {calls : List Call}
    {answers : List KvMaps.Answer} (ran : run (step hash) fresh calls = some (store, answers)) (key : UInt64)
    (segments : List Segment) (totalSize : UInt32) :
    Agrees hash store key segments totalSize ↔
      (isValidValueSize totalSize = true → total segments % 2 ^ 32 = totalSize.toNat →
        total segments = totalSize.toNat) := by
  obtain ⟨width, other, same, consistent, -⟩ := KvMaps.initialize_consistent hash config room holds few rounds storage
  rw [initialized] at same
  obtain ⟨-, rfl⟩ := Prod.mk.inj (Option.some.inj same)
  exact agrees_iff (run_consistent consistent ran) key segments totalSize

/-- Two segments of 2048 bytes, in a store that has just been initialized. -/
theorem two_segments_agree : ∃ fresh,
    KVStore.new.initializeWith ⟨196608, 65536, 1⟩ (some fun _ => 0) = some (true, fresh) ∧
      Agrees hashKey fresh 5 [⟨fun _ => 1, 2048⟩, ⟨fun _ => 2, 2048⟩] 4096 := by
  obtain ⟨width, fresh, initialized, -⟩ :=
    KvMaps.initialize_consistent hashKey ⟨196608, 65536, 1⟩ (by decide) (by decide) (by decide) (by decide) fun _ => 0
  refine ⟨fresh, initialized, ?_⟩
  have calls : run (step hashKey) fresh [] = some (fresh, []) := rfl
  exact (put_sgl_agrees_iff hashKey (by decide) (by decide) (by decide) (by decide) initialized calls 5 _ _).mpr
    fun _ _ => by decide

/-- A segment of `2 ^ 32 + 4096` bytes passes for one of 4096 bytes. -/
theorem long_segment_not_refused : ∃ fresh,
    KVStore.new.initializeWith ⟨196608, 65536, 1⟩ (some fun _ => 0) = some (true, fresh) ∧
      ¬Agrees hashKey fresh 5 [⟨fun _ => 1, 4294971392⟩] 4096 := by
  obtain ⟨width, fresh, initialized, consistent, -⟩ :=
    KvMaps.initialize_consistent hashKey ⟨196608, 65536, 1⟩ (by decide) (by decide) (by decide) (by decide) fun _ => 0
  refine ⟨fresh, initialized, fun agrees => ?_⟩
  have adds := (agrees_iff consistent 5 _ _).mp agrees (by decide) (by decide)
  exact absurd adds (by decide)

end Rdma.KvSegments
