import Rdma.Arrays
import Rdma.BitFields
import Rdma.KvProtocols
import Rdma.LinearProbing
import Mathlib.Algebra.Order.BigOperators.Group.List

/-!
The store of the key-value example (`kv_store.h`): a byte array cut into slots of
a fixed size, an open-addressing table of entries over it, and a stack of free
slots. The hash function is a parameter. Access outside the byte array or the
table is undefined (`none`), so is a division by a slot size of zero.

`Consistent` ties the parts together. The searches need the table alone for what
they find (`Tabled`, `lookup_cases`, `probe_cases`), and the reads need that values
lie in slots of their own (`Sound`). What a put can do is said once (`PutCase`):
`put_did` for a put that returns, and `put_cases` for all puts of a consistent store.
-/
namespace Rdma.KvStores
open Rdma.Arrays Rdma.BitFields Rdma.KvProtocols Rdma.LinearProbing

structure StoreConfig where
  totalStorageSize : UInt64 := 1024 * 1024 * 1024
  slotSize : UInt64 := MAX_VALUE_SIZE.toUInt64
  hashTableSize : UInt64 := 0
  deriving DecidableEq, Repr

structure Entry where
  key : UInt64
  slotIndex : UInt32
  valueSize : UInt32
  occupied : Bool
  deleted : Bool
  deriving DecidableEq, Repr

/-- The back of the free slots is the end of the list. -/
structure KVStore where
  config : StoreConfig
  storagePool : Cells UInt8
  hashTable : Cells Entry
  freeSlots : List UInt32
  numSlots : UInt64
  hashTableSize : UInt64
  hashMask : UInt64
  usedSlots : UInt64
  usedBytes : UInt64

def Entry.empty : Entry := ⟨0, 0, 0, false, false⟩

/-- A store before `Initialize`. -/
def KVStore.new : KVStore := ⟨{}, ⟨0, fun _ => 0⟩, ⟨0, fun _ => .empty⟩, [], 0, 0, 0, 0, 0⟩

def nextPowerOfTwo (n : UInt64) : UInt64 :=
  if n = 0 then 1 else
    let n := n - 1
    let n := n ||| n >>> 1
    let n := n ||| n >>> 2
    let n := n ||| n >>> 4
    let n := n ||| n >>> 8
    let n := n ||| n >>> 16
    let n := n ||| n >>> 32
    n + 1

/-- FNV-1a over the eight bytes of the key, the lowest first. -/
def hashKey (key : UInt64) : UInt64 :=
  (List.range 8).foldl (fun hash i => (hash ^^^ (key >>> (8 * i).toUInt64 &&& 0xFF)) * 0x100000001b3) 0xcbf29ce484222325

/-- The storage is what the allocator hands out, with any content, or nothing. -/
def KVStore.initializeWith (store : KVStore) (config : StoreConfig) (storage : Option (Nat → UInt8)) :
    Option (Bool × KVStore) :=
  if config.slotSize = 0 then none else
    let numSlots := config.totalStorageSize / config.slotSize
    let store := { store with config := config, numSlots := numSlots }
    if numSlots = 0 then some (false, store) else
      let hashTableSize :=
        if config.hashTableSize = 0 then nextPowerOfTwo (numSlots * 2) else nextPowerOfTwo config.hashTableSize
      let store := { store with hashTableSize := hashTableSize, hashMask := hashTableSize - 1 }
      match storage with
      | none => some (false, store)
      | some bytes => some (true, { store with
          storagePool := ⟨config.totalStorageSize.toNat, bytes⟩
          hashTable := ⟨hashTableSize.toNat, fun _ => .empty⟩
          freeSlots := store.freeSlots ++ (List.range numSlots.toNat).map fun i => (numSlots - 1 - i.toUInt64).toUInt32
          usedSlots := 0
          usedBytes := 0 })

def KVStore.getSlotPtr (store : KVStore) (slotIndex : UInt32) : UInt64 := slotIndex.toUInt64 * store.config.slotSize

/-- The position of the key's entry or the null pointer, after the positions left. -/
def KVStore.findEntryFrom (store : KVStore) (key : UInt64) : Nat → UInt64 → Option (Option UInt64)
  | 0, _ => some none
  | left + 1, index => do
    let entry ← store.hashTable.read index.toNat
    if !entry.occupied then some none
    else if entry.key == key && !entry.deleted then some (some index)
    else store.findEntryFrom key left ((index + 1) &&& store.hashMask)

def KVStore.findEntry (hash : UInt64 → UInt64) (store : KVStore) (key : UInt64) : Option (Option UInt64) :=
  store.findEntryFrom key store.hashTableSize.toNat (hash key &&& store.hashMask)

/-- The first position whose entry is empty or deleted. -/
def KVStore.probeFrom (store : KVStore) : Nat → UInt64 → Option (Option UInt64)
  | 0, _ => some none
  | left + 1, index => do
    let entry ← store.hashTable.read index.toNat
    if !entry.occupied || entry.deleted then some (some index)
    else store.probeFrom left ((index + 1) &&& store.hashMask)

/-- `FindEntry` and the check that every operation makes of what it returned. -/
def KVStore.lookup (hash : UInt64 → UInt64) (store : KVStore) (key : UInt64) : Option (Option (UInt64 × Entry)) := do
  match ← store.findEntry hash key with
  | none => some none
  | some index =>
    let entry ← store.hashTable.read index.toNat
    if entry.occupied && !entry.deleted then some (some (index, entry)) else some none

/-- Update existing entry. -/
def KVStore.update (store : KVStore) (index : UInt64) (existing : Entry) (valueData : Nat → UInt8)
    (valueSize : UInt32) : Option (Status × KVStore) := do
  let pool ← store.storagePool.store (store.getSlotPtr existing.slotIndex).toNat valueSize.toNat valueData
  let table ← store.hashTable.write index.toNat { existing with valueSize := valueSize }
  some (.ok, { store with
    storagePool := pool
    hashTable := table
    usedBytes := store.usedBytes - existing.valueSize.toUInt64 + valueSize.toUInt64 })

/-- Take the slot at the back of the free slots for a new entry. -/
def KVStore.insert (store : KVStore) (index : UInt64) (key : UInt64) (valueData : Nat → UInt8)
    (valueSize : UInt32) : Option (Status × KVStore) := do
  let slotIndex ← store.freeSlots.getLast?
  let pool ← store.storagePool.store (store.getSlotPtr slotIndex).toNat valueSize.toNat valueData
  let table ← store.hashTable.write index.toNat ⟨key, slotIndex, valueSize, true, false⟩
  some (.ok, { store with
    storagePool := pool
    hashTable := table
    freeSlots := store.freeSlots.dropLast
    usedSlots := store.usedSlots + 1
    usedBytes := store.usedBytes + valueSize.toUInt64 })

def KVStore.put (hash : UInt64 → UInt64) (store : KVStore) (key : UInt64) (valueData : Nat → UInt8)
    (valueSize : UInt32) : Option (Status × KVStore) :=
  if !isValidValueSize valueSize then some (.invalidRequest, store)
  else if store.freeSlots.isEmpty then some (.noSpace, store)
  else do
    match ← store.lookup hash key with
    | some (index, entry) => store.update index entry valueData valueSize
    | none =>
      match ← store.probeFrom store.hashTableSize.toNat (hash key &&& store.hashMask) with
      | some index => store.insert index key valueData valueSize
      | none => some (.noSpace, store)

/-- A put reads the first `valueSize` bytes of its value. -/
theorem put_congr (hash : UInt64 → UInt64) (store : KVStore) (key : UInt64) {valueData other : Nat → UInt8}
    {valueSize : UInt32} (same : ∀ i < valueSize.toNat, valueData i = other i) :
    store.put hash key valueData valueSize = store.put hash key other valueSize := by
  have stores : ∀ start, store.storagePool.store start valueSize.toNat valueData =
      store.storagePool.store start valueSize.toNat other := fun start => store_congr _ start same
  simp only [KVStore.put, KVStore.update, KVStore.insert, stores]

/-- The bytes copied out and the value size written, or the status. -/
def KVStore.get (hash : UInt64 → UInt64) (store : KVStore) (key : UInt64) (bufferSize : UInt32) :
    Option (Except Status (List UInt8 × UInt32)) := do
  match ← store.lookup hash key with
  | none => some (.error .notFound)
  | some (_, entry) =>
    if bufferSize < entry.valueSize then some (.error .invalidRequest)
    else
      let bytes ← store.storagePool.load (store.getSlotPtr entry.slotIndex).toNat entry.valueSize.toNat
      some (.ok (bytes, entry.valueSize))

def KVStore.getInfo (hash : UInt64 → UInt64) (store : KVStore) (key : UInt64) : Option (Except Status UInt32) := do
  match ← store.lookup hash key with
  | none => some (.error .notFound)
  | some (_, entry) => some (.ok entry.valueSize)

/-- The null pointer, or where the value begins in the pool and its size. -/
def KVStore.getValuePtr (hash : UInt64 → UInt64) (store : KVStore) (key : UInt64) :
    Option (Option (UInt64 × UInt32)) := do
  match ← store.lookup hash key with
  | none => some none
  | some (_, entry) => some (some (store.getSlotPtr entry.slotIndex, entry.valueSize))

/-! ### Positions -/

theorem nextPowerOfTwo_toNat {n : UInt64} (nonzero : n ≠ 0) :
    (nextPowerOfTwo n).toNat = 2 ^ (n - 1).toNat.size % 2 ^ 64 := by
  have short : (n - 1).toNat.size ≤ 64 := Nat.size_le.mpr (n - 1).toNat_lt
  have ones := (Smeared.self (n - 1).toNat).double.double.double.double.double.double.ones short
  have least : 0 < 2 ^ (n - 1).toNat.size := Nat.two_pow_pos _
  unfold nextPowerOfTwo
  rw [if_neg nonzero]
  simp only [UInt64.toNat_add, UInt64.toNat_or, UInt64.toNat_shiftRight]
  norm_num only [UInt64.toNat_ofNat] at ones ⊢
  rw [ones, Nat.sub_add_cancel least]

/-- Rounding up does not overflow up to 2^63. -/
theorem nextPowerOfTwo_spec {n : UInt64} (small : n.toNat ≤ 2 ^ 63) :
    ∃ width ≤ 63, (nextPowerOfTwo n).toNat = 2 ^ width := by
  by_cases zero : n = 0
  · exact ⟨0, by omega, by rw [zero]; rfl⟩
  have positive : n.toNat ≠ 0 := fun same => zero (UInt64.toNat_inj.mp same)
  have before : (n - 1).toNat = n.toNat - 1 :=
    UInt64.toNat_sub_of_le n 1 (UInt64.le_iff_toNat_le.mpr (Nat.one_le_iff_ne_zero.mpr positive))
  have short : (n - 1).toNat.size ≤ 63 := Nat.size_le.mpr (by omega)
  have bounded : 2 ^ (n - 1).toNat.size ≤ 2 ^ 63 := Nat.pow_le_pow_right Nat.two_pos short
  exact ⟨_, short, by rw [nextPowerOfTwo_toNat zero, Nat.mod_eq_of_lt (by omega)]⟩

/-- Beyond that it gives zero. -/
theorem nextPowerOfTwo_overflow {n : UInt64} (large : 2 ^ 63 < n.toNat) : nextPowerOfTwo n = 0 := by
  have nonzero : n ≠ 0 := fun zero => by simp [zero] at large
  have before : (n - 1).toNat = n.toNat - 1 :=
    UInt64.toNat_sub_of_le n 1 (UInt64.le_iff_toNat_le.mpr (show 1 ≤ n.toNat by omega))
  have short : (n - 1).toNat.size ≤ 64 := Nat.size_le.mpr (n - 1).toNat_lt
  have long : 63 < (n - 1).toNat.size := Nat.lt_size.mpr (by omega)
  have full : (n - 1).toNat.size = 64 := by omega
  rw [← UInt64.toNat_inj, nextPowerOfTwo_toNat nonzero, full]
  rfl

example : nextPowerOfTwo 5 = 8 := by decide

theorem and_mask {size mask word : UInt64} {width : Nat} (power : size.toNat = 2 ^ width) (ones : mask = size - 1) :
    (word &&& mask).toNat = word.toNat % 2 ^ width := by
  have least := Nat.two_pow_pos width
  have before : mask.toNat = size.toNat - 1 := by
    rw [ones]
    exact UInt64.toNat_sub_of_le size 1 (UInt64.le_iff_toNat_le.mpr (by rw [power]; exact least))
  rw [UInt64.toNat_and, mask_eq_mod width _ (by omega), before, power, Nat.sub_add_cancel least]

def tableLayout (hash : UInt64 → UInt64) (width : Nat) : Layout UInt64 Entry :=
  ⟨2 ^ width, fun key => (hash key).toNat % 2 ^ width, Entry.key, fun _ => Nat.mod_lt _ (Nat.two_pow_pos width)⟩

/-- The entries in use. -/
def live (table : Cells Entry) : Cells (Option Entry) :=
  ⟨table.size, fun index => if (table.cell index).occupied then some (table.cell index) else none⟩

theorem live_some {table : Cells Entry} {index : Nat} {entry : Entry} :
    (live table).cell index = some entry ↔ table.cell index = entry ∧ entry.occupied = true := by
  simp only [live, Option.ite_none_right_eq_some, Option.some.injEq]
  constructor
  · rintro ⟨occupied, rfl⟩
    exact ⟨rfl, occupied⟩
  · rintro ⟨rfl, occupied⟩
    exact ⟨occupied, rfl⟩

theorem live_none {table : Cells Entry} {index : Nat} :
    (live table).cell index = none ↔ (table.cell index).occupied = false := by
  simp [live]

theorem live_put (table : Cells Entry) (index : Nat) {entry : Entry} (occupied : entry.occupied = true) :
    live (table.put index entry) = (live table).put index (some entry) := by
  refine congrArg (Cells.mk table.size) (funext fun place => ?_)
  by_cases here : place = index
  · subst here
    simp [Cells.put, occupied]
  · simp [Cells.put, here, live]

/-! ### Consistency -/

/-- What `Initialize` fixes: the slots lie in the pool, and the table has `2 ^ width` positions. -/
structure Shaped (width : Nat) (store : KVStore) : Prop where
  room : MAX_VALUE_SIZE.toNat ≤ store.config.slotSize.toNat
  fits : store.numSlots.toNat * store.config.slotSize.toNat ≤ store.storagePool.size
  pool : store.storagePool.size < 2 ^ 64
  few : store.numSlots.toNat < 2 ^ 32
  short : width ≤ 63
  power : store.hashTableSize.toNat = 2 ^ width
  mask : store.hashMask = store.hashTableSize - 1
  table : store.hashTable.size = 2 ^ width

/-- The table has `2 ^ width` positions, and one entry for a key and no gap before it. -/
structure Tabled (hash : UInt64 → UInt64) (width : Nat) (store : KVStore) : Prop where
  short : width ≤ 63
  power : store.hashTableSize.toNat = 2 ^ width
  mask : store.hashMask = store.hashTableSize - 1
  table : store.hashTable.size = 2 ^ width
  kept : ∀ index, (store.hashTable.cell index).deleted = false
  probed : Probed (tableLayout hash width) (live store.hashTable).cell

/-- The values of a table lie in slots of their own, and the slots in the pool. -/
structure Sound (hash : UInt64 → UInt64) (width : Nat) (store : KVStore) : Prop extends Tabled hash width store where
  fits : store.numSlots.toNat * store.config.slotSize.toNat ≤ store.storagePool.size
  pool : store.storagePool.size < 2 ^ 64
  placed : ∀ index < 2 ^ width, ∀ entry, (live store.hashTable).cell index = some entry →
    entry.slotIndex.toNat < store.numSlots.toNat
  sized : ∀ index < 2 ^ width, ∀ entry, (live store.hashTable).cell index = some entry →
    entry.valueSize.toNat ≤ store.config.slotSize.toNat
  own : ∀ index < 2 ^ width, ∀ other < 2 ^ width, ∀ entry copy, (live store.hashTable).cell index = some entry →
    (live store.hashTable).cell other = some copy → entry.slotIndex = copy.slotIndex → index = other

/-- One entry for a key and no gap before it, the slots shared out between the entries and the
free slots, and the counters right. -/
structure Consistent (hash : UInt64 → UInt64) (width : Nat) (store : KVStore) : Prop extends Shaped width store where
  kept : ∀ index, (store.hashTable.cell index).deleted = false
  probed : Probed (tableLayout hash width) (live store.hashTable).cell
  shared : (((live store.hashTable).values.map Entry.slotIndex ++ store.freeSlots).map UInt32.toNat).Perm
    (List.range store.numSlots.toNat)
  counted : store.usedSlots.toNat = (live store.hashTable).values.length
  summed : store.usedBytes.toNat = ((live store.hashTable).values.map fun entry => entry.valueSize.toNat).sum
  bounded : ∀ entry ∈ (live store.hashTable).values, entry.valueSize.toNat ≤ MAX_VALUE_SIZE.toNat

section Search
variable {hash : UInt64 → UInt64} {width : Nat} {store : KVStore}

theorem Consistent.tabled (consistent : Consistent hash width store) : Tabled hash width store :=
  ⟨consistent.short, consistent.power, consistent.mask, consistent.table, consistent.kept, consistent.probed⟩

theorem next_index (tabled : Tabled hash width store) {index : UInt64} (inside : index.toNat < 2 ^ width) :
    ((index + 1) &&& store.hashMask).toNat = (index.toNat + 1) % 2 ^ width := by
  have small : 2 ^ width ≤ 2 ^ 63 := Nat.pow_le_pow_right Nat.two_pos tabled.short
  have exact_ : (index + 1).toNat = index.toNat + 1 := by
    rw [UInt64.toNat_add]
    exact Nat.mod_eq_of_lt (by simp; omega)
  rw [and_mask tabled.power tabled.mask, exact_]

theorem home_index (tabled : Tabled hash width store) (key : UInt64) :
    (hash key &&& store.hashMask).toNat = (tableLayout hash width).home key :=
  and_mask tabled.power tabled.mask

/-- The loop of `FindEntry` is the search over the entries in use. -/
theorem findEntryFrom_eq (tabled : Tabled hash width store) (key : UInt64) (left : Nat) {index : UInt64}
    (inside : index.toNat < 2 ^ width) : store.findEntryFrom key left index =
      some (((tableLayout hash width).find (live store.hashTable).cell key left index.toNat).map UInt64.ofNat) := by
  induction left generalizing index with
  | zero => rfl
  | succ left ih =>
    have next : ((index + 1) &&& store.hashMask).toNat < 2 ^ width := by
      rw [next_index tabled inside]
      exact Nat.mod_lt _ (Nat.two_pow_pos width)
    have read := read_inside (tabled.table ▸ inside : index.toNat < store.hashTable.size)
    rw [KVStore.findEntryFrom, read, Layout.find]
    by_cases occupied : (store.hashTable.cell index.toNat).occupied = true
    · rw [live_some.mpr ⟨rfl, occupied⟩]
      by_cases same : (store.hashTable.cell index.toNat).key = key
      · simp [occupied, same, tabled.kept, tableLayout]
      · have rest := ih next
        rw [next_index tabled inside] at rest
        simpa [occupied, same, tableLayout] using rest
    · rw [live_none.mpr (Bool.eq_false_iff.mpr occupied)]
      simp [occupied]

theorem probeFrom_eq (tabled : Tabled hash width store) (left : Nat) {index : UInt64}
    (inside : index.toNat < 2 ^ width) : store.probeFrom left index =
      some (((tableLayout hash width).vacancy (live store.hashTable).cell left index.toNat).map UInt64.ofNat) := by
  induction left generalizing index with
  | zero => rfl
  | succ left ih =>
    have next : ((index + 1) &&& store.hashMask).toNat < 2 ^ width := by
      rw [next_index tabled inside]
      exact Nat.mod_lt _ (Nat.two_pow_pos width)
    have read := read_inside (tabled.table ▸ inside : index.toNat < store.hashTable.size)
    rw [KVStore.probeFrom, read, Layout.vacancy]
    by_cases occupied : (store.hashTable.cell index.toNat).occupied = true
    · rw [live_some.mpr ⟨rfl, occupied⟩]
      have rest := ih next
      rw [next_index tabled inside] at rest
      simpa [occupied, tabled.kept, tableLayout] using rest
    · rw [live_none.mpr (Bool.eq_false_iff.mpr occupied)]
      simp [occupied]

/-- The key has no entry in use. -/
def Absent (width : Nat) (store : KVStore) (key : UInt64) : Prop :=
  ∀ index < 2 ^ width, ∀ entry, (live store.hashTable).cell index = some entry → entry.key ≠ key

/-- A lookup finds the entry of the key, if it has one. -/
theorem lookup_cases (tabled : Tabled hash width store) (key : UInt64) :
    (∃ index entry, index.toNat < 2 ^ width ∧ (live store.hashTable).cell index.toNat = some entry ∧
      entry.key = key ∧ store.lookup hash key = some (some (index, entry))) ∨
    Absent width store key ∧ store.lookup hash key = some none := by
  have inside := (tableLayout hash width).inside key
  have home := home_index tabled key
  have finds := findEntryFrom_eq tabled key (2 ^ width) (home ▸ inside)
  rw [home] at finds
  unfold KVStore.lookup KVStore.findEntry
  rw [tabled.power, finds]
  cases found : (tableLayout hash width).find (live store.hashTable).cell key (2 ^ width)
      ((tableLayout hash width).home key) with
  | none => exact Or.inr ⟨fun index within entry filled => find_none tabled.probed found within filled, rfl⟩
  | some index =>
    obtain ⟨within, entry, filled, same⟩ := (find_spec tabled.probed).mp found
    have small : 2 ^ width ≤ 2 ^ 63 := Nat.pow_le_pow_right Nat.two_pos tabled.short
    have cast : (UInt64.ofNat index).toNat = index :=
      UInt64.toNat_ofNat_of_lt' (within.trans_le (small.trans (by decide)))
    obtain ⟨at_, occupied⟩ := live_some.mp filled
    have read := read_inside (tabled.table ▸ within : index < store.hashTable.size)
    refine Or.inl ⟨UInt64.ofNat index, entry, cast.symm ▸ within, cast.symm ▸ filled, same, ?_⟩
    have kept := tabled.kept index
    rw [at_] at kept
    simp [cast, read, at_, occupied, kept]

theorem lookup_filled (tabled : Tabled hash width store) {index : UInt64} {entry : Entry}
    (inside : index.toNat < 2 ^ width) (filled : (live store.hashTable).cell index.toNat = some entry) :
    store.lookup hash entry.key = some (some (index, entry)) := by
  rcases lookup_cases tabled entry.key with ⟨other, copy, there, copied, same, found⟩ | ⟨absent, -⟩
  · obtain rfl : other = index := UInt64.toNat_inj.mp (tabled.probed.unique there inside copied filled same)
    obtain rfl := Option.some.inj (copied.symm.trans filled)
    exact found
  · exact absurd rfl (absent index.toNat inside entry filled)

/-- A probe finds the first empty position, if there is one. -/
theorem probe_cases (tabled : Tabled hash width store) (key : UInt64) :
    (∃ index : UInt64, index.toNat < 2 ^ width ∧ (tableLayout hash width).vacancy (live store.hashTable).cell (2 ^ width)
        ((tableLayout hash width).home key) = some index.toNat ∧
      store.probeFrom store.hashTableSize.toNat (hash key &&& store.hashMask) = some (some index)) ∨
    (∀ index < 2 ^ width, (live store.hashTable).cell index ≠ none) ∧
      store.probeFrom store.hashTableSize.toNat (hash key &&& store.hashMask) = some none := by
  have home := home_index tabled key
  have probes := probeFrom_eq tabled (2 ^ width) (home ▸ (tableLayout hash width).inside key)
  rw [home] at probes
  rw [tabled.power, probes]
  cases vacant : (tableLayout hash width).vacancy (live store.hashTable).cell (2 ^ width)
      ((tableLayout hash width).home key) with
  | none => exact .inr ⟨fun index within => vacancy_full vacant within, rfl⟩
  | some index =>
    have within : index < 2 ^ width := (vacancy_inside vacant).1
    have small : 2 ^ width ≤ 2 ^ 63 := Nat.pow_le_pow_right Nat.two_pos tabled.short
    have cast : (UInt64.ofNat index).toNat = index :=
      UInt64.toNat_ofNat_of_lt' (within.trans_le (small.trans (by decide)))
    exact .inl ⟨UInt64.ofNat index, by rwa [cast], by rw [cast], rfl⟩

/-- A table without positions has no entries, and no entry is found or put there. -/
theorem lookup_positionless (hash : UInt64 → UInt64) {store : KVStore} (none_ : store.hashTableSize = 0) (key : UInt64) :
    store.lookup hash key = some none := by
  simp [KVStore.lookup, KVStore.findEntry, none_, KVStore.findEntryFrom]

theorem probe_positionless {store : KVStore} (none_ : store.hashTableSize = 0) (start : UInt64) :
    store.probeFrom store.hashTableSize.toNat start = some none := by
  rw [none_]
  rfl

end Search

/-! ### Slots -/

section Slots
variable {hash : UInt64 → UInt64} {width : Nat} {store : KVStore}

theorem slot_whole (fits : store.numSlots.toNat * store.config.slotSize.toNat ≤ store.storagePool.size)
    (pool : store.storagePool.size < 2 ^ 64) {slotIndex : UInt32} (inside : slotIndex.toNat < store.numSlots.toNat) :
    (store.getSlotPtr slotIndex).toNat = slotIndex.toNat * store.config.slotSize.toNat ∧
      slotIndex.toNat * store.config.slotSize.toNat + store.config.slotSize.toNat ≤ store.storagePool.size := by
  have whole : (slotIndex.toNat + 1) * store.config.slotSize.toNat ≤ store.storagePool.size :=
    (Nat.mul_le_mul_right _ inside).trans fits
  rw [Nat.succ_mul] at whole
  refine ⟨?_, whole⟩
  rw [KVStore.getSlotPtr, UInt64.toNat_mul, UInt32.toNat_toUInt64]
  exact Nat.mod_eq_of_lt (by omega)

theorem slot_inside (shaped : Shaped width store) {slotIndex : UInt32} (inside : slotIndex.toNat < store.numSlots.toNat) :
    (store.getSlotPtr slotIndex).toNat = slotIndex.toNat * store.config.slotSize.toNat ∧
      slotIndex.toNat * store.config.slotSize.toNat + MAX_VALUE_SIZE.toNat ≤ store.storagePool.size := by
  obtain ⟨start, whole⟩ := slot_whole shaped.fits shaped.pool inside
  exact ⟨start, (Nat.add_le_add_left shaped.room _).trans whole⟩

/-- Values in different slots do not overlap. -/
theorem slots_apart (fits : store.numSlots.toNat * store.config.slotSize.toNat ≤ store.storagePool.size)
    (pool : store.storagePool.size < 2 ^ 64) {slot other : UInt32} (inside : slot.toNat < store.numSlots.toNat)
    (there : other.toNat < store.numSlots.toNat) (different : slot ≠ other) {size length : Nat}
    (small : size ≤ store.config.slotSize.toNat) (short : length ≤ store.config.slotSize.toNat) :
    (store.getSlotPtr slot).toNat + size ≤ (store.getSlotPtr other).toNat ∨
      (store.getSlotPtr other).toNat + length ≤ (store.getSlotPtr slot).toNat := by
  obtain ⟨start, -⟩ := slot_whole fits pool inside
  obtain ⟨begin_, -⟩ := slot_whole fits pool there
  rw [start, begin_]
  have apart : slot.toNat ≠ other.toNat := fun twice => different (UInt32.toNat_inj.mp twice)
  rcases Nat.lt_or_gt_of_ne apart with before | behind
  · have next := Nat.mul_le_mul_right store.config.slotSize.toNat (Nat.succ_le_of_lt before)
    rw [Nat.succ_mul] at next
    omega
  · have next := Nat.mul_le_mul_right store.config.slotSize.toNat (Nat.succ_le_of_lt behind)
    rw [Nat.succ_mul] at next
    omega

theorem used_inside (consistent : Consistent hash width store) {index : Nat} {entry : Entry} (within : index < 2 ^ width)
    (filled : (live store.hashTable).cell index = some entry) : entry.slotIndex.toNat < store.numSlots.toNat := by
  have listed : entry ∈ (live store.hashTable).values := mem_values.mpr ⟨index, consistent.table ▸ within, filled⟩
  refine List.mem_range.mp (consistent.shared.mem_iff.mp ?_)
  exact List.mem_map_of_mem (List.mem_append_left _ (List.mem_map_of_mem listed))

theorem free_inside (consistent : Consistent hash width store) {slotIndex : UInt32}
    (free : slotIndex ∈ store.freeSlots) : slotIndex.toNat < store.numSlots.toNat :=
  List.mem_range.mp (consistent.shared.mem_iff.mp (List.mem_map_of_mem (List.mem_append_right _ free)))

theorem slots_nodup (consistent : Consistent hash width store) :
    ((live store.hashTable).values.map Entry.slotIndex ++ store.freeSlots).Nodup :=
  List.Pairwise.of_map UInt32.toNat (fun _ _ apart same => apart (congrArg _ same))
    (consistent.shared.nodup_iff.mpr List.nodup_range)

/-- Two entries never share a slot. -/
theorem slot_unique (consistent : Consistent hash width store) {index other : Nat} {entry copy : Entry}
    (inside : index < 2 ^ width) (there : other < 2 ^ width) (filled : (live store.hashTable).cell index = some entry)
    (copied : (live store.hashTable).cell other = some copy) (same : entry.slotIndex = copy.slotIndex) : index = other :=
  values_inj (List.nodup_append.mp (slots_nodup consistent)).1 (consistent.table ▸ inside : index < store.hashTable.size)
    (consistent.table ▸ there : other < store.hashTable.size) filled copied same

theorem Consistent.sound (consistent : Consistent hash width store) : Sound hash width store where
  toTabled := consistent.tabled
  fits := consistent.fits
  pool := consistent.pool
  placed _ within _ filled := used_inside consistent within filled
  sized _ within entry filled :=
    (consistent.bounded entry (mem_values.mpr ⟨_, consistent.table ▸ within, filled⟩)).trans consistent.room
  own _ inside _ there _ _ filled copied same := slot_unique consistent inside there filled copied same

end Slots

/-! ### What a put can do -/

/-- The store after an update. -/
def KVStore.updated (store : KVStore) (index : UInt64) (existing : Entry) (valueData : Nat → UInt8)
    (valueSize : UInt32) : KVStore :=
  { store with
    storagePool := store.storagePool.paste (store.getSlotPtr existing.slotIndex).toNat valueSize.toNat valueData
    hashTable := store.hashTable.put index.toNat { existing with valueSize := valueSize }
    usedBytes := store.usedBytes - existing.valueSize.toUInt64 + valueSize.toUInt64 }

/-- The store after an insertion. -/
def KVStore.inserted (store : KVStore) (index key : UInt64) (slotIndex : UInt32) (valueData : Nat → UInt8)
    (valueSize : UInt32) : KVStore :=
  { store with
    storagePool := store.storagePool.paste (store.getSlotPtr slotIndex).toNat valueSize.toNat valueData
    hashTable := store.hashTable.put index.toNat ⟨key, slotIndex, valueSize, true, false⟩
    freeSlots := store.freeSlots.dropLast
    usedSlots := store.usedSlots + 1
    usedBytes := store.usedBytes + valueSize.toUInt64 }

/-- What a put does: it is refused, it updates the entry of its key, it inserts one with a free
slot at the first empty position, or the table is full. -/
inductive PutCase (hash : UInt64 → UInt64) (width : Nat) (store : KVStore) (key : UInt64) (valueData : Nat → UInt8)
    (valueSize : UInt32) : Status → KVStore → Prop
  | invalid (wrong : isValidValueSize valueSize = false) :
    PutCase hash width store key valueData valueSize .invalidRequest store
  | noSlot (none_ : store.freeSlots = []) : PutCase hash width store key valueData valueSize .noSpace store
  | update (index : UInt64) (entry : Entry) (valid : isValidValueSize valueSize = true) (inside : index.toNat < 2 ^ width)
    (filled : (live store.hashTable).cell index.toNat = some entry) (same : entry.key = key) :
    PutCase hash width store key valueData valueSize .ok (store.updated index entry valueData valueSize)
  | insert (index : UInt64) (slotIndex : UInt32) (valid : isValidValueSize valueSize = true)
    (absent : Absent width store key) (last : store.freeSlots.getLast? = some slotIndex)
    (vacant : (tableLayout hash width).vacancy (live store.hashTable).cell (2 ^ width)
      ((tableLayout hash width).home key) = some index.toNat) :
    PutCase hash width store key valueData valueSize .ok (store.inserted index key slotIndex valueData valueSize)
  | full (absent : Absent width store key)
    (taken : ∀ index < 2 ^ width, (live store.hashTable).cell index ≠ none) :
    PutCase hash width store key valueData valueSize .noSpace store

section Puts
variable {hash : UInt64 → UInt64} {width : Nat} {store : KVStore}

theorem update_fits {index : UInt64} (inside : index.toNat < store.hashTable.size) {entry : Entry}
    {valueData : Nat → UInt8} {valueSize : UInt32}
    (room : (store.getSlotPtr entry.slotIndex).toNat + valueSize.toNat ≤ store.storagePool.size) :
    store.update index entry valueData valueSize = some (.ok, store.updated index entry valueData valueSize) := by
  rw [KVStore.update, store_inside room, write_inside inside]
  rfl

theorem update_overruns {index : UInt64} {entry : Entry} {valueData : Nat → UInt8} {valueSize : UInt32}
    (overruns : store.storagePool.size < (store.getSlotPtr entry.slotIndex).toNat + valueSize.toNat) :
    store.update index entry valueData valueSize = none := by
  rw [KVStore.update, store_outside overruns]
  rfl

theorem insert_fits {index : UInt64} (inside : index.toNat < store.hashTable.size) {slotIndex : UInt32}
    (last : store.freeSlots.getLast? = some slotIndex) {key : UInt64} {valueData : Nat → UInt8} {valueSize : UInt32}
    (room : (store.getSlotPtr slotIndex).toNat + valueSize.toNat ≤ store.storagePool.size) :
    store.insert index key valueData valueSize = some (.ok, store.inserted index key slotIndex valueData valueSize) := by
  rw [KVStore.insert, last, Option.bind_eq_bind, Option.bind_some, store_inside room, Option.bind_eq_bind,
    Option.bind_some, write_inside inside]
  rfl

theorem update_some {index : UInt64} {entry : Entry} {valueData : Nat → UInt8} {valueSize : UInt32} {status : Status}
    {next : KVStore} (did : store.update index entry valueData valueSize = some (status, next)) :
    status = .ok ∧ next = store.updated index entry valueData valueSize := by
  obtain ⟨pool, stored, later⟩ := Option.bind_eq_some_iff.mp did
  obtain ⟨table, wrote, ends⟩ := Option.bind_eq_some_iff.mp later
  obtain ⟨-, rfl⟩ := store_some stored
  obtain ⟨-, rfl⟩ := write_some wrote
  obtain ⟨rfl, rfl⟩ := Prod.mk.inj (Option.some.inj ends)
  exact ⟨rfl, rfl⟩

theorem insert_some {index key : UInt64} {slotIndex : UInt32} (last : store.freeSlots.getLast? = some slotIndex)
    {valueData : Nat → UInt8} {valueSize : UInt32} {status : Status} {next : KVStore}
    (did : store.insert index key valueData valueSize = some (status, next)) :
    status = .ok ∧ next = store.inserted index key slotIndex valueData valueSize := by
  rw [KVStore.insert, last, Option.bind_eq_bind, Option.bind_some] at did
  obtain ⟨pool, stored, later⟩ := Option.bind_eq_some_iff.mp did
  obtain ⟨table, wrote, ends⟩ := Option.bind_eq_some_iff.mp later
  obtain ⟨-, rfl⟩ := store_some stored
  obtain ⟨-, rfl⟩ := write_some wrote
  obtain ⟨rfl, rfl⟩ := Prod.mk.inj (Option.some.inj ends)
  exact ⟨rfl, rfl⟩

theorem update_eq (consistent : Consistent hash width store) {index : UInt64} {entry : Entry}
    (inside : index.toNat < 2 ^ width) (filled : (live store.hashTable).cell index.toNat = some entry)
    (valueData : Nat → UInt8) {valueSize : UInt32} (valid : isValidValueSize valueSize = true) :
    store.update index entry valueData valueSize = some (.ok, store.updated index entry valueData valueSize) := by
  obtain ⟨start, room⟩ := slot_inside consistent.toShaped (used_inside consistent inside filled)
  exact update_fits (consistent.table ▸ inside) (start ▸ (Nat.add_le_add_left (valid_le valid) _).trans room)

theorem insert_eq (consistent : Consistent hash width store) {index : UInt64} {slotIndex : UInt32}
    (inside : index.toNat < 2 ^ width) (last : store.freeSlots.getLast? = some slotIndex) (key : UInt64)
    (valueData : Nat → UInt8) {valueSize : UInt32} (valid : isValidValueSize valueSize = true) :
    store.insert index key valueData valueSize = some (.ok, store.inserted index key slotIndex valueData valueSize) := by
  obtain ⟨start, room⟩ := slot_inside consistent.toShaped (free_inside consistent (List.mem_of_getLast? last))
  exact insert_fits (consistent.table ▸ inside) last (start ▸ (Nat.add_le_add_left (valid_le valid) _).trans room)

theorem put_found {key : UInt64} {index : UInt64} {entry : Entry} {valueSize : UInt32}
    (valid : isValidValueSize valueSize = true) (some_ : store.freeSlots ≠ [])
    (found : store.lookup hash key = some (some (index, entry))) (valueData : Nat → UInt8) :
    store.put hash key valueData valueSize = store.update index entry valueData valueSize := by
  have nonempty : store.freeSlots.isEmpty = false := by simpa using some_
  simp [KVStore.put, valid, nonempty, found]

theorem put_vacant {key : UInt64} {index : UInt64} {valueSize : UInt32} (valid : isValidValueSize valueSize = true)
    (some_ : store.freeSlots ≠ []) (missing : store.lookup hash key = some none)
    (probed : store.probeFrom store.hashTableSize.toNat (hash key &&& store.hashMask) = some (some index))
    (valueData : Nat → UInt8) :
    store.put hash key valueData valueSize = store.insert index key valueData valueSize := by
  have nonempty : store.freeSlots.isEmpty = false := by simpa using some_
  simp [KVStore.put, valid, nonempty, missing, probed]

theorem put_full {key : UInt64} {valueSize : UInt32} (valid : isValidValueSize valueSize = true)
    (some_ : store.freeSlots ≠ []) (missing : store.lookup hash key = some none)
    (probed : store.probeFrom store.hashTableSize.toNat (hash key &&& store.hashMask) = some none)
    (valueData : Nat → UInt8) : store.put hash key valueData valueSize = some (.noSpace, store) := by
  have nonempty : store.freeSlots.isEmpty = false := by simpa using some_
  simp [KVStore.put, valid, nonempty, missing, probed]

/-- A put that is not refused updates the entry of its key, or inserts one with the slot at the back of the free slots
at the first empty position, unless the table is full. -/
inductive PutSearch (hash : UInt64 → UInt64) (width : Nat) (store : KVStore) (key : UInt64) (valueSize : UInt32) : Prop
  | update (index : UInt64) (entry : Entry) (inside : index.toNat < 2 ^ width)
    (filled : (live store.hashTable).cell index.toNat = some entry) (same : entry.key = key)
    (found : store.lookup hash key = some (some (index, entry)))
    (puts : ∀ valueData, store.put hash key valueData valueSize = store.update index entry valueData valueSize)
  | insert (index : UInt64) (slotIndex : UInt32) (inside : index.toNat < 2 ^ width) (absent : Absent width store key)
    (last : store.freeSlots.getLast? = some slotIndex)
    (vacant : (tableLayout hash width).vacancy (live store.hashTable).cell (2 ^ width)
      ((tableLayout hash width).home key) = some index.toNat)
    (missing : store.lookup hash key = some none)
    (probed : store.probeFrom store.hashTableSize.toNat (hash key &&& store.hashMask) = some (some index))
    (puts : ∀ valueData, store.put hash key valueData valueSize = store.insert index key valueData valueSize)
  | full (absent : Absent width store key) (taken : ∀ index < 2 ^ width, (live store.hashTable).cell index ≠ none)
    (missing : store.lookup hash key = some none)
    (probed : store.probeFrom store.hashTableSize.toNat (hash key &&& store.hashMask) = some none)
    (puts : ∀ valueData, store.put hash key valueData valueSize = some (.noSpace, store))

theorem put_search (tabled : Tabled hash width store) (key : UInt64) {valueSize : UInt32}
    (valid : isValidValueSize valueSize = true) (some_ : store.freeSlots ≠ []) :
    PutSearch hash width store key valueSize := by
  rcases lookup_cases tabled key with ⟨index, entry, inside, filled, same, found⟩ | ⟨absent, missing⟩
  · exact .update index entry inside filled same found (put_found valid some_ found)
  rcases probe_cases tabled key with ⟨index, inside, vacant, probed⟩ | ⟨taken, probed⟩
  · obtain ⟨slotIndex, last⟩ := Option.isSome_iff_exists.mp (List.getLast?_isSome.mpr some_)
    exact .insert index slotIndex inside absent last vacant missing probed (put_vacant valid some_ missing probed)
  · exact .full absent taken missing probed (put_full valid some_ missing probed)

theorem put_invalid (hash : UInt64 → UInt64) (store : KVStore) (key : UInt64) (valueData : Nat → UInt8)
    {valueSize : UInt32} (wrong : isValidValueSize valueSize = false) :
    store.put hash key valueData valueSize = some (.invalidRequest, store) := by simp [KVStore.put, wrong]

theorem put_noSlot (hash : UInt64 → UInt64) {store : KVStore} (key : UInt64) (valueData : Nat → UInt8)
    {valueSize : UInt32} (valid : isValidValueSize valueSize = true) (none_ : store.freeSlots = []) :
    store.put hash key valueData valueSize = some (.noSpace, store) := by simp [KVStore.put, valid, none_]

theorem put_positionless (hash : UInt64 → UInt64) {store : KVStore} (none_ : store.hashTableSize = 0) (key : UInt64)
    (valueData : Nat → UInt8) (valueSize : UInt32) :
    ∃ status, store.put hash key valueData valueSize = some (status, store) ∧ status ≠ .ok := by
  by_cases valid : isValidValueSize valueSize = true
  swap
  · exact ⟨.invalidRequest, put_invalid hash store key valueData (Bool.not_eq_true _ ▸ valid), by decide⟩
  by_cases full : store.freeSlots = []
  · exact ⟨.noSpace, put_noSlot hash key valueData valid full, by decide⟩
  · exact ⟨.noSpace, put_full valid full (lookup_positionless hash none_ key) (probe_positionless none_ _) valueData,
      by decide⟩

theorem put_cases (consistent : Consistent hash width store) (key : UInt64) (valueData : Nat → UInt8)
    (valueSize : UInt32) : ∃ status next, store.put hash key valueData valueSize = some (status, next) ∧
      PutCase hash width store key valueData valueSize status next := by
  by_cases valid : isValidValueSize valueSize = true
  swap
  · rw [Bool.not_eq_true] at valid
    exact ⟨.invalidRequest, store, put_invalid hash store key valueData valid, .invalid valid⟩
  by_cases none_ : store.freeSlots = []
  · exact ⟨.noSpace, store, put_noSlot hash key valueData valid none_, .noSlot none_⟩
  cases put_search consistent.tabled key valid none_ with
  | update index entry inside filled same found puts =>
    rw [puts]
    exact ⟨.ok, _, update_eq consistent inside filled valueData valid, .update index entry valid inside filled same⟩
  | insert index slotIndex inside absent last vacant missing probed puts =>
    rw [puts]
    exact ⟨.ok, _, insert_eq consistent inside last key valueData valid, .insert index slotIndex valid absent last vacant⟩
  | full absent taken missing probed puts => exact ⟨.noSpace, store, puts valueData, .full absent taken⟩

/-! ### Puts keep the store consistent -/

/-- The slots number fewer than 2^32, so the sizes of the entries add up to less than 2^48. -/
theorem bytes_small {entries : List Entry} {free : List UInt32} {slots : Nat} (few : slots < 2 ^ 32)
    (shared : ((entries.map Entry.slotIndex ++ free).map UInt32.toNat).Perm (List.range slots))
    (bounded : ∀ entry ∈ entries, entry.valueSize.toNat ≤ MAX_VALUE_SIZE.toNat) :
    (entries.map fun entry => entry.valueSize.toNat).sum < 2 ^ 48 := by
  have count : entries.length ≤ slots := by
    have := shared.length_eq
    simp at this
    omega
  have total : (entries.map fun entry => entry.valueSize.toNat).sum ≤ entries.length * MAX_VALUE_SIZE.toNat := by
    have sizes := List.sum_le_card_nsmul (entries.map fun entry => entry.valueSize.toNat) MAX_VALUE_SIZE.toNat
      (by simpa using bounded)
    simpa using sizes
  have most : entries.length * MAX_VALUE_SIZE.toNat ≤ slots * 65536 := Nat.mul_le_mul_right _ count
  omega

theorem updated_live {index : UInt64} {entry : Entry} (filled : (live store.hashTable).cell index.toNat = some entry)
    (valueData : Nat → UInt8) (valueSize : UInt32) : live (store.updated index entry valueData valueSize).hashTable =
      (live store.hashTable).put index.toNat (some { entry with valueSize := valueSize }) :=
  live_put store.hashTable index.toNat (live_some.mp filled).2

theorem inserted_live (store : KVStore) (index key : UInt64) (slotIndex : UInt32) (valueData : Nat → UInt8)
    (valueSize : UInt32) : live (store.inserted index key slotIndex valueData valueSize).hashTable =
      (live store.hashTable).put index.toNat (some ⟨key, slotIndex, valueSize, true, false⟩) :=
  live_put store.hashTable index.toNat rfl

theorem kept_put {table : Cells Entry} (kept : ∀ place, (table.cell place).deleted = false) (index : Nat) {entry : Entry}
    (undeleted : entry.deleted = false) (place : Nat) : ((table.put index entry).cell place).deleted = false := by
  by_cases here : place = index
  · subst here
    rwa [put_same]
  · rw [put_apart _ here]
    exact kept place

theorem bounded_put {cells : Cells (Option Entry)} {index : Nat} (inside : index < cells.size) {entry : Entry} {most : Nat}
    (bounded : ∀ one ∈ cells.values, one.valueSize.toNat ≤ most) (small : entry.valueSize.toNat ≤ most) :
    ∀ one ∈ (cells.put index (some entry)).values, one.valueSize.toNat ≤ most := by
  intro one listed
  have placed := (values_put inside (some entry)).mem_iff.mp (List.mem_append_right _ listed)
  rcases List.mem_cons.mp placed with rfl | old
  · exact small
  · exact bounded one old

theorem updated_tabled (tabled : Tabled hash width store) {index : UInt64} {entry : Entry}
    (filled : (live store.hashTable).cell index.toNat = some entry) (valueData : Nat → UInt8) (valueSize : UInt32) :
    Tabled hash width (store.updated index entry valueData valueSize) := by
  refine { tabled with kept := ?_, probed := ?_ }
  · have undeleted := tabled.kept index.toNat
    rw [(live_some.mp filled).1] at undeleted
    exact kept_put tabled.kept index.toNat undeleted
  · rw [updated_live filled valueData valueSize]
    exact tabled.probed.replace filled rfl

theorem inserted_tabled (tabled : Tabled hash width store) {index key : UInt64} (absent : Absent width store key)
    (vacant : (tableLayout hash width).vacancy (live store.hashTable).cell (2 ^ width)
      ((tableLayout hash width).home key) = some index.toNat)
    (slotIndex : UInt32) (valueData : Nat → UInt8) (valueSize : UInt32) :
    Tabled hash width (store.inserted index key slotIndex valueData valueSize) := by
  refine { tabled with kept := kept_put tabled.kept index.toNat rfl, probed := ?_ }
  rw [inserted_live store index key slotIndex valueData valueSize]
  exact tabled.probed.insert vacant fun other copy within copied => absent other within copy copied

/-- What a put did, wherever it wrote its value. -/
theorem put_did (tabled : Tabled hash width store) {key : UInt64} {valueData : Nat → UInt8} {valueSize : UInt32}
    {status : Status} {next : KVStore} (did : store.put hash key valueData valueSize = some (status, next)) :
    PutCase hash width store key valueData valueSize status next := by
  by_cases valid : isValidValueSize valueSize = true
  swap
  · rw [Bool.not_eq_true] at valid
    rw [put_invalid hash store key valueData valid] at did
    obtain ⟨rfl, rfl⟩ := Prod.mk.inj (Option.some.inj did)
    exact .invalid valid
  by_cases none_ : store.freeSlots = []
  · rw [put_noSlot hash key valueData valid none_] at did
    obtain ⟨rfl, rfl⟩ := Prod.mk.inj (Option.some.inj did)
    exact .noSlot none_
  cases put_search tabled key valid none_ with
  | update index entry inside filled same found puts =>
    obtain ⟨rfl, rfl⟩ := update_some ((puts valueData).symm.trans did)
    exact .update index entry valid inside filled same
  | insert index slotIndex inside absent last vacant missing probed puts =>
    obtain ⟨rfl, rfl⟩ := insert_some last ((puts valueData).symm.trans did)
    exact .insert index slotIndex valid absent last vacant
  | full absent taken missing probed puts =>
    obtain ⟨rfl, rfl⟩ := Prod.mk.inj (Option.some.inj ((puts valueData).symm.trans did))
    exact .full absent taken

theorem put_some {key : UInt64} {valueData : Nat → UInt8} {valueSize : UInt32} {status : Status} {next : KVStore}
    (did : store.put hash key valueData valueSize = some (status, next)) :
    next = store ∨ (∃ index entry, next = store.updated index entry valueData valueSize) ∨
      ∃ index slotIndex, next = store.inserted index key slotIndex valueData valueSize := by
  unfold KVStore.put at did
  split at did
  · exact .inl (Prod.mk.inj (Option.some.inj did)).2.symm
  split at did
  · exact .inl (Prod.mk.inj (Option.some.inj did)).2.symm
  obtain ⟨found, -, later⟩ := Option.bind_eq_some_iff.mp did
  cases found with
  | some one => exact .inr (.inl ⟨one.1, one.2, (update_some later).2⟩)
  | none =>
    obtain ⟨position, -, ends⟩ := Option.bind_eq_some_iff.mp later
    cases position with
    | none => exact .inl (Prod.mk.inj (Option.some.inj ends)).2.symm
    | some index =>
      obtain ⟨slotIndex, last, -⟩ := Option.bind_eq_some_iff.mp ends
      exact .inr (.inr ⟨index, slotIndex, (insert_some last ends).2⟩)

theorem put_poolSize {key : UInt64} {valueData : Nat → UInt8} {valueSize : UInt32} {status : Status} {next : KVStore}
    (did : store.put hash key valueData valueSize = some (status, next)) :
    next.storagePool.size = store.storagePool.size := by
  rcases put_some did with rfl | ⟨index, entry, rfl⟩ | ⟨index, slotIndex, rfl⟩
  · rfl
  · rfl
  · rfl

/-- Wherever a put writes its value, the table stays one. -/
theorem put_tabled (tabled : Tabled hash width store) {key : UInt64} {valueData : Nat → UInt8} {valueSize : UInt32}
    {status : Status} {next : KVStore} (did : store.put hash key valueData valueSize = some (status, next)) :
    Tabled hash width next := by
  cases put_did tabled did with
  | invalid wrong => exact tabled
  | noSlot none_ => exact tabled
  | full absent taken => exact tabled
  | update index entry valid inside filled same => exact updated_tabled tabled filled valueData valueSize
  | insert index slotIndex valid absent last vacant =>
    exact inserted_tabled tabled absent vacant slotIndex valueData valueSize

theorem updated_consistent (consistent : Consistent hash width store) {index : UInt64} {entry : Entry}
    (inside : index.toNat < 2 ^ width) (filled : (live store.hashTable).cell index.toNat = some entry)
    (valueData : Nat → UInt8) {valueSize : UInt32} (valid : isValidValueSize valueSize = true) :
    Consistent hash width (store.updated index entry valueData valueSize) := by
  have cells := updated_live filled valueData valueSize
  have within : index.toNat < (live store.hashTable).size := consistent.table ▸ inside
  have swapped := values_put within (some { entry with valueSize := valueSize })
  rw [filled, ← cells] at swapped
  have shared : (((live (store.updated index entry valueData valueSize).hashTable).values.map Entry.slotIndex ++
      store.freeSlots).map UInt32.toNat).Perm (List.range store.numSlots.toNat) :=
    (((swapped.map Entry.slotIndex).cons_inv.append_right store.freeSlots).map UInt32.toNat).trans consistent.shared
  have bounded : ∀ one ∈ (live (store.updated index entry valueData valueSize).hashTable).values,
      one.valueSize.toNat ≤ MAX_VALUE_SIZE.toNat := by
    rw [cells]
    exact bounded_put within consistent.bounded (valid_le valid)
  have sizes := (swapped.map fun one => one.valueSize.toNat).sum_eq
  have small := bytes_small consistent.few shared bounded
  refine { consistent with kept := ?_, probed := ?_, shared := shared, counted := ?_, summed := ?_, bounded := bounded }
  · exact (updated_tabled consistent.tabled filled valueData valueSize).kept
  · exact (updated_tabled consistent.tabled filled valueData valueSize).probed
  · rw [show (store.updated index entry valueData valueSize).usedSlots = store.usedSlots from rfl, consistent.counted]
    simpa using swapped.length_eq.symm
  · simp only [Option.toList_some, List.cons_append, List.nil_append, List.map_cons, List.sum_cons] at sizes
    have least : entry.valueSize.toUInt64 ≤ store.usedBytes := by
      rw [UInt64.le_iff_toNat_le, consistent.summed, UInt32.toNat_toUInt64]
      have listed : entry ∈ (live store.hashTable).values := mem_values.mpr ⟨_, consistent.table ▸ inside, filled⟩
      exact List.single_le_sum (by simp) _ (List.mem_map_of_mem listed)
    have summed := consistent.summed
    have added : (store.updated index entry valueData valueSize).usedBytes.toNat =
        (store.usedBytes.toNat - entry.valueSize.toNat + valueSize.toNat) % 2 ^ 64 := by
      simp only [KVStore.updated, UInt64.toNat_add, UInt64.toNat_sub_of_le _ _ least, UInt32.toNat_toUInt64]
    rw [UInt64.le_iff_toNat_le, UInt32.toNat_toUInt64] at least
    omega

theorem inserted_consistent (consistent : Consistent hash width store) {index key : UInt64} {slotIndex : UInt32}
    (absent : Absent width store key) (last : store.freeSlots.getLast? = some slotIndex)
    (vacant : (tableLayout hash width).vacancy (live store.hashTable).cell (2 ^ width)
      ((tableLayout hash width).home key) = some index.toNat)
    (valueData : Nat → UInt8) {valueSize : UInt32} (valid : isValidValueSize valueSize = true) :
    Consistent hash width (store.inserted index key slotIndex valueData valueSize) := by
  obtain ⟨inside, empty⟩ := vacancy_inside vacant
  have cells := inserted_live store index key slotIndex valueData valueSize
  have within : index.toNat < (live store.hashTable).size := consistent.table ▸ inside
  have swapped := values_put within (some (Entry.mk key slotIndex valueSize true false))
  rw [empty, ← cells] at swapped
  have free : store.freeSlots = store.freeSlots.dropLast ++ [slotIndex] :=
    (List.dropLast_append_getLast? slotIndex last).symm
  have shared : (((live (store.inserted index key slotIndex valueData valueSize).hashTable).values.map Entry.slotIndex ++
      store.freeSlots.dropLast).map UInt32.toNat).Perm (List.range store.numSlots.toNat) := by
    refine List.Perm.trans (List.Perm.map _ ?_) consistent.shared
    calc (live (store.inserted index key slotIndex valueData valueSize).hashTable).values.map Entry.slotIndex ++
          store.freeSlots.dropLast
        _ |>.Perm (slotIndex :: ((live store.hashTable).values.map Entry.slotIndex ++ store.freeSlots.dropLast)) :=
          (swapped.map Entry.slotIndex).append_right _
        _ |>.Perm ((live store.hashTable).values.map Entry.slotIndex ++ (store.freeSlots.dropLast ++ [slotIndex])) := by
          rw [← List.append_assoc]
          exact (List.perm_append_singleton slotIndex _).symm
        _ |>.Perm ((live store.hashTable).values.map Entry.slotIndex ++ store.freeSlots) := by rw [← free]
  have bounded : ∀ one ∈ (live (store.inserted index key slotIndex valueData valueSize).hashTable).values,
      one.valueSize.toNat ≤ MAX_VALUE_SIZE.toNat := by
    rw [cells]
    exact bounded_put within consistent.bounded (valid_le valid)
  have sizes := (swapped.map fun one => one.valueSize.toNat).sum_eq
  have count := swapped.length_eq
  have small := bytes_small consistent.few shared bounded
  have most : (live (store.inserted index key slotIndex valueData valueSize).hashTable).values.length ≤
      store.numSlots.toNat := by
    have := shared.length_eq
    simp at this
    omega
  have few := consistent.few
  have summed := consistent.summed
  have counted := consistent.counted
  simp only [Option.toList_some, Option.toList_none, List.cons_append, List.nil_append, List.map_cons, List.sum_cons,
    List.length_cons] at sizes count
  refine { consistent with kept := ?_, probed := ?_, shared := shared, counted := ?_, summed := ?_, bounded := bounded }
  · exact (inserted_tabled consistent.tabled absent vacant slotIndex valueData valueSize).kept
  · exact (inserted_tabled consistent.tabled absent vacant slotIndex valueData valueSize).probed
  · have added : (store.inserted index key slotIndex valueData valueSize).usedSlots.toNat =
        (store.usedSlots.toNat + 1) % 2 ^ 64 := by
      simp [KVStore.inserted]
    omega
  · have added : (store.inserted index key slotIndex valueData valueSize).usedBytes.toNat =
        (store.usedBytes.toNat + valueSize.toNat) % 2 ^ 64 := by
      simp [KVStore.inserted]
    omega

theorem put_consistent (consistent : Consistent hash width store) {key : UInt64} {valueData : Nat → UInt8}
    {valueSize : UInt32} {status : Status} {next : KVStore}
    (did : PutCase hash width store key valueData valueSize status next) : Consistent hash width next := by
  cases did with
  | invalid wrong => exact consistent
  | noSlot none_ => exact consistent
  | full absent taken => exact consistent
  | update index entry valid inside filled same => exact updated_consistent consistent inside filled valueData valid
  | insert index slotIndex valid absent last vacant => exact inserted_consistent consistent absent last vacant valueData valid

/-! ### Reads -/

/-- The bytes of an entry. -/
def valueOf (store : KVStore) (entry : Entry) : List UInt8 :=
  store.storagePool.window (store.getSlotPtr entry.slotIndex).toNat entry.valueSize.toNat

/-- The value of an entry in use lies in the pool. -/
theorem load_value (sound : Sound hash width store) {index : Nat} {entry : Entry} (inside : index < 2 ^ width)
    (filled : (live store.hashTable).cell index = some entry) :
    store.storagePool.load (store.getSlotPtr entry.slotIndex).toNat entry.valueSize.toNat = some (valueOf store entry) := by
  obtain ⟨start, room⟩ := slot_whole sound.fits sound.pool (sound.placed index inside entry filled)
  exact load_inside (start ▸ (Nat.add_le_add_left (sound.sized index inside entry filled) _).trans room)

/-- A get is defined, and what it copies fits the buffer. -/
theorem get_defined (consistent : Consistent hash width store) (key : UInt64) (bufferSize : UInt32) :
    ∃ result, store.get hash key bufferSize = some result ∧
      ∀ bytes valueSize, result = .ok (bytes, valueSize) → valueSize ≤ bufferSize := by
  rcases lookup_cases consistent.tabled key with ⟨index, entry, inside, filled, same, found⟩ | ⟨absent, missing⟩
  · by_cases short : bufferSize < entry.valueSize
    · exact ⟨.error .invalidRequest, by simp [KVStore.get, found, short], fun _ _ wrong => by cases wrong⟩
    · refine ⟨.ok (valueOf store entry, entry.valueSize), ?_, ?_⟩
      · simp [KVStore.get, found, short, load_value consistent.sound inside filled]
      · rintro _ _ result
        cases result
        exact UInt32.not_lt.mp short
  · exact ⟨.error .notFound, by simp [KVStore.get, missing], fun _ _ wrong => by cases wrong⟩

end Puts

end Rdma.KvStores
