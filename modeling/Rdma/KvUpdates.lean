import Rdma.KvSegments

/-!
Puts on a store that is full. An update writes to the slot that its entry has and
takes nothing, but both puts ask for a free slot before they look for the key.
So a put on a key that is present is refused in a store whose slots are all used,
while a table that is full of entries does not stand in its way: the search for an
empty position comes after the one for the key. `needs_no_space_iff` says in which
states a put is what it is for, after any calls and for every configuration that
`Initialize` accepts.
-/
namespace Rdma.KvUpdates
open Rdma.Arrays Rdma.KvProtocols Rdma.KvStores Rdma.KvMaps Rdma.KvSegments
open Rdma.Runs (run)

/-- The entry is neither empty nor deleted. -/
def Entry.inUse (entry : Entry) : Bool := entry.occupied && !entry.deleted

def Present (store : KVStore) (key : UInt64) : Prop :=
  ∃ index < store.hashTable.size, Entry.inUse (store.hashTable.cell index) = true ∧ (store.hashTable.cell index).key = key

def HasFreeEntry (store : KVStore) : Prop :=
  ∃ index < store.hashTable.size, Entry.inUse (store.hashTable.cell index) = false

/-- A put of either kind. -/
inductive Put
  | contiguous (key : UInt64) (valueData : Nat → UInt8) (valueSize : UInt32)
  | scattered (key : UInt64) (segments : List Segment) (totalSize : UInt32)

namespace Put

def key : Put → UInt64
  | contiguous key _ _ => key
  | scattered key _ _ => key

def data : Put → Nat → UInt8
  | contiguous _ valueData _ => valueData
  | scattered _ segments _ => concatenation segments

def size : Put → UInt32
  | contiguous _ _ valueSize => valueSize
  | scattered _ _ totalSize => totalSize

/-- The size is one of a value, and the segments have so many bytes. -/
def Valid : Put → Prop
  | contiguous _ _ valueSize => isValidValueSize valueSize = true
  | scattered _ segments totalSize => isValidValueSize totalSize = true ∧ total segments = totalSize.toNat

/-- What the code checks of the size; it adds the lengths of the segments in 32 bits. -/
def accepted : Put → Bool
  | contiguous _ _ valueSize => isValidValueSize valueSize
  | scattered _ segments totalSize =>
    isValidValueSize totalSize && !segments.isEmpty && calculatedSize segments == totalSize

def apply (hash : UInt64 → UInt64) (store : KVStore) : Put → Option (Status × KVStore)
  | contiguous key valueData valueSize => store.put hash key valueData valueSize
  | scattered key segments totalSize => putSGL hash store key segments totalSize

end Put

/-- The entry of the key keeps its place and its slot, which has the new value, and no slot is taken. -/
structure Replaced (hash : UInt64 → UInt64) (store next : KVStore) (put : Put) : Prop where
  value : next.get hash put.key put.size = some (.ok ((List.range put.size.toNat).map put.data, put.size))
  place : ∃ index entry, store.lookup hash put.key = some (some (index, entry)) ∧
    next.hashTable = store.hashTable.put index.toNat { entry with valueSize := put.size }
  freeSlots : next.freeSlots = store.freeSlots
  usedSlots : next.usedSlots = store.usedSlots

/-- The put replaces the value of a key that is present, and is short of space for a key that is absent alone, when no
    slot or no entry is free. -/
def NeedsNoSpace (hash : UInt64 → UInt64) (store : KVStore) (put : Put) : Prop :=
  (put.Valid → Present store put.key → ∃ next, put.apply hash store = some (.ok, next) ∧ Replaced hash store next put) ∧
    ∀ next, put.apply hash store = some (.noSpace, next) →
      ¬Present store put.key ∧ (store.freeSlots = [] ∨ ¬HasFreeEntry store)

/-- The value ends in the pool if it begins where the slot of the key does. -/
def FitsPool (store : KVStore) (put : Put) : Prop :=
  ∀ index < store.hashTable.size, Entry.inUse (store.hashTable.cell index) = true →
    (store.hashTable.cell index).key = put.key →
    (store.getSlotPtr (store.hashTable.cell index).slotIndex).toNat + put.size.toNat ≤ store.storagePool.size

/-! ### The entries in use -/

section Tables
variable {hash : UInt64 → UInt64} {width : Nat} {store : KVStore}

theorem inUse_iff (tabled : Tabled hash width store) {index : Nat} :
    Entry.inUse (store.hashTable.cell index) = true ↔
      (live store.hashTable).cell index = some (store.hashTable.cell index) := by
  rw [live_some, Entry.inUse, tabled.kept]
  simp

theorem unused_iff (tabled : Tabled hash width store) {index : Nat} :
    Entry.inUse (store.hashTable.cell index) = false ↔ (live store.hashTable).cell index = none := by
  rw [live_none, Entry.inUse, tabled.kept]
  simp

theorem not_present_iff (tabled : Tabled hash width store) {key : UInt64} :
    ¬Present store key ↔ Absent width store key := by
  constructor
  · intro missing index inside entry filled same
    obtain ⟨rfl, -⟩ := live_some.mp filled
    exact missing ⟨index, tabled.table ▸ inside, (inUse_iff tabled).mpr filled, same⟩
  · rintro absent ⟨index, inside, used, same⟩
    exact absent index (tabled.table ▸ inside) _ ((inUse_iff tabled).mp used) same

theorem present_filled (tabled : Tabled hash width store) {key : UInt64} {index : Nat} {entry : Entry}
    (inside : index < 2 ^ width) (filled : (live store.hashTable).cell index = some entry) (same : entry.key = key) :
    Present store key :=
  by_contra fun missing => (not_present_iff tabled).mp missing index inside entry filled same

theorem no_free_entry (tabled : Tabled hash width store)
    (taken : ∀ index < 2 ^ width, (live store.hashTable).cell index ≠ none) : ¬HasFreeEntry store := by
  rintro ⟨index, inside, unused⟩
  exact taken index (tabled.table ▸ inside) ((unused_iff tabled).mp unused)

/-! ### Puts that pass the checks -/

theorem accepted_size {put : Put} (accepted : put.accepted = true) : isValidValueSize put.size = true := by
  cases put with
  | contiguous => exact accepted
  | scattered =>
    rw [Put.accepted, Bool.and_eq_true, Bool.and_eq_true] at accepted
    exact accepted.1.1

/-- A put of segments that passes the checks is what is left of it. -/
theorem scattered_accepted {key : UInt64} {segments : List Segment} {totalSize : UInt32}
    (accepted : (Put.scattered key segments totalSize).accepted = true) :
    segments ≠ [] ∧ calculatedSize segments = totalSize := by
  rw [Put.accepted, Bool.and_eq_true, Bool.and_eq_true] at accepted
  exact ⟨by simpa using accepted.1.2, by simpa using accepted.2⟩

theorem valid_nonempty {segments : List Segment} {size : UInt32} (valid : isValidValueSize size = true)
    (adds : total segments = size.toNat) : segments ≠ [] := by
  rintro rfl
  have zero : size = 0 := UInt32.toNat_inj.mp adds.symm
  subst zero
  exact absurd valid (by decide)

theorem valid_accepted {put : Put} (valid : put.Valid) : put.accepted = true := by
  cases put with
  | contiguous => exact valid
  | scattered key segments totalSize =>
    obtain ⟨sized, adds⟩ := valid
    have calculated : calculatedSize segments = totalSize := by
      rw [calculatedSize_eq_iff, adds, Nat.mod_eq_of_lt totalSize.toNat_lt]
    simp [Put.accepted, sized, valid_nonempty sized adds, calculated]

theorem apply_refused {put : Put} (refused : put.accepted = false) :
    put.apply hash store = some (.invalidRequest, store) := by
  cases put with
  | contiguous key valueData valueSize => exact put_invalid hash store key valueData refused
  | scattered key segments totalSize =>
    refine putSGL_refused key ?_
    rw [Put.accepted, Bool.and_eq_false_iff, Bool.and_eq_false_iff] at refused
    rcases refused with (invalid | empty) | different
    · exact .inl invalid
    · exact .inr (.inl (by simpa using empty))
    · exact .inr (.inr (by simpa using different))

theorem apply_noSlot {put : Put} (accepted : put.accepted = true) (none_ : store.freeSlots = []) :
    put.apply hash store = some (.noSpace, store) := by
  have valid := accepted_size accepted
  cases put with
  | contiguous key valueData valueSize => exact put_noSlot hash key valueData valid none_
  | scattered key segments totalSize =>
    obtain ⟨nonempty, calculated⟩ := scattered_accepted accepted
    exact putSGL_noSlot key valid nonempty calculated none_

/-- A valid put of segments is the put of their concatenation. -/
theorem apply_valid (tabled : Tabled hash width store) (small : store.storagePool.size < 2 ^ 64) {put : Put}
    (valid : put.Valid) : put.apply hash store = store.put hash put.key put.data put.size := by
  cases put with
  | contiguous => rfl
  | scattered key segments totalSize =>
    exact putSGL_eq_put tabled small key (valid_nonempty valid.1 valid.2) valid.2

/-- With a free slot, a put finds no space only after both searches have failed. -/
theorem apply_full (tabled : Tabled hash width store) {put : Put} (accepted : put.accepted = true)
    (some_ : store.freeSlots ≠ []) {next : KVStore} (full : put.apply hash store = some (.noSpace, next)) :
    Absent width store put.key ∧ ∀ index < 2 ^ width, (live store.hashTable).cell index ≠ none := by
  cases put with
  | contiguous key valueData valueSize =>
    have valid : isValidValueSize valueSize = true := accepted
    cases put_search tabled key valid some_ with
    | update index entry inside filled same found puts =>
      cases (update_some ((puts valueData).symm.trans full)).1
    | insert index slotIndex inside absent last vacant missing probed puts =>
      cases (insert_some last ((puts valueData).symm.trans full)).1
    | full absent taken missing probed puts => exact ⟨absent, taken⟩
  | scattered key segments totalSize =>
    have valid : isValidValueSize totalSize = true := accepted_size accepted
    obtain ⟨nonempty, calculated⟩ := scattered_accepted accepted
    rw [Put.apply, putSGL_checked key valid nonempty calculated some_, storeSGL] at full
    rcases prepare_cases tabled key valid some_ with ⟨-, absent, taken, -⟩ | ⟨slotIndex, prepared, found, -, -⟩
    · exact ⟨absent, taken⟩
    · rw [found, Option.bind_eq_bind, Option.bind_some] at full
      obtain ⟨pool, -, ends⟩ := Option.bind_eq_some_iff.mp full
      cases (Prod.mk.inj (Option.some.inj ends)).1

/-! ### Updates -/

/-- The entry of a key that is present, as the lookup of a put finds it. -/
theorem present_found (tabled : Tabled hash width store) {key : UInt64} (present : Present store key) :
    ∃ index entry, index.toNat < 2 ^ width ∧ (live store.hashTable).cell index.toNat = some entry ∧ entry.key = key ∧
      store.lookup hash key = some (some (index, entry)) := by
  rcases lookup_cases tabled key with found | ⟨absent, -⟩
  · exact found
  · exact absurd present ((not_present_iff tabled).mpr absent)

/-- The pool holds the value at the slot of the entry. -/
theorem fitsPool_iff (tabled : Tabled hash width store) {put : Put} {index : UInt64} {entry : Entry}
    (inside : index.toNat < 2 ^ width) (filled : (live store.hashTable).cell index.toNat = some entry)
    (same : entry.key = put.key) : FitsPool store put ↔
      (store.getSlotPtr entry.slotIndex).toNat + put.size.toNat ≤ store.storagePool.size := by
  obtain ⟨rfl, -⟩ := live_some.mp filled
  constructor
  · exact fun fits => fits index.toNat (tabled.table ▸ inside) ((inUse_iff tabled).mpr filled) same
  · intro fits other there used alike
    have within : other < 2 ^ width := tabled.table ▸ there
    obtain rfl : other = index.toNat :=
      tabled.probed.unique within inside ((inUse_iff tabled).mp used) filled (alike.trans same.symm)
    exact fits

/-- A value is read back from the slot that it was written to. -/
theorem get_updated (tabled : Tabled hash width store) {index : UInt64} {entry : Entry}
    (inside : index.toNat < 2 ^ width) (filled : (live store.hashTable).cell index.toNat = some entry)
    {valueData : Nat → UInt8} {size : UInt32}
    (fits : (store.getSlotPtr entry.slotIndex).toNat + size.toNat ≤ store.storagePool.size) :
    (store.updated index entry valueData size).get hash entry.key size =
      some (.ok ((List.range size.toNat).map valueData, size)) := by
  have after := updated_tabled tabled filled valueData size
  have refilled : (live (store.updated index entry valueData size).hashTable).cell index.toNat =
      some { entry with valueSize := size } := by rw [updated_live filled, put_same]
  have found := lookup_filled after inside refilled
  have room : (store.getSlotPtr entry.slotIndex).toNat + size.toNat ≤
      (store.updated index entry valueData size).storagePool.size := fits
  have loads : (store.updated index entry valueData size).storagePool.load (store.getSlotPtr entry.slotIndex).toNat
      size.toNat = some ((List.range size.toNat).map valueData) := by
    rw [load_inside room, KVStore.updated, window_paste]
  rw [KVStore.get, found, Option.bind_eq_bind, Option.bind_some]
  dsimp only
  rw [if_neg (UInt32.lt_irrefl size)]
  exact (congrArg (Option.bind · _) loads).trans rfl

theorem needs_no_space_tabled (tabled : Tabled hash width store) (small : store.storagePool.size < 2 ^ 64) (put : Put) :
    NeedsNoSpace hash store put ↔ (put.accepted = true → Present store put.key →
      store.freeSlots ≠ [] ∧ (put.Valid → FitsPool store put)) := by
  constructor
  · rintro ⟨updates, refuses⟩ accepted present
    have some_ : store.freeSlots ≠ [] := fun none_ => (refuses store (apply_noSlot accepted none_)).1 present
    refine ⟨some_, fun valid => ?_⟩
    obtain ⟨index, entry, inside, filled, same, found⟩ := present_found tabled present
    rw [fitsPool_iff tabled inside filled same]
    by_contra overruns
    obtain ⟨next, applied, -⟩ := updates valid present
    rw [apply_valid tabled small valid, put_found (accepted_size accepted) some_ found,
      update_overruns (Nat.not_le.mp overruns)] at applied
    cases applied
  · intro spared
    constructor
    · intro valid present
      obtain ⟨some_, fits⟩ := spared (valid_accepted valid) present
      obtain ⟨index, entry, inside, filled, same, found⟩ := present_found tabled present
      have room := (fitsPool_iff tabled inside filled same).mp (fits valid)
      refine ⟨store.updated index entry put.data put.size, ?_, ?_, ⟨index, entry, found, rfl⟩, rfl, rfl⟩
      · rw [apply_valid tabled small valid, put_found (accepted_size (valid_accepted valid)) some_ found,
          update_fits (tabled.table ▸ inside) room]
      · rw [← same, get_updated tabled inside filled room]
    · intro next full
      by_cases accepted : put.accepted = true
      swap
      · rw [apply_refused (Bool.not_eq_true _ ▸ accepted)] at full
        cases (Prod.mk.inj (Option.some.inj full)).1
      by_cases none_ : store.freeSlots = []
      · exact ⟨fun present => (spared accepted present).1 none_, .inl none_⟩
      · obtain ⟨absent, taken⟩ := apply_full tabled accepted none_ full
        exact ⟨(not_present_iff tabled).mpr absent, .inr (no_free_entry tabled taken)⟩

end Tables

/-! ### Every state -/

/-- The table is one, or it has no positions. -/
structure Searchable (hash : UInt64 → UInt64) (store : KVStore) : Prop where
  table : (store.hashTableSize = 0 ∧ store.hashTable.size = 0) ∨ ∃ width, Tabled hash width store
  pool : store.storagePool.size < 2 ^ 64

section Runs
variable {hash : UInt64 → UInt64} {store : KVStore}

theorem fresh_searchable {config : StoreConfig} (fresh : Fresh config store) : Searchable hash store := by
  refine ⟨?_, fresh.pool ▸ config.totalStorageSize.toNat_lt⟩
  rcases fresh.tabled hash with none_ | tabled
  · refine .inl ⟨none_, ?_⟩
    rw [fresh.table, none_]
    rfl
  · exact .inr tabled

theorem put_searchable (searchable : Searchable hash store) {key : UInt64} {valueData : Nat → UInt8}
    {valueSize : UInt32} {status : Status} {next : KVStore}
    (did : store.put hash key valueData valueSize = some (status, next)) : Searchable hash next := by
  refine ⟨?_, (put_poolSize did).trans_lt searchable.pool⟩
  rcases searchable.table with ⟨none_, empty⟩ | ⟨width, tabled⟩
  · obtain ⟨refused, same, -⟩ := put_positionless hash none_ key valueData valueSize
    obtain ⟨-, rfl⟩ := Prod.mk.inj (Option.some.inj (same.symm.trans did))
    exact .inl ⟨none_, empty⟩
  · exact .inr ⟨width, put_tabled tabled did⟩

/-- Where the table has no positions, the slot of a put of segments would be read before it is set. -/
theorem prepare_positionless (none_ : store.hashTableSize = 0) (key : UInt64) (size : UInt32) :
    prepareSGL hash store key size = none := by
  rw [prepareSGL, lookup_positionless hash none_ key, Option.bind_eq_bind, Option.bind_some]
  dsimp only
  rw [probe_positionless none_, Option.bind_eq_bind, Option.bind_some]
  exact if_pos none_

theorem putSGL_searchable (searchable : Searchable hash store) {key : UInt64} {segments : List Segment}
    {size : UInt32} {status : Status} {next : KVStore}
    (did : putSGL hash store key segments size = some (status, next)) : Searchable hash next := by
  rcases putSGL_some did with rfl | ⟨valid, some_, slotIndex, prepared, pool, found, copies, same⟩
  · exact searchable
  rcases searchable.table with ⟨none_, -⟩ | ⟨width, tabled⟩
  · rw [prepare_positionless none_] at found
    cases found
  refine ⟨.inr ⟨width, putSGL_tabled tabled did⟩, ?_⟩
  have kept := (prepare_found tabled valid some_ found).1.frame.2.1
  have sameSize : pool.size = store.storagePool.size := (copySegments_size copies).trans (congrArg Cells.size kept)
  rw [same, written, sameSize]
  exact searchable.pool

theorem run_searchable (searchable : Searchable hash store) {last : KVStore} {calls : List Call}
    {answers : List Answer} (ran : run (KvSegments.step hash) store calls = some (last, answers)) :
    Searchable hash last :=
  calls_preserve (fun _ _ _ _ _ _ searchable => put_searchable searchable)
    (fun _ _ _ _ _ _ searchable => putSGL_searchable searchable) searchable ran

end Runs

/-- In every state that calls after `Initialize` lead to, a put is short of space exactly for the reasons that it should
    be, unless it passes its checks, its key is present, and no slot is free or the value ends behind the pool. -/
theorem needs_no_space_iff (hash : UInt64 → UInt64) {config : StoreConfig} {storage : Nat → UInt8}
    {fresh store : KVStore} (initialized : KVStore.new.initializeWith config (some storage) = some (true, fresh))
    {calls : List Call} {answers : List Answer} (ran : run (KvSegments.step hash) fresh calls = some (store, answers))
    (put : Put) : NeedsNoSpace hash store put ↔ (put.accepted = true → Present store put.key →
      store.freeSlots ≠ [] ∧ (put.Valid → FitsPool store put)) := by
  have searchable := run_searchable (fresh_searchable (initialize_fresh initialized)) ran
  rcases searchable.table with ⟨none_, empty⟩ | ⟨width, tabled⟩
  swap
  · exact needs_no_space_tabled tabled searchable.pool put
  have missing : ∀ key, ¬Present store key := fun key ⟨index, inside, _⟩ => by omega
  have taken : ¬HasFreeEntry store := fun ⟨index, inside, _⟩ => by omega
  exact iff_of_true ⟨fun _ present => absurd present (missing _), fun _ _ => ⟨missing _, .inr taken⟩⟩
    fun _ present => absurd present (missing _)

/-- The table is full of entries, and one of two slots is free. -/
theorem full_table_updated : ∃ fresh store,
    KVStore.new.initializeWith ⟨131072, 65536, 1⟩ (some fun _ => 0) = some (true, fresh) ∧
      run (KvSegments.step hashKey) fresh [.op (.put 5 (fun _ => 1) 4096)] = some (store, [.put .ok]) ∧
      ¬HasFreeEntry store ∧ NeedsNoSpace hashKey store (.scattered 5 [⟨fun _ => 2, 2048⟩, ⟨fun _ => 3, 2048⟩] 4096) := by
  obtain ⟨fresh, store, initialized, ran, single, used, free, fits⟩ : ∃ fresh store,
      KVStore.new.initializeWith ⟨131072, 65536, 1⟩ (some fun _ => 0) = some (true, fresh) ∧
        run (KvSegments.step hashKey) fresh [.op (.put 5 (fun _ => 1) 4096)] = some (store, [.put .ok]) ∧
        store.hashTable.size = 1 ∧ Entry.inUse (store.hashTable.cell 0) = true ∧ store.freeSlots ≠ [] ∧
        (store.getSlotPtr (store.hashTable.cell 0).slotIndex).toNat + 4096 ≤ store.storagePool.size :=
    ⟨_, _, rfl, rfl, rfl, rfl, by decide, by decide⟩
  have only : ∀ index < store.hashTable.size, index = 0 := fun index inside => Nat.lt_one_iff.mp (single ▸ inside)
  refine ⟨fresh, store, initialized, ran, ?_, ?_⟩
  · rintro ⟨index, inside, unused⟩
    rw [only index inside, used] at unused
    cases unused
  · refine (needs_no_space_iff hashKey initialized ran _).mpr fun _ _ => ⟨free, fun _ index inside _ _ => ?_⟩
    rw [only index inside]
    exact fits

/-- A store of one slot refuses every update of the key that has it. -/
theorem full_store_refuses : ∃ fresh store,
    KVStore.new.initializeWith ⟨65536, 65536, 0⟩ (some fun _ => 0) = some (true, fresh) ∧
      run (KvSegments.step hashKey) fresh [.op (.put 5 (fun _ => 1) 4096)] = some (store, [.put .ok]) ∧
      ¬NeedsNoSpace hashKey store (.contiguous 5 (fun _ => 2) 4096) := by
  refine ⟨_, _, rfl, rfl, ?_⟩
  rintro ⟨-, refuses⟩
  exact (refuses _ rfl).1 ⟨0, by decide, rfl, rfl⟩

end Rdma.KvUpdates
