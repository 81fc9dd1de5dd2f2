import Rdma.KvUpdates

/-!
Where the puts of a run write. A value has up to `MAX_VALUE_SIZE` bytes whatever
the size of a slot is, and the indices of the slots are cut to 32 bits, which
`Initialize` checks neither. While the values fit the slots and no more than
`2 ^ 32` slots are used (`Packed`), the slots are handed out in order, each to one
key. `values_apart_iff` says of which runs every value stays in its slot, and
`always_apart_iff` for which configurations that is every run.
-/
namespace Rdma.KvSlots
open Rdma.Arrays Rdma.KvProtocols Rdma.LinearProbing Rdma.KvStores Rdma.KvMaps Rdma.KvUpdates
open Rdma.Runs (Meets meets_same meets_cons meets_append meets_of_forall run_append_some run_cons_some)

/-- A call of `Put`. -/
structure PutCall where
  key : UInt64
  valueData : Nat → UInt8
  valueSize : UInt32

/-- The output of a step is the status. -/
def step (hash : UInt64 → UInt64) (store : KVStore) (call : PutCall) : Option (KVStore × List Status) := do
  let (status, next) ← store.put hash call.key call.valueData call.valueSize
  some (next, [status])

/-- The bytes written are a range of the pool that lies in the slot of the key's entry, which no other key has. -/
structure InOwnSlot (hash : UInt64 → UInt64) (store next : KVStore) (call : PutCall) (index : UInt64) (entry : Entry) :
    Prop where
  found : next.lookup hash call.key = some (some (index, entry))
  wrote : next.storagePool =
    store.storagePool.paste (store.getSlotPtr entry.slotIndex).toNat call.valueSize.toNat call.valueData
  begins : entry.slotIndex.toNat * store.config.slotSize.toNat ≤ (store.getSlotPtr entry.slotIndex).toNat
  ends : (store.getSlotPtr entry.slotIndex).toNat + call.valueSize.toNat ≤
    (entry.slotIndex.toNat + 1) * store.config.slotSize.toNat
  inside : (entry.slotIndex.toNat + 1) * store.config.slotSize.toNat ≤ store.storagePool.size
  own : ∀ other ≠ call.key, ∀ place copy, next.lookup hash other = some (some (place, copy)) →
    copy.slotIndex ≠ entry.slotIndex

/-- The put writes to the slot of its key alone, or to no slot, and no other key's value changes. -/
def Apart (hash : UInt64 → UInt64) (store : KVStore) (call : PutCall) : Prop :=
  ∃ status next, store.put hash call.key call.valueData call.valueSize = some (status, next) ∧
    (if status = .ok then ∃ index entry, InOwnSlot hash store next call index entry
      else next.storagePool = store.storagePool) ∧
    ∀ other ≠ call.key, ∀ bufferSize, next.get hash other bufferSize = store.get hash other bufferSize

/-- A put that is not refused fits a slot, and finds fewer than `2 ^ 32` slots used if its key is new. -/
def Fitting (store : KVStore) (call : PutCall) : Prop :=
  isValidValueSize call.valueSize = true → store.freeSlots ≠ [] → Present store call.key ∨ HasFreeEntry store →
    call.valueSize.toNat ≤ store.config.slotSize.toNat ∧ (Present store call.key ∨ store.usedSlots.toNat < 2 ^ 32)

/-! ### Slots handed out in order -/

/-- The first slots are used, each by one entry, and the others wait on the stack. -/
structure Packed (hash : UInt64 → UInt64) (width : Nat) (store : KVStore) : Prop extends Tabled hash width store where
  fits : store.numSlots.toNat * store.config.slotSize.toNat ≤ store.storagePool.size
  pool : store.storagePool.size < 2 ^ 64
  few : store.usedSlots.toNat ≤ 2 ^ 32
  most : store.usedSlots.toNat ≤ store.numSlots.toNat
  slots : ((live store.hashTable).values.map fun entry => entry.slotIndex.toNat).Perm (List.range store.usedSlots.toNat)
  sized : ∀ entry ∈ (live store.hashTable).values, entry.valueSize.toNat ≤ store.config.slotSize.toNat
  free : store.freeSlots =
    ((List.range' store.usedSlots.toNat (store.numSlots.toNat - store.usedSlots.toNat)).map UInt32.ofNat).reverse

section Packing
variable {hash : UInt64 → UInt64} {width : Nat} {store : KVStore}

theorem Packed.used (packed : Packed hash width store) {index : Nat} {entry : Entry} (inside : index < 2 ^ width)
    (filled : (live store.hashTable).cell index = some entry) : entry.slotIndex.toNat < store.usedSlots.toNat := by
  have listed : entry ∈ (live store.hashTable).values := mem_values.mpr ⟨_, packed.table ▸ inside, filled⟩
  exact List.mem_range.mp (packed.slots.mem_iff.mp (List.mem_map_of_mem listed))

theorem Packed.sound (packed : Packed hash width store) : Sound hash width store where
  toTabled := packed.toTabled
  fits := packed.fits
  pool := packed.pool
  placed _ within _ filled := (packed.used within filled).trans_le packed.most
  sized _ within entry filled := packed.sized entry (mem_values.mpr ⟨_, packed.table ▸ within, filled⟩)
  own _ inside _ there _ _ filled copied same :=
    values_inj (packed.slots.nodup_iff.mpr List.nodup_range) (packed.table ▸ inside) (packed.table ▸ there) filled copied
      (congrArg UInt32.toNat same)

/-- The slot at the back of the free slots is the next one. -/
theorem Packed.next (packed : Packed hash width store) (some_ : store.freeSlots ≠ []) :
    store.usedSlots.toNat < store.numSlots.toNat ∧
      store.freeSlots.getLast? = some (UInt32.ofNat store.usedSlots.toNat) ∧
      store.freeSlots.dropLast = ((List.range' (store.usedSlots.toNat + 1)
        (store.numSlots.toNat - (store.usedSlots.toNat + 1))).map UInt32.ofNat).reverse := by
  have left : store.usedSlots.toNat < store.numSlots.toNat := by
    by_contra none_
    have zero : store.numSlots.toNat - store.usedSlots.toNat = 0 := by omega
    exact some_ (by rw [packed.free, zero]; rfl)
  have count : store.numSlots.toNat - store.usedSlots.toNat =
      store.numSlots.toNat - (store.usedSlots.toNat + 1) + 1 := by omega
  have split : store.freeSlots = ((List.range' (store.usedSlots.toNat + 1)
      (store.numSlots.toNat - (store.usedSlots.toNat + 1))).map UInt32.ofNat).reverse ++
        [UInt32.ofNat store.usedSlots.toNat] := by
    rw [packed.free, count, List.range'_succ, List.map_cons, List.reverse_cons]
  refine ⟨left, ?_, ?_⟩
  · rw [split, List.getLast?_concat]
  · rw [split, List.dropLast_concat]

theorem updated_packed (packed : Packed hash width store) {index : UInt64} {entry : Entry}
    (inside : index.toNat < 2 ^ width) (filled : (live store.hashTable).cell index.toNat = some entry)
    (valueData : Nat → UInt8) {valueSize : UInt32} (small : valueSize.toNat ≤ store.config.slotSize.toNat) :
    Packed hash width (store.updated index entry valueData valueSize) := by
  have cells := updated_live filled valueData valueSize
  have within : index.toNat < (live store.hashTable).size := packed.table ▸ inside
  have swapped := values_put within (some { entry with valueSize := valueSize })
  rw [filled, ← cells] at swapped
  refine { packed with toTabled := updated_tabled packed.toTabled filled valueData valueSize, slots := ?_, sized := ?_ }
  · have mapped := swapped.map fun one : Entry => one.slotIndex.toNat
    exact mapped.cons_inv.trans packed.slots
  · rw [cells]
    exact bounded_put within packed.sized small

theorem inserted_used (key index : UInt64) (slotIndex : UInt32) (valueData : Nat → UInt8) (valueSize : UInt32)
    (unused : store.usedSlots.toNat < 2 ^ 32) :
    (store.inserted index key slotIndex valueData valueSize).usedSlots.toNat = store.usedSlots.toNat + 1 := by
  rw [KVStore.inserted, UInt64.toNat_add]
  exact Nat.mod_eq_of_lt (show store.usedSlots.toNat + 1 < 2 ^ 64 by omega)

theorem inserted_packed (packed : Packed hash width store) {index key : UInt64} (absent : Absent width store key)
    (vacant : (tableLayout hash width).vacancy (live store.hashTable).cell (2 ^ width)
      ((tableLayout hash width).home key) = some index.toNat) (some_ : store.freeSlots ≠ [])
    (unused : store.usedSlots.toNat < 2 ^ 32) (valueData : Nat → UInt8) {valueSize : UInt32}
    (small : valueSize.toNat ≤ store.config.slotSize.toNat) :
    Packed hash width (store.inserted index key (UInt32.ofNat store.usedSlots.toNat) valueData valueSize) := by
  obtain ⟨left, -, rest⟩ := packed.next some_
  obtain ⟨inside, empty⟩ := vacancy_inside vacant
  have cells := inserted_live store index key (UInt32.ofNat store.usedSlots.toNat) valueData valueSize
  have within : index.toNat < (live store.hashTable).size := packed.table ▸ inside
  have swapped := values_put within (some (Entry.mk key (UInt32.ofNat store.usedSlots.toNat) valueSize true false))
  rw [empty, ← cells] at swapped
  have slot : (UInt32.ofNat store.usedSlots.toNat).toNat = store.usedSlots.toNat := UInt32.toNat_ofNat_of_lt' unused
  have counted := inserted_used key index (UInt32.ofNat store.usedSlots.toNat) valueData valueSize unused
  refine { packed with
    toTabled := inserted_tabled packed.toTabled absent vacant _ valueData valueSize
    few := counted ▸ unused, most := counted ▸ left, slots := ?_, sized := ?_, free := ?_ }
  · rw [counted, List.range_succ]
    refine ((swapped.map fun one => one.slotIndex.toNat).trans ?_).trans (List.perm_append_singleton ..).symm
    simp only [Option.toList_some, List.singleton_append, List.map_cons, slot]
    exact packed.slots.cons _
  · rw [cells]
    exact bounded_put within packed.sized small
  · rw [counted]
    exact rest

/-! ### What a put does to the other keys -/

theorem lookup_some (tabled : Tabled hash width store) {key index : UInt64} {entry : Entry}
    (found : store.lookup hash key = some (some (index, entry))) :
    index.toNat < 2 ^ width ∧ (live store.hashTable).cell index.toNat = some entry ∧ entry.key = key := by
  rcases lookup_cases tabled key with ⟨place, copy, inside, filled, same, finds⟩ | ⟨-, missing⟩
  · rw [found] at finds
    cases finds
    exact ⟨inside, filled, same⟩
  · rw [found] at missing
    cases missing

/-- A value written to the slot of an entry leaves the others as they are. -/
theorem stored_apart (sound : Sound hash width store) {next : KVStore} (kept : Sound hash width next) {index : UInt64}
    (inside : index.toNat < 2 ^ width) {entry : Entry} {call : PutCall} (keyed : entry.key = call.key)
    (sized : entry.valueSize = call.valueSize)
    (cells : live next.hashTable = (live store.hashTable).put index.toNat (some entry))
    (pool : next.storagePool =
      store.storagePool.paste (store.getSlotPtr entry.slotIndex).toNat entry.valueSize.toNat call.valueData)
    (same : next.config = store.config) (slots : next.numSlots = store.numSlots)
    (replaced : ∀ old, (live store.hashTable).cell index.toNat = some old → old.key = entry.key) :
    InOwnSlot hash store next call index entry ∧
      ∀ other ≠ call.key, ∀ bufferSize, next.get hash other bufferSize = store.get hash other bufferSize := by
  have filled : (live next.hashTable).cell index.toNat = some entry := by rw [cells, put_same]
  have within : entry.slotIndex.toNat < store.numSlots.toNat := slots ▸ kept.placed _ inside entry filled
  obtain ⟨start, whole⟩ := slot_whole sound.fits sound.pool within
  rw [← Nat.succ_mul] at whole
  have small : entry.valueSize.toNat ≤ store.config.slotSize.toNat := same ▸ kept.sized _ inside entry filled
  constructor
  · refine ⟨keyed ▸ lookup_filled kept.toTabled inside filled, sized ▸ pool, start.ge, ?_, whole, ?_⟩
    · rw [start, Nat.succ_mul, ← sized]
      exact Nat.add_le_add_left small _
    · intro other different place copy found alike
      obtain ⟨there, copied, named⟩ := lookup_some kept.toTabled found
      have here := kept.own _ there _ inside copy entry copied filled alike
      rw [here, filled] at copied
      exact different (named.symm.trans (congrArg Entry.key (Option.some.inj copied).symm ▸ keyed))
  · intro other different bufferSize
    have after := write_represents sound (represents_contentsOf sound) kept inside cells pool same slots replaced
    rw [get_represents kept after, get_represents sound (represents_contentsOf sound), Contents.get, Contents.get,
      Function.update_of_ne (keyed ▸ different)]

/-- What is refused changes nothing. -/
theorem refused_apart {call : PutCall} {status : Status} (refused : status ≠ .ok)
    (puts : store.put hash call.key call.valueData call.valueSize = some (status, store)) : Apart hash store call :=
  ⟨status, store, puts, by rw [if_neg refused], fun _ _ _ => rfl⟩

/-- A value in its own slot is no longer than the slot. -/
theorem Apart.stored {call : PutCall} (apart : Apart hash store call)
    (stores : ∀ status next, store.put hash call.key call.valueData call.valueSize = some (status, next) → status = .ok) :
    ∃ next, store.put hash call.key call.valueData call.valueSize = some (.ok, next) ∧
      call.valueSize.toNat ≤ store.config.slotSize.toNat ∧ ∃ index entry, InOwnSlot hash store next call index entry := by
  obtain ⟨status, next, did, stored, -⟩ := apart
  obtain rfl := stores status next did
  rw [if_pos rfl] at stored
  obtain ⟨index, entry, slot⟩ := stored
  have begins := slot.begins
  have ends := slot.ends
  rw [Nat.succ_mul] at ends
  exact ⟨next, did, by omega, index, entry, slot⟩

theorem update_apart_iff (packed : Packed hash width store) {call : PutCall} {index : UInt64} {entry : Entry}
    (inside : index.toNat < 2 ^ width) (filled : (live store.hashTable).cell index.toNat = some entry)
    (same : entry.key = call.key) (puts : store.put hash call.key call.valueData call.valueSize =
      store.update index entry call.valueData call.valueSize) :
    Apart hash store call ↔ call.valueSize.toNat ≤ store.config.slotSize.toNat := by
  constructor
  · intro apart
    obtain ⟨next, -, small, -⟩ := apart.stored fun status next did => (update_some (puts.symm.trans did)).1
    exact small
  · intro small
    have sound := packed.sound
    have kept := (updated_packed packed inside filled call.valueData small).sound
    obtain ⟨start, whole⟩ := slot_whole sound.fits sound.pool (sound.placed _ inside entry filled)
    have room := start ▸ (Nat.add_le_add_left small _).trans whole
    have keyed : ({ entry with valueSize := call.valueSize } : Entry).key = call.key := same
    have replaced : ∀ old, (live store.hashTable).cell index.toNat = some old → old.key = entry.key := by
      intro old found
      rw [filled] at found
      rw [Option.some.inj found]
    obtain ⟨slot, others⟩ := stored_apart sound kept inside keyed rfl
      (updated_live filled call.valueData call.valueSize) rfl rfl rfl replaced
    exact ⟨.ok, _, puts.trans (update_fits (packed.table ▸ inside) room), by rw [if_pos rfl]; exact ⟨_, _, slot⟩, others⟩

/-- Where all indices of 32 bits are used, the next slot is the one of another key. -/
theorem index_taken (packed : Packed hash width store) (all : store.usedSlots.toNat = 2 ^ 32) :
    ∃ place copy, place < 2 ^ width ∧ (live store.hashTable).cell place = some copy ∧
      copy.slotIndex = UInt32.ofNat store.usedSlots.toNat := by
  have zero : 0 ∈ (live store.hashTable).values.map fun entry => entry.slotIndex.toNat :=
    packed.slots.mem_iff.mpr (List.mem_range.mpr (by omega))
  obtain ⟨copy, listed, slot⟩ := List.mem_map.mp zero
  obtain ⟨place, inside, filled⟩ := mem_values.mp listed
  have within : place < store.hashTable.size := inside
  refine ⟨place, copy, packed.table ▸ within, filled, UInt32.toNat_inj.mp ?_⟩
  rw [slot, all]
  rfl

theorem insert_apart_iff (packed : Packed hash width store) {call : PutCall} {index : UInt64}
    (absent : Absent width store call.key) (some_ : store.freeSlots ≠ [])
    (vacant : (tableLayout hash width).vacancy (live store.hashTable).cell (2 ^ width)
      ((tableLayout hash width).home call.key) = some index.toNat)
    (puts : store.put hash call.key call.valueData call.valueSize =
      store.insert index call.key call.valueData call.valueSize) :
    Apart hash store call ↔
      call.valueSize.toNat ≤ store.config.slotSize.toNat ∧ store.usedSlots.toNat < 2 ^ 32 := by
  obtain ⟨left, last, -⟩ := packed.next some_
  obtain ⟨inside, empty⟩ := vacancy_inside vacant
  constructor
  · intro apart
    obtain ⟨next, did, small, place, entry, slot⟩ :=
      apart.stored fun status next did => (insert_some last (puts.symm.trans did)).1
    refine ⟨small, lt_of_le_of_ne packed.few fun all => ?_⟩
    obtain ⟨-, rfl⟩ := insert_some last (puts.symm.trans did)
    have tabled := inserted_tabled packed.toTabled absent vacant (UInt32.ofNat store.usedSlots.toNat) call.valueData
      call.valueSize
    have cells := inserted_live store index call.key (UInt32.ofNat store.usedSlots.toNat) call.valueData call.valueSize
    have mine := lookup_filled tabled inside (by rw [cells, put_same])
    have same := slot.found.symm.trans mine
    obtain ⟨other, copy, there, copied, shared⟩ := index_taken packed all
    have apart : other ≠ index.toNat := fun here => by simp [here, empty] at copied
    have wide : 2 ^ width ≤ 2 ^ 63 := Nat.pow_le_pow_right Nat.two_pos packed.short
    have cast : (UInt64.ofNat other).toNat = other := UInt64.toNat_ofNat_of_lt' (there.trans_le (wide.trans (by decide)))
    have found := lookup_filled tabled (cast.symm ▸ there) (by rw [cells, cast, put_apart _ apart, copied])
    refine slot.own copy.key (absent other there copy copied) _ copy found ?_
    simp only [Option.some.injEq, Prod.mk.injEq] at same
    rw [shared, same.2]
  · rintro ⟨small, unused⟩
    have sound := packed.sound
    have kept := (inserted_packed packed absent vacant some_ unused call.valueData small).sound
    have slot : (UInt32.ofNat store.usedSlots.toNat).toNat = store.usedSlots.toNat := UInt32.toNat_ofNat_of_lt' unused
    obtain ⟨start, whole⟩ := slot_whole sound.fits sound.pool (slot.symm ▸ left)
    have room := start ▸ (Nat.add_le_add_left small _).trans whole
    have keyed : (Entry.mk call.key (UInt32.ofNat store.usedSlots.toNat) call.valueSize true false).key = call.key := rfl
    have replaced : ∀ old, (live store.hashTable).cell index.toNat = some old → old.key = call.key := by
      intro old found
      rw [empty] at found
      cases found
    obtain ⟨own, others⟩ := stored_apart sound kept inside keyed rfl
      (inserted_live store index call.key _ call.valueData call.valueSize) rfl rfl rfl replaced
    exact ⟨.ok, _, puts.trans (insert_fits (packed.table ▸ inside) last room), by rw [if_pos rfl]; exact ⟨_, _, own⟩, others⟩

/-! ### One put -/

theorem fitting_update (tabled : Tabled hash width store) {call : PutCall}
    (valid : isValidValueSize call.valueSize = true) (some_ : store.freeSlots ≠ []) {index : UInt64} {entry : Entry}
    (inside : index.toNat < 2 ^ width) (filled : (live store.hashTable).cell index.toNat = some entry)
    (same : entry.key = call.key) : Fitting store call ↔ call.valueSize.toNat ≤ store.config.slotSize.toNat := by
  have present := present_filled tabled inside filled same
  exact ⟨fun fitting => (fitting valid some_ (.inl present)).1, fun small _ _ _ => ⟨small, .inl present⟩⟩

theorem fitting_insert (tabled : Tabled hash width store) {call : PutCall}
    (valid : isValidValueSize call.valueSize = true) (some_ : store.freeSlots ≠ [])
    (absent : Absent width store call.key) {index : Nat} (inside : index < 2 ^ width)
    (empty : (live store.hashTable).cell index = none) : Fitting store call ↔
      call.valueSize.toNat ≤ store.config.slotSize.toNat ∧ store.usedSlots.toNat < 2 ^ 32 := by
  have free : HasFreeEntry store := ⟨index, tabled.table.symm ▸ inside, (unused_iff tabled).mpr empty⟩
  constructor
  · intro fitting
    obtain ⟨small, used⟩ := fitting valid some_ (.inr free)
    exact ⟨small, used.resolve_left ((not_present_iff tabled).mpr absent)⟩
  · rintro ⟨small, unused⟩ _ _ _
    exact ⟨small, .inr unused⟩

theorem fitting_full (tabled : Tabled hash width store) {call : PutCall} (absent : Absent width store call.key)
    (taken : ∀ index < 2 ^ width, (live store.hashTable).cell index ≠ none) : Fitting store call := by
  rintro - - (present | free)
  · exact absurd present ((not_present_iff tabled).mpr absent)
  · exact absurd free (no_free_entry tabled taken)

/-- Without positions there is neither the key nor an entry for it. -/
theorem fitting_positionless (empty : store.hashTable.size = 0) {call : PutCall} : Fitting store call := by
  rintro - - (⟨index, inside, -⟩ | ⟨index, inside, -⟩)
  · omega
  · omega

theorem apart_iff (packed : Packed hash width store) (call : PutCall) :
    Apart hash store call ↔ Fitting store call := by
  by_cases valid : isValidValueSize call.valueSize = true
  swap
  · have refused := put_invalid hash store call.key call.valueData (Bool.not_eq_true _ ▸ valid)
    exact iff_of_true (refused_apart (by decide) refused) fun valid_ => absurd valid_ valid
  by_cases none_ : store.freeSlots = []
  · have refused := put_noSlot hash call.key call.valueData valid none_
    exact iff_of_true (refused_apart (by decide) refused) fun _ some_ => absurd none_ some_
  have tabled := packed.toTabled
  cases put_search tabled call.key valid none_ with
  | update index entry inside filled same found puts =>
    rw [update_apart_iff packed inside filled same (puts call.valueData),
      fitting_update tabled valid none_ inside filled same]
  | insert index slotIndex inside absent last vacant missing probed puts =>
    rw [insert_apart_iff packed absent none_ vacant (puts call.valueData),
      fitting_insert tabled valid none_ absent inside (vacancy_inside vacant).2]
  | full absent taken missing probed puts =>
    exact iff_of_true (refused_apart (by decide) (puts call.valueData)) (fitting_full tabled absent taken)

theorem put_packed (packed : Packed hash width store) {call : PutCall} (fitting : Fitting store call) {status : Status}
    {next : KVStore} (did : store.put hash call.key call.valueData call.valueSize = some (status, next)) :
    Packed hash width next := by
  have tabled := packed.toTabled
  cases put_did tabled did with
  | invalid wrong => exact packed
  | noSlot none_ => exact packed
  | full absent taken => exact packed
  | update index entry valid inside filled same =>
    have some_ : store.freeSlots ≠ [] := by
      intro none_
      rw [put_noSlot hash call.key call.valueData valid none_] at did
      cases (Prod.mk.inj (Option.some.inj did)).1
    exact updated_packed packed inside filled _ ((fitting_update tabled valid some_ inside filled same).mp fitting)
  | insert index slotIndex valid absent last vacant =>
    have some_ : store.freeSlots ≠ [] := List.getLast?_isSome.mp (last ▸ rfl)
    obtain ⟨inside, empty⟩ := vacancy_inside vacant
    obtain ⟨small, unused⟩ := (fitting_insert tabled valid some_ absent inside empty).mp fitting
    obtain rfl : UInt32.ofNat store.usedSlots.toNat = slotIndex :=
      Option.some.inj ((packed.next some_).2.1.symm.trans last)
    exact inserted_packed packed absent vacant some_ unused _ small

/-! ### Every run -/

theorem fresh_packed {config : StoreConfig} (fresh : Fresh config store) (tabled : Tabled hash width store) :
    Packed hash width store := by
  have unused : (live store.hashTable).values = [] := by rw [fresh.table, values_empty]
  have zero : store.usedSlots.toNat = 0 := by rw [fresh.noSlots]; rfl
  refine { tabled with
    fits := ?_, pool := fresh.pool ▸ config.totalStorageSize.toNat_lt, few := by omega, most := by omega
    slots := by rw [unused, zero]; rfl, sized := by simp [unused], free := ?_ }
  · rw [fresh.slots, fresh.configured, fresh.pool, UInt64.toNat_div]
    exact Nat.div_mul_le_self ..
  · rw [fresh.free, zero]
    apply List.ext_getElem
    · simp
    · intro i first second
      have near : i < store.numSlots.toNat := by simpa using first
      have slot := free_toNat near
      rw [← UInt32.toNat_inj, List.getElem_map, List.getElem_range, slot, List.getElem_reverse, List.getElem_map,
        List.getElem_range']
      simp

/-- The slots are packed, or the table has no positions. -/
def Stored (hash : UInt64 → UInt64) (store : KVStore) : Prop :=
  (store.hashTableSize = 0 ∧ store.hashTable.size = 0) ∨ ∃ width, Packed hash width store

theorem fresh_stored {config : StoreConfig} (fresh : Fresh config store) : Stored hash store := by
  rcases fresh.tabled hash with none_ | ⟨width, tabled⟩
  · refine .inl ⟨none_, ?_⟩
    rw [fresh.table, none_]
    rfl
  · exact .inr ⟨width, fresh_packed fresh tabled⟩

theorem stored_apart_iff (stored : Stored hash store) (call : PutCall) : Apart hash store call ↔ Fitting store call := by
  rcases stored with ⟨none_, empty⟩ | ⟨width, packed⟩
  · obtain ⟨status, puts, refused⟩ := put_positionless hash none_ call.key call.valueData call.valueSize
    exact iff_of_true (refused_apart refused puts) (fitting_positionless empty)
  · exact apart_iff packed call

theorem step_some {call : PutCall} {next : KVStore} {now : List Status} (stepped : step hash store call = some (next, now)) :
    ∃ status, store.put hash call.key call.valueData call.valueSize = some (status, next) := by
  obtain ⟨⟨status, after⟩, did, ends⟩ := Option.bind_eq_some_iff.mp stepped
  obtain ⟨rfl, -⟩ := Prod.mk.inj (Option.some.inj ends)
  exact ⟨status, did⟩

theorem step_stored (stored : Stored hash store) {call : PutCall} (fitting : Fitting store call) {next : KVStore}
    {now : List Status} (stepped : step hash store call = some (next, now)) : Stored hash next := by
  obtain ⟨status, did⟩ := step_some stepped
  rcases stored with ⟨none_, empty⟩ | ⟨width, packed⟩
  · obtain ⟨refused, same, -⟩ := put_positionless hash none_ call.key call.valueData call.valueSize
    obtain ⟨-, rfl⟩ := Prod.mk.inj (Option.some.inj (same.symm.trans did))
    exact .inl ⟨none_, empty⟩
  · exact .inr ⟨width, put_packed packed fitting did⟩

theorem meets_apart_iff (stored : Stored hash store) (calls : List PutCall) :
    Meets (step hash) (Apart hash) store calls ↔ Meets (step hash) Fitting store calls :=
  meets_same (fun _ call stored => stored_apart_iff stored call)
    (fun _ _ _ _ stored fitting stepped => step_stored stored fitting stepped) stored calls

end Packing

/-- After any `Initialize` that returns true, the values of a run of puts stay in their own slots, and every put leaves
    what the other keys get, if and only if no put that is not refused is larger than a slot or adds a key when
    `2 ^ 32` slots are used. -/
theorem values_apart_iff (hash : UInt64 → UInt64) {config : StoreConfig} {storage : Nat → UInt8} {fresh : KVStore}
    (initialized : KVStore.new.initializeWith config (some storage) = some (true, fresh)) (calls : List PutCall) :
    Meets (step hash) (Apart hash) fresh calls ↔ Meets (step hash) Fitting fresh calls :=
  meets_apart_iff (fresh_stored (initialize_fresh initialized)) calls

/-- Three slots of the size of the largest value. -/
theorem large_slots_apart : ∃ fresh,
    KVStore.new.initializeWith ⟨196608, 65536, 0⟩ (some fun _ => 0) = some (true, fresh) ∧
      Meets (step hashKey) (Apart hashKey) fresh [⟨1, fun _ => 1, 8192⟩, ⟨2, fun _ => 2, 65536⟩] := by
  obtain ⟨fresh, first, initialized, stored, wide, unused, still, few⟩ : ∃ fresh first,
      KVStore.new.initializeWith ⟨196608, 65536, 0⟩ (some fun _ => 0) = some (true, fresh) ∧
        step hashKey fresh ⟨1, fun _ => 1, 8192⟩ = some (first, [.ok]) ∧
        fresh.config.slotSize = 65536 ∧ fresh.usedSlots = 0 ∧ first.config.slotSize = 65536 ∧ first.usedSlots = 1 :=
    ⟨_, _, rfl, rfl, rfl, rfl, rfl, rfl⟩
  refine ⟨fresh, initialized, (values_apart_iff hashKey initialized _).mpr (meets_cons stored ?_ ⟨?_, fun _ _ _ => trivial⟩)⟩
  · exact fun _ _ _ => ⟨by rw [wide]; decide, .inr (by rw [unused]; decide)⟩
  · exact fun _ _ _ => ⟨by rw [still]; decide, .inr (by rw [few]; decide)⟩

/-- Two slots of 4096 bytes get a value of 8192 bytes, and the value of another key overwrites half of it. -/
theorem half_overwritten : ∃ fresh first second,
    KVStore.new.initializeWith ⟨65536, 4096, 0⟩ (some fun _ => 0) = some (true, fresh) ∧
      step hashKey fresh ⟨1, fun _ => 1, 8192⟩ = some (first, [.ok]) ∧
      step hashKey first ⟨2, fun _ => 2, 4096⟩ = some (second, [.ok]) ∧
      second.get hashKey 1 8192 ≠ first.get hashKey 1 8192 ∧
      ¬Meets (step hashKey) (Apart hashKey) fresh [⟨1, fun _ => 1, 8192⟩, ⟨2, fun _ => 2, 4096⟩] := by
  obtain ⟨fresh, first, second, initialized, stored, stepped, before, after, one, two⟩ : ∃ fresh first second,
      KVStore.new.initializeWith ⟨65536, 4096, 0⟩ (some fun _ => 0) = some (true, fresh) ∧
        step hashKey fresh ⟨1, fun _ => 1, 8192⟩ = some (first, [.ok]) ∧
        step hashKey first ⟨2, fun _ => 2, 4096⟩ = some (second, [.ok]) ∧
        first.get hashKey 1 8192 = some (.ok (first.storagePool.window 0 8192, 8192)) ∧
        second.get hashKey 1 8192 = some (.ok (second.storagePool.window 0 8192, 8192)) ∧
        first.storagePool.cell 4096 = 1 ∧ second.storagePool.cell 4096 = 2 :=
    ⟨_, _, _, rfl, rfl, rfl, rfl, rfl, rfl, rfl⟩
  have altered : second.get hashKey 1 8192 ≠ first.get hashKey 1 8192 := by
    intro same
    rw [before, after] at same
    have windows : second.storagePool.window 0 8192 = first.storagePool.window 0 8192 := by
      simpa using same
    have cells := congrArg (·.getD 4096 0) windows
    simp only [window_getD _ _ (show 4096 < 8192 by decide), Nat.zero_add, one, two] at cells
    exact absurd cells (by decide)
  refine ⟨fresh, first, second, initialized, stored, stepped, altered, ?_⟩
  rintro ⟨-, later⟩
  obtain ⟨⟨status, next, did, -, same⟩, -⟩ := later first [.ok] stored
  obtain ⟨_, puts⟩ := step_some stepped
  rw [did] at puts
  obtain ⟨-, rfl⟩ := Prod.mk.inj (Option.some.inj puts)
  exact altered (same 1 (by decide) 8192)
/-! ### Every configuration -/

section Configurations
variable {hash : UInt64 → UInt64} {width : Nat} {store fresh : KVStore}

theorem free_entry_iff (packed : Packed hash width store) :
    HasFreeEntry store ↔ store.usedSlots.toNat < 2 ^ width := by
  have counted : (live store.hashTable).values.length = store.usedSlots.toNat := by
    simpa using packed.slots.length_eq
  have size : (live store.hashTable).size = 2 ^ width := packed.table
  rw [← counted, ← size, values_length_lt]
  exact exists_congr fun index => and_congr_right fun _ => unused_iff packed.toTabled

/-- What a put leaves as `Initialize` set it. -/
structure Alike (fresh store : KVStore) : Prop where
  config : store.config = fresh.config
  numSlots : store.numSlots = fresh.numSlots
  hashTableSize : store.hashTableSize = fresh.hashTableSize

theorem put_alike (alike : Alike fresh store) {call : PutCall} {status : Status} {next : KVStore}
    (did : store.put hash call.key call.valueData call.valueSize = some (status, next)) : Alike fresh next := by
  rcases put_some did with rfl | ⟨index, entry, rfl⟩ | ⟨index, slotIndex, rfl⟩
  · exact alike
  · exact ⟨alike.config, alike.numSlots, alike.hashTableSize⟩
  · exact ⟨alike.config, alike.numSlots, alike.hashTableSize⟩

/-- Slots as large as the largest value, and an index of 32 bits for each slot that can be used. -/
structure Spacious (store : KVStore) : Prop where
  room : MAX_VALUE_SIZE.toNat ≤ store.config.slotSize.toNat
  few : store.numSlots.toNat ≤ 2 ^ 32 ∨ store.hashTableSize.toNat ≤ 2 ^ 32

theorem spacious_fitting (packed : Packed hash width store) (spacious : Spacious store) (call : PutCall) :
    Fitting store call := by
  intro valid some_ place
  refine ⟨(valid_le valid).trans spacious.room, ?_⟩
  rcases place with present | free
  · exact .inl present
  · refine .inr ?_
    rcases spacious.few with slots | positions
    · exact (packed.next some_).1.trans_le slots
    · exact ((free_entry_iff packed).mp free).trans_le (packed.power ▸ positions)

theorem spacious_run (stored : Stored hash fresh) (spacious : fresh.hashTableSize = 0 ∨ Spacious fresh)
    (calls : List PutCall) : Meets (step hash) Fitting fresh calls := by
  have fits : ∀ store call, Stored hash store ∧ Alike fresh store → Fitting store call := by
    rintro store call ⟨⟨none_, empty⟩ | ⟨width, packed⟩, alike⟩
    · exact fitting_positionless empty
    · rcases spacious with none_ | ⟨room, few⟩
      · have power := packed.power
        rw [alike.hashTableSize, none_] at power
        exact absurd power.symm (Nat.two_pow_pos width).ne'
      · rw [← alike.config] at room
        rw [← alike.numSlots, ← alike.hashTableSize] at few
        exact spacious_fitting packed ⟨room, few⟩ call
  refine (meets_same (fun store call holds => iff_of_true (fits store call holds) trivial) ?_
    ⟨stored, ⟨rfl, rfl, rfl⟩⟩ calls).mpr (meets_of_forall fun _ _ => trivial)
  intro store call next now holds _ stepped
  obtain ⟨status, did⟩ := step_some stepped
  exact ⟨step_stored holds.1 (fits store call holds) stepped, put_alike holds.2 did⟩

/-! The run that fills slots with the keys `0`, `1`, ... until the indices run out. -/

def fill (i : Nat) : PutCall := ⟨UInt64.ofNat i, fun _ => 0, MIN_VALUE_SIZE⟩

/-- As many slots are used as keys have been put. -/
structure Filled (hash : UInt64 → UInt64) (width : Nat) (fresh : KVStore) (count : Nat) (store : KVStore) : Prop where
  packed : Packed hash width store
  alike : Alike fresh store
  used : store.usedSlots.toNat = count
  keys : ∀ key, Present store key → key.toNat < count

theorem present_inserted {index key other : UInt64} {slotIndex valueSize : UInt32} {valueData : Nat → UInt8}
    (present : Present (store.inserted index key slotIndex valueData valueSize) other) :
    other = key ∨ Present store other := by
  obtain ⟨place, inside, used, same⟩ := present
  by_cases here : place = index.toNat
  · rw [KVStore.inserted, here, put_same] at same
    exact .inl same.symm
  · rw [KVStore.inserted, put_apart _ here] at used same
    exact .inr ⟨place, inside, used, same⟩

theorem Packed.some_free (packed : Packed hash width store) (left : store.usedSlots.toNat < store.numSlots.toNat) :
    store.freeSlots ≠ [] := by
  intro none_
  have lengths := congrArg List.length (packed.free.symm.trans none_)
  simp at lengths
  omega

theorem fill_step {count : Nat} (filled : Filled hash width fresh count store)
    (room : MIN_VALUE_SIZE.toNat ≤ fresh.config.slotSize.toNat) (few : count < 2 ^ 32)
    (left : count < fresh.numSlots.toNat) (positions : count < 2 ^ width) :
    ∃ next now, step hash store (fill count) = some (next, now) ∧ Filled hash width fresh (count + 1) next := by
  obtain ⟨packed, alike, used, keys⟩ := filled
  have named : (UInt64.ofNat count).toNat = count := UInt64.toNat_ofNat_of_lt' (few.trans (by decide))
  have missing : ¬Present store (UInt64.ofNat count) := fun present => by
    have below := keys _ present
    omega
  have free : HasFreeEntry store := (free_entry_iff packed).mpr (used ▸ positions)
  have some_ := packed.some_free (by rw [used, alike.numSlots]; exact left)
  have unused : store.usedSlots.toNat < 2 ^ 32 := used ▸ few
  have small : MIN_VALUE_SIZE.toNat ≤ store.config.slotSize.toNat := alike.config ▸ room
  have fitting : Fitting store (fill count) := fun _ _ _ => ⟨small, .inr unused⟩
  obtain ⟨status, next, did, -⟩ := (apart_iff packed (fill count)).mpr fitting
  suffices added : next.usedSlots.toNat = count + 1 ∧ ∀ key, Present next key → key.toNat < count + 1 from
    ⟨next, [status], by rw [step, did]; rfl, put_packed packed fitting did, put_alike alike did, added.1, added.2⟩
  have tabled := packed.toTabled
  cases put_search tabled (fill count).key (show isValidValueSize MIN_VALUE_SIZE = true by decide) some_ with
  | update index entry inside filled same found puts =>
    exact absurd (present_filled tabled inside filled same) missing
  | insert index slotIndex inside absent last vacant _ probed puts =>
    obtain ⟨-, rfl⟩ := insert_some last ((puts _).symm.trans did)
    refine ⟨by rw [inserted_used _ _ _ _ _ unused, used], fun key present => ?_⟩
    rcases present_inserted present with rfl | old
    · exact named.trans_lt (Nat.lt_succ_self count)
    · exact (keys key old).trans (Nat.lt_succ_self count)
  | full absent taken _ probed puts => exact absurd free (no_free_entry tabled taken)

theorem fill_run (packed : Packed hash width fresh) (empty : fresh.usedSlots.toNat = 0)
    (room : MIN_VALUE_SIZE.toNat ≤ fresh.config.slotSize.toNat) {count : Nat} (few : count ≤ 2 ^ 32)
    (left : count ≤ fresh.numSlots.toNat) (positions : count ≤ 2 ^ width) :
    ∃ next outputs, Runs.run (step hash) fresh ((List.range count).map fill) = some (next, outputs) ∧
      Filled hash width fresh count next := by
  induction count with
  | zero =>
    refine ⟨fresh, [], rfl, packed, ⟨rfl, rfl, rfl⟩, empty, fun key present => ?_⟩
    obtain ⟨index, inside, used, -⟩ := present
    have filled := (inUse_iff packed.toTabled).mp used
    have slot := packed.used (packed.table ▸ inside) filled
    omega
  | succ count ih =>
    obtain ⟨middle, outputs, ran, filled⟩ := ih (by omega) (by omega) (by omega)
    obtain ⟨next, now, stepped, full⟩ := fill_step filled room few left positions
    refine ⟨next, outputs ++ now, ?_, full⟩
    rw [List.range_succ, List.map_append, List.map_singleton]
    exact run_append_some.mpr ⟨middle, outputs, now, ran,
      run_cons_some.mpr ⟨next, now, [], stepped, rfl, (List.append_nil now).symm⟩, rfl⟩

end Configurations

/-- A configuration keeps the values of every run in their slots if and only if the slots are as large as the largest
    value and there are at most `2 ^ 32` slots or positions of the table, or the table has no positions. -/
theorem always_apart_iff (hash : UInt64 → UInt64) {config : StoreConfig} {storage : Nat → UInt8} {fresh : KVStore}
    (initialized : KVStore.new.initializeWith config (some storage) = some (true, fresh)) :
    (∀ calls, Meets (step hash) (Apart hash) fresh calls) ↔ fresh.hashTableSize = 0 ∨ Spacious fresh := by
  have begins := initialize_fresh initialized
  have stored : Stored hash fresh := fresh_stored begins
  constructor
  swap
  · exact fun spacious calls => (meets_apart_iff stored calls).mpr (spacious_run stored spacious calls)
  intro always
  rcases stored with ⟨none_, -⟩ | ⟨width, packed⟩
  · exact .inl none_
  have empty : fresh.usedSlots.toNat = 0 := by rw [begins.noSlots]; rfl
  have slots : 0 < fresh.numSlots.toNat :=
    Nat.pos_of_ne_zero fun zero => begins.nonempty (UInt64.toNat_inj.mp zero)
  have free : HasFreeEntry fresh := (free_entry_iff packed).mpr (empty ▸ Nat.two_pow_pos width)
  have first := (meets_apart_iff (Or.inr ⟨width, packed⟩) [⟨0, fun _ => 0, MAX_VALUE_SIZE⟩]).mp (always _)
  have room := (first.1 (by decide) (packed.some_free (empty ▸ slots)) (.inr free)).1
  refine .inr ⟨room, ?_⟩
  by_contra many
  obtain ⟨slots, positions⟩ := not_or.mp many
  rw [packed.power] at positions
  obtain ⟨limit, all⟩ : ∃ limit, limit = 2 ^ 32 := ⟨_, rfl⟩
  rw [← all] at slots positions
  -- the last of these puts finds every index of 32 bits used
  have meets := (meets_apart_iff (Or.inr ⟨width, packed⟩) ((List.range limit).map fill ++ [fill limit])).mp (always _)
  have least : MIN_VALUE_SIZE.toNat ≤ fresh.config.slotSize.toNat :=
    (show MIN_VALUE_SIZE.toNat ≤ MAX_VALUE_SIZE.toNat by decide).trans room
  obtain ⟨full, outputs, ran, filled⟩ := fill_run packed empty least all.le (by omega) (by omega)
  obtain ⟨last, -⟩ := (meets_append.mp meets).2 full outputs ran
  have left : full.usedSlots.toNat < full.numSlots.toNat := by
    rw [filled.used, filled.alike.numSlots]
    omega
  have spare : HasFreeEntry full := (free_entry_iff filled.packed).mpr (by rw [filled.used]; omega)
  have named : (UInt64.ofNat limit).toNat = limit := UInt64.toNat_ofNat_of_lt' (by rw [all]; decide)
  obtain ⟨-, present | unused⟩ := last (show isValidValueSize MIN_VALUE_SIZE = true by decide)
    (filled.packed.some_free left) (.inr spare)
  · have below := filled.keys _ present
    rw [show (fill limit).key = UInt64.ofNat limit from rfl, named] at below
    omega
  · rw [filled.used, all] at unused
    exact absurd unused (Nat.lt_irrefl _)

end Rdma.KvSlots
