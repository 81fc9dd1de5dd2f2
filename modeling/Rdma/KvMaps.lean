import Rdma.KvStores

/-!
The store as a finite map from keys to values. `Represents` says what map a store
holds; a put answered with OK changes the map at its key and nothing else does
(`put_represents`), and what the reads answer is read off the map
(`lookup_represents`). `refines_map` is every run of operations after
`Initialize`: it stays inside the pool and the table, each answer is the one of
the map that the puts before it left, and the store is consistent.
-/
namespace Rdma.KvMaps
open Rdma.Arrays Rdma.KvProtocols Rdma.LinearProbing Rdma.KvStores

/-! ### A fresh store -/

/-- The indices of the slots are cut to 32 bits. -/
theorem free_toNat {numSlots : UInt64} {i : Nat} (near : i < numSlots.toNat) :
    ((numSlots - 1 - i.toUInt64).toUInt32).toNat = (numSlots.toNat - 1 - i) % 2 ^ 32 := by
  have small := numSlots.toNat_lt
  have cast : i.toUInt64.toNat = i := UInt64.toNat_ofNat_of_lt' (show i < 2 ^ 64 by omega)
  have one : (1 : UInt64) ≤ numSlots := UInt64.le_iff_toNat_le.mpr (show 1 ≤ numSlots.toNat by omega)
  have before : (numSlots - 1).toNat = numSlots.toNat - 1 := UInt64.toNat_sub_of_le _ _ one
  have behind : i.toUInt64 ≤ numSlots - 1 := UInt64.le_iff_toNat_le.mpr (by omega)
  rw [UInt64.toNat_toUInt32, UInt64.toNat_sub_of_le _ _ behind, before, cast]

/-- `Initialize` puts every slot into the free slots once. -/
theorem free_perm {numSlots : UInt64} (few : numSlots.toNat < 2 ^ 32) :
    (((List.range numSlots.toNat).map fun i => (numSlots - 1 - i.toUInt64).toUInt32).map UInt32.toNat).Perm
      (List.range numSlots.toNat) := by
  have counted : ((List.range numSlots.toNat).map fun i => (numSlots - 1 - i.toUInt64).toUInt32).map UInt32.toNat =
      (List.range numSlots.toNat).map fun i => numSlots.toNat - 1 - i := by
    rw [List.map_map]
    refine List.map_congr_left fun i member => ?_
    rw [Function.comp_apply, free_toNat (List.mem_range.mp member)]
    exact Nat.mod_eq_of_lt (by omega)
  have reversed : ((List.range numSlots.toNat).map fun i => numSlots.toNat - 1 - i) =
      (List.range numSlots.toNat).reverse := by
    apply List.ext_getElem
    · simp
    · intro i first second
      simp
  rw [counted, reversed]
  exact List.reverse_perm _

theorem values_empty (size : Nat) : (live ⟨size, fun _ => .empty⟩).values = [] := by
  refine List.eq_nil_iff_forall_not_mem.mpr fun entry listed => ?_
  obtain ⟨index, -, filled⟩ := mem_values.mp listed
  cases filled

theorem fresh_tabled (hash : UInt64 → UInt64) {width : Nat} {store : KVStore} (short : width ≤ 63)
    (power : store.hashTableSize.toNat = 2 ^ width) (mask : store.hashMask = store.hashTableSize - 1)
    (table : store.hashTable = ⟨2 ^ width, fun _ => .empty⟩) : Tabled hash width store := by
  refine ⟨short, power, mask, by rw [table], fun index => by rw [table]; rfl, ?_, ?_⟩
  · intro index other entry copy _ _ filled
    rw [table] at filled
    cases filled
  · intro index entry _ filled
    rw [table] at filled
    cases filled

/-- A table with no entry over slots that are all free. -/
theorem fresh_consistent (hash : UInt64 → UInt64) {width : Nat} {store : KVStore} (shaped : Shaped width store)
    (table : store.hashTable = ⟨2 ^ width, fun _ => .empty⟩)
    (free : (store.freeSlots.map UInt32.toNat).Perm (List.range store.numSlots.toNat))
    (noSlots : store.usedSlots = 0) (noBytes : store.usedBytes = 0) : Consistent hash width store := by
  have unused : (live store.hashTable).values = [] := by rw [table, values_empty]
  have tabled := fresh_tabled hash shaped.short shaped.power shaped.mask table
  refine { shaped with
    kept := tabled.kept, probed := tabled.probed, shared := ?_, counted := ?_, summed := ?_, bounded := ?_ }
  · rw [unused]
    exact free
  · rw [unused, noSlots]
    rfl
  · rw [unused, noBytes]
    rfl
  · rw [unused]
    exact fun _ listed => absurd listed List.not_mem_nil

theorem hashTableSize_power {config : StoreConfig} {numSlots : UInt64} (few : numSlots.toNat < 2 ^ 32)
    (rounds : config.hashTableSize.toNat ≤ 2 ^ 63) : ∃ width ≤ 63, (if config.hashTableSize = 0
      then nextPowerOfTwo (numSlots * 2) else nextPowerOfTwo config.hashTableSize).toNat = 2 ^ width := by
  by_cases auto : config.hashTableSize = 0
  · rw [if_pos auto]
    refine nextPowerOfTwo_spec ?_
    rw [UInt64.toNat_mul]
    exact (Nat.mod_le _ _).trans (show numSlots.toNat * 2 ≤ 2 ^ 63 by omega)
  · rw [if_neg auto]
    exact nextPowerOfTwo_spec rounds

/-- The store that a successful `Initialize` leaves. -/
structure Fresh (config : StoreConfig) (store : KVStore) : Prop where
  configured : store.config = config
  slots : store.numSlots = config.totalStorageSize / config.slotSize
  nonempty : store.numSlots ≠ 0
  pool : store.storagePool.size = config.totalStorageSize.toNat
  positions : store.hashTableSize =
    if config.hashTableSize = 0 then nextPowerOfTwo (store.numSlots * 2) else nextPowerOfTwo config.hashTableSize
  mask : store.hashMask = store.hashTableSize - 1
  table : store.hashTable = ⟨store.hashTableSize.toNat, fun _ => .empty⟩
  free : store.freeSlots = (List.range store.numSlots.toNat).map fun i => (store.numSlots - 1 - i.toUInt64).toUInt32
  noSlots : store.usedSlots = 0

theorem initialize_fresh {config : StoreConfig} {storage : Nat → UInt8} {store : KVStore}
    (initialized : KVStore.new.initializeWith config (some storage) = some (true, store)) : Fresh config store := by
  unfold KVStore.initializeWith at initialized
  split at initialized
  · cases initialized
  dsimp only at initialized
  split at initialized
  · cases (Prod.mk.inj (Option.some.inj initialized)).1
  · rename_i some_
    obtain ⟨-, rfl⟩ := Prod.mk.inj (Option.some.inj initialized)
    exact ⟨rfl, rfl, some_, rfl, rfl, rfl, rfl, rfl, rfl⟩

/-- The table has a power of two positions, or none where the rounding overflows. -/
theorem Fresh.tabled {config : StoreConfig} {store : KVStore} (fresh : Fresh config store) (hash : UInt64 → UInt64) :
    store.hashTableSize = 0 ∨ ∃ width, Tabled hash width store := by
  have rounded : ∃ n, store.hashTableSize = nextPowerOfTwo n := by
    rw [fresh.positions]
    split
    · exact ⟨_, rfl⟩
    · exact ⟨_, rfl⟩
  obtain ⟨n, rounds⟩ := rounded
  by_cases large : 2 ^ 63 < n.toNat
  · exact .inl (rounds.trans (nextPowerOfTwo_overflow large))
  · obtain ⟨width, short, power⟩ := nextPowerOfTwo_spec (Nat.not_lt.mp large)
    rw [← rounds] at power
    exact .inr ⟨width, fresh_tabled hash short power fresh.mask (power ▸ fresh.table)⟩

/-- `Initialize` succeeds where the storage holds a slot, and the store has no entry. -/
theorem initialize_consistent (hash : UInt64 → UInt64) (config : StoreConfig)
    (room : MAX_VALUE_SIZE.toNat ≤ config.slotSize.toNat) (holds : config.slotSize ≤ config.totalStorageSize)
    (few : config.totalStorageSize.toNat / config.slotSize.toNat < 2 ^ 32) (rounds : config.hashTableSize.toNat ≤ 2 ^ 63)
    (storage : Nat → UInt8) : ∃ width store, KVStore.new.initializeWith config (some storage) = some (true, store) ∧
      Consistent hash width store ∧ ∀ index, (live store.hashTable).cell index = none := by
  have positive : 0 < config.slotSize.toNat := (show 0 < MAX_VALUE_SIZE.toNat by decide).trans_le room
  have slots : (config.totalStorageSize / config.slotSize).toNat =
      config.totalStorageSize.toNat / config.slotSize.toNat := UInt64.toNat_div ..
  have some_ : 0 < (config.totalStorageSize / config.slotSize).toNat := by
    rw [slots]
    exact Nat.div_pos (UInt64.le_iff_toNat_le.mp holds) positive
  have divides : config.slotSize ≠ 0 := fun zero => by simp [zero] at positive
  have nonzero : config.totalStorageSize / config.slotSize ≠ 0 := fun zero => by simp [zero] at some_
  rw [← slots] at few
  obtain ⟨width, short, power⟩ := hashTableSize_power few rounds
  refine ⟨width, _, by rw [KVStore.initializeWith, if_neg divides]; simp only [if_neg nonzero]; rfl, ?_, fun _ => rfl⟩
  have fits : (config.totalStorageSize / config.slotSize).toNat * config.slotSize.toNat ≤
      config.totalStorageSize.toNat := by
    rw [slots]
    exact Nat.div_mul_le_self ..
  refine fresh_consistent hash ⟨room, fits, UInt64.toNat_lt _, few, short, power, rfl, power⟩ ?_ ?_ rfl rfl
  · dsimp only
    rw [power]
  · exact free_perm few

/-! ### The map -/

/-- What the store is for: the value of each key. -/
abbrev Contents := UInt64 → Option (List UInt8)

inductive Op
  | put (key : UInt64) (valueData : Nat → UInt8) (valueSize : UInt32)
  | get (key : UInt64) (bufferSize : UInt32)
  | getInfo (key : UInt64)
  | getValuePtr (key : UInt64)

/-- What the caller sees; the bytes at the pointer are read before the next put. -/
inductive Answer
  | put (status : Status)
  | get (result : Except Status (List UInt8 × UInt32))
  | getInfo (result : Except Status UInt32)
  | getValuePtr (value : Option (List UInt8))

def step (hash : UInt64 → UInt64) (store : KVStore) : Op → Option (Answer × KVStore)
  | .put key valueData valueSize => do
    let (status, next) ← store.put hash key valueData valueSize
    some (.put status, next)
  | .get key bufferSize => do some (.get (← store.get hash key bufferSize), store)
  | .getInfo key => do some (.getInfo (← store.getInfo hash key), store)
  | .getValuePtr key => do
    match ← store.getValuePtr hash key with
    | none => some (.getValuePtr none, store)
    | some (start, size) => some (.getValuePtr (some (← store.storagePool.load start.toNat size.toNat)), store)

def run (hash : UInt64 → UInt64) (store : KVStore) : List Op → Option (List Answer × KVStore)
  | [] => some ([], store)
  | op :: ops => do
    let (answer, next) ← step hash store op
    let (answers, final) ← run hash next ops
    some (answer :: answers, final)

/-- A put answered with OK sets the value of its key; nothing else changes the map. -/
def Contents.after (contents : Contents) : Op → Answer → Contents
  | .put key valueData valueSize, .put .ok =>
    Function.update contents key (some ((List.range valueSize.toNat).map valueData))
  | _, _ => contents

def Contents.get (contents : Contents) (key : UInt64) (bufferSize : UInt32) : Except Status (List UInt8 × UInt32) :=
  match contents key with
  | none => .error .notFound
  | some value =>
    if bufferSize.toNat < value.length then .error .invalidRequest else .ok (value, .ofNat value.length)

def Contents.getInfo (contents : Contents) (key : UInt64) : Except Status UInt32 :=
  match contents key with
  | none => .error .notFound
  | some value => .ok (.ofNat value.length)

/-- The answer is the one of the map. -/
def Contents.Answers (contents : Contents) : Op → Answer → Prop
  | .put _ _ _, .put _ => True
  | .get key bufferSize, .get result => result = contents.get key bufferSize
  | .getInfo key, .getInfo result => result = contents.getInfo key
  | .getValuePtr key, .getValuePtr value => value = contents key
  | _, _ => False

/-- Each answer is the one of the map that the answers before it left. -/
def Contents.Explains (contents : Contents) : List Op → List Answer → Prop
  | [], [] => True
  | op :: ops, answer :: answers => contents.Answers op answer ∧ (contents.after op answer).Explains ops answers
  | _, _ => False

/-! ### The map of a store -/

/-- The entries in use are the map. -/
def Represents (width : Nat) (store : KVStore) (contents : Contents) : Prop :=
  ∀ key value, contents key = some value ↔ ∃ index < 2 ^ width, ∃ entry,
    (live store.hashTable).cell index = some entry ∧ entry.key = key ∧ valueOf store entry = value

section Refinement
variable {hash : UInt64 → UInt64} {width : Nat} {store : KVStore} {contents : Contents}

/-- A lookup finds an entry with the value of the key, which lies in the pool. -/
theorem lookup_represents (sound : Sound hash width store) (represents : Represents width store contents)
    (key : UInt64) : (contents key = none ∧ store.lookup hash key = some none) ∨
      ∃ index entry, store.lookup hash key = some (some (index, entry)) ∧ contents key = some (valueOf store entry) ∧
        store.storagePool.load (store.getSlotPtr entry.slotIndex).toNat entry.valueSize.toNat =
          some (valueOf store entry) := by
  rcases lookup_cases sound.toTabled key with ⟨index, entry, inside, filled, same, found⟩ | ⟨absent, missing⟩
  · exact Or.inr ⟨index, entry, found, (represents key _).mpr ⟨_, inside, entry, filled, same, rfl⟩,
      load_value sound inside filled⟩
  · refine Or.inl ⟨?_, missing⟩
    by_contra known
    obtain ⟨value, some_⟩ := Option.ne_none_iff_exists'.mp known
    obtain ⟨index, inside, entry, filled, same, -⟩ := (represents key value).mp some_
    exact absent index inside entry filled same

theorem get_represents (sound : Sound hash width store) (represents : Represents width store contents)
    (key : UInt64) (bufferSize : UInt32) : store.get hash key bufferSize = some (contents.get key bufferSize) := by
  rcases lookup_represents sound represents key with ⟨none_, missing⟩ | ⟨index, entry, found, some_, loads⟩
  · rw [KVStore.get, missing, Contents.get, none_]
    rfl
  · have length : (valueOf store entry).length = entry.valueSize.toNat := window_length ..
    rw [Contents.get, some_]
    by_cases short : bufferSize < entry.valueSize
    · simp [KVStore.get, found, short, length, UInt32.lt_iff_toNat_lt.mp short]
    · have large : ¬ bufferSize.toNat < entry.valueSize.toNat := fun less => short (UInt32.lt_iff_toNat_lt.mpr less)
      simp [KVStore.get, found, short, loads, length, large]

/-- An entry written at a slot of its own sets the value of its key. -/
theorem write_represents (sound : Sound hash width store) (represents : Represents width store contents)
    {next : KVStore} (kept : Sound hash width next) {index : Nat} (inside : index < 2 ^ width) {entry : Entry}
    {valueData : Nat → UInt8} (cells : live next.hashTable = (live store.hashTable).put index (some entry))
    (pool : next.storagePool = store.storagePool.paste (store.getSlotPtr entry.slotIndex).toNat entry.valueSize.toNat valueData)
    (same : next.config = store.config) (slots : next.numSlots = store.numSlots)
    (replaced : ∀ old, (live store.hashTable).cell index = some old → old.key = entry.key) :
    Represents width next (Function.update contents entry.key (some ((List.range entry.valueSize.toNat).map valueData))) := by
  have placed : (live next.hashTable).cell index = some entry := by rw [cells, put_same]
  have ptr : ∀ slotIndex, next.getSlotPtr slotIndex = store.getSlotPtr slotIndex := by
    intro slotIndex
    rw [KVStore.getSlotPtr, same, KVStore.getSlotPtr]
  have written : valueOf next entry = (List.range entry.valueSize.toNat).map valueData := by
    rw [valueOf, ptr, pool, window_paste]
  have untouched : ∀ other < 2 ^ width, other ≠ index → ∀ old, (live store.hashTable).cell other = some old →
      valueOf next old = valueOf store old := by
    intro other there apart old filled
    have same_ : (live next.hashTable).cell other = some old := by rw [cells, put_apart _ apart, filled]
    have different : old.slotIndex ≠ entry.slotIndex := fun alike =>
      apart (kept.own other there index inside old entry same_ placed alike)
    have fresh : entry.slotIndex.toNat < store.numSlots.toNat := slots ▸ kept.placed index inside entry placed
    have short : entry.valueSize.toNat ≤ store.config.slotSize.toNat := same ▸ kept.sized index inside entry placed
    rw [valueOf, ptr, pool, valueOf]
    exact window_paste_apart _ _ (slots_apart sound.fits sound.pool (sound.placed other there old filled) fresh
      different (sound.sized other there old filled) short)
  intro key value
  by_cases mine : key = entry.key
  · rw [mine, Function.update_self, Option.some.injEq]
    constructor
    · rintro rfl
      exact ⟨index, inside, entry, placed, rfl, written⟩
    · rintro ⟨other, there, copy, filled, alike, rfl⟩
      obtain rfl : other = index := kept.probed.unique there inside filled placed alike
      obtain rfl := Option.some.inj (filled.symm.trans placed)
      exact written.symm
  · rw [Function.update_of_ne mine, represents]
    refine exists_congr fun other => and_congr_right fun there => exists_congr fun old => ?_
    by_cases here : other = index
    · refine iff_of_false ?_ ?_
      · rintro ⟨filled, alike, -⟩
        exact mine (alike.symm.trans (replaced old (here ▸ filled)))
      · rintro ⟨filled, alike, -⟩
        rw [here, placed] at filled
        exact mine (alike.symm.trans (congrArg Entry.key (Option.some.inj filled).symm))
    · rw [cells, put_apart _ here]
      refine and_congr_right fun filled => and_congr_right fun _ => ?_
      rw [untouched other there here old filled]

/-- A put sets the value of its key where it answers OK, and changes nothing otherwise. -/
theorem put_represents (consistent : Consistent hash width store) (represents : Represents width store contents)
    {key : UInt64} {valueData : Nat → UInt8} {valueSize : UInt32} {status : Status} {next : KVStore}
    (did : PutCase hash width store key valueData valueSize status next) :
    Represents width next (contents.after (.put key valueData valueSize) (.put status)) := by
  have kept := put_consistent consistent did
  cases did with
  | invalid wrong => exact represents
  | noSlot none_ => exact represents
  | full absent taken => exact represents
  | update index entry valid inside filled same =>
    subst same
    refine write_represents consistent.sound represents kept.sound inside (updated_live filled valueData valueSize)
      rfl rfl rfl fun old found => ?_
    rw [filled] at found
    rw [Option.some.inj found]
  | insert index slotIndex valid absent last vacant =>
    obtain ⟨inside, empty⟩ := vacancy_inside vacant
    refine write_represents consistent.sound represents kept.sound inside (inserted_live ..) rfl rfl rfl fun old found => ?_
    rw [empty] at found
    cases found

theorem step_represents (consistent : Consistent hash width store) (represents : Represents width store contents)
    (op : Op) : ∃ answer next, step hash store op = some (answer, next) ∧ contents.Answers op answer ∧
      Consistent hash width next ∧ Represents width next (contents.after op answer) := by
  cases op with
  | put key valueData valueSize =>
    obtain ⟨status, next, puts, did⟩ := put_cases consistent key valueData valueSize
    exact ⟨.put status, next, by rw [step, puts]; rfl, trivial, put_consistent consistent did,
      put_represents consistent represents did⟩
  | get key bufferSize =>
    refine ⟨.get (contents.get key bufferSize), store, ?_, rfl, consistent, represents⟩
    rw [step, get_represents consistent.sound represents]
    rfl
  | getInfo key =>
    rcases lookup_represents consistent.sound represents key with ⟨none_, missing⟩ | ⟨index, entry, found, some_, loads⟩
    · refine ⟨.getInfo (.error .notFound), store, by rw [step, KVStore.getInfo, missing]; rfl, ?_, consistent, represents⟩
      rw [Contents.Answers, Contents.getInfo, none_]
    · have length : (valueOf store entry).length = entry.valueSize.toNat := window_length ..
      refine ⟨.getInfo (.ok entry.valueSize), store, by rw [step, KVStore.getInfo, found]; rfl, ?_, consistent, represents⟩
      rw [Contents.Answers, Contents.getInfo, some_]
      simp [length]
  | getValuePtr key =>
    rcases lookup_represents consistent.sound represents key with ⟨none_, missing⟩ | ⟨index, entry, found, some_, loads⟩
    · exact ⟨.getValuePtr none, store, by rw [step, KVStore.getValuePtr, missing]; rfl, none_.symm, consistent, represents⟩
    · refine ⟨.getValuePtr (some (valueOf store entry)), store, ?_, some_.symm, consistent, represents⟩
      simp [step, KVStore.getValuePtr, found, loads]

/-- The map of a store is what its lookups find. -/
def contentsOf (hash : UInt64 → UInt64) (store : KVStore) : Contents := fun key =>
  match store.lookup hash key with
  | some (some (_, entry)) => some (valueOf store entry)
  | _ => none

theorem represents_contentsOf (sound : Sound hash width store) :
    Represents width store (contentsOf hash store) := by
  intro key value
  rcases lookup_cases sound.toTabled key with ⟨index, entry, inside, filled, same, found⟩ | ⟨absent, missing⟩
  · have value_ : contentsOf hash store key = some (valueOf store entry) := by simp only [contentsOf, found]
    rw [value_]
    constructor
    · intro here
      exact ⟨index.toNat, inside, entry, filled, same, Option.some.inj here⟩
    · rintro ⟨other, there, copy, copied, alike, rfl⟩
      obtain rfl : other = index.toNat :=
        sound.probed.unique there inside copied filled (alike.trans same.symm)
      obtain rfl := Option.some.inj (copied.symm.trans filled)
      rfl
  · have none_ : contentsOf hash store key = none := by simp only [contentsOf, missing]
    rw [none_]
    refine iff_of_false (fun wrong => by cases wrong) ?_
    rintro ⟨index, inside, entry, filled, same, -⟩
    exact absent index inside entry filled same

theorem run_represents (consistent : Consistent hash width store) (represents : Represents width store contents)
    (ops : List Op) : ∃ answers final, run hash store ops = some (answers, final) ∧ contents.Explains ops answers ∧
      Consistent hash width final := by
  induction ops generalizing store contents with
  | nil => exact ⟨[], store, rfl, trivial, consistent⟩
  | cons op ops ih =>
    obtain ⟨answer, next, stepped, answered, kept, still⟩ := step_represents consistent represents op
    obtain ⟨answers, final, ran, explained, sound⟩ := ih kept still
    exact ⟨answer :: answers, final, by simp [run, stepped, ran], ⟨answered, explained⟩, sound⟩

end Refinement

/-- Every run after `Initialize` is one of a finite map that starts empty, and leaves the store
consistent: one entry for a key and no gap before it, the slots shared out between the entries and
the free slots, and the counters right. -/
theorem refines_map (hash : UInt64 → UInt64) {config : StoreConfig}
    (room : MAX_VALUE_SIZE.toNat ≤ config.slotSize.toNat) (holds : config.slotSize ≤ config.totalStorageSize)
    (few : config.totalStorageSize.toNat / config.slotSize.toNat < 2 ^ 32) (rounds : config.hashTableSize.toNat ≤ 2 ^ 63)
    (storage : Nat → UInt8) :
    ∃ width store, KVStore.new.initializeWith config (some storage) = some (true, store) ∧
      ∀ ops, ∃ answers final, run hash store ops = some (answers, final) ∧
        Contents.Explains (fun _ => none) ops answers ∧ Consistent hash width final := by
  obtain ⟨width, store, initialized, consistent, empty⟩ :=
    initialize_consistent hash config room holds few rounds storage
  refine ⟨width, store, initialized, run_represents consistent fun key value => ?_⟩
  refine iff_of_false (fun known => by cases known) ?_
  rintro ⟨index, -, entry, filled, -⟩
  rw [empty] at filled
  cases filled

/-- Three slots and a table of one position. -/
theorem small_table_refines : ∃ width store,
    KVStore.new.initializeWith ⟨196608, 65536, 1⟩ (some fun _ => 0) = some (true, store) ∧
      ∀ ops, ∃ answers final, run hashKey store ops = some (answers, final) ∧
        Contents.Explains (fun _ => none) ops answers ∧ Consistent hashKey width final :=
  refines_map hashKey (by decide) (by decide) (by decide) (by decide) _

end Rdma.KvMaps
