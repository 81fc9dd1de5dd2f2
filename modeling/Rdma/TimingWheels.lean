import Rdma.Chains
import Rdma.Types

/-!
The single-level timing wheel (`timing_wheel.h`): a pool of entries linked
through `next` into a free list and one list for each bucket. A pointer to an
entry is its index in the pool. A wheel represents its lists (`Represents`);
`schedule_spec` and `tick_spec` say what its operations do to them.
-/
namespace Rdma.TimingWheels
open Rdma.Chains

structure TimeoutEntry where
  slotIndex : UInt32 := 0
  generation : UInt8 := 0
  next : Option Nat := none
  deriving DecidableEq, Repr

structure TimingWheelBucket where
  head : Option Nat := none
  count : Nat := 0
  deriving DecidableEq, Repr

/-- What an entry names: a slot and a generation. -/
abbrev Token := UInt32 × UInt8

def TimeoutEntry.token (entry : TimeoutEntry) : Token := (entry.slotIndex, entry.generation)

/-- An entry with another pointer. -/
def relink (entryPool : Nat → TimeoutEntry) (entry : Nat) (next : Option Nat) : Nat → TimeoutEntry :=
  Function.update entryPool entry { entryPool entry with next }

/-- `FreeEntry` of both wheels: the pool and the free list after it. -/
def freeEntry (entryPool : Nat → TimeoutEntry) (freeList : Option Nat) (entry : Nat) :
    (Nat → TimeoutEntry) × Option Nat :=
  (relink entryPool entry freeList, some entry)

/-- The loop of both wheels' `Tick` that reports and frees the entries from one on; `none` if it goes on after `fuel`
    rounds. -/
def expire (entryPool : Nat → TimeoutEntry) (freeList : Option Nat) :
    Nat → Option Nat → Option (List Token × (Nat → TimeoutEntry) × Option Nat)
  | _, none => some ([], entryPool, freeList)
  | 0, some _ => none
  | fuel + 1, some entry => do
    let token := (entryPool entry).token
    let next := (entryPool entry).next
    let freed := freeEntry entryPool freeList entry
    let (expired, rest) ← expire freed.1 freed.2 fuel next
    some (token :: expired, rest)

def kWheelSize : Nat := 1024
def kMaxEntries : Nat := 65536

structure TimingWheel where
  buckets : Nat → TimingWheelBucket
  current : UInt32
  entryPool : Nat → TimeoutEntry
  freeList : Option Nat

/-- The constructor: all entries in the free list, in the order of the pool. -/
def TimingWheel.create : TimingWheel where
  buckets _ := {}
  current := 0
  entryPool i := { next := if i < kMaxEntries - 1 then some (i + 1) else none }
  freeList := some 0

def TimingWheel.allocEntry (wheel : TimingWheel) : Option Nat × TimingWheel :=
  match wheel.freeList with
  | none => (none, wheel)
  | some entry => (some entry, { wheel with freeList := (wheel.entryPool entry).next })

def TimingWheel.push (wheel : TimingWheel) (target entry : Nat) : TimingWheel :=
  let bucket := wheel.buckets target
  { wheel with
    entryPool := Function.update wheel.entryPool entry { wheel.entryPool entry with next := bucket.head }
    buckets := Function.update wheel.buckets target ⟨some entry, bucket.count + 1⟩ }

def TimingWheel.popAll (wheel : TimingWheel) (target : Nat) : Option Nat × TimingWheel :=
  ((wheel.buckets target).head, { wheel with buckets := Function.update wheel.buckets target {} })

def TimingWheel.schedule (wheel : TimingWheel) (slotIndex : UInt32) (generation : UInt8) (timeoutTicks : UInt32) :
    Bool × TimingWheel :=
  match wheel.allocEntry with
  | (none, wheel) => (false, wheel)
  | (some entry, wheel) =>
    let wheel := { wheel with
      entryPool := Function.update wheel.entryPool entry { wheel.entryPool entry with slotIndex, generation } }
    let target := (wheel.current + timeoutTicks).toNat % kWheelSize
    (true, wheel.push target entry)

/-- `none` if the loop goes through more entries than there are. -/
def TimingWheel.tick (wheel : TimingWheel) : Option (List Token × TimingWheel) := do
  let (entry, wheel) := wheel.popAll wheel.current.toNat
  let (expired, entryPool, freeList) ← expire wheel.entryPool wheel.freeList kMaxEntries entry
  let current := UInt32.ofNat ((wheel.current.toNat + 1) % kWheelSize)
  some (expired, { wheel with current, entryPool, freeList })

/-! ### Entries on lists -/

section Entries
variable {Bucket : Type}

def nextOf (entryPool : Nat → TimeoutEntry) (entry : Nat) : Option Nat := (entryPool entry).next

def tokenOf (entryPool : Nat → TimeoutEntry) (entry : Nat) : Token := (entryPool entry).token

/-- The pointers of the entries, the free list and the buckets. -/
def linksOf (entryPool : Nat → TimeoutEntry) (freeList : Option Nat) (buckets : Bucket → TimingWheelBucket) :
    Links Bucket where
  next := nextOf entryPool
  head
    | none => freeList
    | some bucket => (buckets bucket).head

/-- The free list and the buckets hold the lists, `hand` is on its way between two of them, and the buckets count
    their entries. -/
structure Filed (layout : Layout Bucket) (entryPool : Nat → TimeoutEntry) (freeList : Option Nat)
    (buckets : Bucket → TimingWheelBucket) (lists : Option Bucket → List Nat) (hand : List Nat) : Prop where
  holds : Holds layout (linksOf entryPool freeList buckets) lists hand
  counts : ∀ bucket, (buckets bucket).count = (lists (some bucket)).length

variable {layout : Layout Bucket} {entryPool : Nat → TimeoutEntry} {freeList : Option Nat}
  {buckets : Bucket → TimingWheelBucket} {lists : Option Bucket → List Nat} {hand : List Nat} {entry : Nat}

theorem relink_next (entryPool : Nat → TimeoutEntry) (entry : Nat) (next : Option Nat) :
    nextOf (relink entryPool entry next) = Function.update (nextOf entryPool) entry next := by
  funext other
  by_cases same : other = entry <;> simp [nextOf, relink, same]

@[simp] theorem relink_token (entryPool : Nat → TimeoutEntry) (entry : Nat) (next : Option Nat) :
    tokenOf (relink entryPool entry next) = tokenOf entryPool := by
  funext other
  by_cases same : other = entry <;> simp [tokenOf, relink, TimeoutEntry.token, same]

theorem fill_token (entryPool : Nat → TimeoutEntry) (entry : Nat) (slotIndex : UInt32) (generation : UInt8) :
    tokenOf (Function.update entryPool entry { entryPool entry with slotIndex, generation }) =
      Function.update (tokenOf entryPool) entry (slotIndex, generation) := by
  funext other
  by_cases same : other = entry <;> simp [tokenOf, TimeoutEntry.token, same]

/-- Both an entry that goes to a bucket and one that goes to the free list leave the pointers behind it alone. -/
theorem Filed.behind (filed : Filed layout entryPool freeList buckets lists (entry :: hand)) {head : Option Nat}
    (chain : Chain (nextOf entryPool) head hand) (next : Option Nat) :
    Chain (nextOf (relink entryPool entry next)) head hand := by
  rw [relink_next]
  have apart : entry ∉ hand := (List.nodup_cons.mp (List.nodup_append.mp filed.holds.once).1).1
  exact chain_frame chain apart next

/-- The lists of a new wheel of `size` entries. -/
def firstLists (size : Nat) (place : Option Bucket) : List Nat :=
  match place with
  | none => List.range size
  | some _ => []

/-- All entries on the free list, in the order of the pool. -/
theorem filed_start (layout : Layout Bucket) (positive : 0 < layout.size) :
    Filed layout (fun i => { next := if i < layout.size - 1 then some (i + 1) else none }) (some 0) (fun _ => {})
      (firstLists layout.size) [] where
  holds := by
    refine ⟨?_, ?_⟩
    · intro place _
      cases place with
      | none => exact chain_range positive fun _ _ => rfl
      | some bucket => exact .nil
    · have unused : layout.pending (firstLists layout.size) = [] := List.flatMap_eq_nil_iff.mpr fun _ _ => rfl
      rw [List.nil_append, places_flatMap, unused, List.append_nil]
      exact List.Perm.refl _
  counts _ := rfl

variable [DecidableEq Bucket]

theorem linksOf_setHead (entryPool : Nat → TimeoutEntry) (freeList : Option Nat) (buckets : Bucket → TimingWheelBucket)
    (bucket : Bucket) (new : TimingWheelBucket) :
    linksOf entryPool freeList (Function.update buckets bucket new) =
      (linksOf entryPool freeList buckets).setHead (some bucket) new.head := by
  unfold linksOf Links.setHead
  congr 1
  funext place
  cases place with
  | none => simp
  | some other => by_cases same : other = bucket <;> simp [same]

theorem linksOf_free (entryPool : Nat → TimeoutEntry) (freeList new : Option Nat) (buckets : Bucket → TimingWheelBucket) :
    linksOf entryPool new buckets = (linksOf entryPool freeList buckets).setHead none new := by
  unfold linksOf Links.setHead
  congr 1
  funext place
  cases place <;> simp

/-- The first free entry is taken off the free list and filled in. -/
theorem Filed.fill (filed : Filed layout entryPool freeList buckets lists hand) {rest : List Nat}
    (free : lists none = entry :: rest) (slotIndex : UInt32) (generation : UInt8) :
    freeList = some entry ∧
      Filed layout (Function.update entryPool entry { entryPool entry with slotIndex, generation })
        (entryPool entry).next buckets (Function.update lists none rest) (entry :: hand) := by
  obtain ⟨head, later⟩ := filed.holds.front layout.free_place free
  have same : nextOf (Function.update entryPool entry { entryPool entry with slotIndex, generation }) =
      nextOf entryPool := by
    funext other
    by_cases same : other = entry <;> simp [nextOf, same]
  have parts : lists none = [entry] ++ rest := free
  have cut := filed.holds.cut layout.free_place parts later
  refine ⟨head, ⟨?_, fun bucket => ?_⟩⟩
  · rw [show linksOf (Function.update entryPool entry { entryPool entry with slotIndex, generation })
      (entryPool entry).next buckets = (linksOf entryPool freeList buckets).setHead none (nextOf entryPool entry) by
        rw [← linksOf_free, linksOf, same]
        rfl]
    exact cut
  · rw [filed.counts, Function.update_of_ne (Option.some_ne_none bucket)]

theorem Filed.push (filed : Filed layout entryPool freeList buckets lists (entry :: hand)) {bucket : Bucket}
    (member : bucket ∈ layout.buckets) :
    Filed layout (relink entryPool entry (buckets bucket).head) freeList
      (Function.update buckets bucket ⟨some entry, (buckets bucket).count + 1⟩)
      (Function.update lists (some bucket) (entry :: lists (some bucket))) hand where
  holds := by
    have pushed := filed.holds.push (layout.bucket_place.mpr member)
    rw [linksOf_setHead, linksOf, relink_next]
    exact pushed
  counts other := by
    by_cases same : other = bucket
    · subst same
      simp [filed.counts]
    · simp [same, filed.counts]

theorem Filed.free (filed : Filed layout entryPool freeList buckets lists (entry :: hand)) :
    Filed layout (relink entryPool entry freeList) (some entry) buckets
      (Function.update lists none (entry :: lists none)) hand where
  holds := by
    have pushed := filed.holds.push layout.free_place
    rw [linksOf_free _ freeList, linksOf, relink_next]
    exact pushed
  counts bucket := by rw [filed.counts, Function.update_of_ne (Option.some_ne_none bucket)]

theorem Filed.popAll (filed : Filed layout entryPool freeList buckets lists []) {bucket : Bucket}
    (member : bucket ∈ layout.buckets) :
    Chain (nextOf entryPool) (buckets bucket).head (lists (some bucket)) ∧
      Filed layout entryPool freeList (Function.update buckets bucket {}) (Function.update lists (some bucket) [])
        (lists (some bucket)) := by
  have place := layout.bucket_place.mpr member
  have cut := filed.holds.cut place (List.append_nil _).symm .nil
  rw [List.append_nil] at cut
  refine ⟨filed.holds.chains _ place, ⟨?_, fun other => ?_⟩⟩
  · rw [linksOf_setHead]
    exact cut
  · by_cases same : other = bucket
    · simp [same]
    · simp [same, filed.counts]

/-- The loop of `Tick` frees the entries of the list that it walks, and reports them in order. -/
theorem expire_spec {fuel : Nat} {first : Option Nat} (filed : Filed layout entryPool freeList buckets lists hand)
    (chain : Chain (nextOf entryPool) first hand) (enough : hand.length ≤ fuel) :
    ∃ pool free freed, expire entryPool freeList fuel first = some (hand.map (tokenOf entryPool), pool, free) ∧
      Filed layout pool free buckets (Function.update lists none freed) [] ∧ tokenOf pool = tokenOf entryPool := by
  induction hand generalizing entryPool freeList lists fuel first with
  | nil =>
    cases chain
    refine ⟨entryPool, freeList, lists none, by cases fuel <;> rfl, ?_, rfl⟩
    rwa [Function.update_eq_self]
  | cons entry rest ih =>
    cases chain with
    | cons later =>
    cases fuel with
    | zero => cases enough
    | succ fuel =>
    obtain ⟨pool, free, freed, expired, ends, tokens⟩ :=
      ih filed.free (filed.behind later freeList) (Nat.le_of_succ_le_succ enough)
    rw [relink_token] at expired tokens
    rw [Function.update_idem] at ends
    exact ⟨pool, free, freed, Option.bind_eq_some_iff.mpr ⟨_, expired, rfl⟩, ends, tokens⟩

end Entries

/-! ### The lists of a wheel -/

def layout : Layout Nat := ⟨kMaxEntries, List.range kWheelSize, List.nodup_range⟩

/-- The wheel's free list and buckets hold the lists. -/
structure Represents (wheel : TimingWheel) (lists : Option Nat → List Nat) : Prop where
  filed : Filed layout wheel.entryPool wheel.freeList wheel.buckets lists []
  current : wheel.current.toNat < kWheelSize

def TimingWheel.links (wheel : TimingWheel) : Links Nat := linksOf wheel.entryPool wheel.freeList wheel.buckets

def TimingWheel.token (wheel : TimingWheel) : Nat → Token := tokenOf wheel.entryPool

theorem mem_buckets {bucket : Nat} : bucket ∈ layout.buckets ↔ bucket < kWheelSize := by
  rw [layout, List.mem_range]

theorem create_represents : Represents TimingWheel.create (firstLists kMaxEntries) where
  filed := filed_start layout (by decide)
  current := by decide

variable {wheel : TimingWheel} {lists : Option Nat → List Nat}

/-- The bucket of an entry that is scheduled. -/
def TimingWheel.target (wheel : TimingWheel) (timeoutTicks : UInt32) : Nat :=
  (wheel.current + timeoutTicks).toNat % kWheelSize

theorem target_lt (wheel : TimingWheel) (timeoutTicks : UInt32) : wheel.target timeoutTicks < kWheelSize :=
  Nat.mod_lt _ (by decide)

/-- The lists after an entry from the free list, whose rest is `rest`, was scheduled. -/
def scheduledLists {Bucket : Type} [DecidableEq Bucket] (lists : Option Bucket → List Nat) (entry : Nat)
    (rest : List Nat) (target : Bucket) : Option Bucket → List Nat :=
  Function.update (Function.update lists none rest) (some target) (entry :: lists (some target))

/-- A bucket keeps its entries when another entry is scheduled. -/
theorem scheduled_keeps {Bucket : Type} [DecidableEq Bucket] {lists : Option Bucket → List Nat} {entry other : Nat}
    {rest : List Nat} {bucket target : Bucket} (listed : other ∈ lists (some bucket)) :
    other ∈ scheduledLists lists entry rest target (some bucket) := by
  unfold scheduledLists
  by_cases here : bucket = target
  · subst here
    rw [Function.update_self]
    exact List.mem_cons_of_mem _ listed
  · rwa [Function.update_of_ne (by simpa using here), Function.update_of_ne (Option.some_ne_none bucket)]

theorem schedule_full (represents : Represents wheel lists) (full : lists none = []) (slotIndex : UInt32)
    (generation : UInt8) (timeoutTicks : UInt32) :
    wheel.schedule slotIndex generation timeoutTicks = (false, wheel) := by
  have empty : wheel.freeList = none := represents.filed.holds.empty layout.free_place full
  simp only [TimingWheel.schedule, TimingWheel.allocEntry, empty]

/-- A scheduled entry goes from the free list into its bucket. -/
theorem schedule_spec (represents : Represents wheel lists) {entry : Nat} {rest : List Nat}
    (free : lists none = entry :: rest) (slotIndex : UInt32) (generation : UInt8) (timeoutTicks : UInt32) :
    ∃ next, wheel.schedule slotIndex generation timeoutTicks = (true, next) ∧
      Represents next (scheduledLists lists entry rest (wheel.target timeoutTicks)) ∧
      next.token = Function.update wheel.token entry (slotIndex, generation) ∧ next.current = wheel.current := by
  obtain ⟨head, filled⟩ := represents.filed.fill free slotIndex generation
  have pushed := filled.push (mem_buckets.mpr (target_lt wheel timeoutTicks))
  rw [Function.update_of_ne (Option.some_ne_none _)] at pushed
  have scheduled : wheel.schedule slotIndex generation timeoutTicks = (true, TimingWheel.push
      { wheel with
        freeList := (wheel.entryPool entry).next
        entryPool := Function.update wheel.entryPool entry { wheel.entryPool entry with slotIndex, generation } }
      (wheel.target timeoutTicks) entry) := by
    simp only [TimingWheel.schedule, TimingWheel.allocEntry, head]
    rfl
  refine ⟨_, scheduled, ⟨pushed, represents.current⟩, ?_, rfl⟩
  exact (relink_token ..).trans (fill_token ..)

/-! ### Tick -/

/-- A tick reports the entries of the current bucket, frees them and goes on to the next bucket. -/
theorem tick_spec (represents : Represents wheel lists) :
    ∃ next freed, wheel.tick = some ((lists (some wheel.current.toNat)).map wheel.token, next) ∧
      Represents next (Function.update (Function.update lists (some wheel.current.toNat) []) none freed) ∧
      next.token = wheel.token ∧ next.current.toNat = (wheel.current.toNat + 1) % kWheelSize := by
  obtain ⟨chain, popped⟩ := represents.filed.popAll (mem_buckets.mpr represents.current)
  have enough : (lists (some wheel.current.toNat)).length ≤ kMaxEntries := by
    have length := popped.holds.length
    change _ = kMaxEntries at length
    omega
  obtain ⟨pool, free, freed, expired, ends, tokens⟩ := expire_spec popped chain enough
  have inside : (wheel.current.toNat + 1) % kWheelSize < kWheelSize := Nat.mod_lt _ (by decide)
  have advanced : (UInt32.ofNat ((wheel.current.toNat + 1) % kWheelSize)).toNat =
      (wheel.current.toNat + 1) % kWheelSize := by
    rw [UInt32.toNat_ofNat']
    exact Nat.mod_eq_of_lt (Nat.lt_trans inside (by decide))
  refine ⟨_, freed, Option.bind_eq_some_iff.mpr ⟨_, expired, rfl⟩, ⟨ends, ?_⟩, tokens, advanced⟩
  exact Nat.lt_of_le_of_lt (Nat.le_of_eq advanced) inside

end Rdma.TimingWheels
