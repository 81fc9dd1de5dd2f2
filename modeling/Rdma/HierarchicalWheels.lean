import Rdma.Runs
import Rdma.TimingWheels

/-!
The two-level timing wheel (`timing_wheel.h`). A short timeout goes to level 1;
a long one goes to level 2, whose current bucket is spread over level 1 each
time level 1 has gone round, by the addresses of the entries. Neither wheel
ever loses an entry or a timeout (`wheels_conserve`).
-/
namespace Rdma.HierarchicalWheels
open Rdma.Chains Rdma.Runs Rdma.TimingWheels

inductive Level
  | one
  | two
  deriving DecidableEq, Repr

def kLevel1Size : Nat := 256
def kLevel2Size : Nat := 256
def kLevel1TickMs : Nat := 1
def kLevel2TickMs : UInt32 := 256
def kMaxEntries : Nat := 1048576

/-- The size of a `TimeoutEntry` in bytes. -/
def entrySize : UInt64 := 16

/-- `buckets` are those of `level1_` and `level2_`; `poolAddress` is the address that `aligned_alloc` returned. -/
structure HierarchicalTimingWheel where
  buckets : Level × Nat → TimingWheelBucket
  level1Current : UInt32
  level2Current : UInt32
  entryPool : Nat → TimeoutEntry
  freeList : Option Nat
  poolAddress : UInt64

/-- The constructor. -/
def HierarchicalTimingWheel.create (poolAddress : UInt64) : HierarchicalTimingWheel where
  buckets _ := {}
  level1Current := 0
  level2Current := 0
  entryPool i := { next := if i < kMaxEntries - 1 then some (i + 1) else none }
  freeList := some 0
  poolAddress

def HierarchicalTimingWheel.allocEntry (wheel : HierarchicalTimingWheel) : Option Nat × HierarchicalTimingWheel :=
  match wheel.freeList with
  | none => (none, wheel)
  | some entry => (some entry, { wheel with freeList := (wheel.entryPool entry).next })

def HierarchicalTimingWheel.push (wheel : HierarchicalTimingWheel) (target : Level × Nat) (entry : Nat) :
    HierarchicalTimingWheel :=
  let bucket := wheel.buckets target
  { wheel with
    entryPool := relink wheel.entryPool entry bucket.head
    buckets := Function.update wheel.buckets target ⟨some entry, bucket.count + 1⟩ }

def HierarchicalTimingWheel.popAll (wheel : HierarchicalTimingWheel) (target : Level × Nat) :
    Option Nat × HierarchicalTimingWheel :=
  ((wheel.buckets target).head, { wheel with buckets := Function.update wheel.buckets target {} })

/-- The bucket of an entry that is scheduled. -/
def HierarchicalTimingWheel.target (wheel : HierarchicalTimingWheel) (timeoutMs : UInt32) : Level × Nat :=
  if timeoutMs.toNat < kLevel1Size * kLevel1TickMs then (.one, (wheel.level1Current + timeoutMs).toNat % kLevel1Size)
  else (.two, (wheel.level2Current + timeoutMs / kLevel2TickMs).toNat % kLevel2Size)

def HierarchicalTimingWheel.schedule (wheel : HierarchicalTimingWheel) (slotIndex : UInt32) (generation : UInt8)
    (timeoutMs : UInt32) : Bool × HierarchicalTimingWheel :=
  match wheel.allocEntry with
  | (none, wheel) => (false, wheel)
  | (some entry, wheel) =>
    let wheel := { wheel with
      entryPool := Function.update wheel.entryPool entry { wheel.entryPool entry with slotIndex, generation } }
    (true, wheel.push (wheel.target timeoutMs) entry)

/-- The level 1 bucket of an entry that leaves level 2: its address divided by 64. -/
def HierarchicalTimingWheel.demotionTarget (wheel : HierarchicalTimingWheel) (entry : Nat) : Level × Nat :=
  (.one, ((wheel.poolAddress + entrySize * UInt64.ofNat entry) >>> 6).toNat % kLevel1Size)

/-- The loop that moves the entries from one on to level 1; `none` if it goes on after `fuel` rounds. -/
def HierarchicalTimingWheel.demote (wheel : HierarchicalTimingWheel) :
    Nat → Option Nat → Option HierarchicalTimingWheel
  | _, none => some wheel
  | 0, some _ => none
  | fuel + 1, some entry =>
    let next := (wheel.entryPool entry).next
    (wheel.push (wheel.demotionTarget entry) entry).demote fuel next

/-- `none` if a loop goes through more entries than there are. -/
def HierarchicalTimingWheel.tick (wheel : HierarchicalTimingWheel) :
    Option (List Token × HierarchicalTimingWheel) := do
  let (entry, wheel) := wheel.popAll (.one, wheel.level1Current.toNat)
  let (expired, entryPool, freeList) ← expire wheel.entryPool wheel.freeList kMaxEntries entry
  let level1Current := UInt32.ofNat ((wheel.level1Current.toNat + 1) % kLevel1Size)
  let wheel := { wheel with level1Current, entryPool, freeList }
  if level1Current = 0 then
    let (entry, wheel) := wheel.popAll (.two, wheel.level2Current.toNat)
    let wheel ← wheel.demote kMaxEntries entry
    some (expired, { wheel with level2Current := UInt32.ofNat ((wheel.level2Current.toNat + 1) % kLevel2Size) })
  else some (expired, wheel)

/-! ### The lists of a wheel -/

def allBuckets : List (Level × Nat) :=
  (List.range kLevel1Size).map (Level.one, ·) ++ (List.range kLevel2Size).map (Level.two, ·)

theorem mem_allBuckets {level : Level} {bucket : Nat} : (level, bucket) ∈ allBuckets ↔ bucket < 256 := by
  cases level <;> simp [allBuckets, kLevel1Size, kLevel2Size]

theorem allBuckets_distinct : allBuckets.Nodup := by
  refine List.nodup_append.mpr ⟨?_, ?_, ?_⟩
  · exact List.nodup_range.map fun _ _ same => (Prod.mk.inj same).2
  · exact List.nodup_range.map fun _ _ same => (Prod.mk.inj same).2
  · intro first left second right same
    obtain ⟨_, -, rfl⟩ := List.mem_map.mp left
    obtain ⟨_, -, rfl⟩ := List.mem_map.mp right
    cases same

theorem ofNat_lt {number bound : Nat} (below : number < bound) : (UInt32.ofNat number).toNat < bound := by
  rw [UInt32.toNat_ofNat']
  exact Nat.lt_of_le_of_lt (Nat.mod_le ..) below

def levels : Layout (Level × Nat) := ⟨kMaxEntries, allBuckets, allBuckets_distinct⟩

/-- The wheel's free list and buckets hold the lists, with `hand` between two of them. -/
structure Represents (wheel : HierarchicalTimingWheel) (lists : Option (Level × Nat) → List Nat) (hand : List Nat) :
    Prop where
  filed : Filed levels wheel.entryPool wheel.freeList wheel.buckets lists hand
  level1Current : wheel.level1Current.toNat < 256
  level2Current : wheel.level2Current.toNat < 256

def HierarchicalTimingWheel.links (wheel : HierarchicalTimingWheel) : Links (Level × Nat) :=
  linksOf wheel.entryPool wheel.freeList wheel.buckets

def HierarchicalTimingWheel.token (wheel : HierarchicalTimingWheel) : Nat → Token := tokenOf wheel.entryPool

theorem create_represents (poolAddress : UInt64) :
    Represents (.create poolAddress) (firstLists kMaxEntries) [] where
  filed := filed_start levels (by decide)
  level1Current := Nat.zero_lt_succ _
  level2Current := Nat.zero_lt_succ _

variable {wheel : HierarchicalTimingWheel} {lists : Option (Level × Nat) → List Nat} {hand : List Nat}

theorem target_mem (wheel : HierarchicalTimingWheel) (timeoutMs : UInt32) : wheel.target timeoutMs ∈ levels.buckets := by
  unfold HierarchicalTimingWheel.target
  split
  · exact mem_allBuckets.mpr (Nat.mod_lt _ (by decide))
  · exact mem_allBuckets.mpr (Nat.mod_lt _ (by decide))

theorem schedule_full (represents : Represents wheel lists []) (full : lists none = []) (slotIndex : UInt32)
    (generation : UInt8) (timeoutMs : UInt32) : wheel.schedule slotIndex generation timeoutMs = (false, wheel) := by
  have empty : wheel.freeList = none := represents.filed.holds.empty levels.free_place full
  simp only [HierarchicalTimingWheel.schedule, HierarchicalTimingWheel.allocEntry, empty]

/-- A scheduled entry goes from the free list into its bucket. -/
theorem schedule_spec (represents : Represents wheel lists []) {entry : Nat} {rest : List Nat}
    (free : lists none = entry :: rest) (slotIndex : UInt32) (generation : UInt8) (timeoutMs : UInt32) :
    ∃ next, wheel.schedule slotIndex generation timeoutMs = (true, next) ∧
      Represents next (scheduledLists lists entry rest (wheel.target timeoutMs)) [] ∧
      next.token = Function.update wheel.token entry (slotIndex, generation) ∧
      next.level1Current = wheel.level1Current ∧ next.level2Current = wheel.level2Current ∧
      next.poolAddress = wheel.poolAddress := by
  obtain ⟨head, filled⟩ := represents.filed.fill free slotIndex generation
  have pushed := filled.push (target_mem wheel timeoutMs)
  rw [Function.update_of_ne (Option.some_ne_none _)] at pushed
  have scheduled : wheel.schedule slotIndex generation timeoutMs = (true, HierarchicalTimingWheel.push
      { wheel with
        freeList := (wheel.entryPool entry).next
        entryPool := Function.update wheel.entryPool entry { wheel.entryPool entry with slotIndex, generation } }
      (wheel.target timeoutMs) entry) := by
    simp only [HierarchicalTimingWheel.schedule, HierarchicalTimingWheel.allocEntry, head]
    rfl
  refine ⟨_, scheduled, ⟨pushed, represents.level1Current, represents.level2Current⟩, ?_, rfl, rfl, rfl⟩
  exact (relink_token ..).trans (fill_token ..)

/-! ### Any choice of buckets -/

/-- The part of an entry's address that chooses its level 1 bucket. -/
def HierarchicalTimingWheel.chosen (wheel : HierarchicalTimingWheel) (entry : Nat) : Nat :=
  ((wheel.poolAddress + entrySize * UInt64.ofNat entry) >>> 6).toNat

/-- `demote` with `choose entry` in place of the part of the entry's address. -/
def HierarchicalTimingWheel.demoteTo (choose : Nat → Nat) (wheel : HierarchicalTimingWheel) :
    Nat → Option Nat → Option HierarchicalTimingWheel
  | _, none => some wheel
  | 0, some _ => none
  | fuel + 1, some entry =>
    let next := (wheel.entryPool entry).next
    (wheel.push (.one, choose entry % kLevel1Size) entry).demoteTo choose fuel next

/-- `tick` with `demoteTo` in place of `demote`. -/
def HierarchicalTimingWheel.tickTo (choose : Nat → Nat) (wheel : HierarchicalTimingWheel) :
    Option (List Token × HierarchicalTimingWheel) := do
  let (entry, wheel) := wheel.popAll (.one, wheel.level1Current.toNat)
  let (expired, entryPool, freeList) ← expire wheel.entryPool wheel.freeList kMaxEntries entry
  let level1Current := UInt32.ofNat ((wheel.level1Current.toNat + 1) % kLevel1Size)
  let wheel := { wheel with level1Current, entryPool, freeList }
  if level1Current = 0 then
    let (entry, wheel) := wheel.popAll (.two, wheel.level2Current.toNat)
    let wheel ← wheel.demoteTo choose kMaxEntries entry
    some (expired, { wheel with level2Current := UInt32.ofNat ((wheel.level2Current.toNat + 1) % kLevel2Size) })
  else some (expired, wheel)

theorem demote_eq (wheel : HierarchicalTimingWheel) (fuel : Nat) (first : Option Nat) :
    wheel.demote fuel first = wheel.demoteTo wheel.chosen fuel first := by
  induction fuel generalizing wheel first with
  | zero => cases first <;> rfl
  | succ fuel ih =>
    cases first with
    | none => rfl
    | some entry => exact ih ..

/-- The addresses of the entries are one choice. -/
theorem tick_eq (wheel : HierarchicalTimingWheel) : wheel.tick = wheel.tickTo wheel.chosen := by
  unfold HierarchicalTimingWheel.tick HierarchicalTimingWheel.tickTo
  simp only [demote_eq]
  rfl

/-- The demotion adds the entries of the list that it walks to the buckets chosen for them. -/
theorem demoteTo_spec (choose : Nat → Nat) {fuel : Nat} {first : Option Nat} (represents : Represents wheel lists hand)
    (chain : Chain (nextOf wheel.entryPool) first hand) (enough : hand.length ≤ fuel) :
    ∃ next moved, wheel.demoteTo choose fuel first = some next ∧ Represents next moved [] ∧ next.token = wheel.token ∧
      next.level1Current = wheel.level1Current ∧ next.level2Current = wheel.level2Current ∧
      next.poolAddress = wheel.poolAddress ∧ (levels.pending moved).Perm (hand ++ levels.pending lists) ∧
      ∀ entry bucket, entry ∈ moved (some bucket) ↔
        entry ∈ lists (some bucket) ∨ entry ∈ hand ∧ bucket = (.one, choose entry % kLevel1Size) := by
  induction hand generalizing wheel lists fuel first with
  | nil =>
    cases chain
    exact ⟨wheel, lists, by cases fuel <;> rfl, represents, rfl, rfl, rfl, rfl, List.Perm.refl _, by simp⟩
  | cons entry rest ih =>
    cases chain with
    | cons later =>
    cases fuel with
    | zero => cases enough
    | succ fuel =>
    have target : (Level.one, choose entry % kLevel1Size) ∈ levels.buckets := mem_allBuckets.mpr (Nat.mod_lt _ (by decide))
    have pushed : Represents (wheel.push (.one, choose entry % kLevel1Size) entry) _ rest :=
      ⟨represents.filed.push target, represents.level1Current, represents.level2Current⟩
    have tokens : (wheel.push (.one, choose entry % kLevel1Size) entry).token = wheel.token := relink_token ..
    obtain ⟨next, moved, demoted, ends, kept, level1, level2, address, same, stands⟩ :=
      ih pushed (represents.filed.behind later _) (Nat.le_of_succ_le_succ enough)
    refine ⟨next, moved, demoted, ends, kept.trans tokens, level1, level2, address, same.trans ?_, fun other bucket => ?_⟩
    · exact ((pending_push lists target entry).append_left rest).trans List.perm_middle
    · rw [stands]
      by_cases here : bucket = (.one, choose entry % kLevel1Size)
      · subst here
        rw [Function.update_self, List.mem_cons, List.mem_cons]
        by_cases first : other = entry
        · simp [first]
        · simp [first]
      · rw [Function.update_of_ne (by simpa using here), List.mem_cons]
        by_cases first : other = entry
        · subst first
          simp [here]
        · simp [first]

/-- No list is longer than the pool. -/
theorem hand_le {entryPool : Nat → TimeoutEntry} {freeList : Option Nat} {buckets : Level × Nat → TimingWheelBucket}
    (filed : Filed levels entryPool freeList buckets lists hand) : hand.length ≤ kMaxEntries := by
  have length := filed.holds.length
  change _ = kMaxEntries at length
  omega

theorem around_toNat {current : Nat} : (UInt32.ofNat ((current + 1) % 256)).toNat = (current + 1) % 256 := by
  rw [UInt32.toNat_ofNat']
  exact Nat.mod_eq_of_lt (Nat.lt_trans (Nat.mod_lt _ (by decide)) (by decide))

/-- What a tick does: level 1 loses its current bucket, and when it has gone round it gets the entries of the current
    bucket of level 2. -/
structure Advances (choose : Nat → Nat) (wheel : HierarchicalTimingWheel) (lists : Option (Level × Nat) → List Nat)
    (next : HierarchicalTimingWheel) (moved : Option (Level × Nat) → List Nat) : Prop where
  represents : Represents next moved []
  tokens : next.token = wheel.token
  poolAddress : next.poolAddress = wheel.poolAddress
  level1Current : next.level1Current.toNat = (wheel.level1Current.toNat + 1) % 256
  level2Current : next.level2Current.toNat =
    if wheel.level1Current.toNat = 255 then (wheel.level2Current.toNat + 1) % 256 else wheel.level2Current.toNat
  pending : (levels.pending moved).Perm
    (levels.pending (Function.update lists (some (.one, wheel.level1Current.toNat)) []))
  one : ∀ entry bucket, entry ∈ moved (some (.one, bucket)) ↔
    bucket ≠ wheel.level1Current.toNat ∧ entry ∈ lists (some (.one, bucket)) ∨ wheel.level1Current.toNat = 255 ∧
      entry ∈ lists (some (.two, wheel.level2Current.toNat)) ∧ bucket = choose entry % kLevel1Size
  two : ∀ entry bucket, entry ∈ moved (some (.two, bucket)) ↔
    ¬(wheel.level1Current.toNat = 255 ∧ bucket = wheel.level2Current.toNat) ∧ entry ∈ lists (some (.two, bucket))

/-- The wheel with level 1 one bucket on and the entries of the bucket given back. -/
def HierarchicalTimingWheel.advanced (wheel : HierarchicalTimingWheel) (entryPool : Nat → TimeoutEntry)
    (freeList : Option Nat) : HierarchicalTimingWheel :=
  { wheel with
    buckets := Function.update wheel.buckets (.one, wheel.level1Current.toNat) {}
    level1Current := UInt32.ofNat ((wheel.level1Current.toNat + 1) % kLevel1Size)
    entryPool
    freeList }

/-- The entries of the current bucket of level 1 are reported and free. -/
theorem expire_advanced (represents : Represents wheel lists []) :
    ∃ pool free freed, expire wheel.entryPool wheel.freeList kMaxEntries
        (wheel.buckets (.one, wheel.level1Current.toNat)).head =
          some ((lists (some (.one, wheel.level1Current.toNat))).map wheel.token, pool, free) ∧
      Represents (wheel.advanced pool free)
        (Function.update (Function.update lists (some (.one, wheel.level1Current.toNat)) []) none freed) [] ∧
      (wheel.advanced pool free).token = wheel.token := by
  have level1 : (Level.one, wheel.level1Current.toNat) ∈ levels.buckets := mem_allBuckets.mpr represents.level1Current
  have around : (wheel.level1Current.toNat + 1) % kLevel1Size < 256 := Nat.mod_lt _ (by decide)
  obtain ⟨chain, popped⟩ := represents.filed.popAll level1
  obtain ⟨pool, free, freed, expired, ends, tokens⟩ := expire_spec popped chain (hand_le popped)
  exact ⟨pool, free, freed, expired, ⟨ends, ofNat_lt around, represents.level2Current⟩, tokens⟩

/-- Before the end of its round, level 1 only goes on. -/
theorem tickTo_within (choose : Nat → Nat) (represents : Represents wheel lists [])
    (within : wheel.level1Current.toNat ≠ 255) :
    ∃ next moved, wheel.tickTo choose = some ((lists (some (.one, wheel.level1Current.toNat))).map wheel.token, next) ∧
      Advances choose wheel lists next moved := by
  obtain ⟨pool, free, freed, expired, ends, tokens⟩ := expire_advanced represents
  have below := represents.level1Current
  have on : UInt32.ofNat ((wheel.level1Current.toNat + 1) % kLevel1Size) ≠ 0 := by
    intro zero
    have value := congrArg UInt32.toNat zero
    rw [kLevel1Size, around_toNat] at value
    change _ = 0 at value
    omega
  refine ⟨wheel.advanced pool free,
    Function.update (Function.update lists (some (.one, wheel.level1Current.toNat)) []) none freed,
    Option.bind_eq_some_iff.mpr ⟨_, expired, if_neg on⟩, ?_⟩
  constructor
  case represents => exact ends
  case tokens => exact tokens
  case poolAddress => rfl
  case level1Current => exact around_toNat
  case level2Current => exact (if_neg within).symm
  case pending => rw [pending_free]
  case one =>
    intro entry bucket
    by_cases here : bucket = wheel.level1Current.toNat
    · simp [here, within]
    · simp [here, within]
  case two =>
    intro entry bucket
    simp [within]

/-- At the end of its round, level 1 gets the entries of the current bucket of level 2. -/
theorem tickTo_last (choose : Nat → Nat) (represents : Represents wheel lists [])
    (last : wheel.level1Current.toNat = 255) :
    ∃ next moved, wheel.tickTo choose = some ((lists (some (.one, wheel.level1Current.toNat))).map wheel.token, next) ∧
      Advances choose wheel lists next moved := by
  obtain ⟨pool, free, freed, expired, ends, tokens⟩ := expire_advanced represents
  have level2 : (Level.two, wheel.level2Current.toNat) ∈ levels.buckets := mem_allBuckets.mpr represents.level2Current
  have wrapped : UInt32.ofNat ((wheel.level1Current.toNat + 1) % kLevel1Size) = 0 := by rw [last]; rfl
  obtain ⟨second, cleared⟩ := ends.filed.popAll level2
  have held : Represents { wheel.advanced pool free with
      buckets := Function.update (wheel.advanced pool free).buckets (.two, wheel.level2Current.toNat) {} } _ _ :=
    ⟨cleared, ends.level1Current, ends.level2Current⟩
  obtain ⟨next, moved, demoted, moving, kept, one, two, address, same, stands⟩ :=
    demoteTo_spec choose held second (hand_le cleared)
  have forward : (next.level2Current.toNat + 1) % kLevel2Size < 256 := Nat.mod_lt _ (by decide)
  refine ⟨_, moved, Option.bind_eq_some_iff.mpr ⟨_, expired, (if_pos wrapped).trans
    (Option.bind_eq_some_iff.mpr ⟨next, demoted, rfl⟩)⟩, ?_⟩
  constructor
  case represents => exact ⟨moving.filed, moving.level1Current, ofNat_lt forward⟩
  case tokens => exact kept.trans tokens
  case poolAddress => exact address
  case level1Current => exact (congrArg UInt32.toNat one).trans around_toNat
  case level2Current =>
    have unchanged : next.level2Current.toNat = wheel.level2Current.toNat := congrArg UInt32.toNat two
    rw [if_pos last, ← unchanged]
    exact around_toNat
  case pending =>
    refine same.trans ((pending_cut _ level2).symm.trans ?_)
    rw [pending_free]
  case one =>
    intro entry bucket
    rw [stands, Function.update_of_ne (by simp), Function.update_of_ne (by simp), last]
    by_cases here : bucket = 255
    · simp [here]
    · simp [here]
  case two =>
    intro entry bucket
    rw [stands]
    by_cases here : bucket = wheel.level2Current.toNat
    · simp [here, last]
    · simp [here, last]

/-- A tick reports the entries of the current bucket of level 1. -/
theorem tickTo_spec (choose : Nat → Nat) (represents : Represents wheel lists []) :
    ∃ next moved, wheel.tickTo choose = some ((lists (some (.one, wheel.level1Current.toNat))).map wheel.token, next) ∧
      Advances choose wheel lists next moved := by
  by_cases last : wheel.level1Current.toNat = 255
  · exact tickTo_last choose represents last
  · exact tickTo_within choose represents last

/-- A tick reports the entries of the current bucket of level 1 and keeps every other pending entry pending. -/
theorem tick_spec (represents : Represents wheel lists []) :
    ∃ next moved,
      wheel.tick = some ((lists (some (.one, wheel.level1Current.toNat))).map wheel.token, next) ∧
      Represents next moved [] ∧ next.token = wheel.token ∧
      (levels.pending moved).Perm
        (levels.pending (Function.update lists (some (.one, wheel.level1Current.toNat)) [])) := by
  obtain ⟨next, moved, ticks, advances⟩ := tickTo_spec wheel.chosen represents
  exact ⟨next, moved, (tick_eq wheel).trans ticks, advances.represents, advances.tokens, advances.pending⟩

end Rdma.HierarchicalWheels
