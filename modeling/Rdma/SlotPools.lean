import Mathlib.Data.List.Nodup
import Mathlib.Data.List.Perm.Subperm
import Rdma.Arrays
import Rdma.BitFields
import Rdma.Types

/-!
RPC slots and their pool (`rpc_slot.h`, `rpc_slot.cpp`). Between calls the free
stack holds each free slot once and every other slot is in use, every slot
keeps its index, and its 12-bit generation counts how often it was freed
(`WellFormed`). Allocating, freeing a slot in use and counting completions keep
this (`allocate_spec`, `free_spec`, `putHot_wellFormed`).
-/
namespace Rdma.SlotPools
open Rdma.Arrays Rdma.BitFields

/-! ### One slot -/

structure RpcSlotHot where
  slotGenPacked : UInt32
  flags : UInt8 := 0
  connId : UInt16 := 0
  totalWrCount : UInt8 := 0
  completedWrCount : UInt8 := 0
  errorCode : UInt8 := 0
  deriving DecidableEq, Repr

def kStateMask : UInt8 := 0xC0
def kStateShift : UInt8 := 6
def kStateFree : UInt8 := 0
def kStateInUse : UInt8 := 1
def kSlotIndexMask : UInt32 := 0x000FFFFF
def kGenerationShift : UInt32 := 20
def kGenerationMask : UInt32 := 0xFFF

def RpcSlotHot.getState (hot : RpcSlotHot) : UInt8 := (hot.flags &&& kStateMask) >>> kStateShift

def RpcSlotHot.setState (hot : RpcSlotHot) (state : UInt8) : RpcSlotHot :=
  { hot with flags := (hot.flags &&& ~~~kStateMask) ||| (state <<< kStateShift &&& kStateMask) }

def RpcSlotHot.getSlotIndex (hot : RpcSlotHot) : UInt32 := hot.slotGenPacked &&& kSlotIndexMask

def RpcSlotHot.getGeneration (hot : RpcSlotHot) : UInt16 :=
  (hot.slotGenPacked >>> kGenerationShift &&& kGenerationMask).toUInt16

def RpcSlotHot.incrementGeneration (hot : RpcSlotHot) : RpcSlotHot :=
  let gen := (hot.slotGenPacked >>> kGenerationShift) + (1 : UInt32)
  { hot with slotGenPacked :=
      (hot.slotGenPacked &&& kSlotIndexMask) ||| (gen &&& kGenerationMask) <<< kGenerationShift }

def RpcSlotHot.isCompleted (hot : RpcSlotHot) : Bool := hot.totalWrCount ≤ hot.completedWrCount

def RpcSlotHot.markCompleted (hot : RpcSlotHot) : RpcSlotHot :=
  { hot with completedWrCount := hot.completedWrCount + 1 }

def RpcSlotHot.validateGeneration (hot : RpcSlotHot) (expectedGen : UInt16) : Bool := hot.getGeneration = expectedGen

private theorem state_bits : ∀ flags : Fin 256, ∀ state : Fin 4,
    (((UInt8.ofNat flags &&& ~~~kStateMask) ||| (UInt8.ofNat state <<< kStateShift &&& kStateMask)) &&& kStateMask) >>>
      kStateShift = UInt8.ofNat state := by
  decide +kernel

@[simp] theorem getState_setState_free (hot : RpcSlotHot) : (hot.setState kStateFree).getState = kStateFree := by
  have bits := state_bits ⟨hot.flags.toNat, hot.flags.toNat_lt⟩ 0
  rw [UInt8.ofNat_toNat] at bits
  exact bits

@[simp] theorem getState_setState_inUse (hot : RpcSlotHot) : (hot.setState kStateInUse).getState = kStateInUse := by
  have bits := state_bits ⟨hot.flags.toNat, hot.flags.toNat_lt⟩ 1
  rw [UInt8.ofNat_toNat] at bits
  exact bits

private theorem state_bits_twice : ∀ flags : Fin 256,
    ((UInt8.ofNat flags &&& ~~~kStateMask) ||| (kStateInUse <<< kStateShift &&& kStateMask)) &&& ~~~kStateMask |||
        (kStateInUse <<< kStateShift &&& kStateMask) =
      (UInt8.ofNat flags &&& ~~~kStateMask) ||| (kStateInUse <<< kStateShift &&& kStateMask) := by
  decide +kernel

@[simp] theorem setState_inUse_twice (hot : RpcSlotHot) :
    (hot.setState kStateInUse).setState kStateInUse = hot.setState kStateInUse := by
  have bits := state_bits_twice ⟨hot.flags.toNat, hot.flags.toNat_lt⟩
  rw [UInt8.ofNat_toNat] at bits
  simp only [RpcSlotHot.setState]
  rw [bits]

theorem getSlotIndex_toNat (hot : RpcSlotHot) : hot.getSlotIndex.toNat = hot.slotGenPacked.toNat % 2 ^ 20 := by
  simp only [RpcSlotHot.getSlotIndex, kSlotIndexMask, UInt32.toNat_and, UInt32.reduceToNat]
  exact mask_eq_mod 20 _ rfl

theorem getGeneration_toNat (hot : RpcSlotHot) : hot.getGeneration.toNat = hot.slotGenPacked.toNat / 2 ^ 20 := by
  have bound := hot.slotGenPacked.toNat_lt
  simp only [RpcSlotHot.getGeneration, kGenerationShift, kGenerationMask, UInt32.toNat_toUInt16, UInt32.toNat_and,
    UInt32.toNat_shiftRight, Nat.shiftRight_eq_div_pow, UInt32.reduceToNat, Nat.reduceMod]
  rw [mask_eq_mod 12 _ rfl]
  omega

theorem incrementGeneration_packed (hot : RpcSlotHot) :
    hot.incrementGeneration.slotGenPacked.toNat =
      hot.slotGenPacked.toNat % 2 ^ 20 + (hot.slotGenPacked.toNat / 2 ^ 20 + 1) % 2 ^ 12 * 2 ^ 20 := by
  have bound := hot.slotGenPacked.toNat_lt
  simp only [RpcSlotHot.incrementGeneration, kGenerationShift, kGenerationMask, kSlotIndexMask, UInt32.toNat_or,
    UInt32.toNat_and, UInt32.toNat_shiftLeft, UInt32.toNat_add, UInt32.toNat_shiftRight,
    Nat.shiftRight_eq_div_pow, Nat.shiftLeft_eq, UInt32.reduceToNat, Nat.reduceMod]
  rw [mask_eq_mod 20 _ rfl, mask_eq_mod 12 _ rfl, Nat.or_comm,
    or_eq_add 20 (by omega) (by omega)]
  omega

@[simp] theorem getSlotIndex_incrementGeneration (hot : RpcSlotHot) :
    hot.incrementGeneration.getSlotIndex = hot.getSlotIndex := by
  apply UInt32.toNat_inj.mp
  rw [getSlotIndex_toNat, getSlotIndex_toNat, incrementGeneration_packed]
  omega

/-- The generation counts modulo 4096. -/
theorem getGeneration_incrementGeneration (hot : RpcSlotHot) :
    hot.incrementGeneration.getGeneration.toNat = (hot.getGeneration.toNat + 1) % 4096 := by
  rw [getGeneration_toNat, getGeneration_toNat, incrementGeneration_packed]
  omega

/-! ### The pool -/

structure RpcSlotContext where
  callbackFn : Option Nat := none
  callbackCtx : Nat := 0
  deriving DecidableEq, Repr

def kMaxSlots : Nat := 65536

/-- `frees` is a history variable, not in the source: how often each slot has been freed. -/
structure RpcSlotPool where
  slotsHot : Cells RpcSlotHot
  slotsContext : Cells RpcSlotContext
  freeStack : Cells UInt32
  stackTop : Nat
  frees : Nat → Nat

/-- The constructor. -/
def RpcSlotPool.create : RpcSlotPool where
  slotsHot := ⟨kMaxSlots, fun i => { slotGenPacked := UInt32.ofNat i }⟩
  slotsContext := ⟨kMaxSlots, fun _ => {}⟩
  freeStack := ⟨kMaxSlots, fun i => UInt32.ofNat (kMaxSlots - 1 - i)⟩
  stackTop := kMaxSlots
  frees _ := 0

def RpcSlotPool.hot (pool : RpcSlotPool) (slot : Nat) : RpcSlotHot := pool.slotsHot.cell slot
def RpcSlotPool.context (pool : RpcSlotPool) (slot : Nat) : RpcSlotContext := pool.slotsContext.cell slot

/-- A write through the pointer that `GetHot` returns. -/
def RpcSlotPool.setHot (pool : RpcSlotPool) (slotIndex : UInt32) (hot : RpcSlotHot) : Option RpcSlotPool := do
  let slotsHot ← pool.slotsHot.write slotIndex.toNat hot
  some { pool with slotsHot }

/-- A write through the pointer that `GetContext` returns. -/
def RpcSlotPool.setContext (pool : RpcSlotPool) (slotIndex : UInt32) (context : RpcSlotContext) : Option RpcSlotPool := do
  let slotsContext ← pool.slotsContext.write slotIndex.toNat context
  some { pool with slotsContext }

def RpcSlotPool.allocate (pool : RpcSlotPool) : Option ((UInt32 × UInt8) × RpcSlotPool) :=
  if pool.stackTop = 0 then some ((0xFFFFFFFF, 0), pool)
  else do
    let stackTop := pool.stackTop - 1
    let index ← pool.freeStack.read stackTop
    let hot ← pool.slotsHot.read index.toNat
    let hot := { hot.setState kStateInUse with completedWrCount := 0, errorCode := 0 }
    let pool ← { pool with stackTop }.setHot index hot
    some ((index, hot.getGeneration.toUInt8), pool)

def RpcSlotPool.free (pool : RpcSlotPool) (slotIndex : UInt32) : Option RpcSlotPool := do
  let hot ← pool.slotsHot.read slotIndex.toNat
  let pool ← pool.setHot slotIndex (hot.setState kStateFree).incrementGeneration
  let freeStack ← pool.freeStack.write pool.stackTop slotIndex
  some { pool with
    freeStack
    stackTop := pool.stackTop + 1
    frees := Function.update pool.frees slotIndex.toNat (pool.frees slotIndex.toNat + 1) }

def RpcSlotPool.getHot (pool : RpcSlotPool) (slotIndex : UInt32) : Option RpcSlotHot :=
  pool.slotsHot.read slotIndex.toNat

/-- The inner `none` is the null pointer that tells a stale token. -/
def RpcSlotPool.getHotChecked (pool : RpcSlotPool) (slotIndex : UInt32) (expectedGen : UInt8) :
    Option (Option RpcSlotHot) := do
  let hot ← pool.slotsHot.read slotIndex.toNat
  some (if !hot.validateGeneration expectedGen.toUInt16 then none else some hot)

def RpcSlotPool.getContext (pool : RpcSlotPool) (slotIndex : UInt32) : Option RpcSlotContext :=
  pool.slotsContext.read slotIndex.toNat

theorem setHot_hot {pool next : RpcSlotPool} {slotIndex : UInt32} {hot : RpcSlotHot}
    (written : pool.setHot slotIndex hot = some next) : next.hot slotIndex.toNat = hot := by
  obtain ⟨cells, put, same⟩ := Option.bind_eq_some_iff.mp written
  obtain rfl := Option.some.inj same
  unfold Cells.write at put
  split at put
  · obtain rfl := Option.some.inj put
    exact put_same ..
  · cases put

theorem setContext_hot {pool next : RpcSlotPool} {slotIndex : UInt32} {context : RpcSlotContext}
    (written : pool.setContext slotIndex context = some next) (slot : Nat) : next.hot slot = pool.hot slot := by
  obtain ⟨cells, -, same⟩ := Option.bind_eq_some_iff.mp written
  obtain rfl := Option.some.inj same
  rfl

/-- How a call of `allocate` ends: the free stack is empty, or the slot on its top is marked as in use. -/
inductive Allocated (pool : RpcSlotPool) : UInt32 × UInt8 → RpcSlotPool → Prop
  | empty (none_free : pool.stackTop = 0) : Allocated pool (0xFFFFFFFF, 0) pool
  | taken {slotIndex : UInt32} {next : RpcSlotPool} (some_free : pool.stackTop ≠ 0)
      (inside : slotIndex.toNat < pool.slotsHot.size)
      (written : { pool with stackTop := pool.stackTop - 1 }.setHot slotIndex
        { (pool.hot slotIndex.toNat).setState kStateInUse with completedWrCount := 0, errorCode := 0 } = some next) :
      Allocated pool (slotIndex, (pool.hot slotIndex.toNat).getGeneration.toUInt8) next

theorem allocate_inv {pool next : RpcSlotPool} {token : UInt32 × UInt8}
    (allocated : pool.allocate = some (token, next)) : Allocated pool token next := by
  unfold RpcSlotPool.allocate at allocated
  split at allocated
  · rename_i none_free
    obtain ⟨rfl, rfl⟩ := Prod.mk.inj (Option.some.inj allocated)
    exact .empty none_free
  · rename_i some_free
    obtain ⟨index, -, allocated⟩ := Option.bind_eq_some_iff.mp allocated
    obtain ⟨hot, read, allocated⟩ := Option.bind_eq_some_iff.mp allocated
    obtain ⟨marked, written, allocated⟩ := Option.bind_eq_some_iff.mp allocated
    obtain ⟨rfl, rfl⟩ := Prod.mk.inj (Option.some.inj allocated)
    obtain ⟨inside, rfl⟩ := read_some read
    exact .taken some_free inside written

/-! ### The arrays keep their sizes -/

def RpcSlotPool.Sized (pool : RpcSlotPool) : Prop :=
  pool.slotsHot.size = kMaxSlots ∧ pool.slotsContext.size = kMaxSlots ∧ pool.freeStack.size = kMaxSlots

theorem setHot_sized {pool next : RpcSlotPool} {slotIndex : UInt32} {hot : RpcSlotHot}
    (written : pool.setHot slotIndex hot = some next) (sized : pool.Sized) : next.Sized := by
  obtain ⟨cells, put, same⟩ := Option.bind_eq_some_iff.mp written
  obtain rfl := Option.some.inj same
  exact ⟨(write_size put).trans sized.1, sized.2⟩

theorem setContext_sized {pool next : RpcSlotPool} {slotIndex : UInt32} {context : RpcSlotContext}
    (written : pool.setContext slotIndex context = some next) (sized : pool.Sized) : next.Sized := by
  obtain ⟨cells, put, same⟩ := Option.bind_eq_some_iff.mp written
  obtain rfl := Option.some.inj same
  exact ⟨sized.1, (write_size put).trans sized.2.1, sized.2.2⟩

theorem allocate_sized {pool next : RpcSlotPool} {token : UInt32 × UInt8}
    (allocated : pool.allocate = some (token, next)) (sized : pool.Sized) : next.Sized := by
  cases allocate_inv allocated with
  | empty => exact sized
  | taken _ _ written => exact setHot_sized written sized

theorem free_sized {pool next : RpcSlotPool} {slotIndex : UInt32} (freed : pool.free slotIndex = some next)
    (sized : pool.Sized) : next.Sized := by
  obtain ⟨hot, -, freed⟩ := Option.bind_eq_some_iff.mp freed
  obtain ⟨marked, written, freed⟩ := Option.bind_eq_some_iff.mp freed
  obtain ⟨stack, pushed, freed⟩ := Option.bind_eq_some_iff.mp freed
  obtain rfl := Option.some.inj freed
  obtain ⟨hots, contexts, top⟩ := setHot_sized written sized
  exact ⟨hots, contexts, (write_size pushed).trans top⟩

/-- A slot that was allocated is one of the pool's. -/
theorem allocate_inside {pool next : RpcSlotPool} {slotIndex : UInt32} {generation : UInt8}
    (allocated : pool.allocate = some ((slotIndex, generation), next)) (named : slotIndex ≠ 0xFFFFFFFF)
    (sized : pool.Sized) : slotIndex.toNat < kMaxSlots := by
  cases allocate_inv allocated with
  | empty => exact absurd rfl named
  | taken _ inside => rwa [← sized.1]

/-! ### The representation invariant -/

/-- The slots on the free stack, from its bottom to its top. -/
def RpcSlotPool.freeSlots (pool : RpcSlotPool) : List Nat := (pool.freeStack.front pool.stackTop).map UInt32.toNat

def RpcSlotPool.InUse (pool : RpcSlotPool) (slot : Nat) : Prop :=
  slot < kMaxSlots ∧ (pool.hot slot).getState = kStateInUse

instance (pool : RpcSlotPool) (slot : Nat) : Decidable (pool.InUse slot) := inferInstanceAs (Decidable (_ ∧ _))

structure WellFormed (pool : RpcSlotPool) : Prop where
  hotSize : pool.slotsHot.size = kMaxSlots
  contextSize : pool.slotsContext.size = kMaxSlots
  stackSize : pool.freeStack.size = kMaxSlots
  distinct : pool.freeSlots.Nodup
  free_iff : ∀ slot, slot ∈ pool.freeSlots ↔ slot < kMaxSlots ∧ (pool.hot slot).getState = kStateFree
  states : ∀ slot < kMaxSlots, (pool.hot slot).getState = kStateFree ∨ (pool.hot slot).getState = kStateInUse
  index : ∀ slot < kMaxSlots, (pool.hot slot).getSlotIndex.toNat = slot
  generation : ∀ slot < kMaxSlots, (pool.hot slot).getGeneration.toNat = pool.frees slot % 4096

/-- The pool after `allocate` took `slot` from the top of the free stack. -/
def RpcSlotPool.taken (pool : RpcSlotPool) (slot : UInt32) : RpcSlotPool :=
  { pool with
    slotsHot := pool.slotsHot.put slot.toNat
      { (pool.hot slot.toNat).setState kStateInUse with completedWrCount := 0, errorCode := 0 }
    stackTop := pool.stackTop - 1 }

/-- The pool after `free` pushed `slot` on the free stack. -/
def RpcSlotPool.released (pool : RpcSlotPool) (slot : UInt32) : RpcSlotPool where
  slotsHot := pool.slotsHot.put slot.toNat ((pool.hot slot.toNat).setState kStateFree).incrementGeneration
  slotsContext := pool.slotsContext
  freeStack := pool.freeStack.put pool.stackTop slot
  stackTop := pool.stackTop + 1
  frees := Function.update pool.frees slot.toNat (pool.frees slot.toNat + 1)

/-- The pool after a write to the hot data of `slot`. -/
def RpcSlotPool.putHot (pool : RpcSlotPool) (slot : UInt32) (hot : RpcSlotHot) : RpcSlotPool :=
  { pool with slotsHot := pool.slotsHot.put slot.toNat hot }

/-- The pool after a write to the context of `slot`. -/
def RpcSlotPool.putContext (pool : RpcSlotPool) (slot : UInt32) (context : RpcSlotContext) : RpcSlotPool :=
  { pool with slotsContext := pool.slotsContext.put slot.toNat context }

theorem WellFormed.top_le {pool : RpcSlotPool} (wf : WellFormed pool) : pool.stackTop ≤ kMaxSlots := by
  have inside : pool.freeSlots ⊆ List.range kMaxSlots := fun slot member =>
    List.mem_range.mpr ((wf.free_iff slot).mp member).1
  simpa [RpcSlotPool.freeSlots] using (List.subperm_of_subset wf.distinct inside).length_le

theorem WellFormed.not_free {pool : RpcSlotPool} (wf : WellFormed pool) {slot : Nat} (inUse : pool.InUse slot) :
    slot ∉ pool.freeSlots := by
  intro member
  have free := ((wf.free_iff slot).mp member).2
  rw [inUse.2] at free
  exact absurd free (by decide)

/-- While a slot is in use the free stack has room. -/
theorem WellFormed.top_lt {pool : RpcSlotPool} (wf : WellFormed pool) {slot : Nat} (inUse : pool.InUse slot) :
    pool.stackTop < kMaxSlots := by
  have apart : (slot :: pool.freeSlots).Nodup := List.nodup_cons.mpr ⟨wf.not_free inUse, wf.distinct⟩
  have inside : slot :: pool.freeSlots ⊆ List.range kMaxSlots := by
    intro other member
    rcases List.mem_cons.mp member with rfl | member
    · exact List.mem_range.mpr inUse.1
    · exact List.mem_range.mpr ((wf.free_iff other).mp member).1
  have := (List.subperm_of_subset apart inside).length_le
  simp only [RpcSlotPool.freeSlots, List.length_cons, List.length_map, front_length, List.length_range] at this
  omega

theorem create_hot (slot : Nat) : RpcSlotPool.create.hot slot = { slotGenPacked := UInt32.ofNat slot } := rfl

theorem create_free (slot : Nat) : (RpcSlotPool.create.hot slot).getState = kStateFree := by
  have zero : (0 &&& kStateMask) >>> kStateShift = kStateFree := by decide
  exact zero

theorem create_freeSlots : RpcSlotPool.create.freeSlots = (List.range kMaxSlots).map (kMaxSlots - 1 - ·) := by
  unfold RpcSlotPool.freeSlots Cells.front
  rw [List.map_map]
  refine List.map_congr_left fun i member => ?_
  have bound : kMaxSlots - 1 - i < 2 ^ 32 := by unfold kMaxSlots; omega
  simpa [RpcSlotPool.create] using bound

/-- Slot 0 is allocated first. -/
theorem create_stack_two : ∃ rest,
    RpcSlotPool.create.freeSlots = rest ++ [(1 : UInt32).toNat] ++ [(0 : UInt32).toNat] := by
  refine ⟨(List.range (kMaxSlots - 2)).map (kMaxSlots - 1 - ·), ?_⟩
  have last : List.range kMaxSlots = List.range (kMaxSlots - 1) ++ [kMaxSlots - 1] := List.range_succ
  have before : List.range (kMaxSlots - 1) = List.range (kMaxSlots - 2) ++ [kMaxSlots - 2] := List.range_succ
  rw [create_freeSlots, last, before, List.map_append, List.map_append, List.map_singleton, List.map_singleton,
    Nat.sub_self]
  rfl

theorem create_stack : ∃ rest, RpcSlotPool.create.freeSlots = rest ++ [(0 : UInt32).toNat] := by
  obtain ⟨rest, stack⟩ := create_stack_two
  exact ⟨_, stack⟩

theorem create_wellFormed : WellFormed RpcSlotPool.create where
  hotSize := rfl
  contextSize := rfl
  stackSize := rfl
  distinct := by
    rw [create_freeSlots]
    refine List.Nodup.map_on ?_ List.nodup_range
    intro i first j second same
    have := List.mem_range.mp first
    have := List.mem_range.mp second
    omega
  free_iff slot := by
    rw [create_freeSlots, List.mem_map]
    constructor
    · rintro ⟨i, member, rfl⟩
      have := List.mem_range.mp member
      exact ⟨by omega, create_free _⟩
    · rintro ⟨inside, -⟩
      exact ⟨kMaxSlots - 1 - slot, List.mem_range.mpr (by omega), by omega⟩
  states slot _ := .inl (create_free slot)
  index slot inside := by
    have bound : slot < 2 ^ 20 := by unfold kMaxSlots at inside; omega
    rw [getSlotIndex_toNat, create_hot]
    simp only [UInt32.toNat_ofNat']
    omega
  generation slot inside := by
    have bound : slot < 2 ^ 20 := by unfold kMaxSlots at inside; omega
    rw [getGeneration_toNat, create_hot]
    simp only [UInt32.toNat_ofNat', RpcSlotPool.create]
    omega

/-! ### Allocating -/

theorem allocate_empty {pool : RpcSlotPool} (empty : pool.stackTop = 0) :
    pool.allocate = some ((0xFFFFFFFF, 0), pool) := if_pos empty

/-- `allocate` takes the slot on top of the free stack and returns the low 8 bits of its generation. -/
theorem allocate_spec {pool : RpcSlotPool} (wf : WellFormed pool) (some_free : pool.stackTop ≠ 0) :
    ∃ slot rest, pool.freeSlots = rest ++ [slot.toNat] ∧
      pool.allocate = some ((slot, (pool.hot slot.toNat).getGeneration.toUInt8), pool.taken slot) := by
  obtain ⟨top, topIs⟩ := Nat.exists_eq_succ_of_ne_zero some_free
  have stack : pool.freeSlots = (pool.freeStack.front top).map UInt32.toNat ++ [(pool.freeStack.cell top).toNat] := by
    rw [RpcSlotPool.freeSlots, topIs, front_succ, List.map_append, List.map_singleton]
  refine ⟨pool.freeStack.cell top, _, stack, ?_⟩
  have inside : (pool.freeStack.cell top).toNat < kMaxSlots :=
    ((wf.free_iff _).mp (by rw [stack]; simp)).1
  have below : top < pool.freeStack.size := by
    have := wf.top_le
    rw [wf.stackSize]
    omega
  have hotInside : (pool.freeStack.cell top).toNat < pool.slotsHot.size := by rw [wf.hotSize]; exact inside
  simp only [RpcSlotPool.allocate, topIs, Nat.succ_eq_add_one, Nat.add_sub_cancel,
    read_inside below, read_inside hotInside, Option.bind_eq_bind, Option.bind_some, RpcSlotPool.setHot,
    write_inside hotInside, RpcSlotPool.taken]
  rfl

theorem allocate_top {pool : RpcSlotPool} (wf : WellFormed pool) {slot : UInt32} {rest : List Nat}
    (stack : pool.freeSlots = rest ++ [slot.toNat]) :
    pool.allocate = some ((slot, (pool.hot slot.toNat).getGeneration.toUInt8), pool.taken slot) := by
  have some_free : pool.stackTop ≠ 0 := by
    intro empty
    simp [RpcSlotPool.freeSlots, empty] at stack
  obtain ⟨top, below, stack', allocated⟩ := allocate_spec wf some_free
  obtain ⟨-, last⟩ := List.append_inj' (stack.symm.trans stack') rfl
  obtain rfl : slot = top := UInt32.toNat_inj.mp (List.singleton_inj.mp last)
  exact allocated

theorem taken_freeSlots {pool : RpcSlotPool} {slot : UInt32} {rest : List Nat}
    (stack : pool.freeSlots = rest ++ [slot.toNat]) : (pool.taken slot).freeSlots = rest := by
  have some_free : pool.stackTop ≠ 0 := by
    intro empty
    simp [RpcSlotPool.freeSlots, empty] at stack
  obtain ⟨top, topIs⟩ := Nat.exists_eq_succ_of_ne_zero some_free
  rw [RpcSlotPool.freeSlots, topIs, front_succ, List.map_append, List.map_singleton] at stack
  obtain ⟨front, -⟩ := List.append_inj' stack rfl
  rw [RpcSlotPool.freeSlots, RpcSlotPool.taken, topIs]
  exact front

theorem taken_hot (pool : RpcSlotPool) (slot : UInt32) :
    (pool.taken slot).hot slot.toNat =
      { (pool.hot slot.toNat).setState kStateInUse with completedWrCount := 0, errorCode := 0 } := put_same ..

theorem taken_hot_other (pool : RpcSlotPool) {slot : UInt32} {other : Nat} (apart : other ≠ slot.toNat) :
    (pool.taken slot).hot other = pool.hot other := put_apart _ apart _

theorem taken_wellFormed {pool : RpcSlotPool} (wf : WellFormed pool) {slot : UInt32} {rest : List Nat}
    (stack : pool.freeSlots = rest ++ [slot.toNat]) : WellFormed (pool.taken slot) := by
  have parts := wf.distinct
  rw [stack, List.nodup_append] at parts
  have absent : slot.toNat ∉ rest := fun member => parts.2.2 _ member _ (List.mem_singleton_self _) rfl
  have members : ∀ other, other ∈ pool.freeSlots ↔ other ∈ rest ∨ other = slot.toNat := by simp [stack]
  refine ⟨wf.hotSize, wf.contextSize, wf.stackSize, ?_, ?_, ?_, ?_, ?_⟩
  · rw [taken_freeSlots stack]
    exact parts.1
  · intro other
    rw [taken_freeSlots stack]
    by_cases same : other = slot.toNat
    · subst same
      rw [taken_hot]
      constructor
      · exact fun member => absurd member absent
      · rintro ⟨-, free⟩
        have inUse : ((pool.hot slot.toNat).setState kStateInUse).getState = kStateFree := free
        rw [getState_setState_inUse] at inUse
        exact absurd inUse (by decide)
    · rw [taken_hot_other pool same, ← wf.free_iff, members]
      simp [same]
  · intro other inside
    by_cases same : other = slot.toNat
    · subst same
      rw [taken_hot]
      exact .inr (getState_setState_inUse _)
    · rw [taken_hot_other pool same]
      exact wf.states other inside
  · intro other inside
    by_cases same : other = slot.toNat
    · subst same
      rw [taken_hot]
      exact wf.index _ inside
    · rw [taken_hot_other pool same]
      exact wf.index other inside
  · intro other inside
    by_cases same : other = slot.toNat
    · subst same
      rw [taken_hot]
      exact wf.generation _ inside
    · rw [taken_hot_other pool same]
      exact wf.generation other inside

/-! ### Freeing -/

theorem released_hot (pool : RpcSlotPool) (slot : UInt32) :
    (pool.released slot).hot slot.toNat = ((pool.hot slot.toNat).setState kStateFree).incrementGeneration :=
  put_same ..

theorem released_hot_other (pool : RpcSlotPool) {slot : UInt32} {other : Nat} (apart : other ≠ slot.toNat) :
    (pool.released slot).hot other = pool.hot other := put_apart _ apart _

@[simp] theorem released_frees (pool : RpcSlotPool) (slot : UInt32) :
    (pool.released slot).frees slot.toNat = pool.frees slot.toNat + 1 := by
  simp [RpcSlotPool.released]

theorem released_frees_other (pool : RpcSlotPool) {slot : UInt32} {other : Nat} (apart : other ≠ slot.toNat) :
    (pool.released slot).frees other = pool.frees other := by
  simp [RpcSlotPool.released, apart]

@[simp] theorem released_context (pool : RpcSlotPool) (slot : UInt32) :
    (pool.released slot).context = pool.context := rfl

theorem released_freeSlots (pool : RpcSlotPool) (slot : UInt32) :
    (pool.released slot).freeSlots = pool.freeSlots ++ [slot.toNat] := by
  rw [RpcSlotPool.freeSlots, RpcSlotPool.released, front_succ, front_put _ (Nat.le_refl _), put_same,
    List.map_append, List.map_singleton, RpcSlotPool.freeSlots]

theorem free_eq {pool : RpcSlotPool} {slot : UInt32} (inside : slot.toNat < pool.slotsHot.size)
    (room : pool.stackTop < pool.freeStack.size) : pool.free slot = some (pool.released slot) := by
  simp only [RpcSlotPool.free, read_inside inside, RpcSlotPool.setHot, write_inside inside, write_inside room,
    Option.bind_eq_bind, Option.bind_some, RpcSlotPool.released]
  rfl

/-- Freeing a slot in use pushes it once. -/
theorem free_spec {pool : RpcSlotPool} (wf : WellFormed pool) {slot : UInt32} (inUse : pool.InUse slot.toNat) :
    pool.free slot = some (pool.released slot) :=
  free_eq (by rw [wf.hotSize]; exact inUse.1) (by rw [wf.stackSize]; exact wf.top_lt inUse)

private theorem released_state (hot : RpcSlotHot) :
    (hot.setState kStateFree).incrementGeneration.getState = kStateFree :=
  getState_setState_free hot

theorem released_wellFormed {pool : RpcSlotPool} (wf : WellFormed pool) {slot : UInt32}
    (inUse : pool.InUse slot.toNat) : WellFormed (pool.released slot) := by
  refine ⟨wf.hotSize, wf.contextSize, wf.stackSize, ?_, ?_, ?_, ?_, ?_⟩
  · rw [released_freeSlots, List.nodup_append]
    refine ⟨wf.distinct, List.nodup_singleton _, ?_⟩
    intro other member last single same
    rw [List.mem_singleton] at single
    subst single same
    exact wf.not_free inUse member
  · intro other
    rw [released_freeSlots, List.mem_append, List.mem_singleton, wf.free_iff]
    by_cases same : other = slot.toNat
    · subst same
      rw [released_hot]
      exact ⟨fun _ => ⟨inUse.1, released_state _⟩, fun _ => .inr rfl⟩
    · rw [released_hot_other pool same]
      simp [same]
  · intro other inside
    by_cases same : other = slot.toNat
    · subst same
      rw [released_hot]
      exact .inl (released_state _)
    · rw [released_hot_other pool same]
      exact wf.states other inside
  · intro other inside
    by_cases same : other = slot.toNat
    · subst same
      rw [released_hot, getSlotIndex_incrementGeneration]
      exact wf.index _ inside
    · rw [released_hot_other pool same]
      exact wf.index other inside
  · intro other inside
    by_cases same : other = slot.toNat
    · subst same
      rw [released_hot, released_frees, getGeneration_incrementGeneration]
      have kept : ((pool.hot slot.toNat).setState kStateFree).getGeneration.toNat = pool.frees slot.toNat % 4096 :=
        wf.generation _ inside
      omega
    · rw [released_hot_other pool same, released_frees_other pool same]
      exact wf.generation other inside

/-! ### Writing and reading a slot -/

theorem setHot_eq {pool : RpcSlotPool} (wf : WellFormed pool) {slot : UInt32} (inside : slot.toNat < kMaxSlots)
    (hot : RpcSlotHot) : pool.setHot slot hot = some (pool.putHot slot hot) := by
  rw [← wf.hotSize] at inside
  simp [RpcSlotPool.setHot, write_inside inside, RpcSlotPool.putHot]

theorem setContext_eq {pool : RpcSlotPool} (wf : WellFormed pool) {slot : UInt32} (inside : slot.toNat < kMaxSlots)
    (context : RpcSlotContext) : pool.setContext slot context = some (pool.putContext slot context) := by
  rw [← wf.contextSize] at inside
  simp [RpcSlotPool.setContext, write_inside inside, RpcSlotPool.putContext]

theorem getHot_eq {pool : RpcSlotPool} (wf : WellFormed pool) {slot : UInt32} (inside : slot.toNat < kMaxSlots) :
    pool.getHot slot = some (pool.hot slot.toNat) := read_inside (by rw [wf.hotSize]; exact inside)

theorem getContext_eq {pool : RpcSlotPool} (wf : WellFormed pool) {slot : UInt32} (inside : slot.toNat < kMaxSlots) :
    pool.getContext slot = some (pool.context slot.toNat) := read_inside (by rw [wf.contextSize]; exact inside)

@[simp] theorem putHot_same (pool : RpcSlotPool) (slot : UInt32) (hot : RpcSlotHot) :
    (pool.putHot slot hot).hot slot.toNat = hot := put_same ..

theorem putHot_other (pool : RpcSlotPool) {slot : UInt32} {other : Nat} (apart : other ≠ slot.toNat)
    (hot : RpcSlotHot) : (pool.putHot slot hot).hot other = pool.hot other := put_apart _ apart _

@[simp] theorem putHot_frame (pool : RpcSlotPool) (slot : UInt32) (hot : RpcSlotHot) :
    (pool.putHot slot hot).frees = pool.frees ∧ (pool.putHot slot hot).context = pool.context ∧
      (pool.putHot slot hot).freeSlots = pool.freeSlots := ⟨rfl, rfl, rfl⟩

@[simp] theorem putContext_same (pool : RpcSlotPool) (slot : UInt32) (context : RpcSlotContext) :
    (pool.putContext slot context).context slot.toNat = context := put_same ..

theorem putContext_other (pool : RpcSlotPool) {slot : UInt32} {other : Nat} (apart : other ≠ slot.toNat)
    (context : RpcSlotContext) : (pool.putContext slot context).context other = pool.context other :=
  put_apart _ apart _

@[simp] theorem putContext_frame (pool : RpcSlotPool) (slot : UInt32) (context : RpcSlotContext) :
    (pool.putContext slot context).frees = pool.frees ∧ (pool.putContext slot context).hot = pool.hot ∧
      (pool.putContext slot context).freeSlots = pool.freeSlots := ⟨rfl, rfl, rfl⟩

/-- Writes that keep the state, the index and the generation keep the representation. -/
theorem putHot_wellFormed {pool : RpcSlotPool} (wf : WellFormed pool) {slot : UInt32} {hot : RpcSlotHot}
    (state : hot.getState = (pool.hot slot.toNat).getState)
    (packed : hot.slotGenPacked = (pool.hot slot.toNat).slotGenPacked) : WellFormed (pool.putHot slot hot) := by
  have kept : ∀ other, ((pool.putHot slot hot).hot other).getState = (pool.hot other).getState ∧
      ((pool.putHot slot hot).hot other).slotGenPacked = (pool.hot other).slotGenPacked := by
    intro other
    by_cases same : other = slot.toNat
    · subst same
      rw [putHot_same]
      exact ⟨state, packed⟩
    · rw [putHot_other pool same]
      exact ⟨rfl, rfl⟩
  refine ⟨wf.hotSize, wf.contextSize, wf.stackSize, wf.distinct, ?_, ?_, ?_, ?_⟩
  · intro other
    rw [(kept other).1]
    exact wf.free_iff other
  · intro other inside
    rw [(kept other).1]
    exact wf.states other inside
  · intro other inside
    rw [getSlotIndex_toNat, (kept other).2, ← getSlotIndex_toNat]
    exact wf.index other inside
  · intro other inside
    rw [getGeneration_toNat, (kept other).2, ← getGeneration_toNat]
    exact wf.generation other inside

theorem putContext_wellFormed {pool : RpcSlotPool} (wf : WellFormed pool) (slot : UInt32) (context : RpcSlotContext) :
    WellFormed (pool.putContext slot context) :=
  ⟨wf.hotSize, wf.contextSize, wf.stackSize, wf.distinct, wf.free_iff, wf.states, wf.index, wf.generation⟩

/-! ### Tokens -/

/-- The slot's generation is the token's. -/
def RpcSlotPool.Names (pool : RpcSlotPool) (slot : UInt32) (generation : UInt8) : Prop :=
  (pool.hot slot.toNat).getGeneration.toNat = generation.toNat

instance (pool : RpcSlotPool) (slot : UInt32) (generation : UInt8) : Decidable (pool.Names slot generation) :=
  inferInstanceAs (Decidable (_ = _))

/-- The generations are compared as 16-bit numbers. -/
theorem validateGeneration_names (pool : RpcSlotPool) (slot : UInt32) (generation : UInt8) :
    (pool.hot slot.toNat).validateGeneration generation.toUInt16 = decide (pool.Names slot generation) := by
  refine decide_eq_decide.mpr ?_
  rw [RpcSlotPool.Names, ← UInt16.toNat_inj, UInt8.toNat_toUInt16]

/-- What a lookup that is defined finds. -/
theorem getHotChecked_inv {pool : RpcSlotPool} {slot : UInt32} {generation : UInt8} {checked : Option RpcSlotHot}
    (found : pool.getHotChecked slot generation = some checked) :
    checked = if pool.Names slot generation then some (pool.hot slot.toNat) else none := by
  obtain ⟨hot, inside, rest⟩ := Option.bind_eq_some_iff.mp found
  obtain ⟨-, rfl⟩ := read_some inside
  obtain rfl := Option.some.inj rest
  change (if !(pool.hot slot.toNat).validateGeneration generation.toUInt16 then _ else _) = _
  rw [validateGeneration_names]
  by_cases names : pool.Names slot generation
  · simp [names, RpcSlotPool.hot]
  · simp [names]

theorem getHotChecked_eq {pool : RpcSlotPool} (wf : WellFormed pool) {slot : UInt32} (inside : slot.toNat < kMaxSlots)
    (generation : UInt8) :
    pool.getHotChecked slot generation =
      some (if pool.Names slot generation then some (pool.hot slot.toNat) else none) := by
  rw [← wf.hotSize] at inside
  have defined : ∃ checked, pool.getHotChecked slot generation = some checked := by
    rw [RpcSlotPool.getHotChecked, read_inside inside]
    exact ⟨_, rfl⟩
  obtain ⟨checked, found⟩ := defined
  rw [found, getHotChecked_inv found]

end Rdma.SlotPools
