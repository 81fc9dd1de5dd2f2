import Rdma.Runs
import Rdma.SlotPools

/-!
The slot pool (`rpc_slot.h`) between its callers: a desk of a pool and the slots
it has handed out and not had back. Slots are allocated, returned by their
holders and written through the pointers that `GetHot` returns. In every run the
free stack and the slots handed out split the pool (`Represents`), so that
`Allocate` hands out a slot nobody holds and fails only when all are held
(`Serves`).
-/
namespace Rdma.SlotRuns
open Rdma.Runs Rdma.Arrays Rdma.SlotPools

/-! ### The desk -/

/-- `held` is a history variable: the slots that `Allocate` returned and nobody freed since. -/
structure Desk where
  pool : RpcSlotPool
  held : List Nat

/-- `note` is a caller that counts on a slot through the pointer `GetHot` returns. -/
inductive Event
  | allocate
  | free (slotIndex : UInt32)
  | note (slotIndex : UInt32) (connId : UInt16) (totalWrCount completedWrCount errorCode : UInt8)

/-- A call of `Allocate` that returns `UINT32_MAX` has failed. -/
def handOut (held : List Nat) (slotIndex : UInt32) : List Nat :=
  if slotIndex = 0xFFFFFFFF then held else slotIndex.toNat :: held

/-- The outputs are the tokens that `Allocate` returns. -/
def step (desk : Desk) : Event → Option (Desk × List (UInt32 × UInt8))
  | .allocate => do
    let (token, pool) ← desk.pool.allocate
    some (⟨pool, handOut desk.held token.1⟩, [token])
  | .free slotIndex => do
    let pool ← desk.pool.free slotIndex
    some (⟨pool, desk.held.erase slotIndex.toNat⟩, [])
  | .note slotIndex connId totalWrCount completedWrCount errorCode => do
    let hot ← desk.pool.getHot slotIndex
    let pool ← desk.pool.setHot slotIndex { hot with connId, totalWrCount, completedWrCount, errorCode }
    some ({ desk with pool }, [])

/-- Only a slot that is currently allocated is freed, and only a slot of the pool is written. -/
def Allowed (desk : Desk) : Event → Prop
  | .allocate => True
  | .free slotIndex => slotIndex.toNat ∈ desk.held
  | .note slotIndex .. => slotIndex.toNat < kMaxSlots

def Event.frees (slot : Nat) : Event → Bool
  | .free slotIndex => slotIndex.toNat = slot
  | _ => false

/-- How often the slot is freed in the events. -/
def timesFreed (slot : Nat) (events : List Event) : Nat := events.countP (Event.frees slot)

def Desk.start : Desk := ⟨.create, []⟩

/-! ### What holds between the calls -/

/-- The free stack holds each free slot once and the other slots are in use, namely those handed out. Every slot
    has its own index, and its generation counts modulo 4096 how often the events freed it. -/
structure Represents (events : List Event) (desk : Desk) : Prop where
  distinct : desk.pool.freeSlots.Nodup
  below : ∀ slot ∈ desk.pool.freeSlots, slot < kMaxSlots
  free_iff : ∀ slot < kMaxSlots, slot ∈ desk.pool.freeSlots ↔ (desk.pool.hot slot).getState = kStateFree
  inUse_iff : ∀ slot < kMaxSlots, slot ∉ desk.pool.freeSlots ↔ (desk.pool.hot slot).getState = kStateInUse
  held_iff : ∀ slot, slot ∈ desk.held ↔ slot < kMaxSlots ∧ (desk.pool.hot slot).getState = kStateInUse
  index : ∀ slot < kMaxSlots, (desk.pool.hot slot).getSlotIndex.toNat = slot
  generation : ∀ slot < kMaxSlots, (desk.pool.hot slot).getGeneration.toNat = timesFreed slot events % 4096

/-- What the next call of `Allocate` does: it fails exactly when every slot is handed out, and otherwise hands out
    a slot that nobody holds, with no completions and no error. -/
def Serves (desk : Desk) : Prop :=
  ∃ slotIndex generation next, desk.pool.allocate = some ((slotIndex, generation), next) ∧
    (slotIndex = 0xFFFFFFFF ↔ ∀ slot < kMaxSlots, slot ∈ desk.held) ∧
    (slotIndex ≠ 0xFFFFFFFF → slotIndex.toNat < kMaxSlots ∧ slotIndex.toNat ∉ desk.held ∧
      (next.hot slotIndex.toNat).completedWrCount = 0 ∧ (next.hot slotIndex.toNat).errorCode = 0)

/-- The invariant of the runs: the slots handed out are those in use. -/
structure Kept (desk : Desk) : Prop where
  wellFormed : WellFormed desk.pool
  distinct : desk.held.Nodup
  held_iff : ∀ slot, slot ∈ desk.held ↔ desk.pool.InUse slot

theorem start_kept : Kept Desk.start := by
  refine ⟨create_wellFormed, List.nodup_nil, fun slot => ?_⟩
  constructor
  · intro member
    cases member
  · rintro ⟨-, inUse⟩
    have free := create_free slot
    rw [Desk.start, free] at inUse
    exact absurd inUse (by decide)

/-- A slot of the pool is not the value that tells a failure. -/
theorem ne_failure {slotIndex : UInt32} (inside : slotIndex.toNat < kMaxSlots) : slotIndex ≠ 0xFFFFFFFF := by
  rintro rfl
  exact absurd inside (by decide)

theorem inUse_taken {pool : RpcSlotPool} {slotIndex : UInt32} (inside : slotIndex.toNat < kMaxSlots) (slot : Nat) :
    (pool.taken slotIndex).InUse slot ↔ slot = slotIndex.toNat ∨ pool.InUse slot := by
  by_cases same : slot = slotIndex.toNat
  · subst same
    rw [RpcSlotPool.InUse, taken_hot]
    exact ⟨fun _ => .inl rfl, fun _ => ⟨inside, getState_setState_inUse _⟩⟩
  · rw [RpcSlotPool.InUse, taken_hot_other pool same]
    simp [same, RpcSlotPool.InUse]

theorem inUse_released {pool : RpcSlotPool} {slotIndex : UInt32} (slot : Nat) :
    (pool.released slotIndex).InUse slot ↔ slot ≠ slotIndex.toNat ∧ pool.InUse slot := by
  by_cases same : slot = slotIndex.toNat
  · subst same
    rw [RpcSlotPool.InUse, released_hot]
    constructor
    · rintro ⟨-, inUse⟩
      have free : ((pool.hot slotIndex.toNat).setState kStateFree).incrementGeneration.getState = kStateFree :=
        getState_setState_free _
      rw [free] at inUse
      exact absurd inUse (by decide)
    · rintro ⟨differ, -⟩
      exact absurd rfl differ
  · rw [RpcSlotPool.InUse, released_hot_other pool same]
    simp [same, RpcSlotPool.InUse]

/-! ### Each operation -/

/-- With no slot free, the call fails and changes nothing. -/
theorem step_allocate_empty {desk : Desk} (empty : desk.pool.stackTop = 0) :
    step desk .allocate = some (desk, [(0xFFFFFFFF, 0)]) := by
  simp only [step, allocate_empty empty, Option.bind_eq_bind, Option.bind_some, handOut, if_pos]

theorem step_allocate_taken {desk : Desk} (kept : Kept desk) (some_free : desk.pool.stackTop ≠ 0) :
    ∃ slotIndex generation rest, desk.pool.freeSlots = rest ++ [slotIndex.toNat] ∧
      desk.pool.allocate = some ((slotIndex, generation), desk.pool.taken slotIndex) ∧
      slotIndex.toNat < kMaxSlots ∧ slotIndex.toNat ∉ desk.held ∧
      step desk .allocate =
        some (⟨desk.pool.taken slotIndex, slotIndex.toNat :: desk.held⟩, [(slotIndex, generation)]) := by
  obtain ⟨slotIndex, rest, stack, allocated⟩ := allocate_spec kept.wellFormed some_free
  have member : slotIndex.toNat ∈ desk.pool.freeSlots := by
    rw [stack]
    simp
  have inside := ((kept.wellFormed.free_iff _).mp member).1
  refine ⟨slotIndex, _, rest, stack, allocated, inside, ?_, ?_⟩
  · intro held
    exact kept.wellFormed.not_free ((kept.held_iff _).mp held) member
  · simp only [step, allocated, Option.bind_eq_bind, Option.bind_some, handOut, if_neg (ne_failure inside)]

theorem step_free {desk : Desk} {slotIndex : UInt32} (kept : Kept desk) (held : slotIndex.toNat ∈ desk.held) :
    step desk (.free slotIndex) =
      some (⟨desk.pool.released slotIndex, desk.held.erase slotIndex.toNat⟩, []) := by
  simp only [step, free_spec kept.wellFormed ((kept.held_iff _).mp held), Option.bind_eq_bind, Option.bind_some]

theorem step_note {desk : Desk} {slotIndex : UInt32} (kept : Kept desk) (inside : slotIndex.toNat < kMaxSlots)
    (connId : UInt16) (totalWrCount completedWrCount errorCode : UInt8) :
    step desk (.note slotIndex connId totalWrCount completedWrCount errorCode) =
      some (⟨desk.pool.putHot slotIndex
        { desk.pool.hot slotIndex.toNat with connId, totalWrCount, completedWrCount, errorCode }, desk.held⟩, []) := by
  simp only [step, getHot_eq kept.wellFormed inside, setHot_eq kept.wellFormed inside, Option.bind_eq_bind,
    Option.bind_some]

/-! ### Every run -/

/-- Every allowed call is defined and keeps the invariant. -/
theorem step_kept (desk : Desk) (event : Event) (kept : Kept desk) (allowed : Allowed desk event) :
    ∃ next now, step desk event = some (next, now) ∧ Kept next := by
  cases event with
  | allocate =>
    by_cases empty : desk.pool.stackTop = 0
    · exact ⟨desk, _, step_allocate_empty empty, kept⟩
    · obtain ⟨slotIndex, generation, rest, stack, -, inside, fresh, taken⟩ := step_allocate_taken kept empty
      refine ⟨_, _, taken, taken_wellFormed kept.wellFormed stack, List.nodup_cons.mpr ⟨fresh, kept.distinct⟩, ?_⟩
      intro slot
      rw [inUse_taken inside, List.mem_cons, kept.held_iff]
  | free slotIndex =>
    have inUse := (kept.held_iff _).mp allowed
    refine ⟨_, _, step_free kept allowed, released_wellFormed kept.wellFormed inUse, kept.distinct.erase _, ?_⟩
    intro slot
    rw [inUse_released, kept.distinct.mem_erase_iff, kept.held_iff]
  | note slotIndex connId totalWrCount completedWrCount errorCode =>
    refine ⟨_, _, step_note kept allowed .., putHot_wellFormed kept.wellFormed rfl rfl, kept.distinct, ?_⟩
    intro slot
    by_cases same : slot = slotIndex.toNat
    · subst same
      rw [kept.held_iff, RpcSlotPool.InUse, RpcSlotPool.InUse, putHot_same]
      rfl
    · rw [kept.held_iff, RpcSlotPool.InUse, RpcSlotPool.InUse, putHot_other _ same]

/-- One call adds to the frees of a slot what it frees. -/
theorem step_frees {desk next : Desk} {event : Event} {now : List (UInt32 × UInt8)} (slot : Nat) (kept : Kept desk)
    (allowed : Allowed desk event) (taken : step desk event = some (next, now)) :
    next.pool.frees slot = desk.pool.frees slot + timesFreed slot [event] := by
  cases event with
  | allocate =>
    by_cases empty : desk.pool.stackTop = 0
    · rw [step_allocate_empty empty] at taken
      obtain ⟨rfl, -⟩ := Prod.mk.inj (Option.some.inj taken)
      rfl
    · obtain ⟨slotIndex, generation, -, -, -, -, -, taken'⟩ := step_allocate_taken kept empty
      obtain ⟨rfl, -⟩ := Prod.mk.inj (Option.some.inj (taken'.symm.trans taken))
      rfl
  | free slotIndex =>
    rw [step_free kept allowed] at taken
    obtain ⟨rfl, -⟩ := Prod.mk.inj (Option.some.inj taken)
    by_cases same : slot = slotIndex.toNat
    · subst same
      simp [timesFreed, Event.frees]
    · have apart : ¬slotIndex.toNat = slot := fun equal => same equal.symm
      simp [timesFreed, Event.frees, released_frees_other _ same, apart]
  | note slotIndex connId totalWrCount completedWrCount errorCode =>
    rw [step_note kept allowed] at taken
    obtain ⟨rfl, -⟩ := Prod.mk.inj (Option.some.inj taken)
    rfl

theorem run_frees {desk last : Desk} {events : List Event} {outputs : List (UInt32 × UInt8)} (slot : Nat)
    (kept : Kept desk) (meets : Meets step Allowed desk events) (ran : run step desk events = some (last, outputs)) :
    last.pool.frees slot = desk.pool.frees slot + timesFreed slot events := by
  induction events generalizing desk outputs with
  | nil =>
    obtain ⟨rfl, -⟩ := Prod.mk.inj (Option.some.inj ran)
    rfl
  | cons event rest ih =>
    obtain ⟨next, now, later, taken, after, -⟩ := run_cons_some.mp ran
    obtain ⟨other, outputs', taken', stays⟩ := step_kept desk event kept meets.1
    obtain ⟨rfl, -⟩ := Prod.mk.inj (Option.some.inj (taken'.symm.trans taken))
    have here := step_frees slot kept meets.1 taken
    have there := ih stays (meets.2 _ now taken) after
    have parts : timesFreed slot (event :: rest) = timesFreed slot [event] + timesFreed slot rest := by
      rw [timesFreed, timesFreed, timesFreed, ← List.countP_append, List.singleton_append]
    omega

theorem Kept.represents {desk : Desk} {events : List Event} (kept : Kept desk)
    (counted : ∀ slot, desk.pool.frees slot = timesFreed slot events) : Represents events desk := by
  have wf := kept.wellFormed
  refine ⟨wf.distinct, ?_, ?_, ?_, kept.held_iff, wf.index, ?_⟩
  · intro slot member
    exact ((wf.free_iff slot).mp member).1
  · intro slot inside
    rw [wf.free_iff]
    exact and_iff_right inside
  · intro slot inside
    constructor
    · intro absent
      rcases wf.states slot inside with free | inUse
      · exact absurd ((wf.free_iff slot).mpr ⟨inside, free⟩) absent
      · exact inUse
    · intro inUse
      exact wf.not_free ⟨inside, inUse⟩
  · intro slot inside
    rw [wf.generation slot inside, counted]

theorem Kept.serves {desk : Desk} (kept : Kept desk) : Serves desk := by
  have wf := kept.wellFormed
  by_cases empty : desk.pool.stackTop = 0
  · refine ⟨_, _, _, allocate_empty empty, ?_, fun named => absurd rfl named⟩
    refine iff_of_true rfl fun slot inside => ?_
    have absent : slot ∉ desk.pool.freeSlots := by
      simp [RpcSlotPool.freeSlots, empty, Cells.front]
    rcases wf.states slot inside with free | inUse
    · exact absurd ((wf.free_iff slot).mpr ⟨inside, free⟩) absent
    · exact (kept.held_iff slot).mpr ⟨inside, inUse⟩
  · obtain ⟨slotIndex, generation, rest, -, allocated, inside, fresh, -⟩ := step_allocate_taken kept empty
    refine ⟨_, _, _, allocated, ?_, fun _ => ⟨inside, fresh, ?_, ?_⟩⟩
    · refine iff_of_false (ne_failure inside) fun all => ?_
      exact fresh (all _ inside)
    · rw [taken_hot]
    · rw [taken_hot]

/-- Every allowed run is defined and ends with the free stack and the slots in use in bijection with the pool, and
    with `Allocate` handing out fresh slots while there are any. -/
theorem slots_represented (events : List Event) (allowed : Meets step Allowed Desk.start events) :
    ∃ desk outputs, run step Desk.start events = some (desk, outputs) ∧ Represents events desk ∧ Serves desk := by
  obtain ⟨desk, outputs, ran, kept⟩ := defined_run step_kept start_kept allowed
  refine ⟨desk, outputs, ran, ?_, kept.serves⟩
  apply kept.represents
  intro slot
  have counted := run_frees slot start_kept allowed ran
  rw [counted]
  exact Nat.zero_add _

/-- A slot that is allocated, counted on, freed and allocated again. -/
theorem slots_represented_reused :
    ∃ desk outputs, run step Desk.start [.allocate, .note 0 7 2 1 5, .free 0, .allocate] = some (desk, outputs) ∧
      Represents [.allocate, .note 0 7 2 1 5, .free 0, .allocate] desk ∧ Serves desk :=
  slots_represented _ (meets_cons rfl trivial (meets_cons rfl (show 0 < kMaxSlots from by decide)
    (meets_cons rfl (List.mem_singleton_self 0) (meets_cons rfl trivial (meets_nil _)))))

end Rdma.SlotRuns
