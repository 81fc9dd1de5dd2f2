import Rdma.StaleEvents

/-!
Immediates from the peer. The handler compares the generation of the slot that
an immediate names, not its state, so it is safe for the slot pool except for
the immediates that name a free slot by its current generation
(`immediate_safe_iff`); one such immediate puts a slot on the free stack a
second time (`immediate_frees_twice`).
-/
namespace Rdma.Immediates
open Rdma.Types Rdma.Verbs Rdma.Arrays Rdma.Runs Rdma.SlotPools Rdma.Endpoints Rdma.Ledgers Rdma.SlotLedgers Rdma.EndpointRuns
open Rdma.StaleEvents

variable {world : World}

/-- Handling the immediate leaves the slot pool unchanged or advances a slot in use; afterwards the free stack holds
    distinct slots, none of them in use, and is not longer than the pool. -/
def Safe (world : World) (wc : Wc) : Prop :=
  ∃ endpoint calls, world.endpoint.onWriteWithImmRecv wc = some (endpoint, calls) ∧
    (endpoint.slotPool = world.pool ∧ calls = [] ∨
      world.pool.InUse (immSlotIndex wc).toNat ∧
        (ledgerOf endpoint.slotPool world.issued, calls) = world.ledger.act (.advance (immSlotIndex wc))) ∧
    endpoint.slotPool.freeSlots.Nodup ∧ (∀ slot ∈ endpoint.slotPool.freeSlots, ¬endpoint.slotPool.InUse slot) ∧
    endpoint.slotPool.stackTop ≤ kMaxSlots

theorem free_not_inUse {pool : RpcSlotPool} (wf : WellFormed pool) : ∀ slot ∈ pool.freeSlots, ¬pool.InUse slot :=
  fun _ free inUse => wf.not_free inUse free

/-- An immediate that names no free slot is handled safely. -/
theorem sound_immediate_safe (wf : Wf world) {wc : Wc} (sound : Sound world (.onWriteWithImmRecv wc)) :
    Safe world wc := by
  by_cases names : world.pool.Names (immSlotIndex wc) (immGeneration wc)
  · have inUse : world.pool.InUse (immSlotIndex wc).toNat := by
      by_contra free
      exact sound ⟨names, free⟩
    obtain ⟨next, calls, stepped, kept, actions, explains, -, ran⟩ := onWriteWithImmRecv_acts wf wc sound
    obtain ⟨⟨endpoint, called⟩, handled, same⟩ := Option.bind_eq_some_iff.mp stepped
    obtain ⟨rfl, rfl⟩ := Prod.mk.inj (Option.some.inj same)
    rw [show actions = [.advance (immSlotIndex wc)] from explains.trans (if_pos names)] at ran
    exact ⟨endpoint, called, handled, .inr ⟨inUse, run_single ran⟩, kept.pool.distinct, free_not_inUse kept.pool,
      kept.pool.top_le⟩
  · exact ⟨world.endpoint, [], dropped_immediate wf names, .inl ⟨rfl, rfl⟩, wf.pool.distinct, free_not_inUse wf.pool,
      wf.pool.top_le⟩

/-- An immediate that names a slot by its current generation changes the slot pool. -/
theorem named_immediate_changes (wf : Wf world) {wc : Wc}
    (names : world.pool.Names (immSlotIndex wc) (immGeneration wc)) {endpoint : RpcEndpoint} {calls : List Call}
    (handled : world.endpoint.onWriteWithImmRecv wc = some (endpoint, calls)) : endpoint.slotPool ≠ world.pool := by
  have checked := getHotChecked_eq wf.pool (immSlotIndex_lt wc) (immGeneration wc)
  rw [if_pos names] at checked
  simp only [RpcEndpoint.onWriteWithImmRecv, checked, Option.bind_eq_bind, Option.bind_some] at handled
  obtain ⟨⟨completed, called⟩, counted, handled⟩ := Option.bind_eq_some_iff.mp handled
  obtain ⟨reposted, reposting, handled⟩ := Option.bind_eq_some_iff.mp handled
  obtain ⟨rfl, -⟩ := Prod.mk.inj (Option.some.inj handled)
  rw [repostRecvBuffer_pool reposting]
  exact completeWr_changes counted

/-- In every state of a sound run an immediate is handled safely if and only if it does not name a free slot by its
    current generation. -/
theorem immediate_safe_iff (reached : Reached world) (wc : Wc) :
    Safe world wc ↔ ¬NamesFree world.pool (immSlotIndex wc) (immGeneration wc) := by
  have wf := reached_wf reached
  refine ⟨?_, sound_immediate_safe wf⟩
  rintro ⟨endpoint, calls, handled, ⟨same, -⟩ | ⟨inUse, -⟩, -⟩ ⟨names, free⟩
  · exact named_immediate_changes wf names handled same
  · exact free inUse

theorem own_immediate_safe : ∃ world, Reached world ∧ Safe world { wrId := 0, immData := htonl 0 } := by
  obtain ⟨next, -, reached, -, pending⟩ := sample_request 7 16
  have inUse := pending_inUse (reached_wf reached) pending
  refine ⟨next, reached, (immediate_safe_iff reached _).mpr fun ⟨_, free⟩ => free ?_⟩
  rw [show (immSlotIndex { wrId := 0, immData := htonl 0 }).toNat = 0 by decide]
  exact inUse

theorem repeated_cell {pool : RpcSlotPool} (first second : Nat) (below : first < second)
    (inside : second < pool.stackTop) (same : pool.freeStack.cell first = pool.freeStack.cell second) :
    ¬pool.freeSlots.Nodup := by
  intro distinct
  rw [RpcSlotPool.freeSlots, Cells.front, List.map_map] at distinct
  have equal := List.inj_on_of_nodup_map distinct (List.mem_range.mpr (below.trans inside)) (List.mem_range.mpr inside)
    (congrArg UInt32.toNat same)
  omega

/-- With one request pending in slot 0, the immediate 1 names slot 1, which is free, and puts it on the free stack a
    second time. -/
theorem immediate_frees_twice :
    ∃ world, Reached world ∧ ¬Safe world { wrId := 0, immData := htonl 1 } ∧
      ∃ endpoint calls, world.endpoint.onWriteWithImmRecv { wrId := 0, immData := htonl 1 } = some (endpoint, calls) ∧
        ¬endpoint.slotPool.freeSlots.Nodup := by
  have twice : ∃ world, Reached world ∧
      ∃ endpoint calls, world.endpoint.onWriteWithImmRecv { wrId := 0, immData := htonl 1 } = some (endpoint, calls) ∧
        ¬endpoint.slotPool.freeSlots.Nodup := by
    refine ⟨_, ⟨sampleEndpoint 7 {}, [.sendRequest 0 64 none 5 (some 3)], [], sample_fresh 7 {},
      ⟨trivial, fun _ _ _ => trivial⟩, rfl⟩, _, _, rfl, ?_⟩
    refine repeated_cell 65534 65535 (by decide) (by decide +kernel) (by decide +kernel)
  obtain ⟨world, reached, endpoint, calls, handled, repeated⟩ := twice
  refine ⟨world, reached, ?_, endpoint, calls, handled, repeated⟩
  rintro ⟨other, called, handled', -, distinct, -⟩
  obtain ⟨rfl, -⟩ := Prod.mk.inj (Option.some.inj (handled.symm.trans handled'))
  exact repeated distinct

end Rdma.Immediates
