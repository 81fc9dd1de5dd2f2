import Rdma.BufferPools

/-!
What the FIFO policy of the local buffer pool (`buffer_pool.h`) is meant to be.
A pool that is as `create` builds it, but with `tail` at cell 0 where a full
ring ends, is a queue of its free buffers in every run that frees only what is
handed out (`queue_run`). The pool that `create` does build is undefined at its
first `free` (`fifo_iff_no_free`). The key-value example is modelled over the
queue.
-/
namespace Rdma.BufferQueues
open Rdma.Types Rdma.Arrays Rdma.Rings Rdma.Runs Rdma.BufferPools

/-- The pool with `tail` inside the ring. -/
def mended (pool : LocalBufferPool) : LocalBufferPool := { pool with tail := 0 }

/-- A state of the pool, and the queue it stands for. -/
structure Queued (pool state : LocalBufferPool) (fifo : Fifo) : Prop where
  same : state = { pool with
    offsetRing := state.offsetRing, head := state.head, tail := state.tail, count := state.count }
  inRange : InRange state
  tail : state.tail.toNat = (state.head.toNat + state.count.toNat) % state.bufferCount.toNat
  free : state.freeBuffers = fifo.free
  all : (fifo.free ++ fifo.outstanding).Perm pool.buffers

variable {pool state : LocalBufferPool} {fifo : Fifo}

theorem Queued.bufferCount (queued : Queued pool state fifo) : state.bufferCount = pool.bufferCount := by
  rw [queued.same]

theorem Queued.count (queued : Queued pool state fifo) : state.count.toNat = fifo.free.length := by
  rw [← freeBuffers_length, queued.free]

theorem Queued.bufferAt (queued : Queued pool state fifo) (offset : UInt64) :
    state.bufferAt offset = pool.bufferAt offset := by
  rw [queued.same]
  rfl

theorem mended_queued {config : BufferPoolConfig} (built : Built pool config) :
    Queued (mended pool) (mended pool) ⟨pool.buffers, []⟩ where
  same := rfl
  inRange := ⟨(create_follows built).inRange.ring, (create_follows built).inRange.head⟩
  tail := by
    change (0 : UInt64).toNat = (pool.head.toNat + pool.count.toNat) % pool.bufferCount.toNat
    rw [built.head, built.count, UInt64.toNat_zero, Nat.zero_add, Nat.mod_self]
  free := (create_follows built).queue
  all := (create_follows built).all

/-- An allocation takes the buffer free longest, or fails if none is free. -/
theorem queued_allocate (policy : pool.policy = .fifo) (queued : Queued pool state fifo) :
    ∃ next, state.step .allocate = some (next, (fifo.step .allocate).2) ∧
      Queued pool next (fifo.step .allocate).1 := by
  have count := queued.count
  by_cases available : state.count = 0
  · have empty : fifo.free = [] := List.length_eq_zero_iff.mp (by rw [← count, available]; rfl)
    have stays : fifo.step .allocate = (fifo, [Buffer.empty]) := by simp only [Fifo.step, empty]
    rw [stays]
    exact ⟨state, by simp [LocalBufferPool.step, allocate_exhausted available], queued⟩
  · have statePolicy : state.policy = .fifo := by
      rw [queued.same]
      exact policy
    obtain ⟨buf, next, allocated, front, fewer, head, same⟩ := allocate_spec queued.inRange statePolicy available
    obtain ⟨_, _, allocated', kept⟩ := allocate_defined queued.inRange
    obtain ⟨rfl, rfl⟩ := Prod.mk.inj (Option.some.inj (allocated.symm.trans allocated'))
    rw [queued.free] at front
    have moves : fifo.step .allocate = (⟨next.freeBuffers, buf :: fifo.outstanding⟩, [buf]) := by
      simp only [Fifo.step, front]
    rw [moves]
    refine ⟨next, by simp [LocalBufferPool.step, allocated], ?_, kept, ?_, rfl, ?_⟩
    · rw [same, queued.same]
    · have bufferCount : next.bufferCount = state.bufferCount := by rw [same]
      have tail : next.tail = state.tail := by rw [same]
      rw [tail, bufferCount, head, wrap_toNat queued.inRange.head, queued.tail, ← fewer, Nat.mod_add_mod, Nat.add_assoc,
        Nat.add_comm 1]
    · have all := queued.all
      rw [front] at all
      exact List.perm_middle.trans all

/-- Freeing a buffer that is handed out appends it. -/
theorem queued_free {buf : Buffer} (queued : Queued pool state fifo) (legal : buf ∈ fifo.outstanding) :
    ∃ next, state.step (.free buf) = some (next, (fifo.step (.free buf)).2) ∧
      Queued pool next (fifo.step (.free buf)).1 := by
  have room : state.count.toNat < state.bufferCount.toNat := by
    have lengths := queued.all.length_eq
    rw [List.length_append, LocalBufferPool.buffers, List.length_map, List.length_range] at lengths
    have some_out := List.length_pos_of_mem legal
    rw [queued.count, queued.bufferCount]
    omega
  obtain ⟨offset, rfl⟩ := mem_buffers (queued.all.subset (List.mem_append_right _ legal))
  obtain ⟨next, freed, back, kept, same, behind, -⟩ := free_spec queued.inRange offset queued.tail room
  rw [queued.bufferAt] at freed back
  refine ⟨next, by simp [LocalBufferPool.step, freed, Fifo.step], ?_, kept, behind, ?_, ?_⟩
  · rw [same, queued.same]
  · rw [back, queued.free]
    rfl
  · refine List.Perm.trans ?_ queued.all
    change (fifo.free ++ [pool.bufferAt offset] ++ fifo.outstanding.erase (pool.bufferAt offset)).Perm _
    rw [List.append_assoc]
    exact (List.perm_cons_erase legal).symm.append_left _

theorem queued_step (policy : pool.policy = .fifo) (state : LocalBufferPool) (fifo : Fifo) (event : Event)
    (queued : Queued pool state fifo) (legal : Legal fifo event) :
    ∃ next, state.step event = some (next, (fifo.step event).2) ∧ Queued pool next (fifo.step event).1 := by
  cases event with
  | allocate => exact queued_allocate policy queued
  | free buf => exact queued_free queued legal

/-- In a run that frees only what is handed out the mended pool is defined and returns what the queue of its free buffers
    returns; each of its buffers is free or handed out, once. -/
theorem queue_run {pdIsNull : Bool} {config : BufferPoolConfig} {environment : Environment}
    (created : create pdIsNull config environment = some (.ok pool)) (policy : config.policy = .fifo)
    {events : List Event}
    (legal : Meets (fun fifo event => some (Fifo.step fifo event)) Legal ⟨pool.buffers, []⟩ events) :
    ∃ last fifo returned, run LocalBufferPool.step (mended pool) events = some (last, returned) ∧
      Fifo.run ⟨pool.buffers, []⟩ events = some (fifo, returned) ∧ last.freeBuffers = fifo.free ∧
      (fifo.free ++ fifo.outstanding).Perm pool.buffers := by
  have built := create_built created
  obtain ⟨last, fifo, returned, ran, followed, queued⟩ :=
    simulated_run Fifo.step (Queued (mended pool)) (queued_step (built.policy.trans policy))
      (mended_queued built) legal
  exact ⟨last, fifo, returned, ran, followed, queued.free, queued.all⟩

end Rdma.BufferQueues
