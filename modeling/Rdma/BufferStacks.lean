import Rdma.BufferPools

/-!
The local buffer pool with the LIFO policy (`buffer_pool.h`, `buffer_pool.cpp`).
`head` stays at cell 0 and `tail` is the number of free buffers modulo the size
of the ring. It starts one past the last cell, but the pool is full then, and an
allocation takes it back inside before the first `free` can come. So the pool is
a stack of its free buffers in every run that frees only what is handed out
(`lifo_refines_stack`).
-/
namespace Rdma.BufferStacks
open Rdma.Types Rdma.Arrays Rdma.Rings Rdma.Runs Rdma.BufferPools

/-- A stack of free buffers, the top one first, beside the buffers handed out. -/
structure Stack where
  free : List Buffer
  outstanding : List Buffer

def Stack.step (stack : Stack) : Event → Stack × List Buffer
  | .allocate =>
    match stack.free with
    | [] => (stack, [Buffer.empty])
    | buf :: rest => (⟨rest, buf :: stack.outstanding⟩, [buf])
  | .free buf => (⟨buf :: stack.free, stack.outstanding.erase buf⟩, [])

/-- Only a buffer that is handed out is freed. -/
def Legal (stack : Stack) : Event → Prop
  | .allocate => True
  | .free buf => buf ∈ stack.outstanding

instance (stack : Stack) (event : Event) : Decidable (Legal stack event) :=
  match event with
  | .allocate => .isTrue trivial
  | .free buf => inferInstanceAs (Decidable (buf ∈ stack.outstanding))

/-- The step of the stack, which is always defined. -/
def Stack.next (stack : Stack) (event : Event) : Option (Stack × List Buffer) := some (stack.step event)

/-- All buffers free, those of the highest offset first. -/
def Stack.full (pool : LocalBufferPool) : Stack := ⟨pool.buffers.reverse, []⟩

/-- After the events the pool is defined, so that no access has left the ring, and returned what the stack returns. Its
    ring has a cell for each buffer and holds the stack's free buffers from the bottom to the top. Each of its buffers is
    free or handed out, once, and the next allocation fails exactly if all are handed out. -/
def IsStackAfter (pool : LocalBufferPool) (events : List Event) : Prop :=
  ∃ last stack returned, run LocalBufferPool.step pool events = some (last, returned) ∧
    run Stack.next (.full pool) events = some (stack, returned) ∧
    last.offsetRing.size = pool.bufferCount.toNat ∧ last.freeBuffers = stack.free.reverse ∧
    (stack.free ++ stack.outstanding).Perm pool.buffers ∧ pool.buffers.Nodup ∧
    ((∃ next, last.allocate = some (Buffer.empty, next)) ↔ stack.outstanding.length = pool.bufferCount.toNat)

/-- A state of the pool, and the stack it stands for. -/
structure Stacked (pool state : LocalBufferPool) (stack : Stack) : Prop where
  same : state = { pool with offsetRing := state.offsetRing, tail := state.tail, count := state.count }
  inRange : InRange state
  aligned : Aligned state
  inside : state.count.toNat < state.bufferCount.toNat → state.tail.toNat < state.bufferCount.toNat
  free : state.freeBuffers = stack.free.reverse
  all : (stack.free ++ stack.outstanding).Perm pool.buffers

variable {pool state : LocalBufferPool} {stack : Stack}

theorem Stacked.bufferAt (stacked : Stacked pool state stack) (offset : UInt64) :
    state.bufferAt offset = pool.bufferAt offset := by
  rw [stacked.same]
  rfl

theorem Stacked.bufferCount (stacked : Stacked pool state stack) : state.bufferCount = pool.bufferCount := by
  rw [stacked.same]

theorem Stacked.count (stacked : Stacked pool state stack) : state.count.toNat = stack.free.length := by
  rw [← freeBuffers_length, stacked.free, List.length_reverse]

theorem Stacked.lengths (stacked : Stacked pool state stack) :
    stack.free.length + stack.outstanding.length = pool.bufferCount.toNat := by
  have length := stacked.all.length_eq
  rwa [List.length_append, LocalBufferPool.buffers, List.length_map, List.length_range] at length

theorem create_stacked {config : BufferPoolConfig} (built : Built pool config) (small : pool.bufferCount.toNat < 2 ^ 63) :
    Stacked pool pool (.full pool) where
  same := rfl
  inRange := (built_aligned built small).1
  aligned := (built_aligned built small).2
  inside := by
    rw [built.count]
    exact fun impossible => absurd impossible (Nat.lt_irrefl _)
  free := by
    rw [Stack.full, List.reverse_reverse]
    exact (create_follows built).queue
  all := by
    rw [Stack.full, List.append_nil]
    exact List.reverse_perm _

/-- An allocation pops the stack, or fails if it is empty. -/
theorem stacked_allocate (policy : pool.policy = .lifo) (stacked : Stacked pool state stack) :
    ∃ next, state.step .allocate = some (next, (stack.step .allocate).2) ∧
      Stacked pool next (stack.step .allocate).1 := by
  have count := stacked.count
  by_cases available : state.count = 0
  · have empty : stack.free = [] := List.length_eq_zero_iff.mp (by rw [← count, available]; rfl)
    have stays : stack.step .allocate = (stack, [Buffer.empty]) := by simp only [Stack.step, empty]
    rw [stays]
    exact ⟨state, by simp [LocalBufferPool.step, allocate_exhausted available], stacked⟩
  · have other : state.policy ≠ .fifo := by
      rw [stacked.same]
      exact ne_of_eq_of_ne policy (by decide)
    obtain ⟨buf, next, allocated, back, same, tail, fewer⟩ :=
      allocate_last stacked.inRange stacked.aligned available other
    have ring : next.offsetRing = state.offsetRing := by rw [same]
    have head : next.head = state.head := by rw [same]
    have bufferCount : next.bufferCount = state.bufferCount := by rw [same]
    have kept : InRange next := by
      constructor
      · rw [ring, bufferCount]
        exact stacked.inRange.ring
      · rw [head, bufferCount]
        exact stacked.inRange.head
    have room := stacked.aligned.count_le
    have small := stacked.aligned.small
    rw [← bufferCount] at room small
    have popped : stack.free = buf :: next.freeBuffers.reverse := by
      rw [← List.reverse_reverse stack.free, ← stacked.free, back, List.reverse_append]
      rfl
    have moves : stack.step .allocate = (⟨next.freeBuffers.reverse, buf :: stack.outstanding⟩, [buf]) := by
      simp only [Stack.step, popped]
    rw [moves]
    refine ⟨next, by simp [LocalBufferPool.step, allocated], ?_, kept, aligned_of_tail kept (by omega) tail small, ?_,
      (List.reverse_reverse _).symm, ?_⟩
    · rw [same, stacked.same]
    · intro _
      rw [tail]
      exact Nat.mod_lt _ (Nat.zero_lt_of_lt kept.head)
    · have all := stacked.all
      rw [popped] at all
      exact List.perm_middle.trans all

/-- Freeing a buffer that is handed out pushes it. -/
theorem stacked_free {buf : Buffer} (stacked : Stacked pool state stack) (legal : buf ∈ stack.outstanding) :
    ∃ next, state.step (.free buf) = some (next, (stack.step (.free buf)).2) ∧
      Stacked pool next (stack.step (.free buf)).1 := by
  have room : state.count.toNat < state.bufferCount.toNat := by
    have lengths := stacked.lengths
    have some_out := List.length_pos_of_mem legal
    rw [stacked.count, stacked.bufferCount]
    omega
  have tail : state.tail.toNat = (state.head.toNat + state.count.toNat) % state.bufferCount.toNat := by
    rw [← stacked.aligned.tail, Nat.mod_eq_of_lt (stacked.inside room)]
  obtain ⟨offset, rfl⟩ := mem_buffers (stacked.all.subset (List.mem_append_right _ legal))
  obtain ⟨next, freed, back, kept, same, behind, more⟩ := free_spec stacked.inRange offset tail room
  rw [stacked.bufferAt] at freed back
  have bufferCount : next.bufferCount = state.bufferCount := by rw [same]
  have small := stacked.aligned.small
  rw [← bufferCount] at small room
  refine ⟨next, by simp [LocalBufferPool.step, freed, Stack.step], ?_, kept,
    aligned_of_tail kept (by omega) behind small, ?_, ?_, ?_⟩
  · rw [same, stacked.same]
  · intro _
    rw [behind]
    exact Nat.mod_lt _ (Nat.zero_lt_of_lt kept.head)
  · rw [back, stacked.free]
    simp [Stack.step]
  · refine List.Perm.trans ?_ stacked.all
    exact List.perm_middle.symm.trans ((List.perm_cons_erase legal).symm.append_left _)

theorem stacked_step (policy : pool.policy = .lifo) (state : LocalBufferPool) (stack : Stack) (event : Event)
    (stacked : Stacked pool state stack) (legal : Legal stack event) :
    ∃ next, state.step event = some (next, (stack.step event).2) ∧ Stacked pool next (stack.step event).1 := by
  cases event with
  | allocate => exact stacked_allocate policy stacked
  | free buf => exact stacked_free stacked legal

/-- An allocation fails exactly if every buffer is handed out: no buffer of the pool is the empty one. -/
theorem stacked_fails_iff (policy : pool.policy = .lifo) (nonempty : 0 < pool.bufferSize.toNat)
    (stacked : Stacked pool state stack) :
    (∃ next, state.allocate = some (Buffer.empty, next)) ↔ stack.outstanding.length = pool.bufferCount.toNat := by
  have lengths := stacked.lengths
  obtain ⟨after, stepped, -⟩ := stacked_allocate policy stacked
  obtain ⟨returned, allocated, given⟩ := Option.bind_eq_some_iff.mp stepped
  have answer : [returned.1] = (stack.step .allocate).2 := (Prod.mk.inj (Option.some.inj given)).2
  cases free : stack.free with
  | nil =>
    rw [free, List.length_nil, Nat.zero_add] at lengths
    simp only [Stack.step, free] at answer
    refine iff_of_true ⟨returned.2, ?_⟩ lengths
    rw [allocated, ← List.singleton_injective answer]
  | cons buf rest =>
    rw [free, List.length_cons] at lengths
    simp only [Stack.step, free] at answer
    refine iff_of_false (fun fails => ?_) (by omega)
    obtain ⟨next, failed⟩ := fails
    have emptied : returned.1 = Buffer.empty := (Prod.mk.inj (Option.some.inj (allocated.symm.trans failed))).1
    have listed : buf ∈ pool.buffers := stacked.all.subset (by simp [free])
    obtain ⟨offset, here⟩ := mem_buffers listed
    have size : (Buffer.empty).length = pool.bufferSize := by
      rw [← emptied, List.singleton_injective answer, here]
      rfl
    rw [← size] at nonempty
    exact absurd nonempty (by decide)

/-- A pool that `create` builds with the LIFO policy is a stack of its free buffers, from those of the highest offset
    on, in every run that frees only buffers that are handed out. -/
theorem lifo_refines_stack {pdIsNull : Bool} {config : BufferPoolConfig} {environment : Environment}
    (created : create pdIsNull config environment = some (.ok pool)) (policy : config.policy = .lifo)
    (fits : config.bufferCount.toNat * config.bufferSize.toNat < 2 ^ 64) {events : List Event}
    (legal : Meets Stack.next Legal (.full pool) events) : IsStackAfter pool events := by
  have built := create_built created
  have lifo : pool.policy = .lifo := built.policy.trans policy
  obtain ⟨last, stack, returned, ran, followed, stacked⟩ :=
    simulated_run Stack.step (Stacked pool) (stacked_step lifo)
      (create_stacked built (Nat.lt_trans (create_small created) (by decide))) legal
  refine ⟨last, stack, returned, ran, followed, ?_, stacked.free, stacked.all, ?_,
    stacked_fails_iff lifo built.nonempty.1 stacked⟩
  · rw [stacked.inRange.ring, stacked.bufferCount]
  · rw [← built.size, ← built.bufferCount] at fits
    exact buffers_nodup built.nonempty.1 fits

/-- The pool of two buffers with the LIFO policy. -/
def twoStack : LocalBufferPool := { twoPool with policy := .lifo }

/-- Both buffers are handed out and freed in the order in which they came; the last one freed is handed out again. -/
theorem lifo_twoStack : IsStackAfter twoStack
    [.allocate, .allocate, .free ⟨69632, 4096, 7⟩, .free ⟨65536, 4096, 7⟩, .allocate] := by
  have created : create false ⟨4096, 2, 65536, .lifo⟩ ⟨some 65536, true, .ok ⟨7, 9⟩, true⟩ = some (.ok twoStack) := rfl
  refine lifo_refines_stack created rfl (by decide) ?_
  refine meets_cons rfl trivial (meets_cons rfl trivial ?_)
  refine meets_cons rfl ?_ (meets_cons rfl ?_ (meets_cons rfl trivial (meets_nil _)))
  · decide
  · decide

end Rdma.BufferStacks
