import Mathlib.Data.List.Nodup
import Rdma.MemoryRegions
import Rdma.Rings
import Rdma.Runs

/-!
The local buffer pool (`buffer_pool.h`, `buffer_pool.cpp`): a ring of offsets
into one memory block. `create` leaves `tail` one past the last cell of the
ring, so the first `free` writes outside the ring: with the FIFO policy the
pool is a FIFO queue of free buffers exactly in the runs that free nothing
(`fifo_iff_no_free`). With `tail` inside the ring `free` appends to the queue
(`free_spec`).
-/
namespace Rdma.BufferPools
open Rdma.Types Rdma.Arrays Rdma.Rings Rdma.Runs
open Rdma.MemoryRegions (IbvMr MemoryRegion)

structure BufferPoolConfig where
  bufferSize : UInt64 := 4096
  bufferCount : UInt64 := 1024
  maxBufferCount : UInt64 := 65536
  policy : BufferAllocationPolicy := .fifo
  deriving DecidableEq, Repr

structure LocalBufferPool where
  baseAddr : UInt64
  totalSize : UInt64
  offsetRing : Cells UInt64
  head : UInt64
  tail : UInt64
  count : UInt64
  bufferSize : UInt64
  bufferCount : UInt64
  policy : BufferAllocationPolicy
  lkey : UInt32
  rkey : UInt32

/-- What `create` obtains from outside: the memory block, whether the protection domain wraps one, the answer of
    `ibv_reg_mr` to the block, and whether `aligned_alloc` returns the ring. -/
structure Environment where
  memory : Option UInt64
  rawPd : Bool
  mr : Except Int IbvMr
  ringAllocated : Bool

/-- The loop that fills the ring, from cell `i` on. -/
def prefill (bufferSize : UInt64) : Nat → Nat → Cells UInt64 → Option (Cells UInt64)
  | 0, _, ring => some ring
  | remaining + 1, i, ring => do
    let ring ← ring.write i (UInt64.ofNat i * bufferSize)
    prefill bufferSize remaining (i + 1) ring

/-- `aligned_alloc` takes a size in bytes, computed in 64 bits. -/
def ringCells (bufferCount : UInt64) : Nat := (bufferCount * 8).toNat / 8

def create (pdIsNull : Bool) (config : BufferPoolConfig) (environment : Environment) :
    Option (Except Status LocalBufferPool) :=
  if pdIsNull then some (.error (Status.invalidArgument "Invalid protection domain"))
  else if config.maxBufferCount < config.bufferCount then
    some (.error (Status.invalidArgument "buffer_count exceeds max"))
  else if config.bufferSize = 0 ∨ config.bufferCount = 0 then
    some (.error (Status.invalidArgument "Invalid buffer configuration"))
  else
    match environment.memory with
    | none => some (.error (Status.resourceExhausted "Failed to allocate buffer pool memory"))
    | some memory =>
      let totalSize := config.bufferSize * config.bufferCount
      match MemoryRegion.register environment.rawPd memory totalSize environment.mr with
      | .error status => some (.error status)
      | .ok region =>
        if !environment.ringAllocated then
          some (.error (Status.resourceExhausted "Failed to allocate offset ring"))
        else do
          let ring ← prefill config.bufferSize config.bufferCount.toNat 0 ⟨ringCells config.bufferCount, fun _ => 0⟩
          some (.ok {
            baseAddr := memory
            totalSize
            offsetRing := ring
            head := 0
            tail := config.bufferCount
            count := config.bufferCount
            bufferSize := config.bufferSize
            bufferCount := config.bufferCount
            policy := config.policy
            lkey := region.getLkey
            rkey := region.getRkey })

def LocalBufferPool.getBufferPtr (pool : LocalBufferPool) (offset : UInt64) : UInt64 := pool.baseAddr + offset

def LocalBufferPool.allocate (pool : LocalBufferPool) : Option (Buffer × LocalBufferPool) :=
  if pool.count = 0 then some (Buffer.empty, pool)
  else
    match pool.policy with
    | .fifo => do
      let offset ← pool.offsetRing.read pool.head.toNat
      some (⟨pool.getBufferPtr offset, pool.bufferSize, pool.lkey⟩,
        { pool with head := (pool.head + 1) % pool.bufferCount, count := pool.count - 1 })
    | _ => do
      let tail := (pool.tail - 1 + pool.bufferCount) % pool.bufferCount
      let offset ← pool.offsetRing.read tail.toNat
      some (⟨pool.getBufferPtr offset, pool.bufferSize, pool.lkey⟩, { pool with tail, count := pool.count - 1 })

def LocalBufferPool.free (pool : LocalBufferPool) (buf : Buffer) : Option LocalBufferPool := do
  let offset := buf.addr - pool.baseAddr
  let offsetRing ← pool.offsetRing.write pool.tail.toNat offset
  some { pool with offsetRing, tail := (pool.tail + 1) % pool.bufferCount, count := pool.count + 1 }

/-! ### Runs -/

inductive Event
  | allocate
  | free (buf : Buffer)
  deriving DecidableEq, Repr

/-- The output of a step is the buffer that `allocate` returns. -/
def LocalBufferPool.step (pool : LocalBufferPool) : Event → Option (LocalBufferPool × List Buffer)
  | .allocate => do
    let (buf, pool) ← pool.allocate
    some (pool, [buf])
  | .free buf => do
    let pool ← pool.free buf
    some (pool, [])

/-- A FIFO queue of free buffers, beside the buffers handed out. -/
structure Fifo where
  free : List Buffer
  outstanding : List Buffer

def Fifo.step (fifo : Fifo) : Event → Fifo × List Buffer
  | .allocate =>
    match fifo.free with
    | [] => (fifo, [Buffer.empty])
    | buf :: rest => (⟨rest, buf :: fifo.outstanding⟩, [buf])
  | .free buf => (⟨fifo.free ++ [buf], fifo.outstanding.erase buf⟩, [])

/-- Only a buffer that is handed out is freed. -/
def Legal (fifo : Fifo) : Event → Prop
  | .allocate => True
  | .free buf => buf ∈ fifo.outstanding

def Fifo.run (fifo : Fifo) (events : List Event) : Option (Fifo × List Buffer) :=
  Runs.run (fun fifo event => some (fifo.step event)) fifo events

/-- The buffer at an offset of the pool's memory block. -/
def LocalBufferPool.bufferAt (pool : LocalBufferPool) (offset : UInt64) : Buffer :=
  ⟨pool.getBufferPtr offset, pool.bufferSize, pool.lkey⟩

/-- The free buffers, from the one free longest. -/
def LocalBufferPool.freeBuffers (pool : LocalBufferPool) : List Buffer :=
  (window pool.offsetRing pool.head.toNat pool.count.toNat).map pool.bufferAt

/-- All buffers of a pool in the order of the memory block. -/
def LocalBufferPool.buffers (pool : LocalBufferPool) : List Buffer :=
  (List.range pool.bufferCount.toNat).map fun i => pool.bufferAt (UInt64.ofNat i * pool.bufferSize)

/-- After the events the pool is defined, returned the buffers that the queue returns, holds the queue's free
    buffers in the queue's order, counts them, and has each of its buffers once, free or handed out. -/
def IsFifoAfter (pool : LocalBufferPool) (events : List Event) : Prop :=
  ∃ last fifo returned, run LocalBufferPool.step pool events = some (last, returned) ∧
    Fifo.run ⟨pool.buffers, []⟩ events = some (fifo, returned) ∧
    last.freeBuffers = fifo.free ∧ last.count.toNat = fifo.free.length ∧
    (fifo.free ++ fifo.outstanding).Perm pool.buffers ∧ pool.buffers.Nodup

/-! ### The pool that `create` builds -/

theorem prefill_some {bufferSize : UInt64} {remaining i : Nat} {ring filled : Cells UInt64}
    (fills : prefill bufferSize remaining i ring = some filled) :
    (0 < remaining → i + remaining ≤ ring.size) ∧ filled.size = ring.size ∧
      (∀ j < i, filled.cell j = ring.cell j) ∧
      ∀ j, i ≤ j → j < i + remaining → filled.cell j = UInt64.ofNat j * bufferSize := by
  induction remaining generalizing i ring with
  | zero =>
    obtain rfl : ring = filled := by simpa [prefill] using fills
    exact ⟨by omega, rfl, fun _ _ => rfl, fun j low high => by omega⟩
  | succ remaining ih =>
    by_cases inside : i < ring.size
    · simp only [prefill, write_inside inside, Option.bind_eq_bind, Option.bind_some] at fills
      obtain ⟨room, size, before, after⟩ := ih fills
      rw [put_size] at room size
      refine ⟨fun _ => ?_, size, fun j below => ?_, fun j low high => ?_⟩
      · by_cases more : 0 < remaining
        · have := room more
          omega
        · omega
      · rw [before j (by omega), put_apart _ (by omega)]
      · by_cases here : j = i
        · subst here
          rw [before j (by omega), put_same]
        · exact after j (by omega) (by omega)
    · simp [prefill, write_outside (Nat.le_of_not_lt inside)] at fills

/-- The state in which `create` leaves the pool. -/
structure Built (pool : LocalBufferPool) (config : BufferPoolConfig) : Prop where
  size : pool.bufferSize = config.bufferSize
  bufferCount : pool.bufferCount = config.bufferCount
  policy : pool.policy = config.policy
  nonempty : 0 < pool.bufferSize.toNat ∧ 0 < pool.bufferCount.toNat
  ring : pool.offsetRing.size = pool.bufferCount.toNat
  head : pool.head = 0
  tail : pool.tail = pool.bufferCount
  count : pool.count = pool.bufferCount
  offsets : ∀ i < pool.bufferCount.toNat, pool.offsetRing.cell i = UInt64.ofNat i * pool.bufferSize

/-- What `create` has checked and obtained when it returns a pool. -/
theorem create_inv {pdIsNull : Bool} {config : BufferPoolConfig} {environment : Environment}
    {pool : LocalBufferPool} (created : create pdIsNull config environment = some (.ok pool)) :
    ∃ memory region ring, environment.memory = some memory ∧
      MemoryRegion.register environment.rawPd memory (config.bufferSize * config.bufferCount) environment.mr = .ok region ∧
      0 < config.bufferSize.toNat ∧ 0 < config.bufferCount.toNat ∧
      prefill config.bufferSize config.bufferCount.toNat 0 ⟨ringCells config.bufferCount, fun _ => 0⟩ = some ring ∧
      pool = {
        baseAddr := memory
        totalSize := config.bufferSize * config.bufferCount
        offsetRing := ring
        head := 0
        tail := config.bufferCount
        count := config.bufferCount
        bufferSize := config.bufferSize
        bufferCount := config.bufferCount
        policy := config.policy
        lkey := region.getLkey
        rkey := region.getRkey } := by
  unfold create at created
  split at created
  · cases created
  split at created
  · cases created
  split at created
  · cases created
  rename_i positive
  have sizePositive : 0 < config.bufferSize.toNat := by
    by_contra zero
    exact positive (.inl (UInt64.toNat_inj.mp (by simpa using zero)))
  have countPositive : 0 < config.bufferCount.toNat := by
    by_contra zero
    exact positive (.inr (UInt64.toNat_inj.mp (by simpa using zero)))
  split at created
  · cases created
  rename_i memory obtained
  dsimp only at created
  split at created
  · cases created
  rename_i region registered
  split at created
  · cases created
  obtain ⟨ring, fills, same⟩ := Option.bind_eq_some_iff.mp created
  exact ⟨memory, region, ring, obtained, registered, sizePositive, countPositive, fills,
    (Except.ok.inj (Option.some.inj same)).symm⟩

/-- A ring with fewer cells than buffers would have been overrun. -/
theorem ringCells_eq {config : BufferPoolConfig} {ring : Cells UInt64} (positive : 0 < config.bufferCount.toNat)
    (fills : prefill config.bufferSize config.bufferCount.toNat 0 ⟨ringCells config.bufferCount, fun _ => 0⟩ = some ring) :
    ringCells config.bufferCount = config.bufferCount.toNat ∧ config.bufferCount.toNat < 2 ^ 61 := by
  have enough := (prefill_some fills).1 positive
  have wraps : (config.bufferCount * 8).toNat ≤ config.bufferCount.toNat * 8 := by
    rw [UInt64.toNat_mul]
    exact Nat.mod_le _ _
  have below := (config.bufferCount * 8).toNat_lt
  simp only [ringCells] at enough ⊢
  omega

theorem create_built {pdIsNull : Bool} {config : BufferPoolConfig} {environment : Environment}
    {pool : LocalBufferPool} (created : create pdIsNull config environment = some (.ok pool)) : Built pool config := by
  obtain ⟨memory, region, ring, -, -, sizePositive, countPositive, fills, rfl⟩ := create_inv created
  obtain ⟨-, size, -, offsets⟩ := prefill_some fills
  exact ⟨rfl, rfl, rfl, ⟨sizePositive, countPositive⟩, size.trans (ringCells_eq countPositive fills).1, rfl, rfl, rfl,
    fun i below => offsets i (Nat.zero_le i) (by simpa using below)⟩

/-- The bytes of the ring fit in the address space. -/
theorem create_small {pdIsNull : Bool} {config : BufferPoolConfig} {environment : Environment}
    {pool : LocalBufferPool} (created : create pdIsNull config environment = some (.ok pool)) :
    pool.bufferCount.toNat < 2 ^ 61 := by
  obtain ⟨memory, region, ring, -, -, -, countPositive, fills, rfl⟩ := create_inv created
  exact (ringCells_eq countPositive fills).2

/-! ### Steps -/

/-- The ring has a cell for each buffer and `head` is one of them. -/
structure InRange (pool : LocalBufferPool) : Prop where
  ring : pool.offsetRing.size = pool.bufferCount.toNat
  head : pool.head.toNat < pool.bufferCount.toNat

theorem wrap_toNat {index size : UInt64} (inside : index.toNat < size.toNat) :
    ((index + 1) % size).toNat = (index.toNat + 1) % size.toNat := by
  have bound := size.toNat_lt
  rw [UInt64.toNat_mod, UInt64.toNat_add, UInt64.toNat_one, Nat.mod_eq_of_lt (by omega : index.toNat + 1 < 2 ^ 64)]

/-- An allocation never leaves the ring. -/
theorem allocate_defined {pool : LocalBufferPool} (inRange : InRange pool) :
    ∃ buf next, pool.allocate = some (buf, next) ∧ InRange next := by
  have positive : 0 < pool.bufferCount.toNat := Nat.zero_lt_of_lt inRange.head
  unfold LocalBufferPool.allocate
  split
  · exact ⟨_, _, rfl, inRange⟩
  · split
    · rw [read_inside (by rw [inRange.ring]; exact inRange.head)]
      refine ⟨_, _, rfl, inRange.ring, ?_⟩
      dsimp only
      rw [wrap_toNat inRange.head]
      exact Nat.mod_lt _ positive
    · dsimp only
      rw [read_inside (by rw [inRange.ring, UInt64.toNat_mod]; exact Nat.mod_lt _ positive)]
      exact ⟨_, _, rfl, inRange.ring, inRange.head⟩

/-- With the FIFO policy an allocation returns the buffer that has been free longest. -/
theorem allocate_spec {pool : LocalBufferPool} (inRange : InRange pool) (fifo : pool.policy = .fifo)
    (available : pool.count ≠ 0) :
    ∃ buf next, pool.allocate = some (buf, next) ∧ pool.freeBuffers = buf :: next.freeBuffers ∧
      next.count.toNat + 1 = pool.count.toNat ∧ next.head = (pool.head + 1) % pool.bufferCount ∧
      next = { pool with head := next.head, count := next.count } := by
  have inside : pool.head.toNat < pool.offsetRing.size := by rw [inRange.ring]; exact inRange.head
  have positive : 0 < pool.count.toNat := by
    by_contra zero
    exact available (UInt64.toNat_inj.mp (by simpa using zero))
  have fewer : (pool.count - 1).toNat = pool.count.toNat - 1 := by
    rw [UInt64.toNat_sub_of_le _ _ (by rw [UInt64.le_iff_toNat_le]; exact positive), UInt64.toNat_one]
  refine ⟨pool.bufferAt (pool.offsetRing.cell pool.head.toNat),
    { pool with head := (pool.head + 1) % pool.bufferCount, count := pool.count - 1 }, ?_, ?_, ?_, rfl, rfl⟩
  · simp [LocalBufferPool.allocate, available, fifo, read_inside inside, LocalBufferPool.bufferAt]
  · have popped := window_pop pool.offsetRing inside (pool.count.toNat - 1)
    rw [Nat.sub_add_cancel positive] at popped
    simp only [LocalBufferPool.freeBuffers, popped, List.map_cons, wrap_toNat inRange.head, fewer, inRange.ring]
    rfl
  · dsimp only
    omega

theorem allocate_exhausted {pool : LocalBufferPool} (none_free : pool.count = 0) :
    pool.allocate = some (Buffer.empty, pool) := if_pos none_free

/-- A buffer that is handed out has the configured size. -/
theorem allocate_length {pool next : LocalBufferPool} {buf : Buffer} (allocated : pool.allocate = some (buf, next))
    (valid : buf.isValid = true) : buf.length = pool.bufferSize := by
  unfold LocalBufferPool.allocate at allocated
  split at allocated
  · obtain ⟨rfl, -⟩ := Prod.mk.inj (Option.some.inj allocated)
    cases valid
  · split at allocated
    · obtain ⟨offset, -, done⟩ := Option.bind_eq_some_iff.mp allocated
      obtain ⟨rfl, -⟩ := Prod.mk.inj (Option.some.inj done)
      rfl
    · obtain ⟨offset, -, done⟩ := Option.bind_eq_some_iff.mp allocated
      obtain ⟨rfl, -⟩ := Prod.mk.inj (Option.some.inj done)
      rfl

/-! ### Allocating with any policy -/

/-- Up to the wrap at the end of the ring, `tail` stands behind the last free buffer. -/
structure Aligned (pool : LocalBufferPool) : Prop where
  count_le : pool.count.toNat ≤ pool.bufferCount.toNat
  tail_le : pool.tail.toNat ≤ pool.bufferCount.toNat
  tail : pool.tail.toNat % pool.bufferCount.toNat = (pool.head.toNat + pool.count.toNat) % pool.bufferCount.toNat
  small : pool.bufferCount.toNat < 2 ^ 63

theorem built_aligned {pool : LocalBufferPool} {config : BufferPoolConfig} (built : Built pool config)
    (small : pool.bufferCount.toNat < 2 ^ 63) : InRange pool ∧ Aligned pool := by
  refine ⟨⟨built.ring, ?_⟩, ⟨?_, ?_, ?_, small⟩⟩
  · rw [built.head]
    exact built.nonempty.2
  · rw [built.count]
  · rw [built.tail]
  · rw [built.tail, built.head, built.count, UInt64.toNat_zero, Nat.zero_add]

theorem count_pos {pool : LocalBufferPool} (available : pool.count ≠ 0) : 0 < pool.count.toNat := by
  by_contra zero
  exact available (UInt64.toNat_inj.mp (by simpa using zero))

theorem count_pred {pool : LocalBufferPool} (available : pool.count ≠ 0) :
    (pool.count - 1).toNat + 1 = pool.count.toNat := by
  have positive := count_pos available
  rw [UInt64.toNat_sub_of_le _ _ (by rw [UInt64.le_iff_toNat_le]; exact positive), UInt64.toNat_one]
  omega

/-- The last free buffer lies in front of `tail`. -/
theorem back_toNat {pool : LocalBufferPool} (inRange : InRange pool) (aligned : Aligned pool)
    (available : pool.count ≠ 0) :
    ((pool.tail - 1 + pool.bufferCount) % pool.bufferCount).toNat =
      (pool.head.toNat + (pool.count - 1).toNat) % pool.bufferCount.toNat := by
  have fewer := count_pred available
  have inside := inRange.head
  have small := aligned.small
  have range := aligned.tail_le
  have behind := aligned.tail
  have tailIs : pool.tail.toNat + pool.bufferCount.toNat - 1 = (pool.tail - 1 + pool.bufferCount).toNat := by
    rw [UInt64.toNat_add, UInt64.toNat_sub, UInt64.toNat_one]
    omega
  rw [UInt64.toNat_mod, ← tailIs]
  have shifted : (pool.tail.toNat + pool.bufferCount.toNat - 1 + 1) % pool.bufferCount.toNat =
      (pool.head.toNat + (pool.count - 1).toNat + 1) % pool.bufferCount.toNat := by
    rw [Nat.sub_add_cancel (by omega), Nat.add_mod_right, Nat.add_assoc, fewer]
    exact behind
  exact Nat.ModEq.add_right_cancel' 1 shifted

/-- One of the free buffers has been taken, and the rest lie between the indices. -/
structure Taken (pool : LocalBufferPool) (buf : Buffer) (next : LocalBufferPool) : Prop where
  free : pool.freeBuffers.Perm (buf :: next.freeBuffers)
  count : next.count.toNat + 1 = pool.count.toNat
  inRange : InRange next
  aligned : Aligned next

/-- The first in, first out policy takes the buffer at the head. -/
theorem allocate_front {pool : LocalBufferPool} (inRange : InRange pool) (aligned : Aligned pool)
    (available : pool.count ≠ 0) (fifo : pool.policy = .fifo) :
    ∃ buf next, pool.allocate = some (buf, next) ∧ Taken pool buf next := by
  obtain ⟨buf, next, allocated, queue, count, head, same⟩ := allocate_spec inRange fifo available
  have kept : InRange next := by
    obtain ⟨buf', next', allocated', kept⟩ := allocate_defined inRange
    obtain ⟨-, rfl⟩ := Prod.mk.inj (Option.some.inj (allocated'.symm.trans allocated))
    exact kept
  have bufferCount : next.bufferCount = pool.bufferCount := by rw [same]
  have tail : next.tail = pool.tail := by rw [same]
  have room := aligned.count_le
  refine ⟨buf, next, allocated, by rw [queue], count, kept, ?_, ?_, ?_, ?_⟩
  · rw [bufferCount]
    omega
  · rw [bufferCount, tail]
    exact aligned.tail_le
  · rw [bufferCount, tail, head, wrap_toNat inRange.head, aligned.tail, Nat.mod_add_mod]
    congr 1
    omega
  · rw [bufferCount]
    exact aligned.small

/-- The other policies take the last free buffer, before the tail. -/
theorem allocate_last {pool : LocalBufferPool} (inRange : InRange pool) (aligned : Aligned pool)
    (available : pool.count ≠ 0) (other : pool.policy ≠ .fifo) :
    ∃ buf next, pool.allocate = some (buf, next) ∧ pool.freeBuffers = next.freeBuffers ++ [buf] ∧
      next = { pool with tail := next.tail, count := next.count } ∧
      next.tail.toNat = (next.head.toNat + next.count.toNat) % next.bufferCount.toNat ∧
      next.count.toNat + 1 = pool.count.toNat := by
  have fewer := count_pred available
  have back := back_toNat inRange aligned available
  have inside : ((pool.tail - 1 + pool.bufferCount) % pool.bufferCount).toNat < pool.offsetRing.size := by
    rw [back, inRange.ring]
    exact Nat.mod_lt _ (Nat.zero_lt_of_lt inRange.head)
  refine ⟨pool.bufferAt (pool.offsetRing.cell ((pool.tail - 1 + pool.bufferCount) % pool.bufferCount).toNat),
    { pool with tail := (pool.tail - 1 + pool.bufferCount) % pool.bufferCount, count := pool.count - 1 }, ?_, ?_, rfl,
    back, fewer⟩
  · cases policy : pool.policy with
    | fifo => exact absurd policy other
    | _ =>
      simp only [LocalBufferPool.allocate, if_neg available, policy, read_inside inside, Option.bind_eq_bind,
        Option.bind_some, LocalBufferPool.bufferAt]
  · have last := window_succ pool.offsetRing pool.head.toNat (pool.count - 1).toNat
    rw [fewer] at last
    rw [LocalBufferPool.freeBuffers, last, List.map_append, List.map_singleton, back, inRange.ring]
    rfl

/-- With `tail` behind the last free buffer, inside the ring, the indices are in order. -/
theorem aligned_of_tail {pool : LocalBufferPool} (inRange : InRange pool)
    (room : pool.count.toNat ≤ pool.bufferCount.toNat)
    (tail : pool.tail.toNat = (pool.head.toNat + pool.count.toNat) % pool.bufferCount.toNat)
    (small : pool.bufferCount.toNat < 2 ^ 63) : Aligned pool where
  count_le := room
  tail_le := by
    rw [tail]
    exact (Nat.mod_lt _ (Nat.zero_lt_of_lt inRange.head)).le
  tail := by rw [tail, Nat.mod_mod]
  small := small

theorem allocate_back {pool : LocalBufferPool} (inRange : InRange pool) (aligned : Aligned pool)
    (available : pool.count ≠ 0) (other : pool.policy ≠ .fifo) :
    ∃ buf next, pool.allocate = some (buf, next) ∧ Taken pool buf next := by
  obtain ⟨buf, next, allocated, free, same, tail, fewer⟩ := allocate_last inRange aligned available other
  have ring : next.offsetRing = pool.offsetRing := by rw [same]
  have head : next.head = pool.head := by rw [same]
  have bufferCount : next.bufferCount = pool.bufferCount := by rw [same]
  have kept : InRange next := ⟨by rw [ring, bufferCount]; exact inRange.ring, by rw [head, bufferCount]; exact inRange.head⟩
  have room := aligned.count_le
  have small := aligned.small
  rw [← bufferCount] at room small
  refine ⟨buf, next, allocated, ?_, fewer, kept, aligned_of_tail kept (by omega) tail small⟩
  rw [free]
  exact List.perm_append_singleton ..

/-- An allocation takes one of the free buffers. -/
theorem allocate_takes {pool : LocalBufferPool} (inRange : InRange pool) (aligned : Aligned pool)
    (available : pool.count ≠ 0) : ∃ buf next, pool.allocate = some (buf, next) ∧ Taken pool buf next := by
  by_cases fifo : pool.policy = .fifo
  · exact allocate_front inRange aligned available fifo
  · exact allocate_back inRange aligned available fifo

/-- A free with `tail` at the end of the ring writes outside it. -/
theorem free_outside {pool : LocalBufferPool} (outside : pool.offsetRing.size ≤ pool.tail.toNat) (buf : Buffer) :
    pool.free buf = none := by
  simp [LocalBufferPool.free, write_outside outside]

/-- With `tail` behind the last free buffer, inside the ring, a free appends the buffer to the queue. -/
theorem free_spec {pool : LocalBufferPool} (inRange : InRange pool) (offset : UInt64)
    (tail : pool.tail.toNat = (pool.head.toNat + pool.count.toNat) % pool.bufferCount.toNat)
    (room : pool.count.toNat < pool.bufferCount.toNat) :
    ∃ next, pool.free (pool.bufferAt offset) = some next ∧
      next.freeBuffers = pool.freeBuffers ++ [pool.bufferAt offset] ∧ InRange next ∧
      next = { pool with offsetRing := next.offsetRing, tail := next.tail, count := next.count } ∧
      next.tail.toNat = (next.head.toNat + next.count.toNat) % next.bufferCount.toNat ∧
      next.count.toNat = pool.count.toNat + 1 := by
  have bound := pool.bufferCount.toNat_lt
  have positive : 0 < pool.bufferCount.toNat := by omega
  have tailInside : pool.tail.toNat < pool.bufferCount.toNat := by rw [tail]; exact Nat.mod_lt _ positive
  have back : pool.getBufferPtr offset - pool.baseAddr = offset := by
    rw [LocalBufferPool.getBufferPtr, UInt64.add_comm, UInt64.add_sub_cancel]
  have more : (pool.count + 1).toNat = pool.count.toNat + 1 := by
    rw [UInt64.toNat_add, UInt64.toNat_one, Nat.mod_eq_of_lt (by omega)]
  refine ⟨{ pool with
    offsetRing := pool.offsetRing.put pool.tail.toNat offset
    tail := (pool.tail + 1) % pool.bufferCount
    count := pool.count + 1 }, ?_, ?_, ⟨inRange.ring, inRange.head⟩, rfl, ?_, more⟩
  · simp [LocalBufferPool.free, LocalBufferPool.bufferAt, back,
      write_inside (show pool.tail.toNat < pool.offsetRing.size by rw [inRange.ring]; exact tailInside)]
  · simp only [LocalBufferPool.freeBuffers, more]
    rw [tail, ← inRange.ring, window_push _ (by rw [inRange.ring]; exact room), List.map_append]
    rfl
  · dsimp only
    rw [wrap_toNat tailInside, tail, more, Nat.mod_add_mod, Nat.add_assoc]

/-! ### The FIFO policy from the state that `create` builds -/

/-- A pool that has only allocated since it was `pool`, and the queue it stands for. -/
structure Follows (pool state : LocalBufferPool) (fifo : Fifo) : Prop where
  same : state = { pool with head := state.head, count := state.count }
  inRange : InRange state
  queue : state.freeBuffers = fifo.free
  all : (fifo.free ++ fifo.outstanding).Perm pool.buffers

theorem freeBuffers_length (pool : LocalBufferPool) : pool.freeBuffers.length = pool.count.toNat := by
  simp [LocalBufferPool.freeBuffers]

/-- An allocation returns what the queue returns. -/
theorem follows_allocate {pool state : LocalBufferPool} {fifo : Fifo} (policy : pool.policy = .fifo)
    (follows : Follows pool state fifo) :
    ∃ next, state.step .allocate = some (next, (fifo.step .allocate).2) ∧
      Follows pool next (fifo.step .allocate).1 := by
  have length := freeBuffers_length state
  rw [follows.queue] at length
  have statePolicy : state.policy = .fifo := by rw [follows.same]; exact policy
  by_cases available : state.count = 0
  · have empty : fifo.free = [] := List.length_eq_zero_iff.mp (by rw [length, available]; rfl)
    have stays : fifo.step .allocate = (fifo, [Buffer.empty]) := by simp only [Fifo.step, empty]
    rw [stays]
    exact ⟨state, by simp [LocalBufferPool.step, allocate_exhausted available], follows⟩
  · obtain ⟨buf, next, returned, queue, -, -, same⟩ := allocate_spec follows.inRange statePolicy available
    obtain ⟨_, _, returned', inRange⟩ := allocate_defined follows.inRange
    rw [returned] at returned'
    obtain ⟨rfl, rfl⟩ : _ = _ ∧ _ = _ := by simpa using returned'
    rw [follows.queue] at queue
    have moves : fifo.step .allocate = (⟨next.freeBuffers, buf :: fifo.outstanding⟩, [buf]) := by
      simp only [Fifo.step, queue]
    rw [moves]
    refine ⟨next, by simp [LocalBufferPool.step, returned], ?_, inRange, rfl, ?_⟩
    · rw [same, follows.same]
    · have all := follows.all
      rw [queue] at all
      exact List.perm_middle.trans all

theorem create_follows {pool : LocalBufferPool} {config : BufferPoolConfig} (built : Built pool config) :
    Follows pool pool ⟨pool.buffers, []⟩ where
  same := rfl
  inRange := ⟨built.ring, by rw [built.head]; exact built.nonempty.2⟩
  queue := by
    rw [LocalBufferPool.freeBuffers, LocalBufferPool.buffers, window, List.map_map, built.count, built.head]
    refine List.map_congr_left fun i member => ?_
    have below := List.mem_range.mp member
    simp only [Function.comp, UInt64.toNat_zero, Nat.zero_add, built.ring, Nat.mod_eq_of_lt below]
    rw [built.offsets i below]
  all := by simp

/-- Every buffer of the pool is one at an offset. -/
theorem mem_buffers {pool : LocalBufferPool} {buf : Buffer} (listed : buf ∈ pool.buffers) :
    ∃ offset, buf = pool.bufferAt offset := by
  obtain ⟨i, -, same⟩ := List.mem_map.mp listed
  exact ⟨_, same.symm⟩

/-- Where the whole block fits in the address space no two buffers are the same. -/
theorem buffers_nodup {pool : LocalBufferPool} (nonempty : 0 < pool.bufferSize.toNat)
    (fits : pool.bufferCount.toNat * pool.bufferSize.toNat < 2 ^ 64) : pool.buffers.Nodup := by
  refine List.Nodup.map_on ?_ List.nodup_range
  intro i first j second same
  have offset : ∀ k ∈ List.range pool.bufferCount.toNat,
      (UInt64.ofNat k * pool.bufferSize).toNat = k * pool.bufferSize.toNat := by
    intro k member
    have below := List.mem_range.mp member
    have bound : k * pool.bufferSize.toNat ≤ pool.bufferCount.toNat * pool.bufferSize.toNat :=
      Nat.mul_le_mul_right _ (by omega)
    have small : k < 2 ^ 64 := by have := pool.bufferCount.toNat_lt; omega
    rw [UInt64.toNat_mul, UInt64.toNat_ofNat', Nat.mod_eq_of_lt small, Nat.mod_eq_of_lt (by omega)]
  have addresses : pool.baseAddr + UInt64.ofNat i * pool.bufferSize =
      pool.baseAddr + UInt64.ofNat j * pool.bufferSize := congrArg Buffer.addr same
  have offsets := congrArg UInt64.toNat ((UInt64.add_right_inj _).mp addresses)
  rw [offset i first, offset j second] at offsets
  exact Nat.eq_of_mul_eq_mul_right nonempty offsets

theorem allocate_frame {pool next : LocalBufferPool} {buf : Buffer} (policy : pool.policy = .fifo)
    (allocated : pool.allocate = some (buf, next)) :
    next.tail = pool.tail ∧ next.offsetRing = pool.offsetRing ∧ next.policy = .fifo := by
  unfold LocalBufferPool.allocate at allocated
  rw [policy] at allocated
  split at allocated
  · obtain ⟨-, rfl⟩ := by simpa using allocated
    exact ⟨rfl, rfl, policy⟩
  · cases read : pool.offsetRing.read pool.head.toNat with
    | none => simp [read] at allocated
    | some offset =>
      simp only [read, Option.bind_eq_bind, Option.bind_some, Option.some.injEq, Prod.mk.injEq] at allocated
      obtain ⟨-, rfl⟩ := allocated
      exact ⟨rfl, rfl, rfl⟩

/-- While `tail` is where `create` puts it, a run that frees a buffer leaves the ring. -/
theorem free_undefined {pool : LocalBufferPool} (policy : pool.policy = .fifo)
    (outside : pool.offsetRing.size ≤ pool.tail.toNat) {events : List Event} {buf : Buffer}
    (frees : .free buf ∈ events) : run LocalBufferPool.step pool events = none := by
  induction events generalizing pool with
  | nil => cases frees
  | cons event rest ih =>
    cases event with
    | free other => simp [run, LocalBufferPool.step, free_outside outside]
    | allocate =>
      have later : .free buf ∈ rest := by simpa using frees
      cases allocated : pool.allocate with
      | none => simp [run, LocalBufferPool.step, allocated]
      | some result =>
        obtain ⟨returned, next⟩ := result
        obtain ⟨tail, ring, kept⟩ := allocate_frame policy allocated
        simp [run, LocalBufferPool.step, allocated, ih kept (by rw [tail, ring]; exact outside) later]

/-- A pool built by `create` with the FIFO policy is a FIFO queue of its free buffers throughout a run if and only
    if the run frees nothing. -/
theorem fifo_iff_no_free {pdIsNull : Bool} {config : BufferPoolConfig} {environment : Environment}
    {pool : LocalBufferPool} (created : create pdIsNull config environment = some (.ok pool))
    (policy : config.policy = .fifo) (fits : config.bufferCount.toNat * config.bufferSize.toNat < 2 ^ 64)
    (events : List Event) :
    (∀ front, front <+: events → IsFifoAfter pool front) ↔ ∀ buf, Event.free buf ∉ events := by
  have built := create_built created
  have poolPolicy : pool.policy = .fifo := built.policy.trans policy
  constructor
  · intro fifo buf frees
    obtain ⟨_, _, _, ran, -⟩ := fifo events (List.prefix_refl _)
    have outside : pool.offsetRing.size ≤ pool.tail.toNat := by rw [built.ring, built.tail]
    rw [free_undefined poolPolicy outside frees] at ran
    cases ran
  · intro noFree front isPrefix
    have onlyAllocates : Meets LocalBufferPool.step (fun _ event => event = .allocate) pool front := by
      refine meets_of_forall fun event member => ?_
      cases event with
      | allocate => rfl
      | free buf => exact absurd (isPrefix.subset member) (noFree buf)
    obtain ⟨last, fifo, returned, ran, followed, follows⟩ :=
      simulates_run Fifo.step (Follows pool)
        (fun state fifo event follows isAllocate => by subst isAllocate; exact follows_allocate poolPolicy follows)
        (create_follows built) onlyAllocates
    refine ⟨last, fifo, returned, ran, followed, follows.queue, ?_, follows.all, ?_⟩
    · rw [← follows.queue, freeBuffers_length]
    · rw [← built.size, ← built.bufferCount] at fits
      exact buffers_nodup built.nonempty.1 fits

/-- A pool of two buffers of 4096 bytes at address 65536, as `create` builds it. -/
def twoPool : LocalBufferPool where
  baseAddr := 65536
  totalSize := 8192
  offsetRing := ((⟨2, fun _ => 0⟩ : Cells UInt64).put 0 0).put 1 4096
  head := 0
  tail := 2
  count := 2
  bufferSize := 4096
  bufferCount := 2
  policy := .fifo
  lkey := 7
  rkey := 9

theorem create_twoPool :
    create false ⟨4096, 2, 65536, .fifo⟩ ⟨some 65536, true, .ok ⟨7, 9⟩, true⟩ = some (.ok twoPool) := rfl

/-- Both buffers are handed out, and then none is left. -/
theorem fifo_twoPool : IsFifoAfter twoPool [.allocate, .allocate, .allocate] :=
  (fifo_iff_no_free create_twoPool rfl (by decide) _).mpr (by simp) _ (List.prefix_refl _)

/-- Freeing the buffer that was just allocated writes to cell 2 of a ring of two cells. -/
theorem first_free_overruns :
    create false ⟨4096, 2, 65536, .fifo⟩ ⟨some 65536, true, .ok ⟨7, 9⟩, true⟩ = some (.ok twoPool) ∧
      Meets (fun fifo event => some (Fifo.step fifo event)) Legal ⟨twoPool.buffers, []⟩
        [.allocate, .free ⟨65536, 4096, 7⟩] ∧
      ¬IsFifoAfter twoPool [.allocate, .free ⟨65536, 4096, 7⟩] := by
  refine ⟨create_twoPool, ⟨trivial, ?_⟩, ?_⟩
  · rintro next now taken
    obtain ⟨rfl, -⟩ := Prod.mk.inj (Option.some.inj taken)
    refine ⟨?_, fun _ _ _ => trivial⟩
    change (⟨65536, 4096, 7⟩ : Buffer) ∈ [twoPool.bufferAt (UInt64.ofNat 0 * 4096)]
    decide
  · rintro ⟨last, fifo, returned, ran, -⟩
    have overruns : run LocalBufferPool.step twoPool [.allocate, .free ⟨65536, 4096, 7⟩] = none :=
      free_undefined rfl (by decide) (List.mem_cons_of_mem _ (List.mem_singleton_self _))
    rw [overruns] at ran
    cases ran

end Rdma.BufferPools
