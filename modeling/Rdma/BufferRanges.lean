import Mathlib.Data.List.Chain
import Mathlib.Data.Nat.SuccPred
import Mathlib.Order.CompletePartialOrder
import Mathlib.Order.SuccPred.IntervalSucc
import Rdma.BufferPools

/-!
Which bytes the buffers cover (`buffer.h`, `memory_region.cpp`). A view is cut
from a memory region with `getBuffer` and from another view with `slice`. Both
add the offset and the length in 64 bits before they compare the sum with the
size: every view lies inside what it was cut from, and inside the region,
exactly while no call passes this check with a sum that wraps around
(`views_inside_iff`). The buffers of a pool are disjoint and inside the block
that the pool registers exactly if the size of the block does not wrap around
(`ranges_apart_iff`).
-/
namespace Rdma.BufferRanges
open Rdma.Types Rdma.Arrays Rdma.MemoryRegions Rdma.BufferPools

/-! ### Ranges of bytes -/

/-- The range of the view begins at an offset into the whole and ends before the whole does. -/
def Within (view whole : Buffer) : Prop :=
  (view.addr - whole.addr).toNat + view.length.toNat ≤ whole.length.toNat

/-- A distance is at most the sum of the distances to and from an address between. -/
theorem distance_le (first middle last : UInt64) :
    (last - first).toNat ≤ (last - middle).toNat + (middle - first).toNat := by
  have split : last - first = (last - middle) + (middle - first) := by grind
  rw [split, UInt64.toNat_add]
  exact Nat.mod_le _ _

theorem within_trans {view middle whole : Buffer} (inner : Within view middle) (outer : Within middle whole) :
    Within view whole := by
  have distance := distance_le whole.addr middle.addr view.addr
  simp only [Within] at inner outer ⊢
  omega

/-- A buffer that begins at an offset of the whole lies within it if it ends there. -/
theorem cut_within (whole : Buffer) (offset length : UInt64) (lkey : UInt32) :
    Within ⟨whole.addr + offset, length, lkey⟩ whole ↔ offset.toNat + length.toNat ≤ whole.length.toNat := by
  rw [Within, UInt64.add_comm, UInt64.add_sub_cancel]

/-- The invalid empty buffer, or a buffer that lies within the whole. -/
def Inside (view whole : Buffer) : Prop := view = .empty ∨ Within view whole

/-! ### Chains of views -/

/-- The arguments of a call that cuts a view. -/
structure Cut where
  offset : UInt64
  length : UInt64
  deriving DecidableEq, Repr

/-- The sum does not fit in 64 bits. -/
def Cut.Wraps (cut : Cut) : Prop := 2 ^ 64 ≤ cut.offset.toNat + cut.length.toNat

/-- The views that a chain of calls of `slice` returns, each cut from the one before. -/
def slices (view : Buffer) : List Cut → List Buffer
  | [] => []
  | cut :: rest => view.slice cut.offset cut.length :: slices (view.slice cut.offset cut.length) rest

/-- The region's memory as one buffer. -/
def wholeOf (region : MemoryRegion) : Buffer := ⟨region.addr, region.size, region.getLkey⟩

/-- The views of a chain that begins with `getBuffer`. -/
def viewsOf (region : MemoryRegion) (first : Cut) (cuts : List Cut) : List Buffer :=
  region.getBuffer first.offset first.length :: slices (region.getBuffer first.offset first.length) cuts

/-- No call of the chain wraps around with an offset inside the view. -/
def SlicesFit (view : Buffer) : List Cut → Prop
  | [] => True
  | cut :: rest => ¬(cut.offset < view.length ∧ cut.Wraps) ∧ SlicesFit (view.slice cut.offset cut.length) rest

/-- The call of `getBuffer` does not wrap around to a sum inside the region, and the rest of the chain fits. -/
def Fits (region : MemoryRegion) (first : Cut) (cuts : List Cut) : Prop :=
  ¬(first.offset + first.length ≤ region.size ∧ first.Wraps) ∧
    SlicesFit (region.getBuffer first.offset first.length) cuts

/-- A sum that is compared in 64 bits is compared as it is unless it wraps around. -/
theorem sum_le_iff {cut : Cut} {size : UInt64} (accepted : cut.offset + cut.length ≤ size) :
    cut.offset.toNat + cut.length.toNat ≤ size.toNat ↔ ¬cut.Wraps := by
  have bound := size.toNat_lt
  rw [UInt64.le_iff_toNat_le, UInt64.toNat_add] at accepted
  rw [Cut.Wraps]
  omega

/-- A view that a wrapped sum lets through is not the empty buffer. -/
theorem wraps_ne_empty {cut : Cut} (wraps : cut.Wraps) (addr : UInt64) (lkey : UInt32) :
    (⟨addr, cut.length, lkey⟩ : Buffer) ≠ .empty := by
  intro empty
  have zero : cut.length = 0 := congrArg Buffer.length empty
  have bound := cut.offset.toNat_lt
  rw [Cut.Wraps, zero] at wraps
  simp only [UInt64.toNat_zero] at wraps
  omega

/-- The check lets a cut through to the whole: the view is inside it exactly if the sum does not wrap around. -/
theorem accepted_inside_iff (whole : Buffer) {cut : Cut} (accepted : cut.offset + cut.length ≤ whole.length)
    (lkey : UInt32) : Inside ⟨whole.addr + cut.offset, cut.length, lkey⟩ whole ↔ ¬cut.Wraps := by
  rw [Inside, cut_within, sum_le_iff accepted]
  refine ⟨fun inside wraps => ?_, .inr⟩
  rcases inside with empty | fits
  · exact wraps_ne_empty wraps _ _ empty
  · exact fits wraps

theorem getBuffer_inside_iff (region : MemoryRegion) (cut : Cut) :
    Inside (region.getBuffer cut.offset cut.length) (wholeOf region) ↔
      ¬(cut.offset + cut.length ≤ region.size ∧ cut.Wraps) := by
  by_cases rejected : region.size < cut.offset + cut.length
  · rw [MemoryRegion.getBuffer, if_pos rejected]
    exact iff_of_true (.inl rfl) fun both => absurd rejected (UInt64.not_lt.mpr both.1)
  · have accepted : cut.offset + cut.length ≤ region.size := UInt64.not_lt.mp rejected
    rw [MemoryRegion.getBuffer, if_neg rejected]
    refine (accepted_inside_iff (wholeOf region) accepted region.getLkey).trans ?_
    simp [accepted]

/-- A sum that wraps around is less than the offset, so the second check never rejects it. -/
theorem slice_inside_iff (view : Buffer) (cut : Cut) :
    Inside (view.slice cut.offset cut.length) view ↔ ¬(cut.offset < view.length ∧ cut.Wraps) := by
  by_cases rejected : view.length ≤ cut.offset ∨ view.length < cut.offset + cut.length
  · rw [Buffer.slice, if_pos rejected]
    refine iff_of_true (.inl rfl) fun both => ?_
    obtain ⟨inside, wraps⟩ := both
    rcases rejected with outside | above
    · exact absurd inside (UInt64.not_lt.mpr outside)
    · have bound := cut.length.toNat_lt
      rw [UInt64.lt_iff_toNat_lt, UInt64.toNat_add] at above
      rw [UInt64.lt_iff_toNat_lt] at inside
      rw [Cut.Wraps] at wraps
      omega
  · have inside : cut.offset < view.length := UInt64.not_le.mp fun outside => rejected (.inl outside)
    have accepted : cut.offset + cut.length ≤ view.length := UInt64.not_lt.mp fun above => rejected (.inr above)
    rw [Buffer.slice, if_neg rejected]
    refine (accepted_inside_iff view accepted view.lkey).trans ?_
    simp [inside]

theorem slice_empty (offset length : UInt64) : Buffer.empty.slice offset length = .empty := by
  simp [Buffer.slice, Buffer.empty]

/-- What is cut from a view inside the whole is inside the whole. -/
theorem inside_slice {view whole : Buffer} {cut : Cut} (outer : Inside view whole)
    (inner : Inside (view.slice cut.offset cut.length) view) : Inside (view.slice cut.offset cut.length) whole := by
  rcases outer with rfl | within
  · rw [slice_empty]
    exact .inl rfl
  · rcases inner with empty | inside
    · exact .inl empty
    · exact .inr (within_trans inside within)

theorem slices_chain_iff (view : Buffer) (cuts : List Cut) :
    List.IsChain (fun whole view => Inside view whole) (view :: slices view cuts) ↔ SlicesFit view cuts := by
  induction cuts generalizing view with
  | nil => simp [slices, SlicesFit]
  | cons cut rest ih => rw [slices, List.isChain_cons_cons, slice_inside_iff, ih, SlicesFit]

/-- Where each view is inside the one that it was cut from, all are inside the first. -/
theorem slices_inside {view whole : Buffer} {cuts : List Cut} (outer : Inside view whole)
    (chain : List.IsChain (fun whole view => Inside view whole) (view :: slices view cuts)) :
    ∀ cut ∈ slices view cuts, Inside cut whole := by
  induction cuts generalizing view with
  | nil => simp [slices]
  | cons cut rest ih =>
    rw [slices, List.isChain_cons_cons] at chain
    obtain ⟨inner, later⟩ := chain
    have here := inside_slice outer inner
    rw [slices, List.forall_mem_cons]
    exact ⟨here, ih here later⟩

/-- Each view of a chain is the empty buffer or lies within what it was cut from, and within the region, if and only
    if no call passes its check with a sum that wraps around. -/
theorem views_inside_iff (region : MemoryRegion) (first : Cut) (cuts : List Cut) :
    (List.IsChain (fun whole view => Inside view whole) (wholeOf region :: viewsOf region first cuts) ∧
        ∀ view ∈ viewsOf region first cuts, Inside view (wholeOf region)) ↔
      Fits region first cuts := by
  rw [viewsOf, List.isChain_cons_cons, getBuffer_inside_iff, slices_chain_iff, Fits]
  refine ⟨And.left, fun fits => ⟨fits, ?_⟩⟩
  have outer := (getBuffer_inside_iff region first).mpr fits.1
  rw [List.forall_mem_cons]
  exact ⟨outer, slices_inside outer ((slices_chain_iff _ _).mpr fits.2)⟩

/-- Sixteen bytes into a buffer of 4096 bytes, a length of `2 ^ 64 - 8` passes the check. -/
theorem slice_leaves_region :
    ¬(List.IsChain (fun whole view => Inside view whole)
        (wholeOf ⟨some ⟨7, 9⟩, 65536, 4096⟩ ::
          viewsOf ⟨some ⟨7, 9⟩, 65536, 4096⟩ ⟨0, 4096⟩ [⟨16, 18446744073709551608⟩]) ∧
      ∀ view ∈ viewsOf ⟨some ⟨7, 9⟩, 65536, 4096⟩ ⟨0, 4096⟩ [⟨16, 18446744073709551608⟩],
        Inside view (wholeOf ⟨some ⟨7, 9⟩, 65536, 4096⟩)) := by
  rintro ⟨-, all⟩
  have view := all ⟨65552, 18446744073709551608, 7⟩ (by decide)
  rcases view with empty | within
  · exact absurd empty (by decide)
  · exact absurd within (by simp only [Within]; decide)

/-! ### The buffers of a pool -/

/-- The offsets of the block that the buffer of a ring cell covers. -/
def range (pool : LocalBufferPool) (i : Nat) : Set Nat :=
  Set.Ico (pool.offsetRing.cell i).toNat ((pool.offsetRing.cell i).toNat + pool.bufferSize.toNat)

/-- The block of `totalSize` bytes holds all buffers, with no two on one byte. -/
structure RangesApart (pool : LocalBufferPool) : Prop where
  inside : ∀ i < pool.bufferCount.toNat, range pool i ⊆ Set.Ico 0 pool.totalSize.toNat
  apart : (Set.Iio pool.bufferCount.toNat).PairwiseDisjoint (range pool)

/-- The checks of `create`, and of `register` on the size of the block. -/
structure Accepted (config : BufferPoolConfig) : Prop where
  count : config.bufferCount ≤ config.maxBufferCount
  nonempty : config.bufferSize ≠ 0 ∧ config.bufferCount ≠ 0
  block : config.bufferSize * config.bufferCount ≠ 0

/-- A ring with enough cells is filled. -/
theorem prefill_fills (bufferSize : UInt64) {remaining i : Nat} {ring : Cells UInt64}
    (room : i + remaining ≤ ring.size) : ∃ filled, prefill bufferSize remaining i ring = some filled := by
  induction remaining generalizing i ring with
  | zero => exact ⟨ring, rfl⟩
  | succ remaining ih =>
    have inside : i < ring.size := by omega
    have rest : i + 1 + remaining ≤ (ring.put i (UInt64.ofNat i * bufferSize)).size := by
      rw [put_size]
      omega
    obtain ⟨filled, fills⟩ := ih rest
    exact ⟨filled, by simp [prefill, write_inside inside, fills]⟩

/-- All that `create` asks for is granted. -/
def granted (memory : UInt64) (mr : IbvMr) : Environment := ⟨some memory, true, .ok mr, true⟩

variable {config : BufferPoolConfig} {memory : UInt64}

/-- A configuration that fails a check is refused. -/
theorem create_refuses (refused : ¬Accepted config) (memory : UInt64) (mr : IbvMr) :
    ∃ status, create false config (granted memory mr) = some (.error status) := by
  by_cases many : config.maxBufferCount < config.bufferCount
  · exact ⟨_, if_pos many⟩
  by_cases empty : config.bufferSize = 0 ∨ config.bufferCount = 0
  · exact ⟨_, (if_neg many).trans (if_pos empty)⟩
  have zero : config.bufferSize * config.bufferCount = 0 := by
    by_contra block
    exact refused ⟨UInt64.not_lt.mp many, not_or.mp empty, block⟩
  obtain ⟨status, fails⟩ := register_empty true memory (.ok mr)
  refine ⟨status, ?_⟩
  simp only [create, granted, if_neg many, if_neg empty, zero, fails]
  rfl

/-- A ring whose bytes fit in the address space has a cell for each buffer, and the pool is created. -/
theorem create_fills (accepted : Accepted config) (given : memory ≠ 0) (mr : IbvMr)
    (small : config.bufferCount.toNat < 2 ^ 61) :
    ∃ pool, create false config (granted memory mr) = some (.ok pool) := by
  have cells : ringCells config.bufferCount = config.bufferCount.toNat := by
    have eight : (8 : UInt64).toNat = 8 := rfl
    rw [ringCells, UInt64.toNat_mul, eight, Nat.mod_eq_of_lt (by omega)]
    omega
  have room : 0 + config.bufferCount.toNat ≤
      (⟨ringCells config.bufferCount, fun _ => 0⟩ : Cells UInt64).size := by
    rw [cells, Nat.zero_add]
  obtain ⟨ring, fills⟩ := prefill_fills config.bufferSize room
  have counted : ¬config.maxBufferCount < config.bufferCount := UInt64.not_lt.mpr accepted.count
  have positive : ¬(config.bufferSize = 0 ∨ config.bufferCount = 0) := by
    rintro (zero | zero)
    · exact accepted.nonempty.1 zero
    · exact accepted.nonempty.2 zero
  have registered := register_granted given accepted.block mr
  simp only [create, granted, if_neg counted, if_neg positive, registered, fills]
  exact ⟨_, rfl⟩

/-- A configuration that passes the checks is not refused; a ring that is too short is overrun. -/
theorem create_accepts (accepted : Accepted config) (given : memory ≠ 0) (mr : IbvMr) (status : Types.Status) :
    create false config (granted memory mr) ≠ some (.error status) := by
  have counted : ¬config.maxBufferCount < config.bufferCount := UInt64.not_lt.mpr accepted.count
  have positive : ¬(config.bufferSize = 0 ∨ config.bufferCount = 0) := not_or.mpr accepted.nonempty
  have registered := register_granted given accepted.block mr
  intro refused
  simp only [create, granted, if_neg counted, if_neg positive, registered] at refused
  obtain ⟨ring, -, same⟩ := Option.bind_eq_some_iff.mp refused
  cases same

/-- Offsets that fit in the block do not wrap around. -/
theorem offset_toNat {pool : LocalBufferPool} {config : BufferPoolConfig} (built : Built pool config) {i : Nat}
    (below : i < pool.bufferCount.toNat) (fits : i * pool.bufferSize.toNat < 2 ^ 64) :
    (pool.offsetRing.cell i).toNat = i * pool.bufferSize.toNat := by
  have small : i < 2 ^ 64 := by
    have := pool.bufferCount.toNat_lt
    omega
  rw [built.offsets i below, UInt64.toNat_mul, UInt64.toNat_ofNat', Nat.mod_eq_of_lt small, Nat.mod_eq_of_lt fits]

/-- In a block whose size does not wrap around the buffers lie end to end. -/
theorem ranges_of_fits {pool : LocalBufferPool} {config : BufferPoolConfig} (built : Built pool config)
    (total : pool.totalSize = pool.bufferSize * pool.bufferCount)
    (fits : pool.bufferSize.toNat * pool.bufferCount.toNat < 2 ^ 64) : RangesApart pool := by
  have size : pool.totalSize.toNat = pool.bufferCount.toNat * pool.bufferSize.toNat := by
    rw [total, UInt64.toNat_mul, Nat.mod_eq_of_lt fits, Nat.mul_comm]
  have ends : ∀ i < pool.bufferCount.toNat, (i + 1) * pool.bufferSize.toNat ≤ pool.totalSize.toNat := by
    intro i below
    rw [size]
    exact Nat.mul_le_mul_right _ below
  have ranges : ∀ i < pool.bufferCount.toNat,
      range pool i = Set.Ico (i * pool.bufferSize.toNat) ((i + 1) * pool.bufferSize.toNat) := by
    intro i below
    have last := ends i below
    have bound := pool.totalSize.toNat_lt
    rw [Nat.succ_mul] at last
    rw [range, offset_toNat built below (by omega), Nat.succ_mul]
  have monotone : Monotone fun i => i * pool.bufferSize.toNat := fun _ _ order => Nat.mul_le_mul_right _ order
  refine ⟨fun i below => ?_, fun i first j second apart => ?_⟩
  · rw [ranges i below]
    exact Set.Ico_subset_Ico (Nat.zero_le _) (ends i below)
  · have disjoint := monotone.pairwise_disjoint_on_Ico_succ apart
    simp only [Function.onFun]
    rw [ranges i first, ranges j second]
    exact disjoint

/-- Otherwise the buffer across the end of the address space leaves the block. -/
theorem fits_of_ranges {pool : LocalBufferPool} {config : BufferPoolConfig} (built : Built pool config)
    (ranges : RangesApart pool) : pool.bufferSize.toNat * pool.bufferCount.toNat < 2 ^ 64 := by
  by_contra wraps
  have positive := built.nonempty.1
  -- the last buffer whose offset is below 2 ^ 64
  have offset : (2 ^ 64 - 1) / pool.bufferSize.toNat * pool.bufferSize.toNat ≤ 2 ^ 64 - 1 := Nat.div_mul_le_self _ _
  have stops : 2 ^ 64 - 1 < ((2 ^ 64 - 1) / pool.bufferSize.toNat + 1) * pool.bufferSize.toNat := by
    rw [Nat.mul_comm]
    exact Nat.lt_mul_div_succ _ positive
  have below : (2 ^ 64 - 1) / pool.bufferSize.toNat < pool.bufferCount.toNat := by
    rw [Nat.div_lt_iff_lt_mul positive, Nat.mul_comm]
    omega
  generalize (2 ^ 64 - 1) / pool.bufferSize.toNat = last at offset stops below
  have here := offset_toNat built below (by omega)
  rw [Nat.succ_mul] at stops
  have covers : 2 ^ 64 - 1 ∈ range pool last := by
    rw [range, here]
    exact ⟨offset, stops⟩
  have inside := (ranges.inside last below covers).2
  have bound := pool.totalSize.toNat_lt
  omega

/-- For every configuration, where all memory is granted, `create` refuses it or builds a pool whose buffers are disjoint
    and inside the registered block if and only if it fails a check, or neither the size of the block nor that of the
    ring wraps around. -/
theorem ranges_apart_iff (config : BufferPoolConfig) (given : memory ≠ 0) (mr : IbvMr) :
    ((∃ status, create false config (granted memory mr) = some (.error status)) ∨
        ∃ pool, create false config (granted memory mr) = some (.ok pool) ∧ RangesApart pool) ↔
      (Accepted config →
        config.bufferSize.toNat * config.bufferCount.toNat < 2 ^ 64 ∧ config.bufferCount.toNat < 2 ^ 61) := by
  by_cases accepted : Accepted config
  · rw [forall_prop_of_true accepted]
    constructor
    · rintro (⟨status, failed⟩ | ⟨pool, created, ranges⟩)
      · exact absurd failed (create_accepts accepted given mr status)
      · have built := create_built created
        have fits := fits_of_ranges built ranges
        rw [built.size, built.bufferCount] at fits
        have small := create_small created
        rw [built.bufferCount] at small
        exact ⟨fits, small⟩
    · rintro ⟨fits, small⟩
      obtain ⟨pool, created⟩ := create_fills accepted given mr small
      have built := create_built created
      obtain ⟨_, _, _, -, -, -, -, -, rfl⟩ := create_inv created
      exact .inr ⟨_, created, ranges_of_fits built rfl fits⟩
  · exact iff_of_true (.inl (create_refuses accepted memory mr)) fun passes => absurd passes accepted

/-- The default configuration is accepted, and its buffers are disjoint and inside the block. -/
theorem default_ranges_apart :
    (∃ status, create false {} (granted 65536 ⟨7, 9⟩) = some (.error status)) ∨
      ∃ pool, create false {} (granted 65536 ⟨7, 9⟩) = some (.ok pool) ∧ RangesApart pool :=
  (ranges_apart_iff {} (by decide) ⟨7, 9⟩).mpr fun _ => by decide

/-- Two buffers of `2 ^ 63 + 2048` bytes in a block of 4096 bytes. -/
theorem wrapped_block_overrun :
    ∃ pool, create false ⟨9223372036854777856, 2, 65536, .fifo⟩ (granted 65536 ⟨7, 9⟩) = some (.ok pool) ∧
      ¬RangesApart pool := by
  refine ⟨_, rfl, fun ranges => ?_⟩
  have created : create false ⟨9223372036854777856, 2, 65536, .fifo⟩ (granted 65536 ⟨7, 9⟩) = some (.ok _) := rfl
  have fits := fits_of_ranges (create_built created) ranges
  exact absurd fits (by decide)

end Rdma.BufferRanges
