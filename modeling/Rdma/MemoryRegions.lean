import Rdma.Types

/-!
Memory regions (`memory_region.h`, `memory_region.cpp`): a block of memory that
is registered with the device, and the views cut from it.
-/
namespace Rdma.MemoryRegions
open Rdma.Types

structure IbvMr where
  lkey : UInt32
  rkey : UInt32
  deriving DecidableEq, Repr

structure MemoryRegion where
  mr : Option IbvMr
  addr : UInt64
  size : UInt64
  deriving DecidableEq, Repr

/-- `pd` tells whether the protection domain and the domain it wraps are not null; `answer` is that of `ibv_reg_mr`. -/
def MemoryRegion.register (pd : Bool) (addr size : UInt64) (answer : Except Int IbvMr) : Except Status MemoryRegion :=
  if !pd then .error (Status.invalidArgument "Invalid protection domain")
  else if addr = 0 ∨ size = 0 then .error (Status.invalidArgument "Invalid memory region parameters")
  else
    match answer with
    | .error errno => .error (Status.ioError "Failed to register memory region" errno)
    | .ok mr => .ok ⟨some mr, addr, size⟩

def MemoryRegion.getLkey (region : MemoryRegion) : UInt32 :=
  match region.mr with
  | none => 0
  | some mr => mr.lkey

def MemoryRegion.getRkey (region : MemoryRegion) : UInt32 :=
  match region.mr with
  | none => 0
  | some mr => mr.rkey

/-- The offsets are added in 64 bits. -/
def MemoryRegion.getBuffer (region : MemoryRegion) (offset length : UInt64) : Buffer :=
  if region.size < offset + length then .empty
  else ⟨region.addr + offset, length, region.getLkey⟩

variable {addr size : UInt64}

theorem register_granted (given : addr ≠ 0) (nonempty : size ≠ 0) (mr : IbvMr) :
    MemoryRegion.register true addr size (.ok mr) = .ok ⟨some mr, addr, size⟩ := by
  have valid : ¬(addr = 0 ∨ size = 0) := not_or.mpr ⟨given, nonempty⟩
  rw [MemoryRegion.register, if_neg valid]
  rfl

/-- An empty block is refused, whatever the device would answer. -/
theorem register_empty (pd : Bool) (addr : UInt64) (answer : Except Int IbvMr) :
    ∃ status, MemoryRegion.register pd addr 0 answer = .error status := by
  cases pd with
  | false => exact ⟨_, rfl⟩
  | true => exact ⟨_, (if_neg Bool.false_ne_true).trans (if_pos (.inr rfl))⟩

end Rdma.MemoryRegions
