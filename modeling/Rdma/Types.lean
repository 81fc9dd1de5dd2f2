import Mathlib.Logic.Basic

/-!
The types shared by the framework (`types.h`, `status.h`, `buffer.h`): error
codes and statuses, operation codes, connection states, and buffers. A pointer
is an address, with 0 for the null pointer. A `Result<T>` is an `Except Status T`.
-/
namespace Rdma.Types

inductive ErrorCode
  | ok
  | invalidArgument
  | notFound
  | alreadyExists
  | permissionDenied
  | resourceExhausted
  | failedPrecondition
  | aborted
  | outOfRange
  | unimplemented
  | internal
  | unavailable
  | dataLoss
  | ioError
  | timeout
  | cancelled
  | connectionRefused
  | connectionReset
  deriving DecidableEq, Repr

structure Status where
  code : ErrorCode
  message : Option String
  errnoValue : Int
  deriving DecidableEq, Repr

def Status.OK : Status := ⟨.ok, none, 0⟩
def Status.invalidArgument (message : String) : Status := ⟨.invalidArgument, some message, 0⟩
def Status.resourceExhausted (message : String) : Status := ⟨.resourceExhausted, some message, 0⟩
def Status.ioError (message : String) (errno : Int) : Status := ⟨.ioError, some message, errno⟩
def Status.connectionReset (message : String) : Status := ⟨.connectionReset, some message, 0⟩

def Status.ok (status : Status) : Bool := status.code = .ok

@[simp] theorem ok_OK : Status.OK.ok = true := rfl
@[simp] theorem ok_invalidArgument (message : String) : (Status.invalidArgument message).ok = false := rfl
@[simp] theorem ok_resourceExhausted (message : String) : (Status.resourceExhausted message).ok = false := rfl
@[simp] theorem ok_ioError (message : String) (errno : Int) : (Status.ioError message errno).ok = false := rfl
@[simp] theorem ok_connectionReset (message : String) : (Status.connectionReset message).ok = false := rfl

inductive RpcOpcode
  | requestSend
  | requestWrite
  | requestRead
  | responseSend
  | recv
  | creditUpdate
  | keepalive
  deriving DecidableEq, Repr

def RpcOpcode.value : RpcOpcode → UInt8
  | .requestSend => 0
  | .requestWrite => 1
  | .requestRead => 2
  | .responseSend => 3
  | .recv => 4
  | .creditUpdate => 5
  | .keepalive => 6

inductive ConnectionState
  | disconnected
  | connecting
  | connected
  | error
  | closing
  deriving DecidableEq, Repr

inductive BufferAllocationPolicy
  | lifo
  | fifo
  | slab
  deriving DecidableEq, Repr

structure RemoteMemoryInfo where
  addr : UInt64
  rkey : UInt32
  length : UInt32
  deriving DecidableEq, Repr

structure Buffer where
  addr : UInt64
  length : UInt64
  lkey : UInt32
  deriving DecidableEq, Repr

/-- The buffer of the default constructor. -/
def Buffer.empty : Buffer := ⟨0, 0, 0⟩

def Buffer.isValid (buffer : Buffer) : Bool := buffer.addr ≠ 0 ∧ 0 < buffer.length

/-- The offsets are added in 64 bits. -/
def Buffer.slice (buffer : Buffer) (offset length : UInt64) : Buffer :=
  if buffer.length ≤ offset ∨ buffer.length < offset + length then .empty
  else ⟨buffer.addr + offset, length, buffer.lkey⟩

structure Iovec where
  iovBase : UInt64
  iovLen : UInt64
  deriving DecidableEq, Repr

end Rdma.Types
