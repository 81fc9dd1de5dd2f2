import Rdma.HandshakeChannels
import Rdma.KvProtocols
import Rdma.QpTransitions

/-!
What a handshake message says (`handshake_channel.h`, `types.h`) and how it lies
in memory: the members of the object in the order of their offsets on x86-64,
with the padding between them. The bytes are read back as the message
(`read_message`), and a `receive` that succeeds on a channel into which one
message was written has got that message (`receive_message`).
-/
namespace Rdma.HandshakeMessages
open Rdma.Types Rdma.QpTransitions Rdma.HandshakeChannels
open Rdma.KvProtocols (byteOf littleEndian littleEndian_bytes)

/-- The members of `HandshakeMessage`. -/
structure Greeting where
  qpParams : QpConnParams := {}
  recvBufferInfo : RemoteMemoryInfo := ⟨0, 0, 0⟩
  connId : UInt16 := 0
  version : UInt16 := 0
  flags : UInt32 := 0
  hostname : Vector UInt8 64 := Vector.replicate 64 0
  deriving DecidableEq, Repr

/-- A number in so many bytes. -/
def number (value count : Nat) : List UInt8 := (List.range count).map (byteOf value)

def padding (count : Nat) : List UInt8 := List.replicate count 0

def Greeting.members (greeting : Greeting) : List (List UInt8) :=
  [number greeting.qpParams.lid.toNat 2, padding 2, number greeting.qpParams.qpNum.toNat 4,
    number greeting.qpParams.psn.toNat 4, greeting.qpParams.gid.toList, number greeting.qpParams.portNum.toNat 2,
    number greeting.qpParams.gidIndex.toNat 1, padding 1, number greeting.qpParams.mtu.toNat 4, padding 4,
    number greeting.recvBufferInfo.addr.toNat 8, number greeting.recvBufferInfo.rkey.toNat 4,
    number greeting.recvBufferInfo.length.toNat 4, number greeting.connId.toNat 2, number greeting.version.toNat 2,
    number greeting.flags.toNat 4, greeting.hostname.toList]

/-- The sizes of the members and of the padding. -/
def memberSizes : List Nat := [2, 2, 4, 4, 16, 2, 1, 1, 4, 4, 8, 4, 4, 2, 2, 4, 64]

theorem number_length (value count : Nat) : (number value count).length = count := by simp [number]

theorem members_sizes (greeting : Greeting) : greeting.members.map List.length = memberSizes := by
  simp [Greeting.members, memberSizes, number_length, padding]

/-- The object in memory. -/
def Greeting.message (greeting : Greeting) : HandshakeMessage where
  bytes := greeting.members.flatten
  size := by
    rw [List.length_flatten, members_sizes]
    rfl

/-- The message in the bytes of an object. -/
def Greeting.read (bytes : List UInt8) : Greeting :=
  let byte (i : Nat) : UInt8 := bytes.getD i 0
  { qpParams := {
      lid := (littleEndian byte 0 2).toUInt16
      qpNum := (littleEndian byte 4 4).toUInt32
      psn := (littleEndian byte 8 4).toUInt32
      gid := Vector.ofFn fun i => byte (12 + i)
      portNum := (littleEndian byte 28 2).toUInt16
      gidIndex := (littleEndian byte 30 1).toUInt8
      mtu := (littleEndian byte 32 4).toUInt32 }
    recvBufferInfo := {
      addr := (littleEndian byte 40 8).toUInt64
      rkey := (littleEndian byte 48 4).toUInt32
      length := (littleEndian byte 52 4).toUInt32 }
    connId := (littleEndian byte 56 2).toUInt16
    version := (littleEndian byte 58 2).toUInt16
    flags := (littleEndian byte 60 4).toUInt32
    hostname := Vector.ofFn fun i => byte (64 + i) }

/-- A byte of one of the lists, in all of them one behind the other. -/
theorem flatten_byte {lists : List (List UInt8)} {k i : Nat} {member : List UInt8} (found : lists[k]? = some member)
    (inside : i < member.length) :
    lists.flatten.getD (((lists.map List.length).take k).sum + i) 0 = member.getD i 0 := by
  obtain ⟨below, rfl⟩ := List.getElem?_eq_some_iff.mp found
  have split : lists = lists.take k ++ lists[k] :: lists.drop (k + 1) := by simp
  have front : (lists.take k).flatten.length = ((lists.map List.length).take k).sum := by
    rw [List.length_flatten, List.map_take]
  have here : lists.flatten = (lists.take k).flatten ++ (lists[k] ++ (lists.drop (k + 1)).flatten) := by
    conv_lhs => rw [split]
    rw [List.flatten_append, List.flatten_cons]
  rw [here, ← front, List.getD_append_right _ _ _ _ (Nat.le_add_right ..), Nat.add_sub_cancel_left,
    List.getD_append _ _ _ _ inside]

variable (greeting : Greeting) (k : Nat)

theorem member_byte {member : List UInt8} (found : greeting.members[k]? = some member) {i : Nat}
    (inside : i < member.length) :
    greeting.message.bytes.getD ((memberSizes.take k).sum + i) 0 = member.getD i 0 := by
  rw [← members_sizes greeting]
  exact flatten_byte found inside

/-- A number is read back. -/
theorem member_number {value count : Nat} (found : greeting.members[k]? = some (number value count))
    (fits : value < 256 ^ count) :
    littleEndian (fun i => greeting.message.bytes.getD i 0) (memberSizes.take k).sum count = value := by
  refine littleEndian_bytes fits fun i below => ?_
  rw [member_byte greeting k found (by rwa [number_length]), List.getD_eq_getElem _ _ (by rwa [number_length])]
  simp [number]

/-- An array is read back. -/
theorem member_array {size : Nat} (array : Vector UInt8 size) (found : greeting.members[k]? = some array.toList) :
    (Vector.ofFn fun i : Fin size => greeting.message.bytes.getD ((memberSizes.take k).sum + i) 0) = array := by
  refine Vector.ext fun i below => ?_
  rw [Vector.getElem_ofFn, member_byte greeting k found (by simpa using below),
    List.getD_eq_getElem _ _ (by simpa using below)]
  simp

/-- The members are read back from their places. -/
theorem read_message (greeting : Greeting) : Greeting.read greeting.message.bytes = greeting := by
  have lid := member_number greeting 0 rfl greeting.qpParams.lid.toNat_lt
  have qpNum := member_number greeting 2 rfl greeting.qpParams.qpNum.toNat_lt
  have psn := member_number greeting 3 rfl greeting.qpParams.psn.toNat_lt
  have gid := member_array greeting 4 greeting.qpParams.gid rfl
  have portNum := member_number greeting 5 rfl greeting.qpParams.portNum.toNat_lt
  have gidIndex := member_number greeting 6 rfl greeting.qpParams.gidIndex.toNat_lt
  have mtu := member_number greeting 8 rfl greeting.qpParams.mtu.toNat_lt
  have addr := member_number greeting 10 rfl greeting.recvBufferInfo.addr.toNat_lt
  have rkey := member_number greeting 11 rfl greeting.recvBufferInfo.rkey.toNat_lt
  have length := member_number greeting 12 rfl greeting.recvBufferInfo.length.toNat_lt
  have connId := member_number greeting 13 rfl greeting.connId.toNat_lt
  have version := member_number greeting 14 rfl greeting.version.toNat_lt
  have flags := member_number greeting 15 rfl greeting.flags.toNat_lt
  have hostname := member_array greeting 16 greeting.hostname rfl
  simp only [memberSizes, List.take, List.sum_cons, List.sum_nil, Nat.reduceAdd]
    at lid qpNum psn gid portNum gidIndex mtu addr rkey length connId version flags hostname
  rw [Greeting.read]
  dsimp only
  rw [lid, qpNum, psn, gid, portNum, gidIndex, mtu, addr, rkey, length, connId, version, flags, hostname]
  simp

/-! ### One message on a channel -/

section Channel
variable {channel : TcpHandshakeChannel} (connected : 0 ≤ channel.fd) {greeting : Greeting} {answers : List Answer}
include connected

/-- A `receive` that succeeds has got the whole message. -/
theorem receive_message {stream : List UInt8} (written : stream <+: greeting.message.bytes) {status : Status}
    (returned : (channel.receive stream answers).status = some status) (ok : status.ok = true) :
    stream = greeting.message.bytes ∧ Greeting.read (channel.receive stream answers).moved = greeting := by
  have receives := receive_receives connected stream answers
  have whole := (receives.ok status returned).mp ok
  have front : (channel.receive stream answers).moved <+: greeting.message.bytes :=
    (List.prefix_append ..).trans (receives.stream ▸ written)
  have moved := front.eq_of_length (whole.trans greeting.message.size.symm)
  have long : greeting.message.bytes.length ≤ stream.length := by
    have all := congrArg List.length receives.stream
    rw [List.length_append, whole] at all
    rw [greeting.message.size]
    omega
  exact ⟨written.eq_of_length_le long, by rw [moved, read_message]⟩

end Channel

end Rdma.HandshakeMessages
