import Rdma.BufferPools
import Rdma.Connections
import Rdma.KvProtocols
import Rdma.Tilings

/-!
The PUT requests of the client of the key-value example (`kv_client.h`,
`kv_client.cpp`). A request is built in a buffer of the client's pool: the
header, for a segmented PUT the segment descriptors, and the value. A write
behind the end of the buffer is undefined. `fillPut_spec` and `fillPutSGL_spec`
say what a request that fits is, `fillPutSGL_overruns` that no other is built.
-/
namespace Rdma.KvClients
open Rdma.Types Rdma.Arrays Rdma.WrIds Rdma.QueuePairs Rdma.Connections Rdma.BufferPools Rdma.Tilings
open Rdma.KvProtocols

/-- `memory` holds the bytes of the buffer at an address. -/
structure KVClient where
  bufferPool : LocalBufferPool
  memory : UInt64 → Nat → UInt8
  conn : Connection
  postedSendBuffers : UInt64 → Option Buffer

/-- The pool that `Connect` creates. -/
def KVClient.bufferPoolConfig : BufferPoolConfig := { bufferSize := MAX_RESPONSE_SIZE.toUInt64, bufferCount := 256 }

def KVClient.bytesOf (client : KVClient) (buf : Buffer) : Cells UInt8 := ⟨buf.length.toNat, client.memory buf.addr⟩

/-- Every byte of a value. -/
def fillByte (key : UInt64) : UInt8 := (key &&& 0xFF).toUInt8

/-- Track the buffer and send its first `totalSize` bytes; the status of `Send` is dropped. -/
def KVClient.sendRequest (client : KVClient) (buf : Buffer) (filled : Cells UInt8) (totalSize : UInt64) (seq : UInt32) :
    KVClient :=
  let wrId := encode client.conn.connId .requestSend 0 seq
  { client with
    memory := Function.update client.memory buf.addr filled.cell
    postedSendBuffers := Function.update client.postedSendBuffers wrId (some buf)
    conn := (client.conn.send (buf.slice 0 totalSize) wrId).2 }

/-- The part of `SendPut` that fills the buffer, with the total size. -/
def fillPut (memory : Cells UInt8) (key : UInt64) (valueSize : UInt32) : Option (Cells UInt8 × UInt64) := do
  let memory ← memory.store 0 HEADER_SIZE (RequestHeader.setPut key valueSize 0).bytes
  let memory ← memory.store HEADER_SIZE valueSize.toNat fun _ => fillByte key
  let totalSize := HEADER_SIZE.toUInt64 + valueSize.toUInt64
  some (memory, totalSize)

def KVClient.sendPut (client : KVClient) (key : UInt64) (valueSize seq : UInt32) : Option KVClient := do
  let (sendBuf, bufferPool) ← client.bufferPool.allocate
  let client := { client with bufferPool }
  if !sendBuf.isValid then some client
  else
    let (filled, totalSize) ← fillPut (client.bytesOf sendBuf) key valueSize
    some (client.sendRequest sendBuf filled totalSize seq)

/-- The size of segment `i`: the first segments take the remainder. -/
def segmentSize (baseSegmentSize remainder : UInt32) (i : Nat) : UInt32 :=
  baseSegmentSize + if i < remainder.toNat then 1 else 0

/-- The loop that writes the descriptors, from the `i`th on. -/
def writeDescriptors (baseSegmentSize remainder : UInt32) : Nat → Nat → UInt32 → Cells UInt8 → Option (Cells UInt8)
  | 0, _, _, memory => some memory
  | left + 1, i, offset, memory => do
    let segSize := segmentSize baseSegmentSize remainder i
    let memory ← memory.store (HEADER_SIZE + i * DESCRIPTOR_SIZE) DESCRIPTOR_SIZE
      (SegmentDescriptor.mk offset segSize).bytes
    writeDescriptors baseSegmentSize remainder left (i + 1) (offset + segSize) memory

/-- The part of `SendPutSGL` that fills the buffer, with the total size. A division by zero is undefined. -/
def fillPutSGL (memory : Cells UInt8) (key : UInt64) (valueSize : UInt32) (numSegments : Int32) :
    Option (Cells UInt8 × UInt64) :=
  if numSegments = 0 then none
  else do
    let baseSegmentSize := valueSize / numSegments.toUInt32
    let remainder := valueSize % numSegments.toUInt32
    let memory ← memory.store 0 HEADER_SIZE (RequestHeader.setPut key valueSize numSegments.toUInt32.toUInt8).bytes
    let headerTotal := HEADER_SIZE.toUInt64 + numSegments.toInt64.toUInt64 * DESCRIPTOR_SIZE.toUInt64
    let memory ← writeDescriptors baseSegmentSize remainder numSegments.toNatClampNeg 0 0 memory
    let memory ← memory.store headerTotal.toNat valueSize.toNat fun _ => fillByte key
    let totalSize := headerTotal + valueSize.toUInt64
    some (memory, totalSize)

def KVClient.sendPutSGL (client : KVClient) (key : UInt64) (valueSize : UInt32) (numSegments : Int32) (seq : UInt32) :
    Option KVClient := do
  let (headerBuf, bufferPool) ← client.bufferPool.allocate
  let client := { client with bufferPool }
  if !headerBuf.isValid then some client
  else
    let (filled, totalSize) ← fillPutSGL (client.bytesOf headerBuf) key valueSize numSegments
    some (client.sendRequest headerBuf filled totalSize seq)

/-! ### What a request is -/

/-- The size of header, descriptors and value. -/
def messageSize (valueSize : UInt32) (segments : Nat) : Nat :=
  HEADER_SIZE + segments * DESCRIPTOR_SIZE + valueSize.toNat

/-- A PUT of the client: the header says the key, the size and the segments, and the value follows the descriptors. -/
structure IsPut (bytes : Nat → UInt8) (key : UInt64) (valueSize : UInt32) (segments : UInt8) : Prop where
  header : RequestHeader.read bytes = .setPut key valueSize segments
  value : ∀ i < valueSize.toNat, bytes (HEADER_SIZE + segments.toNat * DESCRIPTOR_SIZE + i) = fillByte key

/-- The descriptors that follow the header. -/
def descriptorsOf (bytes : Nat → UInt8) (segments : Nat) : List SegmentDescriptor :=
  (List.range segments).map fun i => SegmentDescriptor.read bytes (HEADER_SIZE + i * DESCRIPTOR_SIZE)

/-- The segments fill the value. -/
def Segmented (bytes : Nat → UInt8) (valueSize : UInt32) (segments : Nat) : Prop :=
  Tiles (fun segment : SegmentDescriptor => segment.offset.toNat) (fun segment => segment.length.toNat) 0
    (descriptorsOf bytes segments) valueSize.toNat

/-- Each byte of the value lies in exactly one segment. -/
theorem segmented_once {bytes : Nat → UInt8} {valueSize : UInt32} {count : Nat}
    (segmented : Segmented bytes valueSize count) (position : Nat) :
    ((descriptorsOf bytes count).countP fun segment =>
      segment.offset.toNat ≤ position ∧ position < segment.offset.toNat + segment.length.toNat) =
        if position < valueSize.toNat then 1 else 0 := by
  have once := tiles_once segmented position
  simpa using once

theorem IsPut.congr {bytes data : Nat → UInt8} {key : UInt64} {valueSize : UInt32} {segments : UInt8}
    (put : IsPut bytes key valueSize segments) (same : ∀ i < messageSize valueSize segments.toNat, data i = bytes i) :
    IsPut data key valueSize segments := by
  constructor
  · rw [← put.header]
    refine header_congr fun i inside => same i ?_
    rw [messageSize, Nat.add_assoc]
    exact Nat.lt_add_right _ inside
  · intro i inside
    rw [same _ (Nat.add_lt_add_left inside _)]
    exact put.value i inside

/-! ### What fills the buffer -/

section Fills
variable {memory filled : Cells UInt8} {key : UInt64} {valueSize : UInt32}

/-- The descriptors that the loop writes. -/
def segments (baseSegmentSize remainder : UInt32) : Nat → Nat → UInt32 → List SegmentDescriptor
  | 0, _, _ => []
  | left + 1, i, offset =>
    ⟨offset, segmentSize baseSegmentSize remainder i⟩ ::
      segments baseSegmentSize remainder left (i + 1) (offset + segmentSize baseSegmentSize remainder i)

/-- The loop writes the descriptors one behind the other and nothing before them. -/
theorem writeDescriptors_spec (baseSegmentSize remainder : UInt32) {left i : Nat} (offset : UInt32)
    (fits : HEADER_SIZE + (i + left) * DESCRIPTOR_SIZE ≤ memory.size) :
    ∃ filled, writeDescriptors baseSegmentSize remainder left i offset memory = some filled ∧
      filled.size = memory.size ∧ (∀ j < HEADER_SIZE + i * DESCRIPTOR_SIZE, filled.cell j = memory.cell j) ∧
      ((List.range left).map fun k => SegmentDescriptor.read filled.cell (HEADER_SIZE + (i + k) * DESCRIPTOR_SIZE)) =
        segments baseSegmentSize remainder left i offset := by
  have next : ∀ k, HEADER_SIZE + (k + 1) * DESCRIPTOR_SIZE = HEADER_SIZE + k * DESCRIPTOR_SIZE + DESCRIPTOR_SIZE :=
    fun k => by rw [Nat.succ_mul, Nat.add_assoc]
  induction left generalizing i offset memory with
  | zero => exact ⟨memory, rfl, rfl, fun _ _ => rfl, rfl⟩
  | succ left ih =>
    let segSize := segmentSize baseSegmentSize remainder i
    let pasted := memory.paste (HEADER_SIZE + i * DESCRIPTOR_SIZE) DESCRIPTOR_SIZE (SegmentDescriptor.mk offset segSize).bytes
    have behind : HEADER_SIZE + (i + 1 + left) * DESCRIPTOR_SIZE ≤ pasted.size := by
      rwa [Nat.add_assoc, Nat.add_comm 1]
    have room : HEADER_SIZE + i * DESCRIPTOR_SIZE + DESCRIPTOR_SIZE ≤ memory.size := by
      rw [← next]
      exact (Nat.add_le_add_left (Nat.mul_le_mul_right _ (Nat.le_add_right ..)) _).trans behind
    obtain ⟨filled, writes, size, kept, reads⟩ := ih (offset + segSize) behind
    rw [next] at kept
    refine ⟨filled, ?_, size, fun j before => ?_, ?_⟩
    · rw [writeDescriptors, store_inside room]
      exact writes
    · rw [kept j (Nat.lt_add_right _ before)]
      exact paste_outside _ _ (.inl before)
    · rw [List.range_succ_eq_map, List.map_cons, List.map_map, segments, ← reads]
      refine congrArg₂ List.cons ?_ (List.map_congr_left fun k _ => ?_)
      · refine read_descriptor fun j below => ?_
        rw [Nat.add_zero, kept _ (Nat.add_lt_add_left below _)]
        exact paste_inside _ _ below _
      · rw [Function.comp_apply, Nat.succ_eq_add_one, Nat.add_comm k, Nat.add_assoc]

theorem writeDescriptors_size {baseSegmentSize remainder : UInt32} {left i : Nat} {offset : UInt32}
    (writes : writeDescriptors baseSegmentSize remainder left i offset memory = some filled) :
    filled.size = memory.size := by
  induction left generalizing i offset memory with
  | zero => exact congrArg Cells.size (Option.some.inj writes).symm
  | succ left ih =>
    rw [writeDescriptors, Option.bind_eq_bind, Option.bind_eq_some_iff] at writes
    obtain ⟨pasted, wrote, rest⟩ := writes
    obtain ⟨-, rfl⟩ := store_some wrote
    have kept := ih rest
    exact kept

theorem segmentSize_toNat {baseSegmentSize : UInt32} (small : baseSegmentSize.toNat + 1 < 2 ^ 32) (remainder : UInt32)
    (i : Nat) : (segmentSize baseSegmentSize remainder i).toNat = baseSegmentSize.toNat + if i < remainder.toNat then 1 else 0 := by
  rw [segmentSize, UInt32.toNat_add]
  split
  · exact Nat.mod_eq_of_lt small
  · exact Nat.mod_eq_of_lt (Nat.lt_of_succ_lt small)

/-- The segments lie end to end. -/
theorem segments_tile {baseSegmentSize : UInt32} (small : baseSegmentSize.toNat + 1 < 2 ^ 32) (remainder : UInt32)
    {left : Nat} (i : Nat) (offset : UInt32)
    (fits : offset.toNat + left * baseSegmentSize.toNat + min left (remainder.toNat - i) < 2 ^ 32) :
    Tiles (fun segment : SegmentDescriptor => segment.offset.toNat) (fun segment => segment.length.toNat) offset.toNat
      (segments baseSegmentSize remainder left i offset)
      (offset.toNat + left * baseSegmentSize.toNat + min left (remainder.toNat - i)) := by
  induction left generalizing i offset with
  | zero => simp [segments, Tiles]
  | succ left ih =>
    have size := segmentSize_toNat small remainder i
    rw [Nat.succ_mul] at fits ⊢
    have sum : (offset + segmentSize baseSegmentSize remainder i).toNat =
        offset.toNat + (segmentSize baseSegmentSize remainder i).toNat := by
      rw [UInt32.toNat_add, size]
      refine Nat.mod_eq_of_lt ?_
      split <;> omega
    have stop : (offset + segmentSize baseSegmentSize remainder i).toNat + left * baseSegmentSize.toNat +
        min left (remainder.toNat - (i + 1)) =
          offset.toNat + (left * baseSegmentSize.toNat + baseSegmentSize.toNat) + min (left + 1) (remainder.toNat - i) := by
      rw [sum, size]
      split <;> omega
    have rest := ih (i + 1) (offset + segmentSize baseSegmentSize remainder i) (stop ▸ fits)
    rw [stop, sum] at rest
    exact ⟨rfl, rest⟩

/-- A value divided into segments. -/
theorem divided_tiles {divisor : UInt32} (some_ : 1 ≤ divisor.toNat) (small : valueSize.toNat + 1 < 2 ^ 32) :
    Tiles (fun segment : SegmentDescriptor => segment.offset.toNat) (fun segment => segment.length.toNat) 0
      (segments (valueSize / divisor) (valueSize % divisor) divisor.toNat 0 0) valueSize.toNat := by
  have divided : divisor.toNat * (valueSize / divisor).toNat + (valueSize % divisor).toNat = valueSize.toNat := by
    rw [UInt32.toNat_div, UInt32.toNat_mod]
    exact Nat.div_add_mod ..
  have less : (valueSize % divisor).toNat < divisor.toNat := by
    rw [UInt32.toNat_mod]
    exact Nat.mod_lt _ some_
  have base : (valueSize / divisor).toNat + 1 < 2 ^ 32 := by
    rw [UInt32.toNat_div]
    exact (Nat.succ_le_succ (Nat.div_le_self ..)).trans_lt small
  have whole : (0 : UInt32).toNat + divisor.toNat * (valueSize / divisor).toNat +
      min divisor.toNat ((valueSize % divisor).toNat - 0) = valueSize.toNat := by
    rw [UInt32.toNat_zero]
    omega
  have tiles := segments_tile base (valueSize % divisor) 0 0 (whole ▸ valueSize.toNat_lt)
  rwa [whole] at tiles

/-- The casts of a number of segments that the protocol allows. -/
theorem segment_casts {numSegments : Int32} {count : Nat} (few : count ≤ MAX_SEGMENTS.toNat)
    (same : numSegments.toInt = count) : numSegments.toUInt32.toNat = count ∧
      numSegments.toUInt32.toUInt8.toNat = count ∧ numSegments.toNatClampNeg = count ∧
        numSegments.toInt64.toUInt64.toNat = count := by
  have casts : ∀ one < 17, (Int32.ofNat one).toInt = one ∧ (Int32.ofNat one).toUInt32.toNat = one ∧
      (Int32.ofNat one).toUInt32.toUInt8.toNat = one ∧ (Int32.ofNat one).toNatClampNeg = one ∧
        (Int32.ofNat one).toInt64.toUInt64.toNat = one := by decide
  obtain ⟨int, rest⟩ := casts count (Nat.lt_succ_of_le few)
  obtain rfl : numSegments = Int32.ofNat count := Int32.toInt_inj.mp (same.trans int.symm)
  exact rest

theorem headerTotal_toNat {numSegments : Int32} {count : Nat} (few : count ≤ MAX_SEGMENTS.toNat)
    (same : numSegments.toInt = count) :
    (HEADER_SIZE.toUInt64 + numSegments.toInt64.toUInt64 * DESCRIPTOR_SIZE.toUInt64).toNat =
      HEADER_SIZE + count * DESCRIPTOR_SIZE := by
  obtain ⟨-, -, -, long⟩ := segment_casts few same
  have small : count ≤ 16 := few
  rw [UInt64.toNat_add, UInt64.toNat_mul, long]
  have product : count * DESCRIPTOR_SIZE.toUInt64.toNat % 2 ^ 64 = count * DESCRIPTOR_SIZE :=
    Nat.mod_eq_of_lt (show count * 8 < 2 ^ 64 by omega)
  rw [product]
  exact Nat.mod_eq_of_lt (show 16 + count * 8 < 2 ^ 64 by omega)

/-- The total that `SendPutSGL` computes is the size of the message. -/
theorem total_toNat {numSegments : Int32} {count : Nat} (few : count ≤ MAX_SEGMENTS.toNat)
    (same : numSegments.toInt = count) (valueSize : UInt32) :
    (HEADER_SIZE.toUInt64 + numSegments.toInt64.toUInt64 * DESCRIPTOR_SIZE.toUInt64 + valueSize.toUInt64).toNat =
      messageSize valueSize count := by
  have small : count ≤ 16 := few
  have word := valueSize.toNat_lt
  rw [UInt64.toNat_add, headerTotal_toNat few same, UInt32.toNat_toUInt64]
  exact Nat.mod_eq_of_lt (show 16 + count * 8 + valueSize.toNat < 2 ^ 64 by omega)

theorem nonzero_of_count {numSegments : Int32} {count : Nat} (some_ : 1 ≤ count) (same : numSegments.toInt = count) :
    numSegments ≠ 0 := by
  rintro rfl
  have zero : (0 : Int) = count := same
  omega

/-- A request that fits the buffer is header, descriptors and value. -/
theorem fillPutSGL_spec {numSegments : Int32} {count : Nat} (some_ : 1 ≤ count) (few : count ≤ MAX_SEGMENTS.toNat)
    (same : numSegments.toInt = count) (small : valueSize.toNat + 1 < 2 ^ 32)
    (fits : messageSize valueSize count ≤ memory.size) (key : UInt64) :
    ∃ filled total, fillPutSGL memory key valueSize numSegments = some (filled, total) ∧
      total.toNat = messageSize valueSize count ∧ IsPut filled.cell key valueSize numSegments.toUInt32.toUInt8 ∧
      Segmented filled.cell valueSize count := by
  obtain ⟨word, byte, loops, -⟩ := segment_casts few same
  have total := headerTotal_toNat few same
  have room : 0 + HEADER_SIZE ≤ memory.size := by
    rw [messageSize] at fits
    omega
  let headed := memory.paste 0 HEADER_SIZE (RequestHeader.setPut key valueSize numSegments.toUInt32.toUInt8).bytes
  have behind : HEADER_SIZE + (0 + count) * DESCRIPTOR_SIZE ≤ headed.size := by
    rw [Nat.zero_add]
    exact (Nat.le_add_right ..).trans fits
  obtain ⟨described, writes, size, kept, reads⟩ := writeDescriptors_spec (valueSize / numSegments.toUInt32)
    (valueSize % numSegments.toUInt32) 0 behind
  have last : HEADER_SIZE + count * DESCRIPTOR_SIZE + valueSize.toNat ≤ described.size := size ▸ fits
  let filled := described.paste (HEADER_SIZE + count * DESCRIPTOR_SIZE) valueSize.toNat fun _ => fillByte key
  have before : ∀ i < HEADER_SIZE + count * DESCRIPTOR_SIZE, filled.cell i = described.cell i :=
    fun i front => paste_outside _ _ (.inl front)
  refine ⟨filled, _, ?_, total_toNat few same valueSize, ⟨?_, ?_⟩, ?_⟩
  · unfold fillPutSGL
    rw [if_neg (nonzero_of_count some_ same), store_inside room, Option.bind_eq_bind, Option.bind_some, loops, writes]
    dsimp only
    rw [Option.bind_some, total, store_inside last]
    rfl
  · refine read_header fun i inside => ?_
    rw [before i (Nat.lt_add_right _ inside), kept i (Nat.lt_add_right _ inside)]
    have pasted := paste_inside memory 0 inside
      (RequestHeader.setPut key valueSize numSegments.toUInt32.toUInt8).bytes
    rwa [Nat.zero_add] at pasted
  · intro i inside
    rw [byte]
    exact paste_inside _ _ inside _
  · have descriptors : descriptorsOf filled.cell count =
        segments (valueSize / numSegments.toUInt32) (valueSize % numSegments.toUInt32) count 0 0 := by
      rw [← reads]
      refine List.map_congr_left fun k listed => ?_
      have within := List.mem_range.mp listed
      rw [Nat.zero_add]
      refine read_congr fun i below => before _ ?_
      have width : i < 8 := below
      exact show 16 + k * 8 + i < 16 + count * 8 by omega
    rw [Segmented, descriptors, ← word]
    exact divided_tiles (word ▸ some_) small

/-- A request that does not fit the buffer is written behind its end. -/
theorem fillPutSGL_overruns {numSegments : Int32} {count : Nat} (some_ : 1 ≤ count) (few : count ≤ MAX_SEGMENTS.toNat)
    (same : numSegments.toInt = count) (overruns : memory.size < messageSize valueSize count) (key : UInt64) :
    fillPutSGL memory key valueSize numSegments = none := by
  unfold fillPutSGL
  rw [if_neg (nonzero_of_count some_ same)]
  refine Option.bind_eq_none_iff.mpr fun headed wrote => ?_
  dsimp only
  refine Option.bind_eq_none_iff.mpr fun described writes => ?_
  obtain ⟨-, rfl⟩ := store_some wrote
  have size := writeDescriptors_size writes
  rw [headerTotal_toNat few same, store_outside (size ▸ overruns)]
  rfl

/-- The value of a contiguous PUT follows the header. -/
theorem fillPut_spec (fits : messageSize valueSize 0 ≤ memory.size) (key : UInt64) :
    ∃ filled total, fillPut memory key valueSize = some (filled, total) ∧ total.toNat = messageSize valueSize 0 ∧
      IsPut filled.cell key valueSize 0 := by
  have header : HEADER_SIZE = 16 := rfl
  have room : 0 + HEADER_SIZE ≤ memory.size := by
    rw [messageSize] at fits
    omega
  let headed := memory.paste 0 HEADER_SIZE (RequestHeader.setPut key valueSize 0).bytes
  have last : HEADER_SIZE + valueSize.toNat ≤ headed.size := by
    rw [messageSize, Nat.zero_mul, Nat.add_zero] at fits
    exact fits
  refine ⟨headed.paste HEADER_SIZE valueSize.toNat fun _ => fillByte key, HEADER_SIZE.toUInt64 + valueSize.toUInt64,
    ?_, ?_, ⟨?_, ?_⟩⟩
  · unfold fillPut
    rw [store_inside room, Option.bind_eq_bind, Option.bind_some, store_inside last]
    rfl
  · have word := valueSize.toNat_lt
    rw [UInt64.toNat_add, UInt32.toNat_toUInt64]
    exact Nat.mod_eq_of_lt (show 16 + valueSize.toNat < 2 ^ 64 by omega)
  · refine read_header fun i inside => ?_
    rw [paste_outside _ _ (.inl inside)]
    have pasted := paste_inside memory 0 inside (RequestHeader.setPut key valueSize 0).bytes
    rwa [Nat.zero_add] at pasted
  · intro i inside
    exact paste_inside headed HEADER_SIZE inside _

end Fills

end Rdma.KvClients
