import Rdma.KvClients
import Rdma.KvMaps
import Rdma.KvServers

/-!
PUT requests from the client's buffer to the server's store. The client's
buffers hold a response with the largest value: a contiguous PUT of any valid
size fits (`put_round_trips`), but the descriptors of a segmented PUT leave no room for the
largest value (`put_sgl_round_trips_iff`). A request that fits is sent whole,
and the server stores the value the client wrote (`served_put`).
-/
namespace Rdma.KvPuts
open Rdma.Types Rdma.Verbs Rdma.Arrays Rdma.WrIds Rdma.QueuePairs Rdma.Connections Rdma.BufferPools
open Rdma.KvProtocols Rdma.KvStores Rdma.KvMaps Rdma.KvServers Rdma.KvClients

/-- The value that the client fills in. -/
def valueBytes (key : UInt64) (valueSize : UInt32) : List UInt8 := List.replicate valueSize.toNat (fillByte key)

/-- No slot is free, or the key has no value and no position of the table is empty. -/
def Full (width : Nat) (store : KVStore) (contents : Contents) (key : UInt64) : Prop :=
  store.freeSlots = [] ∨ contents key = none ∧ ∀ index < 2 ^ width, (live store.hashTable).cell index ≠ none

/-- The value is stored under the key; a full store stays as it is. -/
def Stored (width : Nat) (store next : KVStore) (contents : Contents) (key : UInt64) (value : List UInt8) : Prop :=
  Represents width next (Function.update contents key (some value)) ∨ Full width store contents key ∧ next = store

/-! ### The server -/

section Server
variable {width : Nat} {contents : Contents} {key : UInt64} {valueSize : UInt32} {segments : UInt8}

theorem put_stored {store : KVStore} (consistent : Consistent hashKey width store)
    (represents : Represents width store contents) (valid : isValidValueSize valueSize = true) {valueData : Nat → UInt8}
    (same : ∀ i < valueSize.toNat, valueData i = fillByte key) :
    ∃ status next, store.put hashKey key valueData valueSize = some (status, next) ∧
      Stored width store next contents key (valueBytes key valueSize) := by
  obtain ⟨status, next, puts, did⟩ := put_cases consistent key valueData valueSize
  have after := put_represents consistent represents did
  have value : (List.range valueSize.toNat).map valueData = valueBytes key valueSize := by
    refine List.eq_replicate_iff.mpr ⟨by simp, fun byte listed => ?_⟩
    obtain ⟨i, inside, rfl⟩ := List.mem_map.mp listed
    exact same i (List.mem_range.mp inside)
  refine ⟨status, next, puts, ?_⟩
  cases did with
  | invalid wrong => exact absurd valid (by simp [wrong])
  | noSlot none_ => exact .inr ⟨.inl none_, rfl⟩
  | full absent taken =>
    refine .inr ⟨.inr ⟨?_, taken⟩, rfl⟩
    by_contra known
    obtain ⟨held, found⟩ := Option.ne_none_iff_exists'.mp known
    obtain ⟨index, inside, entry, filled, alike, -⟩ := (represents key held).mp found
    exact absent index inside entry filled alike
  | update index entry _ inside filled same =>
    rw [Contents.after, value] at after
    exact .inl after
  | insert index slotIndex _ absent last vacant =>
    rw [Contents.after, value] at after
    exact .inl after

/-- A request that is exactly as long as its header says is stored. -/
theorem storeValue_whole (server : KVServer) (header : RequestHeader) (data : Nat → UInt8) :
    server.storeValue header data (messageSize header.valueSize header.segmentCount.toNat) =
      server.store.put hashKey header.key
        (fun i => data (HEADER_SIZE + header.segmentCount.toNat * DESCRIPTOR_SIZE + i)) header.valueSize := by
  have whole : ¬messageSize header.valueSize header.segmentCount.toNat < valueStart header + header.valueSize.toNat :=
    Nat.lt_irrefl _
  rw [storeValue_eq, if_neg whole]
  rfl

/-- `ProcessPut` changes the store as `storeValue` says, whether it can respond or not. -/
theorem processPut_store {server : KVServer} {header : RequestHeader} {data : Nat → UInt8} {requestLen : Nat}
    {status : KvProtocols.Status} {store : KVStore}
    (stored : server.storeValue header data requestLen = some (status, store)) (ctx : ConnectionContext) :
    ∃ after ctx', server.processPut ctx header data requestLen = some (after, ctx') ∧ after.store = store := by
  unfold KVServer.processPut
  rw [stored, Option.bind_eq_bind, Option.bind_some]
  dsimp only
  have same : ({ server with store := store }.allocate).2.store = store := by
    unfold KVServer.allocate
    split <;> rfl
  split
  · exact ⟨_, _, rfl, same⟩
  · exact ⟨_, _, rfl, same⟩

/-- The server stores the value of a whole PUT. -/
theorem served_put {server : KVServer} (consistent : Consistent hashKey width server.store)
    (represents : Represents width server.store contents) {data : Nat → UInt8} (put : IsPut data key valueSize segments)
    (valid : isValidValueSize valueSize = true) (ctx : ConnectionContext) :
    ∃ after ctx', server.processRequest ctx data (messageSize valueSize segments.toNat) = some (after, ctx') ∧
      Stored width server.store after.store contents key (valueBytes key valueSize) := by
  obtain ⟨status, next, puts, stored⟩ := put_stored consistent represents valid put.value
  have value : server.storeValue (.setPut key valueSize segments) data (messageSize valueSize segments.toNat) =
      some (status, next) := (storeValue_whole server (.setPut key valueSize segments) data).trans puts
  obtain ⟨after, ctx', processed, same⟩ := processPut_store value ctx
  refine ⟨after, ctx', ?_, same ▸ stored⟩
  have long : ¬messageSize valueSize segments.toNat < HEADER_SIZE := by
    rw [messageSize, Nat.add_assoc]
    exact Nat.not_lt.mpr (Nat.le_add_right ..)
  unfold KVServer.processRequest
  rw [if_neg long, put.header]
  exact processed

end Server

/-! ### The round trip -/

/-- The message is sent whole and the server stores its value. -/
structure RoundTrip (client next : KVClient) (buf : Buffer) (key : UInt64) (valueSize : UInt32) (segments : UInt8) :
    Prop where
  message : IsPut (next.memory buf.addr) key valueSize segments
  sent : ∃ wr accepted, next.conn.qp.device.sends = client.conn.qp.device.sends ++ [(wr, accepted)] ∧
    wr.opcode = .send ∧ wr.sgList = [⟨buf.addr, (messageSize valueSize segments.toNat).toUInt32, buf.lkey⟩]
  stored : ∀ (server : KVServer) (ctx : ConnectionContext) (width : Nat) (contents : Contents) (data : Nat → UInt8),
    Consistent hashKey width server.store → Represents width server.store contents →
    (∀ i < messageSize valueSize segments.toNat, data i = next.memory buf.addr i) →
    ∃ after ctx', server.processRequest ctx data (messageSize valueSize segments.toNat) = some (after, ctx') ∧
      Stored width server.store after.store contents key (valueBytes key valueSize)

section RoundTrips
variable {client : KVClient} {buf : Buffer} {bufferPool : LocalBufferPool} {key : UInt64} {valueSize seq : UInt32}

theorem sendRequest_memory (client : KVClient) (buf : Buffer) (filled : Cells UInt8) (total : UInt64) (seq : UInt32) :
    (client.sendRequest buf filled total seq).memory buf.addr = filled.cell := Function.update_self ..

/-- A request that fits the buffer makes the round trip. -/
theorem sendRequest_roundTrip (bufferPool : LocalBufferPool) (seq : UInt32) (connected : client.conn.state = .connected)
    {filled : Cells UInt8} {total : UInt64} {segments : UInt8} (put : IsPut filled.cell key valueSize segments)
    (valid : isValidValueSize valueSize = true) (whole : total.toNat = messageSize valueSize segments.toNat)
    (fits : total.toNat ≤ (client.bytesOf buf).size) (nonempty : 0 < (client.bytesOf buf).size) :
    RoundTrip client ({ client with bufferPool := bufferPool }.sendRequest buf filled total seq) buf key valueSize
      segments := by
  have slice : buf.slice 0 total = ⟨buf.addr, total, buf.lkey⟩ := by
    rw [Buffer.slice, if_neg, UInt64.add_zero]
    rw [UInt64.zero_add]
    rintro (none_ | long)
    · exact Nat.not_le.mpr nonempty (UInt64.le_iff_toNat_le.mp none_)
    · exact Nat.not_le.mpr (UInt64.lt_iff_toNat_lt.mp long) fits
  constructor
  · rwa [sendRequest_memory]
  · unfold KVClient.sendRequest
    dsimp only
    rw [send_conn connected, slice]
    refine ⟨_, _, rfl, rfl, ?_⟩
    rw [← whole]
    exact congrArg (fun length => [Sge.mk buf.addr length buf.lkey]) (UInt32.toNat_inj.mp (by simp))
  · intro server ctx width contents data consistent represents same
    rw [sendRequest_memory] at same
    exact served_put consistent represents (put.congr same) valid ctx

theorem bytesOf_size (sized : client.bufferPool.bufferSize = KVClient.bufferPoolConfig.bufferSize)
    (allocated : client.bufferPool.allocate = some (buf, bufferPool)) (free : buf.isValid = true) :
    (client.bytesOf buf).size = 65552 := by
  rw [KVClient.bytesOf, allocate_length allocated free, sized]
  rfl

theorem sendPut_eq (allocated : client.bufferPool.allocate = some (buf, bufferPool)) (free : buf.isValid = true) :
    client.sendPut key valueSize seq = (fillPut (client.bytesOf buf) key valueSize).bind fun request =>
      some ({ client with bufferPool := bufferPool }.sendRequest buf request.1 request.2 seq) := by
  unfold KVClient.sendPut
  rw [allocated, Option.bind_eq_bind, Option.bind_some]
  dsimp only
  rw [free]
  rfl

theorem sendPutSGL_eq (allocated : client.bufferPool.allocate = some (buf, bufferPool)) (free : buf.isValid = true)
    (numSegments : Int32) : client.sendPutSGL key valueSize numSegments seq =
      (fillPutSGL (client.bytesOf buf) key valueSize numSegments).bind fun request =>
        some ({ client with bufferPool := bufferPool }.sendRequest buf request.1 request.2 seq) := by
  unfold KVClient.sendPutSGL
  rw [allocated, Option.bind_eq_bind, Option.bind_some]
  dsimp only
  rw [free]
  rfl

/-- A contiguous PUT of any valid size makes the round trip. -/
theorem put_round_trips (sized : client.bufferPool.bufferSize = KVClient.bufferPoolConfig.bufferSize)
    (allocated : client.bufferPool.allocate = some (buf, bufferPool)) (free : buf.isValid = true)
    (connected : client.conn.state = .connected) (valid : isValidValueSize valueSize = true) :
    ∃ next, client.sendPut key valueSize seq = some next ∧ RoundTrip client next buf key valueSize 0 := by
  have room := bytesOf_size sized allocated free
  have small := valid_le valid
  have fits : messageSize valueSize 0 ≤ (client.bytesOf buf).size := by
    rw [room]
    exact show 16 + 0 * 8 + valueSize.toNat ≤ 65552 by omega
  obtain ⟨filled, total, fills, whole, put⟩ := fillPut_spec fits key
  rw [sendPut_eq allocated free, fills]
  exact ⟨_, rfl, sendRequest_roundTrip bufferPool seq connected put valid whole (whole ▸ fits) (by rw [room]; decide)⟩

/-- A segmented PUT is written inside its buffer, cut into segments that fill the value, sent whole and stored by the
server exactly if the value is not the largest. -/
theorem put_sgl_round_trips_iff (sized : client.bufferPool.bufferSize = KVClient.bufferPoolConfig.bufferSize)
    (allocated : client.bufferPool.allocate = some (buf, bufferPool)) (free : buf.isValid = true)
    (connected : client.conn.state = .connected) (valid : isValidValueSize valueSize = true) {numSegments : Int32}
    (some_ : 1 ≤ numSegments.toInt) (few : numSegments.toInt ≤ MAX_SEGMENTS.toNat) :
    (∃ next, client.sendPutSGL key valueSize numSegments seq = some next ∧
      Segmented (next.memory buf.addr) valueSize numSegments.toInt.toNat ∧
      RoundTrip client next buf key valueSize numSegments.toUInt32.toUInt8) ↔ valueSize ≠ MAX_VALUE_SIZE := by
  obtain ⟨count, same⟩ := Int.eq_ofNat_of_zero_le (Int.le_of_lt some_)
  rw [same] at some_ few
  have least : 1 ≤ count := Int.ofNat_le.mp some_
  have most : count ≤ 16 := Int.ofNat_le.mp few
  have room := bytesOf_size sized allocated free
  rw [sendPutSGL_eq allocated free, same, Int.toNat_natCast]
  constructor
  · rintro ⟨next, sent, -, -⟩ rfl
    have overruns : (client.bytesOf buf).size < messageSize MAX_VALUE_SIZE count := by
      rw [room]
      exact show 65552 < 16 + count * 8 + 65536 by omega
    rw [fillPutSGL_overruns least most same overruns] at sent
    cases sent
  · intro smaller
    have short := valid_short valid smaller
    have fits : messageSize valueSize count ≤ (client.bytesOf buf).size := by
      rw [room]
      exact show 16 + count * 8 + valueSize.toNat ≤ 65552 by omega
    obtain ⟨filled, total, fills, whole, put, segmented⟩ := fillPutSGL_spec least most same (by omega) fits key
    obtain ⟨-, byte, -, -⟩ := segment_casts most same
    rw [fills]
    refine ⟨_, rfl, ?_, sendRequest_roundTrip bufferPool seq connected put valid (byte.symm ▸ whole) (whole ▸ fits)
      (by rw [room]; decide)⟩
    rwa [sendRequest_memory]

end RoundTrips

/-- A connected client with the pool that `Connect` creates. -/
def connectedClient : Option KVClient :=
  match create false KVClient.bufferPoolConfig ⟨some 65536, true, .ok ⟨7, 9⟩, true⟩ with
  | some (.ok bufferPool) =>
    some ⟨bufferPool, fun _ _ => 0, { connId := 7, state := .connected, qp := { config := {}, device :=
      ⟨fun _ => none, fun _ => none, [], []⟩ } }, fun _ => none⟩
  | _ => none

/-- The largest value behind two descriptors is written past the end of the buffer. -/
theorem largest_put_sgl_overruns : ∃ client buf bufferPool, connectedClient = some client ∧
    client.bufferPool.allocate = some (buf, bufferPool) ∧ buf.length = MAX_RESPONSE_SIZE.toUInt64 ∧
    isValidValueSize 65536 = true ∧ client.sendPutSGL 5 65536 2 0 = none := by
  have overruns : (connectedClient.bind fun client => client.bufferPool.allocate.map fun taken =>
      (taken.1.length, (client.sendPutSGL 5 65536 2 0).isNone)) = some (MAX_RESPONSE_SIZE.toUInt64, true) := by
    decide +kernel
  obtain ⟨client, connected, allocates⟩ := Option.bind_eq_some_iff.mp overruns
  obtain ⟨⟨buf, bufferPool⟩, allocated, same⟩ := Option.map_eq_some_iff.mp allocates
  obtain ⟨length, undefined⟩ := Prod.mk.inj same
  exact ⟨client, buf, bufferPool, connected, allocated, length, by decide, Option.isNone_iff_eq_none.mp undefined⟩

theorem three_segments_round_trip : ∃ client buf bufferPool, connectedClient = some client ∧
    client.bufferPool.allocate = some (buf, bufferPool) ∧
    ((∃ next, client.sendPutSGL 5 8192 3 0 = some next ∧ Segmented (next.memory buf.addr) 8192 3 ∧
      RoundTrip client next buf 5 8192 3) ↔ (8192 : UInt32) ≠ MAX_VALUE_SIZE) := by
  have made : (connectedClient.bind fun client => client.bufferPool.allocate.map fun taken =>
      (client.bufferPool.bufferSize, client.conn.state, taken.1.isValid)) =
        some (KVClient.bufferPoolConfig.bufferSize, .connected, true) := by decide +kernel
  obtain ⟨client, connected, allocates⟩ := Option.bind_eq_some_iff.mp made
  obtain ⟨⟨buf, bufferPool⟩, allocated, same⟩ := Option.map_eq_some_iff.mp allocates
  obtain ⟨sized, rest⟩ := Prod.mk.inj same
  obtain ⟨state, free⟩ := Prod.mk.inj rest
  exact ⟨client, buf, bufferPool, connected, allocated,
    put_sgl_round_trips_iff sized allocated free state (by decide) (by decide) (by decide)⟩

end Rdma.KvPuts
