import Rdma.Tokens

/-!
The work requests that an endpoint posts: the immediate of a read response
(`readResponse_imm_iff`), and the ids of the work requests of a request
(`wrIds_identify_iff`).
-/
namespace Rdma.WorkRequests
open Rdma.Types Rdma.BitFields Rdma.Verbs Rdma.WrIds Rdma.QueuePairs Rdma.Connections Rdma.SlotPools Rdma.Endpoints
open Rdma.SlotLedgers Rdma.EndpointRuns

/-! ### Immediate values -/

theorem immOf_toNat (slotIndex : UInt32) (generation : UInt8) :
    (immOf slotIndex generation).toNat = generation.toNat * 2 ^ 16 + slotIndex.toNat % 2 ^ 16 := by
  have small := generation.toNat_lt
  simp only [immOf, UInt32.toNat_or, UInt32.toNat_and, UInt32.toNat_shiftLeft, UInt8.toNat_toUInt32,
    UInt32.reduceToNat, Nat.reduceMod, Nat.shiftLeft_eq]
  rw [mask_eq_mod 16 _ rfl, Nat.mod_eq_of_lt (by omega)]
  exact or_eq_add 16 (by omega) (by omega)

theorem immSlotIndex_toNat (wc : Wc) : (immSlotIndex wc).toNat = (htonl wc.immData).toNat % 2 ^ 16 := by
  simp only [immSlotIndex, ntohl, UInt32.toNat_and, UInt32.reduceToNat]
  exact mask_eq_mod 16 _ rfl

theorem immGeneration_toNat (wc : Wc) : (immGeneration wc).toNat = (htonl wc.immData).toNat / 2 ^ 16 % 2 ^ 8 := by
  simp only [immGeneration, ntohl, UInt32.toNat_toUInt8, UInt32.toNat_and, UInt32.toNat_shiftRight,
    Nat.shiftRight_eq_div_pow, UInt32.reduceToNat, Nat.reduceMod]
  rw [mask_eq_mod 8 _ rfl]
  omega

/-- What `sendRequest` passes to the queue pair decodes to the token at the receiver. -/
theorem imm_roundtrip {slotIndex : UInt32} (small : slotIndex.toNat < 65536) (generation : UInt8) (wrId : UInt64) :
    immSlotIndex { wrId, immData := htonl (immOf slotIndex generation) } = slotIndex ∧
      immGeneration { wrId, immData := htonl (immOf slotIndex generation) } = generation := by
  have bound := generation.toNat_lt
  refine ⟨UInt32.toNat_inj.mp ?_, UInt8.toNat_inj.mp ?_⟩
  · rw [immSlotIndex_toNat]
    dsimp only
    rw [htonl_htonl, immOf_toNat]
    omega
  · rw [immGeneration_toNat]
    dsimp only
    rw [htonl_htonl, immOf_toNat]
    omega

/-- A completion with the immediate of the work request, as the receiver polls it. -/
def received (wr : SendWr) : Wc := { wrId := 0, immData := wr.immData }

/-- A read response posted on a connected connection carries an immediate that decodes to the client's token if and
    only if the slot index is 256 times the generation: its bytes are swapped once too often. -/
theorem readResponse_imm_iff {endpoint : RpcEndpoint} (connected : endpoint.conn.state = .connected)
    {clientSlotIndex : UInt32} (small : clientSlotIndex.toNat < 65536) (clientGeneration : UInt8) (dataBuf : Buffer)
    (clientBuffer : RemoteMemoryInfo) :
    ∃ wr answer, handed endpoint.conn.qp
        (endpoint.sendReadResponse clientSlotIndex clientGeneration dataBuf clientBuffer).2.conn.qp = [(wr, answer)] ∧
      wr.opcode = .rdmaWriteWithImm ∧
      (immSlotIndex (received wr) = clientSlotIndex ∧ immGeneration (received wr) = clientGeneration ↔
        clientSlotIndex.toNat = 256 * clientGeneration.toNat) := by
  have sends : (endpoint.sendReadResponse clientSlotIndex clientGeneration dataBuf clientBuffer).2.conn.qp =
      (endpoint.conn.qp.postWriteWithImm dataBuf clientBuffer.addr clientBuffer.rkey
        (htonl (immOf clientSlotIndex clientGeneration)) 0).2 := by
    rw [RpcEndpoint.sendReadResponse, writeWithImm_eq connected]
  rw [sends]
  refine ⟨_, _, handed_append (postWriteWithImm_sends ..), rfl, ?_⟩
  have bound := clientGeneration.toNat_lt
  have swapped : (htonl (immOf clientSlotIndex clientGeneration)).toNat =
      clientSlotIndex.toNat % 256 * 2 ^ 24 + clientSlotIndex.toNat / 256 * 2 ^ 16 + clientGeneration.toNat * 2 ^ 8 + 0 :=
    htonl_toNat (by omega) (by omega) (by rw [immOf_toNat]; omega)
  have low : (htonl (immOf clientSlotIndex clientGeneration)).toNat % 2 ^ 16 = 256 * clientGeneration.toNat := by omega
  have high : (htonl (immOf clientSlotIndex clientGeneration)).toNat / 2 ^ 16 =
      clientSlotIndex.toNat / 256 + 2 ^ 8 * (clientSlotIndex.toNat % 256) := by omega
  rw [← UInt32.toNat_inj, ← UInt8.toNat_inj, immSlotIndex_toNat, immGeneration_toNat]
  simp only [received, htonl_htonl]
  rw [low, high, Nat.add_mul_mod_self_left]
  omega

theorem aligned_imm_decodes : ∃ wr answer,
    handed (sampleEndpoint 7 {}).conn.qp
        ((sampleEndpoint 7 {}).sendReadResponse 256 1 ⟨64, 8, 1⟩ ⟨4096, 1, 64⟩).2.conn.qp = [(wr, answer)] ∧
      immSlotIndex (received wr) = 256 ∧ immGeneration (received wr) = 1 := by
  have small : (256 : UInt32).toNat < 65536 := by decide
  obtain ⟨wr, answer, posted, -, decodes⟩ :=
    readResponse_imm_iff (rfl : (sampleEndpoint 7 {}).conn.state = .connected) small 1 ⟨64, 8, 1⟩ ⟨4096, 1, 64⟩
  exact ⟨wr, answer, posted, decodes.mpr (by decide)⟩

/-- The response to slot 1 in generation 0 is decoded as one to slot 0 in generation 0. -/
theorem response_imm_swapped : ∃ wr answer,
    handed (sampleEndpoint 7 {}).conn.qp
        ((sampleEndpoint 7 {}).sendReadResponse 1 0 ⟨64, 8, 1⟩ ⟨4096, 1, 64⟩).2.conn.qp = [(wr, answer)] ∧
      wr.opcode = .rdmaWriteWithImm ∧ ¬(immSlotIndex (received wr) = 1 ∧ immGeneration (received wr) = 0) :=
  ⟨_, _, rfl, rfl, by decide⟩

/-! ### Work request ids -/

/-- The getters of the id give the connection, the generation and the slot. -/
def Identifies (connId : UInt16) (generation : UInt8) (slotIndex : UInt32) (wr : SendWr) : Prop :=
  getConnId wr.wrId = connId ∧ getGeneration wr.wrId = generation ∧ getSlotIndex wr.wrId = slotIndex

section Ids
variable {endpoint next : RpcEndpoint} {slotIndex : UInt32} {generation : UInt8} {header headerLen : UInt64}

theorem encode_identifies {connId : UInt16} {opcode : RpcOpcode} {wr : SendWr}
    (wrId : wr.wrId = encode connId opcode generation slotIndex) : Identifies connId generation slotIndex wr := by
  rw [Identifies, wrId]
  exact ⟨getConnId_encode .., getGeneration_encode .., getSlotIndex_encode ..⟩

/-- A bare slot index identifies requests of connection 0 in generation 0 only. -/
theorem bare_identifies_iff {connId : UInt16} {wr : SendWr} (wrId : wr.wrId = slotIndex.toUInt64) :
    Identifies connId generation slotIndex wr ↔ connId = 0 ∧ generation = 0 := by
  obtain ⟨conn, gen, slot⟩ := bare_fields slotIndex
  rw [Identifies, wrId, conn, gen, slot]
  exact ⟨fun ⟨conn, gen, _⟩ => ⟨conn.symm, gen.symm⟩, fun ⟨conn, gen⟩ => ⟨conn.symm, gen.symm, rfl⟩⟩

/-- The first fragment carries the slot index. -/
theorem first_fragment (inside : slotIndex.toNat < kMaxSlots) : fragmentSlot slotIndex.toUInt64 0 = slotIndex := by
  unfold kMaxSlots at inside
  apply UInt32.toNat_inj.mp
  rw [fragmentSlot_toNat, UInt32.toNat_zero]
  omega

/-- The second fragment carries the slot index with a fragment index in its upper bits. -/
theorem second_fragment (inside : slotIndex.toNat < kMaxSlots) : fragmentSlot slotIndex.toUInt64 1 ≠ slotIndex := by
  unfold kMaxSlots at inside
  intro same
  have sum := congrArg UInt32.toNat same
  rw [fragmentSlot_toNat, UInt32.toNat_one] at sum
  omega

theorem handsOnly_identifies {connId : UInt16} {before after : QueuePair}
    (hands : HandsOnly (encode connId .requestSend generation slotIndex) before after) :
    ∀ wr ∈ handed before after, Identifies connId generation slotIndex wr.1 := by
  obtain ⟨wrs, sends, ids⟩ := hands
  rw [handed_append sends]
  exact fun wr member => encode_identifies (ids wr member)

/-- The device accepts the header of the next request. -/
def HeaderGoes (endpoint : RpcEndpoint) (headerLen : UInt64) : Prop :=
  endpoint.conn.state = .connected ∧ headerLen.toNat ≤ endpoint.conn.qp.config.maxInlineData.toNat ∧
    endpoint.conn.qp.device.nextAnswer = none

theorem header_goes (goes : HeaderGoes endpoint headerLen) (slotIndex : UInt32) (generation : UInt8) (header : UInt64) :
    (endpoint.postHeader slotIndex generation header headerLen).2.connId = endpoint.conn.connId ∧
      (endpoint.postHeader slotIndex generation header headerLen).2.qp.config = endpoint.conn.qp.config ∧
      ∃ wr : SendWr, wr.wrId = encode endpoint.conn.connId .requestSend generation slotIndex ∧
        (endpoint.postHeader slotIndex generation header headerLen).2.qp.device =
          { endpoint.conn.qp.device with sends := endpoint.conn.qp.device.sends ++ [(wr, true)] } :=
  (sendInline_goes goes.1 goes.2.1 goes.2.2 ..).2

/-- The segments follow the header under an id that does not identify the request: either all in one work request,
    under the bare slot index, or in fragments of which the first is accepted, so that there is a second. -/
def Misnames (endpoint : RpcEndpoint) (generation : UInt8) (headerLen : UInt64) (iov : List Iovec) : Prop :=
  HeaderGoes endpoint headerLen ∧ iov ≠ [] ∧
    (iov.length ≤ endpoint.conn.qp.config.maxSendSge.toNat ∧ iov.length ≤ 16 ∧
        ¬(endpoint.conn.connId = 0 ∧ generation = 0) ∨
      endpoint.conn.qp.config.maxSendSge.toNat < iov.length ∧ endpoint.conn.qp.config.maxSendSge.toNat ≤ 16 ∧
        endpoint.conn.qp.device.sendAnswer (endpoint.conn.qp.device.sends.length + 1) = none)

/-- Segments that fit one work request go out with the bare slot index as their id. -/
theorem single_identify_iff {qp : QueuePair} {connId : UInt16} {iov : List Iovec}
    (fits : iov.length ≤ qp.config.maxSendSge.toNat) (fuel : Nat) :
    ∃ wrs, (qp.postSendSGL (fuel + 2) iov slotIndex.toUInt64 connId generation).2.device.sends = qp.device.sends ++ wrs ∧
      ((∀ wr ∈ wrs, Identifies connId generation slotIndex wr.1) ↔
        (iov.length ≤ 16 → connId = 0 ∧ generation = 0)) := by
  by_cases small : iov.length ≤ 16
  · obtain ⟨wr, sends, wrId⟩ := postSendSGL_single slotIndex.toUInt64 fits small (fuel + 2)
    refine ⟨_, sends, ?_⟩
    simp only [List.forall_mem_singleton, bare_identifies_iff wrId, small, true_imp_iff]
  · have same : (qp.postSendSGL (fuel + 2) iov slotIndex.toUInt64 connId generation).2.device = qp.device :=
      postSendSGL_large _ fits (Nat.lt_of_not_le small) (fuel + 2)
    exact ⟨[], by rw [same, List.append_nil], iff_of_true (by simp) fun few => absurd few small⟩

/-- Of several fragments the second has another slot index. -/
theorem fragments_identify_iff {qp : QueuePair} {connId : UInt16} (inside : slotIndex.toNat < kMaxSlots)
    {iov : List Iovec} (more : qp.config.maxSendSge.toNat < iov.length) (fuel : Nat) :
    ∃ wrs, (qp.postSendSGL (fuel + 2) iov slotIndex.toUInt64 connId generation).2.device.sends = qp.device.sends ++ wrs ∧
      ((∀ wr ∈ wrs, Identifies connId generation slotIndex wr.1) ↔
        ¬(qp.config.maxSendSge.toNat ≤ 16 ∧ qp.device.nextAnswer = none)) := by
  by_cases narrow : qp.config.maxSendSge.toNat ≤ 16
  · by_cases accepted : qp.device.nextAnswer = none
    · obtain ⟨first, second, others, sends, -, wrId⟩ :=
        postSendSGL_fragments_accepted slotIndex.toUInt64 more fuel narrow accepted
      refine ⟨_, sends, iff_of_false (fun named => ?_) (not_not.mpr ⟨narrow, accepted⟩)⟩
      have slot := (named (second, _) (List.mem_cons_of_mem _ List.mem_cons_self)).2.2
      rw [wrId, getSlotIndex_encode] at slot
      exact second_fragment inside slot
    · obtain ⟨wr, sends, wrId⟩ := postSendSGL_fragments_rejected slotIndex.toUInt64 more (fuel + 1) narrow accepted
      rw [first_fragment inside] at wrId
      refine ⟨_, sends, iff_of_true ?_ fun both => accepted both.2⟩
      simpa only [List.forall_mem_singleton] using encode_identifies wrId
  · have same : (qp.postSendSGL (fuel + 2) iov slotIndex.toUInt64 connId generation).2.device = qp.device :=
      postSendSGL_fragments_large _ more (fuel + 1) (Nat.lt_of_not_le narrow)
    exact ⟨[], by rw [same, List.append_nil], iff_of_true (by simp) fun both => narrow both.1⟩

/-- What the segments add to an accepted header. -/
theorem segments_identify_iff {qp : QueuePair} {connId : UInt16} (inside : slotIndex.toNat < kMaxSlots)
    {iov : List Iovec} (fuel : Nat) :
    ∃ wrs, (qp.postSendSGL (fuel + 2) iov slotIndex.toUInt64 connId generation).2.device.sends = qp.device.sends ++ wrs ∧
      ((∀ wr ∈ wrs, Identifies connId generation slotIndex wr.1) ↔
        ¬(iov.length ≤ qp.config.maxSendSge.toNat ∧ iov.length ≤ 16 ∧ ¬(connId = 0 ∧ generation = 0) ∨
          qp.config.maxSendSge.toNat < iov.length ∧ qp.config.maxSendSge.toNat ≤ 16 ∧ qp.device.nextAnswer = none)) := by
  by_cases fits : iov.length ≤ qp.config.maxSendSge.toNat
  · obtain ⟨wrs, sends, named⟩ := single_identify_iff fits fuel
    refine ⟨wrs, sends, named.trans ?_⟩
    rw [iff_comm, not_or, not_and, not_and, not_not, imp_iff_right fits, and_iff_left]
    exact fun many => Nat.not_le.mpr many.1 fits
  · have more := Nat.lt_of_not_le fits
    obtain ⟨wrs, sends, named⟩ := fragments_identify_iff inside more fuel
    refine ⟨wrs, sends, named.trans (not_congr ?_)⟩
    rw [or_iff_right fun few => fits few.1, and_iff_right more]

theorem sendRequestSGL_identify_iff {fuel : Nat} {iov : List Iovec} {callbackCtx : Nat} {callback : Option Nat}
    {returned : Option (Except Status UInt32)}
    (sent : endpoint.sendRequestSGL (fuel + 2) header headerLen iov callbackCtx callback = some (returned, next))
    (named : slotIndex ≠ 0xFFFFFFFF) {pool : RpcSlotPool}
    (allocated : endpoint.slotPool.allocate = some ((slotIndex, generation), pool))
    (inside : slotIndex.toNat < kMaxSlots) :
    (∀ wr ∈ handed endpoint.conn.qp next.conn.qp, Identifies endpoint.conn.connId generation slotIndex wr.1) ↔
      ¬Misnames endpoint generation headerLen iov := by
  obtain ⟨token, started, starts, ends⟩ := sendRequestSGL_inv sent
  obtain rfl := starts.token_eq named allocated
  have posts : (endpoint.postHeader slotIndex generation header headerLen).1.ok = true ↔
      HeaderGoes endpoint headerLen := sendInline_ok ..
  have hands : HandsOnly _ endpoint.conn.qp (endpoint.postHeader slotIndex generation header headerLen).2.qp :=
    sendInline_handsOnly ..
  cases ends with
  | refused failed =>
    refine iff_of_true (handsOnly_identifies hands) fun misnames => ?_
    rw [posts.mpr misnames.1] at failed
    cases failed
  | alone _ nothing =>
    exact iff_of_true (handsOnly_identifies hands) fun misnames => misnames.2.1 (segmentsBehind_none.mp nothing)
  | followed posted more =>
    obtain ⟨segments, rfl⟩ := segmentsBehind_some more
    have goes := posts.mp posted
    obtain ⟨connId, config, wr, wrId, device⟩ := header_goes goes slotIndex generation header
    have answer : (endpoint.postHeader slotIndex generation header headerLen).2.qp.device.nextAnswer =
        endpoint.conn.qp.device.sendAnswer (endpoint.conn.qp.device.sends.length + 1) := by
      rw [device, Device.nextAnswer, List.length_append, List.length_singleton]
    obtain ⟨wrs, sends, identify⟩ := segments_identify_iff inside fuel
    rw [device, List.append_assoc] at sends
    rw [config, answer] at identify
    dsimp only
    rw [connId, Prod.map_snd]
    rw [handed_append sends, List.singleton_append, List.forall_mem_cons, identify, Misnames,
      and_iff_right (encode_identifies wrId), and_iff_right goes, and_iff_right segments]

theorem sendRequest_identifies {dataBuf : Option Buffer} {callbackCtx : Nat} {callback : Option Nat}
    {result : Except Status UInt32}
    (sent : endpoint.sendRequest header headerLen dataBuf callbackCtx callback = some (result, next))
    (named : slotIndex ≠ 0xFFFFFFFF) {pool : RpcSlotPool}
    (allocated : endpoint.slotPool.allocate = some ((slotIndex, generation), pool)) :
    ∀ wr ∈ handed endpoint.conn.qp next.conn.qp, Identifies endpoint.conn.connId generation slotIndex wr.1 := by
  have posted : HandsOnly _ endpoint.conn.qp (endpoint.postHeader slotIndex generation header headerLen).2.qp :=
    sendInline_handsOnly ..
  obtain ⟨token, started, starts, ends⟩ := sendRequest_inv sent
  obtain rfl := starts.token_eq named allocated
  cases ends with
  | refused => exact handsOnly_identifies posted
  | alone => exact handsOnly_identifies posted
  | followed _ more =>
    obtain ⟨dataBuf, -, rfl⟩ := Option.map_eq_some_iff.mp more
    exact handsOnly_identifies (posted.trans (writeWithImm_handsOnly ..))

end Ids

/-- In every state of any run: what a call of `sendRequest` that is given a slot hands to the device identifies the
    request, and what a call of `sendRequestSGL` hands over does unless it misnames the segments. Two rounds of the
    fragmentation loop are enough to tell. -/
theorem wrIds_identify_iff {world : World} (visited : Visited world) {slotIndex : UInt32} {generation : UInt8}
    {pool : RpcSlotPool} (allocated : world.pool.allocate = some ((slotIndex, generation), pool))
    (named : slotIndex ≠ 0xFFFFFFFF) :
    (∀ header headerLen dataBuf callbackCtx callback result next,
      world.endpoint.sendRequest header headerLen dataBuf callbackCtx callback = some (result, next) →
      ∀ wr ∈ handed world.endpoint.conn.qp next.conn.qp,
        Identifies world.endpoint.conn.connId generation slotIndex wr.1) ∧
    ∀ fuel header headerLen iov callbackCtx callback returned next,
      world.endpoint.sendRequestSGL (fuel + 2) header headerLen iov callbackCtx callback = some (returned, next) →
      ((∀ wr ∈ handed world.endpoint.conn.qp next.conn.qp,
          Identifies world.endpoint.conn.connId generation slotIndex wr.1) ↔
        ¬Misnames world.endpoint generation headerLen iov) :=
  ⟨fun _ _ _ _ _ _ _ sent => sendRequest_identifies sent named allocated,
    fun _ _ _ _ _ _ _ _ sent =>
      sendRequestSGL_identify_iff sent named allocated (allocate_inside allocated named (visited_sized visited))⟩

/-- On connection 0 the segments of the first request in slot 0 are named by the bare slot index 0. -/
theorem first_request_identified : ∃ returned next,
    (sampleEndpoint 0 {}).sendRequestSGL 2 0 64 [⟨64, 8⟩] 5 none = some (returned, next) ∧
      ∀ wr ∈ handed (sampleEndpoint 0 {}).conn.qp next.conn.qp, Identifies 0 0 0 wr.1 := by
  have visited := start_visited (sample_fresh 0 {})
  have named : (0 : UInt32) ≠ 0xFFFFFFFF := by decide
  have allocated : ∃ pool, (World.start (sampleEndpoint 0 {})).pool.allocate = some ((0, 0), pool) := ⟨_, rfl⟩
  obtain ⟨pool, allocated⟩ := allocated
  have sent : ∃ returned next, (World.start (sampleEndpoint 0 {})).endpoint.sendRequestSGL (0 + 2) 0 64 [⟨64, 8⟩] 5 none =
      some (returned, next) := ⟨_, _, rfl⟩
  obtain ⟨returned, next, sent⟩ := sent
  refine ⟨returned, next, sent, ((wrIds_identify_iff visited allocated named).2 _ _ _ _ _ _ _ _ sent).mpr ?_⟩
  rintro ⟨-, -, ⟨-, -, other⟩ | ⟨more, -⟩⟩
  · exact other ⟨rfl, rfl⟩
  · exact absurd more (by decide)

/-- On connection 7 the segments are posted under an id that names connection 0. -/
theorem segments_named_bare : ∃ returned next,
    (sampleEndpoint 7 {}).slotPool.allocate.map Prod.fst = some (0, 0) ∧
      (sampleEndpoint 7 {}).sendRequestSGL 2 0 64 [⟨64, 8⟩] 5 none = some (returned, next) ∧
      ∃ wr ∈ handed (sampleEndpoint 7 {}).conn.qp next.conn.qp, getConnId wr.1.wrId ≠ 7 :=
  ⟨_, _, rfl, rfl, _, List.mem_cons_of_mem _ (List.mem_singleton_self _), by decide⟩

end Rdma.WorkRequests
