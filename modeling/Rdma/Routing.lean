import Rdma.Dispatchers
import Rdma.EndpointRuns

/-!
Work requests that belong to no request. `sendReadResponse` and
`repostRecvBuffer` post theirs under the id 0, which names connection 0, slot 0
and generation 0. The device generates completions for accepted receives and
for accepted sends that are signaled. A completion goes from the dispatcher to
the endpoint whose handler it invokes (`deliver`). That of such a work request
leaves the slot pool as it is on connection 0 only, and there only once slot 0
has left generation 0 (`unowned_apart_iff`).
-/
namespace Rdma.Routing
open Rdma.Types Rdma.Verbs Rdma.WrIds Rdma.Runs Rdma.QueuePairs Rdma.Connections Rdma.SlotPools Rdma.Endpoints
open Rdma.SlotLedgers Rdma.EndpointRuns
open Rdma.Dispatchers (CompletionDispatcher Invocation Registry Refines passive)

/-- What the invocations do to the endpoint whose `onSendComplete` is the handler `own`, a context and a function. -/
def deliver (own : Nat × Nat) (endpoint : RpcEndpoint) : List Invocation → Option (RpcEndpoint × List Call)
  | [] => some (endpoint, [])
  | .completion handler ctx wc :: rest =>
    if (ctx, handler) = own then do
      let (endpoint, now) ← endpoint.onSendComplete wc
      let (endpoint, later) ← deliver own endpoint rest
      some (endpoint, now ++ later)
    else deliver own endpoint rest
  | .error .. :: rest => deliver own endpoint rest

/-- Successful completions of the connection reach the handler `own` and no other. -/
def Routes (dispatcher : CompletionDispatcher) (connId : UInt16) (own : Nat × Nat) : Prop :=
  ∀ wc : Wc, wc.status = 0 → getConnId wc.wrId = connId →
    ∃ next, dispatcher.dispatch passive wc = some (next, [.completion own.2 own.1 wc])

/-- The ids of the work requests handed to the device between two states. -/
def handedIds (before after : QueuePair) : List UInt64 :=
  (handed before after).map (·.1.wrId) ++
    (after.device.recvs.drop before.device.recvs.length).map (·.1.wrId)

/-- The ids of the completions that the device generates for these work requests. -/
def completionIds (before after : QueuePair) : List UInt64 :=
  cqes (handed before after) ++
    ((after.device.recvs.drop before.device.recvs.length).filter Prod.snd).map (·.1.wrId)

/-- The id of the completion names the connection, and its delivery leaves the slot pool as it is. -/
def Apart (dispatcher : CompletionDispatcher) (own : Nat × Nat) (connId : UInt16) (endpoint : RpcEndpoint) (wc : Wc) :
    Prop :=
  getConnId wc.wrId = connId ∧
    ∃ next invocations after, dispatcher.dispatch passive wc = some (next, invocations) ∧
      deliver own endpoint invocations = some (after, []) ∧ after.slotPool = endpoint.slotPool

/-- The events in which `sendReadResponse` or `repostRecvBuffer` posts. -/
def Unowned : Event → Prop
  | .sendReadResponse .. | .onWriteWithImmRecv _ => True
  | _ => False

/-- A dispatcher that refines a map routes what the map knows. -/
theorem refines_routes {dispatcher : CompletionDispatcher} {registry : Registry} (refines : Refines dispatcher registry)
    {connId : UInt16} (named : connId ≠ 0xFFFF) {own : Nat × Nat} (known : registry.handlers connId = some own) :
    Routes dispatcher connId own := by
  rintro wc success rfl
  obtain ⟨next, dispatched, -⟩ := Dispatchers.dispatch_refines refines named
  refine ⟨next, ?_⟩
  rw [dispatched, Registry.answer, if_neg (not_not.mpr success), Dispatchers.invoke_known known]

/-! ### The ids -/

theorem writeWithImm_recvs (conn : Connection) (buf : Buffer) (remoteAddr : UInt64) (remoteRkey immData : UInt32)
    (wrId : UInt64) :
    (conn.writeWithImm buf remoteAddr remoteRkey immData wrId).2.qp.device.recvs = conn.qp.device.recvs := by
  by_cases connected : conn.state = .connected
  · rw [writeWithImm_eq connected, QueuePair.postWriteWithImm]
    dsimp only
    rw [post_eq, Device.ibvPostSend, (shouldSignal_frame conn.qp).2]
  · rw [Connection.writeWithImm, Connection.ifConnected, if_pos connected]

theorem postRecv_device (qp : QueuePair) (buf : Buffer) (wrId : UInt64) :
    (qp.postRecv buf wrId).2.device = (qp.device.ibvPostRecv ⟨wrId, [sgeOf buf]⟩).2 := by
  unfold QueuePair.postRecv Device.ibvPostRecv
  cases qp.device.recvAnswer qp.device.recvs.length <;> rfl

/-- Reposting hands the device at most one receive, under the id 0. -/
theorem repostRecvBuffer_ids {endpoint next : RpcEndpoint} (reposted : endpoint.repostRecvBuffer = some next) :
    ∀ wrId ∈ handedIds endpoint.conn.qp next.conn.qp, wrId = 0 := by
  obtain ⟨buf, bufferPool, -, rfl⟩ := repostRecvBuffer_inv reposted
  dsimp only
  split
  · rw [handedIds, handed]
    change ∀ wrId ∈ (List.drop _ (endpoint.conn.qp.postRecv buf 0).2.device.sends).map _ ++
      (List.drop _ (endpoint.conn.qp.postRecv buf 0).2.device.recvs).map _, wrId = 0
    rw [postRecv_device]
    simp [Device.ibvPostRecv]
  · simp [handedIds]

/-- The work requests that belong to no request carry the id 0. -/
theorem unowned_ids {world next : World} {event : Event} (unowned : Unowned event) {calls : List Call}
    (stepped : world.step event = some (next, calls)) :
    ∀ wrId ∈ handedIds world.endpoint.conn.qp next.endpoint.conn.qp, wrId = 0 := by
  cases event with
  | sendReadResponse clientSlotIndex clientGeneration dataBuf clientBuffer =>
    obtain ⟨rfl, -⟩ := Prod.mk.inj (Option.some.inj stepped)
    obtain ⟨wrs, sends, ids⟩ := writeWithImm_handsOnly world.endpoint.conn dataBuf clientBuffer.addr clientBuffer.rkey
      (htonl (immOf clientSlotIndex clientGeneration)) 0
    have recvs := writeWithImm_recvs world.endpoint.conn dataBuf clientBuffer.addr clientBuffer.rkey
      (htonl (immOf clientSlotIndex clientGeneration)) 0
    intro wrId member
    change wrId ∈ handedIds world.endpoint.conn.qp (world.endpoint.conn.writeWithImm dataBuf clientBuffer.addr
      clientBuffer.rkey (htonl (immOf clientSlotIndex clientGeneration)) 0).2.qp at member
    rw [handedIds, handed_append sends, recvs, List.drop_length, List.map_nil, List.append_nil] at member
    obtain ⟨wr, handed, rfl⟩ := List.mem_map.mp member
    exact ids wr handed
  | onWriteWithImmRecv wc =>
    obtain ⟨⟨endpoint, called⟩, handled, stepped⟩ := Option.bind_eq_some_iff.mp stepped
    obtain ⟨rfl, -⟩ := Prod.mk.inj (Option.some.inj stepped)
    rcases onWriteWithImmRecv_inv handled with rfl | ⟨counted, counts, reposted⟩
    · simp [handedIds]
    · have ids := repostRecvBuffer_ids reposted
      rwa [counts.frame] at ids
  | sendRequest | sendRequestSGL | onSendComplete | checkTimeouts | environment => cases unowned

/-- A completion has the id of a work request. -/
theorem completionIds_handed (before after : QueuePair) : completionIds before after ⊆ handedIds before after := by
  intro wrId member
  rcases List.mem_append.mp member with send | receive
  · obtain ⟨wr, kept, rfl⟩ := List.mem_map.mp send
    exact List.mem_append_left _ (List.mem_map_of_mem (List.mem_of_mem_filter kept))
  · obtain ⟨wr, kept, rfl⟩ := List.mem_map.mp receive
    exact List.mem_append_right _ (List.mem_map_of_mem (List.mem_of_mem_filter kept))

/-! ### Delivery -/

theorem visited_run {world last : World} (visited : Visited world) {events : List Event} {calls : List Call}
    (ran : run World.step world events = some (last, calls)) : Visited last := by
  obtain ⟨endpoint, front, before, fresh, reached⟩ := visited
  exact ⟨endpoint, front ++ events, before ++ calls, fresh,
    run_append_some.mpr ⟨world, before, calls, reached, ran, rfl⟩⟩

theorem deliver_single (own : Nat × Nat) (endpoint : RpcEndpoint) (wc : Wc) :
    deliver own endpoint [.completion own.2 own.1 wc] = endpoint.onSendComplete wc := by
  rw [deliver, if_pos rfl]
  cases endpoint.onSendComplete wc with
  | none => rfl
  | some handled => simp [deliver]

/-- The completion of a work request under the id 0 is dropped unless slot 0 is in generation 0. -/
theorem zero_completion {endpoint : RpcEndpoint} (sized : endpoint.slotPool.Sized) {wc : Wc} (zero : wc.wrId = 0) :
    endpoint.onSendComplete wc =
      if (endpoint.slotPool.hot 0).getGeneration = 0 then endpoint.completeWr 0 (endpoint.slotPool.hot 0)
      else some (endpoint, []) := by
  have inside : 0 < endpoint.slotPool.slotsHot.size := by
    rw [sized.1]
    decide
  have slot : getSlotIndex 0 = 0 := by decide
  have generation : getGeneration 0 = 0 := by decide
  have checked : endpoint.slotPool.getHotChecked 0 0 =
      some (if (endpoint.slotPool.hot 0).getGeneration = 0 then some (endpoint.slotPool.hot 0) else none) := by
    rw [RpcSlotPool.getHotChecked, show (0 : UInt32).toNat = 0 from rfl, Arrays.read_inside inside]
    change some (if !decide ((endpoint.slotPool.hot 0).getGeneration = 0) then none
      else some (endpoint.slotPool.hot 0)) = _
    by_cases first : (endpoint.slotPool.hot 0).getGeneration = 0 <;> simp [first]
  simp only [RpcEndpoint.onSendComplete, zero, slot, generation, checked, Option.bind_eq_bind, Option.bind_some]
  by_cases first : (endpoint.slotPool.hot 0).getGeneration = 0 <;> simp [first]

section Delivery
variable {world next later : World} {event : Event} {events : List Event} {sent calls : List Call}
  {dispatcher : CompletionDispatcher} {own : Nat × Nat} {wc : Wc}

theorem zero_names : getConnId 0 = 0 := by decide

/-- A completion under the id 0 leaves the slot pool as it is on connection 0 once slot 0 has left generation 0. -/
theorem zero_apart_iff (sized : later.pool.Sized) (zero : wc.wrId = 0) {connId : UInt16} (success : wc.status = 0)
    (routes : Routes dispatcher connId own) :
    Apart dispatcher own connId later.endpoint wc ↔ connId = 0 ∧ (later.pool.hot 0).getGeneration ≠ 0 := by
  have connection : getConnId wc.wrId = 0 := by
    rw [zero]
    exact zero_names
  have completed := zero_completion sized zero
  constructor
  · rintro ⟨named, other, invocations, after, dispatched, delivered, same⟩
    refine ⟨named.symm.trans connection, fun unused => ?_⟩
    obtain ⟨routed, answered⟩ := routes wc success named
    obtain ⟨-, rfl⟩ := Prod.mk.inj (Option.some.inj (dispatched.symm.trans answered))
    rw [deliver_single, completed, if_pos unused] at delivered
    exact completeWr_changes delivered same
  · rintro ⟨first, used⟩
    have named : getConnId wc.wrId = connId := connection.trans first.symm
    obtain ⟨routed, answered⟩ := routes wc success named
    refine ⟨named, routed, _, later.endpoint, answered, ?_, rfl⟩
    rw [deliver_single, completed, if_neg used]

/-- The ids of the work requests that belong to no request name their connection if and only if it is connection 0. A
    completion of theirs names the connection, and its delivery in a later state leaves the slot pool as it is, if and
    only if the connection is connection 0 and slot 0 is no longer in generation 0. -/
theorem unowned_apart_iff (visited : Visited world) (unowned : Unowned event)
    (stepped : world.step event = some (next, sent)) (ran : run World.step next events = some (later, calls)) :
    (∀ wrId ∈ handedIds world.endpoint.conn.qp next.endpoint.conn.qp,
        getConnId wrId = world.endpoint.conn.connId ↔ world.endpoint.conn.connId = 0) ∧
      ∀ dispatcher own wc, Routes dispatcher world.endpoint.conn.connId own → wc.status = 0 →
        wc.wrId ∈ completionIds world.endpoint.conn.qp next.endpoint.conn.qp →
          (Apart dispatcher own world.endpoint.conn.connId later.endpoint wc ↔
            world.endpoint.conn.connId = 0 ∧ (later.pool.hot 0).getGeneration ≠ 0) := by
  refine ⟨fun wrId posted => ?_, fun dispatcher own wc routes success completed => ?_⟩
  · rw [unowned_ids unowned stepped wrId posted, zero_names]
    exact eq_comm
  · have zero : wc.wrId = 0 := unowned_ids unowned stepped _ (completionIds_handed _ _ completed)
    have reached : run World.step world (event :: events) = some (later, sent ++ calls) :=
      run_cons_some.mpr ⟨next, sent, calls, stepped, ran, rfl⟩
    exact zero_apart_iff (visited_sized (visited_run visited reached)) zero success routes

end Delivery

/-- A dispatcher in which connection 0 is registered with context 7 and handler 9. -/
theorem sample_routes : Routes (CompletionDispatcher.create.registerConnection 0 7 (some 9)) 0 (7, 9) := by
  have clear : Dispatchers.Shadowless .create (.register 0 7 9) := ⟨by decide, by decide⟩
  exact refines_routes (Dispatchers.register_refines Dispatchers.create_refines clear) (by decide) rfl

/-- On connection 0, which signals every send, a response is sent, and its completion comes after the first request of
    slot 0 has timed out. -/
theorem late_response_apart : ∃ next later : World,
    0 ∈ completionIds (sampleEndpoint 0 { signalInterval := 1 }).conn.qp next.endpoint.conn.qp ∧
      Apart (CompletionDispatcher.create.registerConnection 0 7 (some 9)) (7, 9) 0 later.endpoint ⟨0, 0, 0⟩ := by
  obtain ⟨next, later, calls, stepped, completed, ran, used⟩ : ∃ next later calls,
      World.step (.start (sampleEndpoint 0 { signalInterval := 1 })) (.sendReadResponse 3 0 ⟨64, 8, 1⟩ ⟨4096, 1, 64⟩) =
          some (next, []) ∧
        (0 : UInt64) ∈ completionIds (sampleEndpoint 0 { signalInterval := 1 }).conn.qp next.endpoint.conn.qp ∧
        run World.step next [.sendRequest 0 64 none 5 (some 3), .checkTimeouts [(0, 0)]] = some (later, calls) ∧
        (later.pool.hot 0).getGeneration ≠ 0 :=
    ⟨_, _, _, rfl, by decide +kernel, rfl, by decide +kernel⟩
  have visited := start_visited (sample_fresh 0 { signalInterval := 1 })
  have unowned : Unowned (.sendReadResponse 3 0 ⟨64, 8, 1⟩ ⟨4096, 1, 64⟩) := trivial
  have apart_iff := (unowned_apart_iff visited unowned stepped ran).2 _ _ ⟨0, 0, 0⟩ sample_routes rfl completed
  exact ⟨next, later, completed, apart_iff.mpr ⟨rfl, used⟩⟩

/-- A response is sent on connection 7 and names connection 0; the completion of one sent on connection 0 completes the
    request that waits in slot 0 and invokes its callback. -/
theorem response_completes_request :
    (∃ next, World.step (.start (sampleEndpoint 7 {})) (.sendReadResponse 3 0 ⟨64, 8, 1⟩ ⟨4096, 1, 64⟩) =
        some (next, []) ∧ handedIds (sampleEndpoint 7 {}).conn.qp next.endpoint.conn.qp = [0] ∧ getConnId 0 ≠ 7) ∧
      ∃ next later, World.step (.start (sampleEndpoint 0 { signalInterval := 1 }))
          (.sendReadResponse 3 0 ⟨64, 8, 1⟩ ⟨4096, 1, 64⟩) = some (next, []) ∧
        completionIds (sampleEndpoint 0 { signalInterval := 1 }).conn.qp next.endpoint.conn.qp = [0] ∧
        run World.step next [.sendRequest 0 64 none 5 (some 3)] = some (later, []) ∧
        ¬Apart (CompletionDispatcher.create.registerConnection 0 7 (some 9)) (7, 9) 0 later.endpoint ⟨0, 0, 0⟩ ∧
        ∃ after, later.endpoint.onSendComplete ⟨0, 0, 0⟩ = some (after, [⟨3, 5, 0, 0, 0⟩]) := by
  obtain ⟨next, later, after, stepped, completion, ran, completed⟩ : ∃ next later after,
      World.step (.start (sampleEndpoint 0 { signalInterval := 1 }))
          (.sendReadResponse 3 0 ⟨64, 8, 1⟩ ⟨4096, 1, 64⟩) = some (next, []) ∧
        completionIds (sampleEndpoint 0 { signalInterval := 1 }).conn.qp next.endpoint.conn.qp = [0] ∧
        run World.step next [.sendRequest 0 64 none 5 (some 3)] = some (later, []) ∧
        later.endpoint.onSendComplete ⟨0, 0, 0⟩ = some (after, [⟨3, 5, 0, 0, 0⟩]) :=
    ⟨_, _, _, rfl, by decide +kernel, rfl, rfl⟩
  refine ⟨⟨_, rfl, by decide +kernel, by decide⟩, next, later, stepped, completion, ran, ?_, after, completed⟩
  rintro ⟨named, routed, invocations, other, dispatched, delivered, -⟩
  obtain ⟨answered, same⟩ := sample_routes ⟨0, 0, 0⟩ rfl named
  obtain ⟨-, rfl⟩ := Prod.mk.inj (Option.some.inj (dispatched.symm.trans same))
  have invoked := (deliver_single (7, 9) later.endpoint ⟨0, 0, 0⟩).symm.trans delivered
  rw [completed] at invoked
  cases invoked

end Rdma.Routing
