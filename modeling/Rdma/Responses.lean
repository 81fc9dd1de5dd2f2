import Rdma.Finishing
import Rdma.WrCounts

/-!
Success and responses. Beside the endpoint there are the completions on their
way: the device generates one for each accepted work request that is signaled,
and they are delivered in any order. A completion of a work request counts as
the response does, so a request succeeds without a response when each of its
work requests is signaled; in runs in which no send call signals all its work
requests, and no completion is taken for another request's, a request succeeds
only after a response (`success_needs_response`).
-/
namespace Rdma.Responses
open Rdma.Types Rdma.Verbs Rdma.Runs Rdma.WrIds Rdma.QueuePairs Rdma.Connections Rdma.SlotPools Rdma.Endpoints Rdma.Ledgers
open Rdma.SlotLedgers Rdma.EndpointRuns Rdma.StaleEvents Rdma.Tokens Rdma.Finishing
open Rdma.Signaling (answer answer_behind fragmentsBefore Post on_effect)
open Rdma.WrCounts (data_sends)

/-! ### The machine -/

/-- A completion on its way. `owner` is a history variable, not in the source: the request on whose behalf the work
    request was posted, if any. -/
structure Cqe where
  wrId : UInt64
  owner : Option Request
  deriving DecidableEq

/-- `answered` is a history variable, not in the source: the requests that were pending when a response with their
    token was handled. -/
structure System where
  world : World
  inFlight : List Cqe
  answered : List Request

/-- `deliver` hands the completion at that place to `onSendComplete`. -/
inductive Move
  | event (event : Event)
  | deliver (index : Nat)

/-- The completions that the device generates for what the event posted. -/
def generated (before after : World) : Event → List Cqe
  | .sendRequest .. | .sendRequestSGL .. =>
    (cqes (handed before.endpoint.conn.qp after.endpoint.conn.qp)).map fun wrId =>
      { wrId, owner := after.issued[before.issued.length]? }
  | .sendReadResponse .. =>
    (cqes (handed before.endpoint.conn.qp after.endpoint.conn.qp)).map fun wrId => { wrId, owner := none }
  | _ => []

/-- The pending requests that the event answers. -/
def answeredBy (world : World) (event : Event) : List Request :=
  world.issued.filter fun request => decide (world.pool.frees request.slot = request.born) && answers request event

def completes : Event → Bool
  | .onSendComplete _ => true
  | _ => false

/-- Completions come by delivery only. -/
def System.step (system : System) : Move → Option (System × List Call)
  | .event event =>
    if completes event then none
    else do
      let (world, calls) ← system.world.step event
      some ({ world
              inFlight := system.inFlight ++ generated system.world world event
              answered := system.answered ++ answeredBy system.world event }, calls)
  | .deliver index => do
    let cqe ← system.inFlight[index]?
    let (world, calls) ← system.world.step (.onSendComplete { wrId := cqe.wrId })
    some ({ system with world, inFlight := system.inFlight.eraseIdx index }, calls)

def System.start (endpoint : RpcEndpoint) : System := ⟨.start endpoint, [], []⟩

/-- The call gets a slot, and its header goes out signaled. -/
structure HeaderSignaled (endpoint : RpcEndpoint) (headerLen : UInt64) : Prop where
  slot : endpoint.slotPool.stackTop ≠ 0
  connected : endpoint.conn.state = .connected
  fits : headerLen.toNat ≤ endpoint.conn.qp.config.maxInlineData.toNat
  accepted : answer endpoint.conn.qp 0 = none
  signaled : endpoint.conn.qp.shouldSignal.1 = true

/-- The device accepts the segments to the last; `posted` work requests are handed over before them. -/
def SegmentsGo (qp : QueuePair) (posted : Nat) (iov : List Iovec) : Prop :=
  if iov.length ≤ qp.config.maxSendSge.toNat then iov.length ≤ 16 ∧ answer qp posted = none
  else 0 < qp.config.maxSendSge.toNat ∧ qp.config.maxSendSge.toNat ≤ 16 ∧
    ∀ index ≤ fragmentsBefore qp.config.maxSendSge.toNat iov.length, answer qp (posted + index) = none

/-- The send call yields as many completions as its request waits for: the header goes out signaled, and so does what is
    behind it, the data or the last of the segments. -/
def AllSignaled (endpoint : RpcEndpoint) : Event → Prop
  | .sendRequest _ headerLen dataBuf _ _ =>
    HeaderSignaled endpoint headerLen ∧ (dataBuf.filter Buffer.isValid ≠ none →
      endpoint.conn.qp.shouldSignal.2.shouldSignal.1 = true ∧ answer endpoint.conn.qp 1 = none)
  | .sendRequestSGL _ _ headerLen iov _ _ =>
    HeaderSignaled endpoint headerLen ∧ (iov ≠ [] →
      endpoint.conn.qp.shouldSignal.2.shouldSignal.1 = true ∧ SegmentsGo endpoint.conn.qp 1 iov)
  | _ => False

/-- The event is sound and yields fewer completions than a request waits for; a completion is delivered that names no
    pending request other than its own. -/
def Careful (system : System) : Move → Prop
  | .event event => Sound system.world event ∧ ¬AllSignaled system.world.endpoint event
  | .deliver index => ∀ cqe, system.inFlight[index]? = some cqe →
      Sound system.world (.onSendComplete { wrId := cqe.wrId }) ∧
        ∀ request, system.world.Pending request → hits request (.onSendComplete { wrId := cqe.wrId }) = true →
          cqe.owner = some request

/-! ### The invariant -/

/-- The completions of the request on their way. -/
def outstanding (inFlight : List Cqe) (request : Request) : Nat := inFlight.countP fun cqe => cqe.owner = some request

/-- A pending request was answered, or waits for more than its completions on their way. -/
structure Waits (system : System) : Prop where
  wf : Wf system.world
  owned : ∀ cqe ∈ system.inFlight, ∀ request, cqe.owner = some request → request ∈ system.world.issued
  short : ∀ request, system.world.Pending request → request ∈ system.answered ∨
    (record system.world request).completed + outstanding system.inFlight request < (record system.world request).total

variable {world next : World} {request : Request} {event : Event} {calls : List Call}

/-- An immediate that hits a pending request answers it. -/
theorem hit_answers (wf : Wf world) (pending : world.Pending request) (quiet : completes event = false)
    (hit : hits request event = true) : request ∈ answeredBy world event := by
  cases event with
  | onSendComplete wc => cases quiet
  | onWriteWithImmRecv wc =>
    obtain ⟨slot, generation⟩ := of_decide_eq_true hit
    have token := (wf.tokens request pending.1).2
    have small := (immGeneration wc).toNat_lt
    have same : immGeneration wc = request.generation := UInt8.toNat_inj.mp (by omega)
    refine List.mem_filter.mpr ⟨pending.1, ?_⟩
    rw [decide_eq_true pending.2, Bool.true_and]
    exact decide_eq_true ⟨slot, same⟩
  | _ => cases hit

/-- What a step leaves of a request that is still pending. -/
theorem step_kept (wf : Wf world) (pending : world.Pending request) (sound : Sound world event)
    (stepped : world.step event = some (next, calls)) (still : next.Pending request) :
    record next request = (record world request).count (if hits request event then 1 else 0) := by
  rcases step_progress wf pending sound stepped with ⟨epoch, kept⟩ | ⟨bumped, -⟩
  · exact (kept_pending (step_wellFormed wf sound stepped).2.1 pending (step_grows wf sound stepped) epoch kept).2
  · have before : world.ledger.epoch request.slot = request.born := pending.2
    have after : next.ledger.epoch request.slot = request.born := still.2
    omega

/-- What finishes a pending request. -/
theorem step_finished (wf : Wf world) (pending : world.Pending request) (sound : Sound world event)
    (stepped : world.step event = some (next, calls)) (finished : ¬next.Pending request) :
    (record world request).total ≤ (record world request).completed + (if hits request event then 1 else 0) ∨
      timesOut event = true := by
  rcases step_progress wf pending sound stepped with ⟨epoch, kept⟩ | ⟨-, why, -⟩
  · exact absurd (kept_pending (step_wellFormed wf sound stepped).2.1 pending (step_grows wf sound stepped) epoch
      kept).1 finished
  · exact why

/-! ### New requests -/

section Sends
variable {fuel : Nat} {header headerLen : UInt64} {dataBuf : Option Buffer} {iov : List Iovec} {callbackCtx : Nat}
  {callback : Option Nat}

/-- What a step with an accepted call of `sendRequestSGL` starts from and ends in. -/
theorem acceptedSGL_inv (wf : Wf world)
    (stepped : world.step (.sendRequestSGL fuel header headerLen iov callbackCtx callback) = some (next, calls))
    (issued : next.issued = world.issued ++ [request]) (ok : request.accepted = true) :
    world.pool.stackTop ≠ 0 ∧ (postHeader world.endpoint request.slotIndex header headerLen).1.ok = true ∧
      next.endpoint = acceptedSGL world.endpoint request.slotIndex fuel header headerLen iov callbackCtx callback ∧
      (iov = [] ∨ (postSegments world.endpoint request.slotIndex
        (postHeader world.endpoint request.slotIndex header headerLen).2 fuel iov).1.isSome) := by
  by_cases empty : world.pool.stackTop = 0
  · simp only [World.step, sendRequestSGL_exhausted header headerLen fuel iov callbackCtx callback empty,
      Option.bind_eq_bind, Option.bind_some, issue_exhausted empty] at stepped
    obtain ⟨rfl, -⟩ := Prod.mk.inj (Option.some.inj stepped)
    have none_new : world.issued = world.issued ++ [request] := issued
    exact absurd (List.self_eq_append_right.mp none_new) (List.cons_ne_nil _ _)
  · obtain ⟨slotIndex, rest, stack, -⟩ := allocate_spec wf.pool empty
    obtain ⟨⟨returned, endpoint⟩, sent, stepped⟩ := Option.bind_eq_some_iff.mp stepped
    obtain ⟨result, came_back, stepped⟩ := Option.bind_eq_some_iff.mp stepped
    obtain ⟨rfl, -⟩ := Prod.mk.inj (Option.some.inj stepped)
    have same := (issue_top wf stack callbackCtx callback result.isOk).symm.trans issued
    obtain rfl := List.singleton_inj.mp (List.append_cancel_left same)
    cases posted : (postHeader world.endpoint slotIndex header headerLen).1.ok with
    | true =>
      have taken := sendRequestSGL_accepted header headerLen fuel iov callbackCtx callback wf.pool stack posted
      obtain ⟨called, rfl⟩ := Prod.mk.inj (Option.some.inj (sent.symm.trans taken))
      refine ⟨empty, posted, rfl, ?_⟩
      by_contra endless
      have endless : ¬(iov = [] ∨ (postSegments world.endpoint slotIndex
        (postHeader world.endpoint slotIndex header headerLen).2 fuel iov).1.isSome) := endless
      have stuck : (if _ then some (Except.ok slotIndex) else none) = some result :=
        called.symm.trans came_back
      rw [if_neg endless] at stuck
      cases stuck
    | false =>
      have refused := sendRequestSGL_refused header headerLen fuel iov callbackCtx callback wf.pool stack posted
      obtain ⟨rfl, -⟩ := Prod.mk.inj (Option.some.inj (sent.symm.trans refused))
      obtain rfl := Option.some.inj came_back
      cases ok

theorem acceptedSGL_record
    (endpoint : next.endpoint =
      acceptedSGL world.endpoint request.slotIndex fuel header headerLen iov callbackCtx callback) :
    (record next request).completed = 0 ∧ (record next request).total = if iov = [] then 1 else 2 := by
  have pool := (acceptedSGL_frame world.endpoint request.slotIndex fuel header headerLen iov callbackCtx callback).1
  rw [record, World.pool, endpoint, pool, Request.slot, opened_hot]
  refine ⟨rfl, ?_⟩
  change UInt8.toNat (if _ then 1 else 2) = _
  split <;> rfl

/-- The header of an accepted call went out signaled unless it is unsignaled. -/
theorem header_signaled {endpoint : RpcEndpoint} {slotIndex : UInt32} (slot : endpoint.slotPool.stackTop ≠ 0)
    (posted : (postHeader endpoint slotIndex header headerLen).1.ok = true)
    (signaled : endpoint.conn.qp.shouldSignal.1 = true) : HeaderSignaled endpoint headerLen := by
  obtain ⟨connected, fits, accepted⟩ := (sendInline_ok ..).mp posted
  exact ⟨slot, connected, fits, accepted, signaled⟩

/-- Segments behind a header that went out. -/
theorem segmentsGo_behind {qp next : QueuePair} (config : next.config = qp.config)
    (shifted : ∀ index, answer next index = answer qp (index + 1)) (iov : List Iovec) :
    SegmentsGo next 0 iov ↔ SegmentsGo qp 1 iov := by
  have behind : ∀ index, answer next (0 + index) = answer qp (1 + index) := by
    intro index
    rw [shifted, Nat.zero_add, Nat.add_comm]
  unfold SegmentsGo
  rw [config, shifted, Nat.zero_add]
  simp only [behind]

/-- The call that posts segments succeeds only if they go to the last. -/
theorem goes_segments {qp : QueuePair} {wrIdBase : UInt64} {connId : UInt16} {generation : UInt8}
    (decides : (Post.sendSGL fuel iov wrIdBase connId generation).Decides qp)
    (goes : (Post.sendSGL fuel iov wrIdBase connId generation).Goes qp) : SegmentsGo qp 0 iov := by
  unfold SegmentsGo
  simp only [Post.Goes] at goes
  by_cases fits : iov.length ≤ qp.config.maxSendSge.toNat
  · rw [if_pos fits] at goes ⊢
    exact goes
  · rw [if_neg fits] at goes ⊢
    obtain ⟨positive, few, before⟩ := decides (Nat.lt_of_not_le fits)
    refine ⟨positive, few, fun index reached => ?_⟩
    rw [Nat.zero_add]
    rcases Nat.lt_or_eq_of_le reached with earlier | last
    · exact before index earlier
    · rw [last]
      exact goes

/-- What an accepted call of `sendRequestSGL` hands to the device: the header, and segments with at most one
    completion, which comes only if they go out to the last. -/
theorem acceptedSGL_handed {endpoint : RpcEndpoint} {slotIndex : UInt32}
    (posted : (postHeader endpoint slotIndex header headerLen).1.ok = true)
    (returns : iov = [] ∨ (postSegments endpoint slotIndex (postHeader endpoint slotIndex header headerLen).2 fuel
      iov).1.isSome) :
    ∃ (first : SendWr) (wrs : List (SendWr × Bool)), first.signaled = endpoint.conn.qp.shouldSignal.1 ∧
      handed endpoint.conn.qp (acceptedSGL endpoint slotIndex fuel header headerLen iov callbackCtx callback).conn.qp =
        (first, true) :: wrs ∧
      (iov = [] → wrs = []) ∧ ((cqes wrs).length = 0 ∨ (cqes wrs).length = 1 ∧
        endpoint.conn.qp.shouldSignal.2.shouldSignal.1 = true ∧ SegmentsGo endpoint.conn.qp 1 iov) := by
  obtain ⟨-, decision, first, signaled, -, sends⟩ := header_sends posted
  by_cases empty : iov = []
  · refine ⟨first, [], signaled, ?_, fun _ => rfl, .inl rfl⟩
    rw [acceptedSGL, if_pos empty]
    exact handed_append sends
  · obtain ⟨status, returned⟩ := Option.isSome_iff_exists.mp (returns.resolve_left empty)
    obtain ⟨effect, succeeds⟩ := on_effect (Prod.ext returned rfl :
      (Post.sendSGL fuel iov slotIndex.toUInt64 (postHeader endpoint slotIndex header headerLen).2.connId
        (endpoint.slotPool.hot slotIndex.toNat).getGeneration.toUInt8).on
          (postHeader endpoint slotIndex header headerLen).2.qp = (some status, _))
    obtain ⟨wrs, sent, completions⟩ := effect.sends
    obtain ⟨-, config, wr, device⟩ := sendInline_accepted posted
    rw [sends, List.append_assoc] at sent
    refine ⟨first, wrs, signaled, ?_, fun none_sent => absurd none_sent empty, ?_⟩
    · rw [acceptedSGL, if_neg empty]
      exact handed_append sent
    · rw [completions, decision]
      cases both : endpoint.conn.qp.shouldSignal.2.shouldSignal.1 && status.ok with
      | false => exact .inl rfl
      | true =>
        obtain ⟨second, ok⟩ := Bool.and_eq_true_iff.mp both
        obtain ⟨decides, goes⟩ := succeeds.mp ok
        have segments := goes_segments decides goes
        exact .inr ⟨rfl, second, (segmentsGo_behind config (answer_behind device) iov).mp segments⟩

/-- The device's answer to the data of an accepted call. -/
theorem accepted_answer {endpoint : RpcEndpoint} {slotIndex : UInt32} (callbackCtx : Nat) (callback : Option Nat)
    (posted : (postHeader endpoint slotIndex header headerLen).1.ok = true)
    (valid : dataBuf.filter Buffer.isValid ≠ none) : ∃ first second : SendWr, handed endpoint.conn.qp
      (accepted endpoint slotIndex header headerLen dataBuf callbackCtx callback).conn.qp =
        [(first, true), (second, (answer endpoint.conn.qp 1).isNone)] := by
  obtain ⟨data, valid⟩ := Option.ne_none_iff_exists'.mp valid
  obtain ⟨connected, -, wr, device⟩ := sendInline_accepted posted
  obtain ⟨second, sends⟩ := data_sends connected data
    (postHeader endpoint slotIndex header headerLen).2.remoteRecvBuffer.addr
    (postHeader endpoint slotIndex header headerLen).2.remoteRecvBuffer.rkey
    (immOf slotIndex (endpoint.slotPool.hot slotIndex.toNat).getGeneration.toUInt8) (ownId endpoint slotIndex)
  rw [answer_behind device, device, List.append_assoc] at sends
  refine ⟨wr, second, ?_⟩
  rw [accepted, valid]
  exact handed_append sends

/-- An accepted call of `sendRequest` that does not signal all its work requests waits for more than their
    completions. -/
theorem accepted_short (slot : world.pool.stackTop ≠ 0)
    (posted : (postHeader world.endpoint request.slotIndex header headerLen).1.ok = true)
    (endpoint : next.endpoint =
      accepted world.endpoint request.slotIndex header headerLen dataBuf callbackCtx callback)
    (silent : ¬AllSignaled world.endpoint (.sendRequest header headerLen dataBuf callbackCtx callback)) :
    (cqes (handed world.endpoint.conn.qp next.endpoint.conn.qp)).length < (record next request).total := by
  obtain ⟨first, signaled, -, header_only, with_data⟩ :=
    accepted_handed world.endpoint request.slotIndex header headerLen dataBuf callbackCtx callback posted
  rw [← endpoint] at header_only with_data
  rw [(accepted_record endpoint).2.2]
  by_cases valid : dataBuf.filter Buffer.isValid = none
  · have first_silent : first.signaled = false := by
      rw [signaled, ← Bool.not_eq_true]
      exact fun signals => silent ⟨header_signaled slot posted signals, fun some_valid => absurd valid some_valid⟩
    rw [header_only valid, valid, cqes_single, first_silent]
    decide
  · obtain ⟨second, reply, both, signaledToo, -⟩ := with_data valid
    obtain ⟨_, _, answered⟩ := accepted_answer callbackCtx callback posted valid
    rw [← endpoint, both] at answered
    have reply_is : reply = (answer world.endpoint.conn.qp 1).isNone :=
      (Prod.mk.inj (List.cons.inj (List.cons.inj answered).2).1).2
    have some_valid : (dataBuf.filter Buffer.isValid).isSome = true := Option.isSome_iff_ne_none.mpr valid
    have one_silent : ¬(first.signaled = true ∧ second.signaled = true ∧ reply = true) := by
      rw [signaled, signaledToo, reply_is, Option.isNone_iff_eq_none]
      exact fun ⟨one, two, goes⟩ => silent ⟨header_signaled slot posted one, fun _ => ⟨two, goes⟩⟩
    rw [both, some_valid, ← List.singleton_append, cqes_append, List.length_append, cqes_single, cqes_single, if_pos rfl]
    revert one_silent
    cases first.signaled <;> cases second.signaled <;> cases reply <;> decide

theorem acceptedSGL_short (slot : world.pool.stackTop ≠ 0)
    (posted : (postHeader world.endpoint request.slotIndex header headerLen).1.ok = true)
    (returns : iov = [] ∨ (postSegments world.endpoint request.slotIndex
      (postHeader world.endpoint request.slotIndex header headerLen).2 fuel iov).1.isSome)
    (endpoint : next.endpoint =
      acceptedSGL world.endpoint request.slotIndex fuel header headerLen iov callbackCtx callback)
    (silent : ¬AllSignaled world.endpoint (.sendRequestSGL fuel header headerLen iov callbackCtx callback)) :
    (cqes (handed world.endpoint.conn.qp next.endpoint.conn.qp)).length < (record next request).total := by
  obtain ⟨first, wrs, signaled, sends, header_only, few⟩ := acceptedSGL_handed posted returns
  rw [← endpoint] at sends
  rw [sends, (acceptedSGL_record endpoint).2, ← List.singleton_append, cqes_append,
    List.length_append, cqes_single, signaled, Bool.and_true]
  by_cases empty : iov = []
  · have first_silent : world.endpoint.conn.qp.shouldSignal.1 = false := by
      rw [← Bool.not_eq_true]
      exact fun signals => silent ⟨header_signaled slot posted signals, fun some_left => absurd empty some_left⟩
    rw [header_only empty, first_silent, if_pos empty]
    decide
  · have first_most := Bool.toNat_le world.endpoint.conn.qp.shouldSignal.1
    rw [if_neg empty]
    rcases few with none_behind | ⟨one, second, goes⟩
    · omega
    · have first_silent : world.endpoint.conn.qp.shouldSignal.1 = false := by
        rw [← Bool.not_eq_true]
        exact fun signals => silent ⟨header_signaled slot posted signals, fun _ => ⟨second, goes⟩⟩
      rw [first_silent, one]
      decide

end Sends

/-- The request that a step issued. -/
theorem step_new (stepped : world.step event = some (next, calls)) (issued : request ∈ next.issued)
    (new : request ∉ world.issued) : next.issued = world.issued ++ [request] := by
  rcases step_issues stepped with same | ⟨other, longer⟩
  · rw [same] at issued
    exact absurd issued new
  · rw [longer] at issued ⊢
    rcases List.mem_append.mp issued with old | last
    · exact absurd old new
    · rw [List.mem_singleton.mp last]

/-- A new request waits for more than the completions that its work requests yield. -/
theorem new_short (wf : Wf world) (sound : Sound world event) (stepped : world.step event = some (next, calls))
    (silent : ¬AllSignaled world.endpoint event) (pending : next.Pending request)
    (new : request ∉ world.issued) :
    (record next request).completed = 0 ∧ (generated world next event).length < (record next request).total := by
  have kept := (step_wellFormed wf sound stepped).2.1
  have ok := (pending_holder kept pending).2.accepted
  have issued := step_new stepped pending.1 new
  cases event with
  | sendRequest header headerLen dataBuf callbackCtx callback =>
    obtain ⟨rest, stack, posted, endpoint, -⟩ := accepted_inv wf stepped issued ok
    refine ⟨(accepted_record endpoint).2.1, ?_⟩
    rw [generated, List.length_map]
    have slot : world.pool.stackTop ≠ 0 := by
      intro empty
      simp [World.pool, RpcSlotPool.freeSlots, empty] at stack
    exact accepted_short slot posted endpoint silent
  | sendRequestSGL fuel header headerLen iov callbackCtx callback =>
    obtain ⟨slot, posted, endpoint, returns⟩ := acceptedSGL_inv wf stepped issued ok
    refine ⟨(acceptedSGL_record endpoint).1, ?_⟩
    rw [generated, List.length_map]
    exact acceptedSGL_short slot posted returns endpoint silent
  | _ =>
    rw [step_quiet rfl stepped] at issued
    exact absurd (List.self_eq_append_right.mp issued) (List.cons_ne_nil _ _)

/-! ### Steps -/

/-- A request that is pending after a step and not new was pending before. -/
theorem pending_before (wf : Wf world) (sound : Sound world event) (stepped : world.step event = some (next, calls))
    (pending : next.Pending request) (old : request ∈ world.issued) : world.Pending request := by
  have past : request.born ≤ world.ledger.epoch request.slot := wf.ledger.past request old
  have grows := (step_grows wf sound stepped).1 request.slot
  have now : next.ledger.epoch request.slot = request.born := pending.2
  exact ⟨old, by change world.ledger.epoch request.slot = _; omega⟩

/-- The owner of a generated completion is the request that the step issued. -/
theorem generated_owner {cqe : Cqe} (member : cqe ∈ generated world next event) {owner : Request}
    (owned : cqe.owner = some owner) : next.issued[world.issued.length]? = some owner := by
  cases event with
  | sendRequest header headerLen dataBuf callbackCtx callback =>
    obtain ⟨wrId, -, rfl⟩ := List.mem_map.mp member
    exact owned
  | sendRequestSGL fuel header headerLen iov callbackCtx callback =>
    obtain ⟨wrId, -, rfl⟩ := List.mem_map.mp member
    exact owned
  | sendReadResponse clientSlotIndex clientGeneration dataBuf clientBuffer =>
    obtain ⟨wrId, -, rfl⟩ := List.mem_map.mp member
    cases owned
  | _ => cases member

/-- No completion on its way belongs to a request that is yet to be issued. -/
theorem generated_new (wf : Wf next) (stepped : world.step event = some (next, calls)) {cqe : Cqe}
    (member : cqe ∈ generated world next event) (old : request ∈ world.issued) : cqe.owner ≠ some request := by
  intro owned
  have last := generated_owner member owned
  have distinct : next.issued.Nodup := wf.ledger.distinct.of_map _
  rcases step_issues stepped with same | ⟨other, longer⟩
  · rw [same, List.getElem?_length] at last
    cases last
  · rw [longer, List.getElem?_concat_length] at last
    obtain rfl := Option.some.inj last
    rw [longer, List.nodup_append] at distinct
    exact distinct.2.2 _ old _ (List.mem_singleton_self _) rfl

theorem event_waits {system : System} (waits : Waits system) (sound : Sound system.world event)
    (silent : ¬AllSignaled system.world.endpoint event) (quiet : completes event = false)
    (stepped : system.world.step event = some (next, calls)) :
    Waits ⟨next, system.inFlight ++ generated system.world next event,
      system.answered ++ answeredBy system.world event⟩ := by
  have kept := (step_wellFormed waits.wf sound stepped).2.1
  have grows := step_grows waits.wf sound stepped
  refine ⟨kept, fun cqe member owner owned => ?_, fun request pending => ?_⟩
  · rcases List.mem_append.mp member with old | new
    · exact grows.2 owner (waits.owned cqe old owner owned)
    · exact List.mem_of_getElem? (generated_owner new owned)
  · rw [outstanding, List.countP_append]
    by_cases old : request ∈ system.world.issued
    · have before := pending_before waits.wf sound stepped pending old
      rcases waits.short request before with answered | short
      · exact .inl (List.mem_append_left _ answered)
      · by_cases hit : hits request event = true
        · exact .inl (List.mem_append_right _ (hit_answers waits.wf before quiet hit))
        · have none_new : (generated system.world next event).countP (fun cqe => cqe.owner = some request) = 0 :=
            List.countP_eq_zero.mpr fun cqe member => by
              rw [decide_eq_true_iff]
              exact generated_new kept stepped member old
          rw [step_kept waits.wf before sound stepped pending, if_neg hit, none_new]
          exact .inr short
    · obtain ⟨completed, few⟩ := new_short waits.wf sound stepped silent pending old
      have none_old : system.inFlight.countP (fun cqe => cqe.owner = some request) = 0 :=
        List.countP_eq_zero.mpr fun cqe member => by
          rw [decide_eq_true_iff]
          exact fun owned => old (waits.owned cqe member request owned)
      have most : (generated system.world next event).countP (fun cqe => cqe.owner = some request) ≤
        (generated system.world next event).length := List.countP_le_length
      rw [completed, none_old, Nat.zero_add, Nat.zero_add]
      exact .inr (Nat.lt_of_le_of_lt most few)

/-- The completions on their way before and after a delivery. -/
theorem outstanding_eraseIdx {inFlight : List Cqe} {index : Nat} {cqe : Cqe} (at_index : inFlight[index]? = some cqe)
    (request : Request) : outstanding inFlight request =
      outstanding (inFlight.eraseIdx index) request + if cqe.owner = some request then 1 else 0 := by
  obtain ⟨inside, same⟩ := List.getElem?_eq_some_iff.mp at_index
  have perm := (List.getElem_cons_eraseIdx_perm inside).countP_eq fun cqe => decide (cqe.owner = some request)
  rw [outstanding, outstanding, ← perm, List.countP_cons, same]
  simp only [decide_eq_true_eq]

theorem deliver_waits {system : System} (waits : Waits system) {index : Nat} (careful : Careful system (.deliver index))
    {cqe : Cqe} (at_index : system.inFlight[index]? = some cqe)
    (stepped : system.world.step (.onSendComplete { wrId := cqe.wrId }) = some (next, calls)) :
    Waits { system with world := next, inFlight := system.inFlight.eraseIdx index } := by
  obtain ⟨sound, own⟩ := careful cqe at_index
  have kept := (step_wellFormed waits.wf sound stepped).2.1
  have same : next.issued = system.world.issued := step_quiet rfl stepped
  refine ⟨kept, fun other member owner owned => ?_, fun request pending => ?_⟩
  · rw [same]
    exact waits.owned other (List.mem_of_mem_eraseIdx member) owner owned
  · have before := pending_before waits.wf sound stepped pending (by rw [← same]; exact pending.1)
    have counted := outstanding_eraseIdx at_index request
    rcases waits.short request before with answered | short
    · exact .inl answered
    · right
      rw [step_kept waits.wf before sound stepped pending]
      simp only [Holder.count]
      by_cases hit : hits request (.onSendComplete { wrId := cqe.wrId }) = true
      · rw [if_pos (own request before hit)] at counted
        rw [if_pos hit]
        omega
      · rw [if_neg hit]
        omega

theorem event_inv {system last : System} (stepped : system.step (.event event) = some (last, calls)) :
    completes event = false ∧ ∃ next, system.world.step event = some (next, calls) ∧
      last = ⟨next, system.inFlight ++ generated system.world next event,
        system.answered ++ answeredBy system.world event⟩ := by
  rw [System.step] at stepped
  split at stepped
  · cases stepped
  · rename_i quiet
    obtain ⟨⟨next, called⟩, taken, stepped⟩ := Option.bind_eq_some_iff.mp stepped
    obtain ⟨rfl, rfl⟩ := Prod.mk.inj (Option.some.inj stepped)
    exact ⟨Bool.not_eq_true _ ▸ quiet, next, taken, rfl⟩

theorem deliver_inv {system last : System} {index : Nat} (stepped : system.step (.deliver index) = some (last, calls)) :
    ∃ cqe next, system.inFlight[index]? = some cqe ∧
      system.world.step (.onSendComplete { wrId := cqe.wrId }) = some (next, calls) ∧
      last = { system with world := next, inFlight := system.inFlight.eraseIdx index } := by
  obtain ⟨cqe, at_index, stepped⟩ := Option.bind_eq_some_iff.mp stepped
  obtain ⟨⟨next, called⟩, taken, stepped⟩ := Option.bind_eq_some_iff.mp stepped
  obtain ⟨rfl, rfl⟩ := Prod.mk.inj (Option.some.inj stepped)
  exact ⟨cqe, next, at_index, taken, rfl⟩

theorem step_waits {system last : System} {move : Move} (waits : Waits system) (careful : Careful system move)
    (stepped : system.step move = some (last, calls)) : Waits last := by
  cases move with
  | event event =>
    obtain ⟨quiet, next, taken, rfl⟩ := event_inv stepped
    exact event_waits waits careful.1 careful.2 quiet taken
  | deliver index =>
    obtain ⟨cqe, next, at_index, taken, rfl⟩ := deliver_inv stepped
    exact deliver_waits waits careful at_index taken

/-- A request that a delivered completion finishes has been answered. -/
theorem deliver_answered {system last : System} {index : Nat} (waits : Waits system)
    (careful : Careful system (.deliver index)) (stepped : system.step (.deliver index) = some (last, calls))
    (pending : system.world.Pending request) (finished : ¬last.world.Pending request) : request ∈ system.answered := by
  obtain ⟨cqe, next, at_index, taken, rfl⟩ := deliver_inv stepped
  obtain ⟨sound, own⟩ := careful cqe at_index
  have counted := outstanding_eraseIdx at_index request
  rcases waits.short request pending with answered | short
  · exact answered
  · rcases step_finished waits.wf pending sound taken finished with enough | early
    · by_cases hit : hits request (.onSendComplete { wrId := cqe.wrId }) = true
      · rw [if_pos (own request pending hit)] at counted
        rw [if_pos hit] at enough
        omega
      · rw [if_neg hit] at enough
        omega
    · cases early

/-- A request that another event finishes has been answered, or has timed out. -/
theorem event_answered {system last : System} (waits : Waits system) (careful : Careful system (.event event))
    (stepped : system.step (.event event) = some (last, calls)) (pending : system.world.Pending request)
    (finished : ¬last.world.Pending request) : request ∈ last.answered ∨ timesOut event = true := by
  obtain ⟨quiet, next, taken, rfl⟩ := event_inv stepped
  rcases step_finished waits.wf pending careful.1 taken finished with enough | early
  · rcases waits.short request pending with answered | short
    · exact .inl (List.mem_append_left _ answered)
    · by_cases hit : hits request event = true
      · exact .inl (List.mem_append_right _ (hit_answers waits.wf pending quiet hit))
      · rw [if_neg hit] at enough
        omega
  · exact .inr early

/-- A call belongs to a request that it finishes. -/
theorem call_finishes (wf : Wf world) (sound : Sound world event) (stepped : world.step event = some (next, calls))
    {call : Call} (called : call ∈ calls) :
    ∃ request, world.Pending request ∧ CallOf call request ∧ ¬next.Pending request := by
  obtain ⟨request, pending, is_of⟩ := step_calls wf sound stepped call called
  obtain ⟨-, -, actions, -, allowed, ran⟩ := step_wellFormed wf sound stepped
  have later := (run_calls wf.ledger allowed ran call called).2.2
  rw [is_of.slot, is_of.epoch] at later
  refine ⟨request, pending, is_of, fun still => ?_⟩
  have now : next.ledger.epoch request.slot = request.born := still.2
  omega

/-- Calls of timeouts report status 1. -/
theorem timeout_status (wf : Wf world) (sound : Sound world event) (stepped : world.step event = some (next, calls))
    (early : timesOut event = true) {call : Call} (called : call ∈ calls) : call.status = 1 := by
  obtain ⟨-, -, actions, explains, -, ran⟩ := step_wellFormed wf sound stepped
  cases event with
  | checkTimeouts expired => exact run_expires_status explains ran call called
  | _ => cases early

/-- All other calls report status 0. -/
theorem untimed_status (wf : Wf world) (sound : Sound world event) (stepped : world.step event = some (next, calls))
    (untimed : timesOut event = false) {call : Call} (called : call ∈ calls) : call.status = 0 := by
  obtain ⟨-, -, actions, explains, allowed, ran⟩ := step_wellFormed wf sound stepped
  refine run_untimed_status wf.ledger allowed (fun slotIndex member => ?_) ran call called
  have early := explains_expires explains (List.any_eq_true.mpr ⟨_, member, decide_eq_true rfl⟩)
  rw [untimed] at early
  cases early

/-- In a run whose steps are careful, a callback is invoked with status 0 only for a request that was answered by
    then, and a completion frees the slot only of a request that was answered before. -/
theorem success_needs_response {endpoint : RpcEndpoint} (fresh : Fresh endpoint) {front : List Move} {move : Move}
    (careful : Meets System.step Careful (.start endpoint) (front ++ [move])) {system last : System}
    {before calls : List Call} (ran : run System.step (.start endpoint) front = some (system, before))
    (stepped : system.step move = some (last, calls)) :
    (∀ call ∈ calls, call.status = 0 → ∃ request ∈ last.answered, CallOf call request) ∧
      ∀ index request, move = .deliver index → system.world.Pending request → ¬last.world.Pending request →
        request ∈ system.answered := by
  obtain ⟨early, late⟩ := meets_append.mp careful
  have start : Waits (.start endpoint) :=
    ⟨start_wf fresh, fun _ member => (List.not_mem_nil member).elim, fun _ pending => (List.not_mem_nil pending.1).elim⟩
  have waits := invariant_of_run (fun _ _ _ _ waits careful stepped => step_waits waits careful stepped) start early ran
  have here := (late system before ran).1
  refine ⟨fun call called success => ?_, fun index request is_delivery pending finished => ?_⟩
  · cases move with
    | event event =>
      obtain ⟨-, next, taken, same⟩ := event_inv stepped
      obtain ⟨request, pending, is_of, finished⟩ := call_finishes waits.wf here.1 taken called
      rcases event_answered waits here stepped pending (by rw [same]; exact finished) with answered | early
      · exact ⟨request, answered, is_of⟩
      · rw [timeout_status waits.wf here.1 taken early called] at success
        cases success
    | deliver index =>
      obtain ⟨cqe, next, at_index, taken, same⟩ := deliver_inv stepped
      obtain ⟨request, pending, is_of, finished⟩ := call_finishes waits.wf (here cqe at_index).1 taken called
      have answered := deliver_answered waits here stepped pending (by rw [same]; exact finished)
      exact ⟨request, by rw [same]; exact answered, is_of⟩
  · subst is_delivery
    exact deliver_answered waits here stepped pending finished

theorem response_succeeds : ∃ system last before calls,
    run System.step (.start (sampleEndpoint 7 {})) [.event (.sendRequest 0 64 none 5 (some 3))] = some (system, before) ∧
      system.step (.event (.onWriteWithImmRecv { wrId := 0, immData := 0 })) = some (last, calls) ∧
      calls.map Call.status = [0] ∧ ∀ call ∈ calls, call.status = 0 → ∃ request ∈ last.answered, CallOf call request := by
  have fresh := sample_fresh 7 {}
  have sent : ∃ system, System.step (.start (sampleEndpoint 7 {})) (.event (.sendRequest 0 64 none 5 (some 3))) =
      some (system, []) ∧ system.world.pool.InUse 0 ∧
      ∃ last calls, system.step (.event (.onWriteWithImmRecv { wrId := 0, immData := 0 })) = some (last, calls) ∧
        calls.map Call.status = [0] := ⟨_, rfl, by decide +kernel, _, _, rfl, by decide +kernel⟩
  obtain ⟨system, stepped, inUse, last, calls, answered, success⟩ := sent
  have first : Careful (.start (sampleEndpoint 7 {})) (.event (.sendRequest 0 64 none 5 (some 3))) :=
    ⟨trivial, fun all => absurd all.1.signaled (by decide)⟩
  have second : Careful system (.event (.onWriteWithImmRecv { wrId := 0, immData := 0 })) :=
    ⟨fun named => named.2 (by rw [show (immSlotIndex { wrId := 0, immData := 0 }).toNat = 0 by decide]; exact inUse), id⟩
  have ran := run_cons_some.mpr ⟨system, [], [], stepped, run_nil system, rfl⟩
  exact ⟨system, last, _, calls, ran, answered, success,
    (success_needs_response fresh (meets_cons stepped first (meets_cons answered second (meets_nil _))) ran answered).1⟩

/-- With a signal interval of 1 the completion of the header alone completes the request with status 0. -/
theorem completion_succeeds_alone : ∃ system last call,
    run System.step (.start (sampleEndpoint 7 { signalInterval := 1 })) [.event (.sendRequest 0 64 none 5 (some 3))] =
        some (system, []) ∧
      system.step (.deliver 0) = some (last, [call]) ∧ call.status = 0 ∧ last.answered = [] ∧
      system.world.pool.InUse 0 ∧ ¬last.world.pool.InUse 0 :=
  ⟨_, _, _, rfl, rfl, by decide +kernel, rfl, by decide +kernel, by decide +kernel⟩

end Rdma.Responses
