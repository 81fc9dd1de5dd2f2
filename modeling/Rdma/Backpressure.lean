import Rdma.EndpointRuns
import Rdma.Signaling

/-!
The signaling capacity of an endpoint's queue pair. The send operations of the
endpoint take the signaling decision up to twice (`decisions`), and nothing the
endpoint does tells the queue pair that a send has completed (`step_alike`). So
in a state in which no signaled work request is in flight the capacity is whole
if and only if no signaling decision has been made for a completion so far
(`capacity_returned_iff`).
-/
namespace Rdma.Backpressure
open Rdma.Types Rdma.Verbs Rdma.WrIds Rdma.Runs Rdma.QueuePairs Rdma.Connections Rdma.TimingWheels Rdma.SlotPools
open Rdma.Endpoints Rdma.EndpointRuns
open Rdma.Signaling hiding Event

/-! ### Signaling decisions -/

/-- The queue pair after so many signaling decisions. -/
def afterDecisions : Nat → QueuePair → QueuePair
  | 0, qp => qp
  | count + 1, qp => afterDecisions count qp.shouldSignal.2

theorem afterDecisions_alike {qp other : QueuePair} (alike : Alike qp other) (count : Nat) :
    Alike (afterDecisions count qp) (afterDecisions count other) := by
  induction count generalizing qp other with
  | zero => exact alike
  | succ count ih => exact ih alike.shouldSignal

/-- A slot is left for a request. -/
def hasSlot (pool : RpcSlotPool) : Bool := pool.allocate.any fun result => result.1.1 ≠ 0xFFFFFFFF

/-- A header of the length gets to the signaling decision. -/
def headerAsks (conn : Connection) (headerLen : UInt64) : Bool :=
  conn.state = .connected ∧ headerLen.toNat ≤ conn.qp.config.maxInlineData.toNat

/-- Segments that follow an accepted header get to the signaling decision. -/
def segmentsAsk (qp : QueuePair) (iov : List Iovec) : Bool :=
  iov.length ≤ qp.config.maxSendSge.toNat ∨ 0 < qp.config.maxSendSge.toNat ∧ qp.config.maxSendSge.toNat ≤ 16 ∧
    ∀ index < fragmentsBefore qp.config.maxSendSge.toNat iov.length, answer qp (index + 1) = none

/-- How often a request takes the signaling decision, if more follows its header or not. -/
def requestDecisions (endpoint : RpcEndpoint) (headerLen : UInt64) (more : Bool) : Nat :=
  if hasSlot endpoint.slotPool then
    (headerAsks endpoint.conn headerLen).toNat +
      (headerAsks endpoint.conn headerLen && endpoint.conn.qp.device.nextAnswer.isNone && more).toNat
  else 0

/-- How often an event takes the signaling decision. -/
def decisions (endpoint : RpcEndpoint) : Event → Nat
  | .sendRequest _ headerLen dataBuf _ _ => requestDecisions endpoint headerLen (dataBuf.filter Buffer.isValid).isSome
  | .sendRequestSGL _ _ headerLen iov _ _ =>
    requestDecisions endpoint headerLen (iov ≠ [] ∧ segmentsAsk endpoint.conn.qp iov)
  | .sendReadResponse .. => if endpoint.conn.state = .connected then 1 else 0
  | .onSendComplete _ | .onWriteWithImmRecv _ | .checkTimeouts _ | .environment .. => 0

section Posts
variable {conn : Connection}

theorem sendInline_alike (conn : Connection) (data length wrId : UInt64) :
    Alike (afterDecisions (headerAsks conn length).toNat conn.qp) (conn.sendInline data length wrId).2.qp := by
  unfold headerAsks
  by_cases connected : conn.state = .connected
  · rw [sendInline_eq connected]
    have posted : (Post.sendInline data length wrId).on conn.qp = (some _, _) := rfl
    obtain ⟨effect, -⟩ := on_effect posted
    by_cases fits : length.toNat ≤ conn.qp.config.maxInlineData.toNat
    · rw [decide_eq_true ⟨connected, fits⟩]
      exact effect.decided fits
    · rw [decide_eq_false fun both => fits both.2]
      exact effect.undecided fits
  · rw [decide_eq_false fun both => connected both.1, Connection.sendInline, Connection.ifConnected, if_pos connected]
    exact .refl conn.qp

theorem writeWithImm_alike (connected : conn.state = .connected) (buf : Buffer) (remoteAddr : UInt64)
    (remoteRkey immData : UInt32) (wrId : UInt64) :
    Alike (afterDecisions 1 conn.qp) (conn.writeWithImm buf remoteAddr remoteRkey immData wrId).2.qp := by
  have posted : (Post.writeWithImm buf remoteAddr remoteRkey immData wrId).on conn.qp = (some _, _) := rfl
  rw [writeWithImm_eq connected]
  exact (on_effect posted).1.decided trivial

theorem writeWithImm_apart (apart : conn.state ≠ .connected) (buf : Buffer) (remoteAddr : UInt64)
    (remoteRkey immData : UInt32) (wrId : UInt64) :
    Alike (afterDecisions 0 conn.qp) (conn.writeWithImm buf remoteAddr remoteRkey immData wrId).2.qp := by
  rw [Connection.writeWithImm, Connection.ifConnected, if_pos apart]
  exact .refl conn.qp

theorem segmentsAsk_decides {qp next : QueuePair} (config : next.config = qp.config)
    (shifted : ∀ index, answer next index = answer qp (index + 1)) (fuel : Nat) (iov : List Iovec) (wrIdBase : UInt64)
    (connId : UInt16) (generation : UInt8) :
    (Post.sendSGL fuel iov wrIdBase connId generation).Decides next ↔ segmentsAsk qp iov = true := by
  rw [Post.Decides, segmentsAsk, decide_eq_true_iff, config, ← Nat.not_lt, ← imp_iff_not_or, GetsToLast]
  simp only [shifted]

end Posts

/-! ### What the endpoint does to its queue pair -/

section Calls
variable {endpoint started next : RpcEndpoint} {header headerLen : UInt64} {callbackCtx : Nat} {callback : Option Nat}
  {token : Option Token} {behind : Option Posting} {result : Except Status UInt32}

/-- A call is given a slot if one is left. -/
theorem started_slot (starts : Started endpoint callbackCtx callback token started) :
    hasSlot endpoint.slotPool = token.isSome := by
  unfold hasSlot
  cases starts with
  | exhausted allocated => simp [allocated]
  | given named allocated => simp [allocated, named]

/-- A header that is not accepted is not followed by anything. -/
theorem requestDecisions_refused (slot : hasSlot endpoint.slotPool = true) {data wrId : UInt64} (more : Bool)
    (failed : (endpoint.conn.sendInline data headerLen wrId).1.ok = false) :
    requestDecisions endpoint headerLen more = (headerAsks endpoint.conn headerLen).toNat := by
  have stops : (headerAsks endpoint.conn headerLen && endpoint.conn.qp.device.nextAnswer.isNone) = false := by
    rw [Bool.eq_false_iff, Ne, Bool.and_eq_true, headerAsks, decide_eq_true_iff, Option.isNone_iff_eq_none, and_assoc,
      ← sendInline_ok endpoint.conn data headerLen wrId, failed]
    exact Bool.false_ne_true
  rw [requestDecisions, if_pos slot, stops]
  rfl

/-- A header that is accepted is followed by the decision on what comes behind it. -/
theorem requestDecisions_accepted (slot : hasSlot endpoint.slotPool = true) {data wrId : UInt64} (more : Bool)
    (ok : (endpoint.conn.sendInline data headerLen wrId).1.ok = true) :
    requestDecisions endpoint headerLen more = 1 + more.toNat := by
  obtain ⟨connected, fits, accepted⟩ := (sendInline_ok ..).mp ok
  have asks : headerAsks endpoint.conn headerLen = true := decide_eq_true ⟨connected, fits⟩
  rw [requestDecisions, if_pos slot, asks, accepted]
  rfl

/-- A send call leaves the queue pair as its signaling decisions do, if what it posts behind the header does. -/
theorem sending_alike {more : Bool} (starts : Started endpoint callbackCtx callback token started)
    (ends : Sending endpoint started header headerLen behind token (some result) next)
    (nothing : behind = none → more = false)
    (posts : ∀ slotIndex generation post, (endpoint.postHeader slotIndex generation header headerLen).1.ok = true →
      behind = some post →
      ∀ status, (post (slotIndex, generation) (endpoint.postHeader slotIndex generation header headerLen).2).1 = some status →
        Alike (afterDecisions more.toNat (endpoint.postHeader slotIndex generation header headerLen).2.qp)
          (post (slotIndex, generation) (endpoint.postHeader slotIndex generation header headerLen).2).2.qp) :
    Alike (afterDecisions (requestDecisions endpoint headerLen more) endpoint.conn.qp) next.conn.qp := by
  have slot := started_slot starts
  have front : ∀ slotIndex generation, Alike (afterDecisions (headerAsks endpoint.conn headerLen).toNat endpoint.conn.qp)
      (endpoint.postHeader slotIndex generation header headerLen).2.qp := fun _ _ => sendInline_alike ..
  have accepted : ∀ slotIndex generation, (endpoint.postHeader slotIndex generation header headerLen).1.ok = true →
      Alike (afterDecisions 1 endpoint.conn.qp) (endpoint.postHeader slotIndex generation header headerLen).2.qp := by
    intro slotIndex generation ok
    obtain ⟨connected, fits, -⟩ := (sendInline_ok ..).mp ok
    have asks : headerAsks endpoint.conn headerLen = true := decide_eq_true ⟨connected, fits⟩
    have first := front slotIndex generation
    rwa [asks] at first
  cases ends with
  | exhausted =>
    rw [requestDecisions, if_neg (by rw [slot]; exact Bool.false_ne_true), starts.conn]
    exact .refl _
  | refused failed =>
    rw [requestDecisions_refused slot _ failed]
    exact front ..
  | alone posted none_behind =>
    rw [requestDecisions_accepted slot _ posted, nothing none_behind]
    exact accepted _ _ posted
  | followed posted behind _ _ returns =>
    obtain ⟨status, returned, -⟩ := Option.map_eq_some_iff.mp returns.symm
    rw [requestDecisions_accepted slot _ posted, Nat.add_comm]
    exact (afterDecisions_alike (accepted _ _ posted) more.toNat).trans (posts _ _ _ posted behind status returned)

theorem sendRequest_alike {dataBuf : Option Buffer}
    (sent : endpoint.sendRequest header headerLen dataBuf callbackCtx callback = some (result, next)) :
    Alike (afterDecisions (requestDecisions endpoint headerLen (dataBuf.filter Buffer.isValid).isSome) endpoint.conn.qp)
      next.conn.qp := by
  obtain ⟨token, started, starts, ends⟩ := sendRequest_inv sent
  refine sending_alike starts ends ?_ ?_
  · intro nothing
    rw [Option.map_eq_none_iff.mp nothing]
    rfl
  · intro slotIndex generation post posted behind status returned
    obtain ⟨dataBuf, valid, rfl⟩ := Option.map_eq_some_iff.mp behind
    rw [valid]
    exact writeWithImm_alike (sendInline_accepted posted).1 dataBuf ..

/-- The segments behind a header that was accepted. -/
theorem postSendSGL_alike {qp after : QueuePair} (config : after.config = qp.config)
    (shifted : ∀ index, answer after index = answer qp (index + 1)) {fuel : Nat} {iov : List Iovec} {wrIdBase : UInt64}
    {connId : UInt16} {generation : UInt8} {status : Status}
    (returned : (after.postSendSGL fuel iov wrIdBase connId generation).1 = some status) :
    Alike (afterDecisions (segmentsAsk qp iov).toNat after) (after.postSendSGL fuel iov wrIdBase connId generation).2 := by
  have posted : (Post.sendSGL fuel iov wrIdBase connId generation).on after =
    (some status, (after.postSendSGL fuel iov wrIdBase connId generation).2) := Prod.ext returned rfl
  have effect := (on_effect posted).1
  have asked := segmentsAsk_decides config shifted fuel iov wrIdBase connId generation
  cases asks : segmentsAsk qp iov with
  | true => exact effect.decided (asked.mpr asks)
  | false => exact effect.undecided fun decides => by rw [asked.mp decides] at asks; cases asks

theorem sendRequestSGL_alike {fuel : Nat} {iov : List Iovec}
    (sent : endpoint.sendRequestSGL fuel header headerLen iov callbackCtx callback = some (some result, next)) :
    Alike (afterDecisions (requestDecisions endpoint headerLen (iov ≠ [] ∧ segmentsAsk endpoint.conn.qp iov))
      endpoint.conn.qp) next.conn.qp := by
  obtain ⟨token, started, starts, ends⟩ := sendRequestSGL_inv sent
  refine sending_alike starts ends ?_ ?_
  · intro nothing
    rw [decide_eq_false_iff_not]
    rintro ⟨segments, -⟩
    exact segments (segmentsBehind_none.mp nothing)
  · intro slotIndex generation post posted behind status returned
    obtain ⟨segments, rfl⟩ := segmentsBehind_some behind
    obtain ⟨-, config, wr, device⟩ := sendInline_accepted posted
    have more : decide (iov ≠ [] ∧ segmentsAsk endpoint.conn.qp iov = true) = segmentsAsk endpoint.conn.qp iov := by
      simp [segments]
    rw [more]
    exact postSendSGL_alike config (answer_behind device) returned

end Calls

/-! ### Every event -/

/-- Others that use the connection leave its queue pair's counters and sends alone. -/
def Exclusive (world : World) : Event → Prop
  | .environment conn _ _ =>
    Alike world.endpoint.conn.qp conn.qp ∧ conn.qp.device.sends = world.endpoint.conn.qp.device.sends
  | _ => True

theorem postRecv_alike (conn : Connection) (buf : Buffer) (wrId : UInt64) :
    Alike conn.qp (conn.postRecv buf wrId).2.qp := by
  unfold Connection.postRecv QueuePair.postRecv Device.ibvPostRecv
  dsimp only
  split
  · rename_i accepted
    obtain ⟨-, rfl⟩ := Prod.mk.inj accepted
    exact ⟨rfl, rfl, rfl, rfl⟩
  · rename_i rejected
    obtain ⟨-, rfl⟩ := Prod.mk.inj rejected
    exact ⟨rfl, rfl, rfl, rfl⟩

theorem onWriteWithImmRecv_alike {endpoint next : RpcEndpoint} {wc : Wc} {calls : List Call}
    (handled : endpoint.onWriteWithImmRecv wc = some (next, calls)) : Alike endpoint.conn.qp next.conn.qp := by
  rcases onWriteWithImmRecv_inv handled with rfl | ⟨counted, counts, reposted⟩
  · exact .refl _
  · obtain ⟨buf, bufferPool, -, rfl⟩ := repostRecvBuffer_inv reposted
    rw [counts.frame]
    dsimp only
    split
    · exact postRecv_alike endpoint.conn buf 0
    · exact .refl _

variable {world next : World} {event : Event} {calls : List Call}

/-- An event leaves the queue pair as its signaling decisions do. -/
theorem step_alike (exclusive : Exclusive world event) (stepped : world.step event = some (next, calls)) :
    Alike (afterDecisions (decisions world.endpoint event) world.endpoint.conn.qp) next.endpoint.conn.qp := by
  cases event with
  | sendRequest header headerLen dataBuf callbackCtx callback =>
    obtain ⟨⟨result, endpoint⟩, sent, stepped⟩ := Option.bind_eq_some_iff.mp stepped
    obtain ⟨rfl, -⟩ := Prod.mk.inj (Option.some.inj stepped)
    exact sendRequest_alike sent
  | sendRequestSGL fuel header headerLen iov callbackCtx callback =>
    obtain ⟨⟨returned, endpoint⟩, sent, stepped⟩ := Option.bind_eq_some_iff.mp stepped
    obtain ⟨result, rfl, stepped⟩ := Option.bind_eq_some_iff.mp stepped
    obtain ⟨rfl, -⟩ := Prod.mk.inj (Option.some.inj stepped)
    exact sendRequestSGL_alike sent
  | sendReadResponse clientSlotIndex clientGeneration dataBuf clientBuffer =>
    obtain ⟨rfl, -⟩ := Prod.mk.inj (Option.some.inj stepped)
    unfold decisions
    by_cases connected : world.endpoint.conn.state = .connected
    · rw [if_pos connected]
      exact writeWithImm_alike connected ..
    · rw [if_neg connected]
      exact writeWithImm_apart connected ..
  | onSendComplete wc =>
    obtain ⟨⟨endpoint, called⟩, handled, stepped⟩ := Option.bind_eq_some_iff.mp stepped
    obtain ⟨rfl, -⟩ := Prod.mk.inj (Option.some.inj stepped)
    rw [(onSendComplete_onPool handled).frame]
    exact .refl _
  | onWriteWithImmRecv wc =>
    obtain ⟨⟨endpoint, called⟩, handled, stepped⟩ := Option.bind_eq_some_iff.mp stepped
    obtain ⟨rfl, -⟩ := Prod.mk.inj (Option.some.inj stepped)
    exact onWriteWithImmRecv_alike handled
  | checkTimeouts expired =>
    obtain ⟨⟨endpoint, called, count⟩, checked, stepped⟩ := Option.bind_eq_some_iff.mp stepped
    obtain ⟨rfl, -⟩ := Prod.mk.inj (Option.some.inj stepped)
    rw [(checkTimeouts_onPool checked).frame]
    exact .refl _
  | environment conn bufferPool timingWheel =>
    obtain ⟨rfl, -⟩ := Prod.mk.inj (Option.some.inj stepped)
    exact exclusive.1

/-! ### Capacity -/

/-- A queue pair none of whose signaling decisions has been for a completion yet. -/
structure Quiet (qp : QueuePair) : Prop where
  outstanding : qp.outstandingSignaled = 0
  early : 2 ≤ qp.config.cqDepth.toNat → qp.unsignaledCount = 0 ∨ qp.unsignaledCount < qp.config.signalInterval

/-- So many signaling decisions are all against a completion: there is no capacity at all, or the interval does not end
    at any of them. -/
def Early (qp : QueuePair) (count : Nat) : Prop :=
  count = 0 ∨ qp.config.cqDepth.toNat < 2 ∨ qp.unsignaledCount.toNat + count < qp.config.signalInterval.toNat

/-- The event makes no signaling decision for a completion, if none has been made before. -/
def Silent (world : World) (event : Event) : Prop :=
  Early world.endpoint.conn.qp (decisions world.endpoint event)

section Decisions
variable {qp : QueuePair}

theorem quiet_capacity (quiet : Quiet qp) : qp.canPostSignaled = decide (2 ≤ qp.config.cqDepth.toNat) := by
  rw [QueuePair.canPostSignaled, quiet.outstanding, decide_eq_decide, UInt32.lt_iff_toNat_lt, UInt32.toNat_div]
  change 0 < _ / 2 ↔ _
  omega

theorem quiet_next (quiet : Quiet qp) (depth : 2 ≤ qp.config.cqDepth.toNat) :
    (qp.unsignaledCount + 1).toNat = qp.unsignaledCount.toNat + 1 := by
  have bound := qp.config.signalInterval.toNat_lt
  rcases quiet.early depth with zero | below
  · rw [zero]
    rfl
  · have below := UInt32.lt_iff_toNat_lt.mp below
    rw [UInt32.toNat_add]
    exact Nat.mod_eq_of_lt (Nat.lt_of_le_of_lt below bound)

/-- A decision is for a completion if and only if there is capacity and the interval ends at it. -/
theorem quiet_decides (quiet : Quiet qp) : qp.shouldSignal.1 = false ↔ Early qp 1 := by
  rw [shouldSignal_eq, quiet_capacity quiet, Bool.and_eq_false_iff, decide_eq_false_iff_not, decide_eq_false_iff_not,
    UInt32.not_le, UInt32.lt_iff_toNat_lt, Nat.not_le, Early, or_comm]
  by_cases depth : 2 ≤ qp.config.cqDepth.toNat
  · rw [quiet_next quiet depth]
    omega
  · omega

theorem quiet_kept (quiet : Quiet qp) (unsignaled : qp.shouldSignal.1 = false) :
    Quiet qp.shouldSignal.2 ∧ ∀ count, Early qp.shouldSignal.2 count ↔ Early qp (count + 1) := by
  have early := (quiet_decides quiet).mp unsignaled
  rw [shouldSignal_unsignaled unsignaled]
  refine ⟨⟨quiet.outstanding, fun depth => .inr ?_⟩, fun count => ?_⟩
  · rw [UInt32.lt_iff_toNat_lt]
    have next := quiet_next quiet depth
    dsimp only at depth ⊢
    rcases early with impossible | none_left | below
    · omega
    · omega
    · omega
  · by_cases depth : 2 ≤ qp.config.cqDepth.toNat
    · have next := quiet_next quiet depth
      unfold Early at early ⊢
      dsimp only
      omega
    · exact ⟨fun _ => .inr (.inl (Nat.lt_of_not_le depth)), fun _ => .inr (.inl (Nat.lt_of_not_le depth))⟩

/-- Signaling decisions never lower the counter. -/
theorem afterDecisions_grows (count : Nat) (qp : QueuePair) :
    qp.outstandingSignaled.toNat ≤ (afterDecisions count qp).outstandingSignaled.toNat := by
  induction count generalizing qp with
  | zero => exact Nat.le_refl _
  | succ count ih =>
    refine Nat.le_trans ?_ (ih qp.shouldSignal.2)
    rw [(shouldSignal_outstanding qp).1]
    exact Nat.le_add_right ..

/-- Decisions leave the counter at zero if and only if they are all early. -/
theorem quiet_afterDecisions (quiet : Quiet qp) (count : Nat) :
    (Early qp count → Quiet (afterDecisions count qp)) ∧
      (¬Early qp count → 0 < (afterDecisions count qp).outstandingSignaled.toNat) := by
  induction count generalizing qp with
  | zero => exact ⟨fun _ => quiet, fun late => absurd (.inl rfl) late⟩
  | succ count ih =>
    cases signaled : qp.shouldSignal.1 with
    | false =>
      obtain ⟨kept, shifted⟩ := quiet_kept quiet signaled
      rw [← shifted]
      exact ih kept
    | true =>
      have grows := afterDecisions_grows count qp.shouldSignal.2
      rw [(shouldSignal_outstanding qp).1, signaled] at grows
      refine ⟨fun early => ?_, fun _ => Nat.lt_of_lt_of_le (Nat.succ_pos _) grows⟩
      have first : Early qp 1 := by
        unfold Early at early ⊢
        omega
      rw [(quiet_decides quiet).mpr first] at signaled
      cases signaled

theorem Quiet.alike {other : QueuePair} (quiet : Quiet qp) (alike : Alike qp other) : Quiet other := by
  refine ⟨alike.outstanding.trans quiet.outstanding, ?_⟩
  rw [alike.config, alike.unsignaledCount]
  exact quiet.early

end Decisions

/-- The counter never falls over a run. -/
theorem run_grows {world last : World} {events : List Event} {calls : List Call}
    (exclusive : Meets World.step Exclusive world events) (ran : run World.step world events = some (last, calls)) :
    world.endpoint.conn.qp.outstandingSignaled.toNat ≤ last.endpoint.conn.qp.outstandingSignaled.toNat := by
  induction events generalizing world calls with
  | nil =>
    obtain ⟨rfl, -⟩ := Prod.mk.inj (Option.some.inj ran)
    exact Nat.le_refl _
  | cons event rest ih =>
    obtain ⟨next, now, later, stepped, after, -⟩ := run_cons_some.mp ran
    refine Nat.le_trans ?_ (ih (exclusive.2 next now stepped) after)
    rw [(step_alike exclusive.1 stepped).outstanding]
    exact afterDecisions_grows ..

/-- The ids of the completions that a run hands to `onSendComplete`. -/
def delivered (events : List Event) : List UInt64 :=
  events.filterMap fun
    | .onSendComplete wc => some wc.wrId
    | _ => none

/-- Every signaled work request that was accepted since the first state has completed and been handed over. -/
def Settled (endpoint : RpcEndpoint) (events : List Event) (last : World) : Prop :=
  (cqes (handed endpoint.conn.qp last.endpoint.conn.qp)).Perm (delivered events)

instance (endpoint : RpcEndpoint) (events : List Event) (last : World) : Decidable (Settled endpoint events last) :=
  inferInstanceAs (Decidable (List.Perm _ _))

/-- Nothing is counted as outstanding, and completions can be asked for. -/
def Returned (qp : QueuePair) : Prop :=
  qp.outstandingSignaled = 0 ∧ (2 ≤ qp.config.cqDepth.toNat → qp.canPostSignaled = true)

theorem run_quiet {world last : World} {events : List Event} {calls : List Call} (quiet : Quiet world.endpoint.conn.qp)
    (exclusive : Meets World.step Exclusive world events) (ran : run World.step world events = some (last, calls)) :
    (Meets World.step Silent world events → Quiet last.endpoint.conn.qp) ∧
      (¬Meets World.step Silent world events → 0 < last.endpoint.conn.qp.outstandingSignaled.toNat) := by
  induction events generalizing world calls with
  | nil =>
    obtain ⟨rfl, -⟩ := Prod.mk.inj (Option.some.inj ran)
    exact ⟨fun _ => quiet, fun late => absurd trivial late⟩
  | cons event rest ih =>
    obtain ⟨next, now, later, stepped, after, -⟩ := run_cons_some.mp ran
    have alike := step_alike exclusive.1 stepped
    have others := exclusive.2 next now stepped
    obtain ⟨kept, lost⟩ := quiet_afterDecisions quiet (decisions world.endpoint event)
    by_cases silent : Silent world event
    · obtain ⟨quiets, counts⟩ := ih ((kept silent).alike alike) others after
      refine ⟨fun meets => quiets (meets.2 next now stepped), fun late => counts fun meets => ?_⟩
      exact late (meets_cons stepped silent meets)
    · refine ⟨fun meets => absurd meets.1 silent, fun _ => Nat.lt_of_lt_of_le ?_ (run_grows others after)⟩
      rw [alike.outstanding]
      exact lost silent

/-- In a state in which no signaled work request is in flight, the capacity is returned if and only if no signaling
    decision has been for a completion. -/
theorem capacity_returned_iff {endpoint : RpcEndpoint} {events : List Event} {last : World} {calls : List Call}
    (unused : endpoint.conn.qp.unsignaledCount = 0 ∧ endpoint.conn.qp.outstandingSignaled = 0)
    (exclusive : Meets World.step Exclusive (.start endpoint) events)
    (ran : run World.step (.start endpoint) events = some (last, calls)) :
    Settled endpoint events last →
      (Returned last.endpoint.conn.qp ↔ Meets World.step Silent (.start endpoint) events) := by
  intro _
  have quiet : Quiet (World.start endpoint).endpoint.conn.qp := ⟨unused.2, fun _ => .inl unused.1⟩
  obtain ⟨quiets, counts⟩ := run_quiet quiet exclusive ran
  constructor
  · intro returned
    by_contra late
    have counted := counts late
    rw [returned.1] at counted
    exact Nat.lt_irrefl 0 counted
  · intro silent
    have kept := quiets silent
    exact ⟨kept.outstanding, fun depth => by rw [quiet_capacity kept, decide_eq_true depth]⟩

/-- A request whose header is sent with no completion asked for. -/
theorem silent_request_run : ∃ last calls,
    run World.step (.start (sampleEndpoint 7 {})) [.sendRequest 4096 64 none 0 (some 0)] = some (last, calls) ∧
      (Settled (sampleEndpoint 7 {}) [.sendRequest 4096 64 none 0 (some 0)] last → (Returned last.endpoint.conn.qp ↔
        Meets World.step Silent (.start (sampleEndpoint 7 {})) [.sendRequest 4096 64 none 0 (some 0)])) ∧
      Settled (sampleEndpoint 7 {}) [.sendRequest 4096 64 none 0 (some 0)] last :=
  ⟨_, _, rfl, capacity_returned_iff ⟨rfl, rfl⟩ ⟨trivial, fun _ _ _ => trivial⟩ rfl, by decide +kernel⟩

/-- A request whose only work request has completed, with its completion delivered, still counts as outstanding. -/
theorem completed_request_counts : ∃ last calls,
    run World.step (.start (sampleEndpoint 7 { signalInterval := 1, cqDepth := 2 }))
        [.sendRequest 4096 64 none 0 (some 0), .onSendComplete ⟨encode 7 .requestSend 0 0, 0, 0⟩] = some (last, calls) ∧
      Settled (sampleEndpoint 7 { signalInterval := 1, cqDepth := 2 })
        [.sendRequest 4096 64 none 0 (some 0), .onSendComplete ⟨encode 7 .requestSend 0 0, 0, 0⟩] last ∧
      last.endpoint.conn.qp.outstandingSignaled = 1 ∧ last.endpoint.conn.qp.canPostSignaled = false :=
  ⟨_, _, rfl, by decide +kernel⟩

end Rdma.Backpressure
