import Rdma.Signaling
import Rdma.WorkRequests

/-!
The number of work requests that a request waits for. A send call counts one
work request for the header, and one more for the data or all the segments
before it posts them; what becomes of that post does not change the count. So
the count is right if and only if the device accepts one work request behind
the header, where there is anything to post (`wr_count_iff`).
-/
namespace Rdma.WrCounts
open Rdma.Types Rdma.Verbs Rdma.WrIds Rdma.QueuePairs Rdma.Connections Rdma.SlotPools Rdma.Endpoints
open Rdma.SlotLedgers Rdma.EndpointRuns Rdma.WorkRequests
open Rdma.Signaling hiding Event

/-- How many of the work requests handed to the device between two states it has accepted. -/
def acceptedCount (before after : QueuePair) : Nat := (handed before after).countP Prod.snd

/-- The slot counts the work requests that the device has accepted in the call. -/
def Counted (endpoint next : RpcEndpoint) (slotIndex : UInt32) : Prop :=
  (next.slotPool.hot slotIndex.toNat).totalWrCount.toNat = acceptedCount endpoint.conn.qp next.conn.qp

/-- The device accepts one work request of the segments; `posted` work requests are handed over before them. -/
def OneGoes (qp : QueuePair) (posted : Nat) (iov : List Iovec) : Prop :=
  if iov.length ≤ qp.config.maxSendSge.toNat then iov.length ≤ 16 ∧ answer qp posted = none
  else qp.config.maxSendSge.toNat ≤ 16 ∧ answer qp posted = none ∧ answer qp (posted + 1) ≠ none

instance (qp : QueuePair) (posted : Nat) (iov : List Iovec) : Decidable (OneGoes qp posted iov) := by
  unfold OneGoes
  infer_instance

theorem accepted_cons (wr : SendWr) (goes : Bool) (rest : List (SendWr × Bool)) :
    ((wr, goes) :: rest).countP Prod.snd = goes.toNat + rest.countP Prod.snd := by
  cases goes with
  | true => rw [List.countP_cons_of_pos rfl, Bool.toNat_true, Nat.add_comm]
  | false => rw [List.countP_cons_of_neg Bool.false_ne_true, Bool.toNat_false, Nat.zero_add]

/-- One work request that may be accepted. -/
theorem one_goes {reply : Option Int} (wr : SendWr) :
    [(wr, reply.isNone)].countP Prod.snd = 1 ↔ reply = none := by
  rw [accepted_cons]
  cases reply with
  | none => exact iff_of_true rfl rfl
  | some errno => exact iff_of_false nofun nofun

/-! ### The segments -/

section Segments
variable {qp after : QueuePair} {fuel : Nat} {iov : List Iovec} {wrIdBase : UInt64} {connId : UInt16}
  {generation : UInt8} {status : Status}

/-- A call that returns has gone through as many rounds as it needs. -/
theorem rounds_of_returned (more : qp.config.maxSendSge.toNat < iov.length)
    (returned : (qp.postSendSGL fuel iov wrIdBase connId generation).1 = some status) :
    ∃ rounds, fuel = rounds + 1 ∧
      (qp.config.maxSendSge.toNat ≤ 16 → qp.device.nextAnswer = none → ∃ others, rounds = others + 1) := by
  have some_left : iov ≠ [] := List.ne_nil_of_length_pos (Nat.lt_of_le_of_lt (Nat.zero_le _) more)
  have left : iov.drop qp.config.maxSendSge.toNat ≠ [] := by
    rw [Ne, List.drop_eq_nil_iff]
    exact Nat.not_le.mpr more
  cases fuel with
  | zero =>
    rw [QueuePair.postSendSGL, if_neg (Nat.not_le.mpr more)] at returned
    obtain ⟨segment, rest, rfl⟩ := List.exists_cons_of_ne_nil some_left
    cases returned
  | succ rounds =>
    refine ⟨rounds, rfl, fun narrow accepted => ?_⟩
    cases rounds with
    | zero =>
      obtain ⟨goes, -⟩ := postFragment_sends wrIdBase connId generation qp narrow iov 0
      rw [accepted, Option.isNone_none] at goes
      rw [postSendSGL_fragments wrIdBase more] at returned
      simp only [goes, Bool.not_true, Bool.false_eq_true, if_false] at returned
      obtain ⟨segment, rest, remaining⟩ := List.exists_cons_of_ne_nil left
      rw [remaining] at returned
      cases returned
    | succ others => exact ⟨others, rfl⟩

/-- What the device accepts of the segments. -/
theorem segments_accepted (returned : (qp.postSendSGL fuel iov wrIdBase connId generation).1 = some status) :
    ∃ wrs, (qp.postSendSGL fuel iov wrIdBase connId generation).2.device.sends = qp.device.sends ++ wrs ∧
      (wrs.countP Prod.snd = 1 ↔ OneGoes qp 0 iov) := by
  unfold OneGoes
  by_cases fits : iov.length ≤ qp.config.maxSendSge.toNat
  · rw [if_pos fits]
    by_cases small : iov.length ≤ 16
    · obtain ⟨wr, sends, -⟩ := postSendSGL_single wrIdBase fits small fuel
      refine ⟨_, sends, ?_⟩
      rw [and_iff_right small]
      exact one_goes wr
    · have same : (qp.postSendSGL fuel iov wrIdBase connId generation).2.device = qp.device :=
        postSendSGL_large _ fits (Nat.lt_of_not_le small) fuel
      exact ⟨[], by rw [same, List.append_nil], nofun, fun goes => absurd goes.1 small⟩
  · have more := Nat.lt_of_not_le fits
    rw [if_neg fits]
    obtain ⟨rounds, rfl, second_round⟩ := rounds_of_returned more returned
    by_cases narrow : qp.config.maxSendSge.toNat ≤ 16
    · by_cases accepted : answer qp 0 = none
      · obtain ⟨rounds, rfl⟩ := second_round narrow accepted
        obtain ⟨first, second, others, sends, last, -⟩ :=
          postSendSGL_fragments_accepted wrIdBase more rounds narrow accepted
        refine ⟨_, sends, ?_⟩
        rw [and_iff_right narrow, and_iff_right accepted, accepted_cons, accepted_cons]
        cases reply : answer qp (0 + 1) with
        | none =>
          rw [show qp.device.sendAnswer (qp.device.sends.length + 1) = none from reply]
          exact iff_of_false (by simp) (by simp)
        | some errno =>
          have rejected : qp.device.sendAnswer (qp.device.sends.length + 1) = some errno := reply
          rw [last (by rw [rejected]; nofun), rejected]
          exact iff_of_true rfl nofun
      · obtain ⟨wr, sends, -⟩ := postSendSGL_fragments_rejected wrIdBase more rounds narrow accepted
        exact ⟨_, sends, nofun, fun goes => absurd goes.2.1 accepted⟩
    · have same : (qp.postSendSGL (rounds + 1) iov wrIdBase connId generation).2.device = qp.device :=
        postSendSGL_fragments_large _ more rounds (Nat.lt_of_not_le narrow)
      exact ⟨[], by rw [same, List.append_nil], nofun, fun goes => absurd goes.1 narrow⟩

end Segments

/-! ### The calls -/

section Calls
variable {endpoint started next : RpcEndpoint} {slotIndex : UInt32} {header headerLen : UInt64} {callbackCtx : Nat}
  {callback : Option Nat} {token : Option (UInt32 × UInt8)} {behind : Option Posting}

/-- The count is right if and only if it is one more than what the device accepts behind the header. -/
theorem counted_iff {wr : SendWr} {rest : List (SendWr × Bool)} {total : UInt8}
    (count : (next.slotPool.hot slotIndex.toNat).totalWrCount = total)
    (sends : next.conn.qp.device.sends = endpoint.conn.qp.device.sends ++ (wr, true) :: rest) :
    Counted endpoint next slotIndex ↔ 1 + rest.countP Prod.snd = total.toNat := by
  rw [Counted, acceptedCount, handed_append sends, accepted_cons, count]
  exact eq_comm

theorem data_sends {conn : Connection} (connected : conn.state = .connected) (buf : Buffer) (remoteAddr : UInt64)
    (remoteRkey immData : UInt32) (wrId : UInt64) :
    ∃ wr, (conn.writeWithImm buf remoteAddr remoteRkey immData wrId).2.qp.device.sends =
      conn.qp.device.sends ++ [(wr, (answer conn.qp 0).isNone)] := by
  rw [writeWithImm_eq connected]
  dsimp only
  rw [postWriteWithImm_sends, QueuePair.postWriteWithImm]
  dsimp only
  rw [post_ok, (shouldSignal_frame conn.qp).2]
  exact ⟨_, rfl⟩

/-- A request that is accepted is counted right if and only if nothing is to be posted behind its header, or the device
    accepts one work request of that. -/
theorem sending_counted {goes : Prop} (starts : Started endpoint callbackCtx callback token started)
    (ends : Sending endpoint started header headerLen behind token (some (.ok slotIndex)) next)
    (posts : ∀ slotIndex generation post, (endpoint.postHeader slotIndex generation header headerLen).1.ok = true →
      behind = some post →
      ∀ status, (post (slotIndex, generation) (endpoint.postHeader slotIndex generation header headerLen).2).1 = some status →
        ∃ wrs, (post (slotIndex, generation) (endpoint.postHeader slotIndex generation header headerLen).2).2.qp.device.sends =
            (endpoint.postHeader slotIndex generation header headerLen).2.qp.device.sends ++ wrs ∧
          (wrs.countP Prod.snd = 1 ↔ goes)) :
    Counted endpoint next slotIndex ↔ (behind = none ∨ goes) := by
  cases ends with
  | alone posted nothing =>
    obtain ⟨-, -, one⟩ := starts.hot
    obtain ⟨-, -, wr, device⟩ := sendInline_accepted posted
    have sends := congrArg Device.sends device
    exact iff_of_true (Iff.mpr (counted_iff one sends) rfl) (.inl nothing)
  | followed posted more read written returns =>
    obtain ⟨status, returned, same⟩ := Option.map_eq_some_iff.mp returns.symm
    obtain rfl := Except.ok.inj same
    obtain ⟨-, -, one⟩ := starts.hot
    obtain ⟨-, -, wr, device⟩ := sendInline_accepted posted
    obtain ⟨wrs, sends, accepts⟩ := posts _ _ _ posted more status returned
    have two := congrArg RpcSlotHot.totalWrCount (setHot_hot written)
    dsimp only at two
    rw [← (Arrays.read_some read).2] at two
    have front := congrArg Device.sends device
    rw [RpcEndpoint.postHeader, front, List.append_assoc] at sends
    rw [or_iff_right (by rw [more]; exact Option.some_ne_none _), ← accepts]
    refine Iff.trans (counted_iff (two.trans (congrArg (· + 1) one)) sends) ?_
    change 1 + _ = 1 + 1 ↔ _
    exact Nat.add_left_cancel_iff

theorem sendRequest_counted {dataBuf : Option Buffer}
    (sent : endpoint.sendRequest header headerLen dataBuf callbackCtx callback = some (.ok slotIndex, next)) :
    Counted endpoint next slotIndex ↔
      (dataBuf.filter Buffer.isValid = none ∨ answer endpoint.conn.qp 1 = none) := by
  obtain ⟨token, started, starts, ends⟩ := sendRequest_inv sent
  have nothing : dataBehind endpoint.conn.connId dataBuf = none ↔ dataBuf.filter Buffer.isValid = none :=
    Option.map_eq_none_iff
  rw [← nothing]
  refine sending_counted starts ends fun slotIndex generation post posted more status returned => ?_
  obtain ⟨dataBuf, valid, rfl⟩ := Option.map_eq_some_iff.mp more
  obtain ⟨connected, -, wr, device⟩ := sendInline_accepted posted
  obtain ⟨data, sends⟩ := data_sends connected dataBuf _ _ _ _
  refine ⟨_, sends, ?_⟩
  rw [answer_behind device]
  exact one_goes data

theorem oneGoes_next {qp after : QueuePair} (config : after.config = qp.config)
    (shifted : ∀ index, answer after index = answer qp (index + 1)) (iov : List Iovec) :
    OneGoes after 0 iov ↔ OneGoes qp 1 iov := by
  unfold OneGoes
  rw [config, shifted, shifted]

theorem sendRequestSGL_counted {fuel : Nat} {iov : List Iovec}
    (sent : endpoint.sendRequestSGL fuel header headerLen iov callbackCtx callback = some (some (.ok slotIndex), next)) :
    Counted endpoint next slotIndex ↔ (iov = [] ∨ OneGoes endpoint.conn.qp 1 iov) := by
  obtain ⟨token, started, starts, ends⟩ := sendRequestSGL_inv sent
  rw [← segmentsBehind_none]
  refine sending_counted starts ends fun slotIndex generation post posted more status returned => ?_
  obtain ⟨segments, rfl⟩ := segmentsBehind_some more
  obtain ⟨-, config, wr, device⟩ := sendInline_accepted posted
  obtain ⟨wrs, sends, accepts⟩ := segments_accepted returned
  exact ⟨wrs, sends, accepts.trans (oneGoes_next config (answer_behind device) iov)⟩

end Calls

/-- A call of `sendRequest` that succeeds counts the work requests that the device has accepted if and only if there is
    no valid data or the device accepts the data, and a call of `sendRequestSGL` if and only if there are no segments
    or the device accepts one work request of them. -/
theorem wr_count_iff (endpoint : RpcEndpoint) :
    (∀ header headerLen dataBuf callbackCtx callback slotIndex next,
      endpoint.sendRequest header headerLen dataBuf callbackCtx callback = some (.ok slotIndex, next) →
      (Counted endpoint next slotIndex ↔
        (dataBuf.filter Buffer.isValid = none ∨ answer endpoint.conn.qp 1 = none))) ∧
    ∀ fuel header headerLen iov callbackCtx callback slotIndex next,
      endpoint.sendRequestSGL fuel header headerLen iov callbackCtx callback = some (some (.ok slotIndex), next) →
      (Counted endpoint next slotIndex ↔ (iov = [] ∨ OneGoes endpoint.conn.qp 1 iov)) :=
  ⟨fun _ _ _ _ _ _ _ sent => sendRequest_counted sent, fun _ _ _ _ _ _ _ _ sent => sendRequestSGL_counted sent⟩

/-- A request with data and a request with one segment, both posted in full. -/
theorem posted_requests_counted :
    (∃ next, (sampleEndpoint 7 {}).sendRequest 4096 64 (some ⟨64, 8, 1⟩) 5 none = some (.ok 0, next) ∧
      Counted (sampleEndpoint 7 {}) next 0) ∧
    ∃ next, (sampleEndpoint 7 {}).sendRequestSGL 1 4096 64 [⟨64, 8⟩] 5 none = some (some (.ok 0), next) ∧
      Counted (sampleEndpoint 7 {}) next 0 :=
  ⟨⟨_, rfl, ((wr_count_iff (sampleEndpoint 7 {})).1 4096 64 (some ⟨64, 8, 1⟩) 5 none 0 _ rfl).mpr (.inr rfl)⟩,
    ⟨_, rfl, ((wr_count_iff (sampleEndpoint 7 {})).2 1 4096 64 [⟨64, 8⟩] 5 none 0 _ rfl).mpr (.inr (by decide))⟩⟩

/-- Seventeen segments in two fragments: three work requests are accepted and two are counted. -/
theorem fragments_miscounted : ∃ next,
    (sampleEndpoint 7 {}).sendRequestSGL 2 4096 64 (List.replicate 17 ⟨64, 8⟩) 5 none = some (some (.ok 0), next) ∧
      acceptedCount (sampleEndpoint 7 {}).conn.qp next.conn.qp = 3 ∧ (next.slotPool.hot 0).totalWrCount = 2 ∧
      ¬Counted (sampleEndpoint 7 {}) next 0 :=
  ⟨_, rfl, by decide +kernel, by decide +kernel, by unfold Counted; decide +kernel⟩

end Rdma.WrCounts
