import Rdma.Verbs
import Rdma.WrIds

/-!
Queue pairs (`queue_pair.h`, `queue_pair.cpp`): the selective signaling counter
and the post operations. Each post operation hands at most one work request to
the device, except `postSendSGL`, which hands over one for each fragment.
-/
namespace Rdma.QueuePairs
open Rdma.Types Rdma.BitFields Rdma.Verbs

/-- `ibv_qp_type`. -/
inductive QpType
  | rc
  | uc
  | ud
  | rawPacket
  | xrcSend
  | xrcRecv
  | driver
  deriving DecidableEq, Repr

structure QueuePairConfig where
  maxSendWr : UInt32 := 4096
  maxRecvWr : UInt32 := 4096
  maxSendSge : UInt32 := 16
  maxRecvSge : UInt32 := 16
  maxInlineData : UInt32 := 256
  signalInterval : UInt32 := 16
  cqDepth : UInt32 := 65536
  qpType : QpType := .rc
  deriving DecidableEq, Repr

structure QueuePair where
  config : QueuePairConfig
  unsignaledCount : UInt32 := 0
  outstandingSignaled : UInt32 := 0
  device : Device

def QueuePair.canPostSignaled (qp : QueuePair) : Bool := qp.outstandingSignaled < qp.config.cqDepth / 2

def QueuePair.shouldSignal (qp : QueuePair) : Bool × QueuePair :=
  let qp := { qp with unsignaledCount := qp.unsignaledCount + 1 }
  if qp.config.signalInterval ≤ qp.unsignaledCount then
    if !qp.canPostSignaled then (false, qp)
    else (true, { qp with unsignaledCount := 0, outstandingSignaled := qp.outstandingSignaled + 1 })
  else (false, qp)

/-- The call of `ibv_post_send` that ends every post operation; `failed` is the operation's error message. -/
def QueuePair.post (qp : QueuePair) (wr : SendWr) (failed : String) : Status × QueuePair :=
  match qp.device.ibvPostSend wr with
  | (none, device) => (Status.OK, { qp with device })
  | (some errno, device) => (Status.ioError failed errno, { qp with device })

def sgeOf (buf : Buffer) : Sge := ⟨buf.addr, buf.length.toUInt32, buf.lkey⟩

def QueuePair.doPostSend (qp : QueuePair) (buf : Buffer) (wrId : UInt64) (signaled : Bool) : Status × QueuePair :=
  qp.post { wrId, opcode := .send, signaled, sgList := [sgeOf buf] } "ibv_post_send failed"

def QueuePair.postSend (qp : QueuePair) (buf : Buffer) (wrId : UInt64) : Status × QueuePair :=
  let (signaled, qp) := qp.shouldSignal
  qp.doPostSend buf wrId signaled

/-- `data` is the address of `length` bytes. -/
def QueuePair.postSendInline (qp : QueuePair) (data length wrId : UInt64) : Status × QueuePair :=
  if qp.config.maxInlineData.toNat < length.toNat then
    (Status.invalidArgument "Data too large for inline send", qp)
  else
    let (signaled, qp) := qp.shouldSignal
    qp.post { wrId, opcode := .send, signaled, inlined := true, sgList := [⟨data, length.toUInt32, 0⟩] }
      "ibv_post_send inline failed"

def QueuePair.postWrite (qp : QueuePair) (buf : Buffer) (remoteAddr : UInt64) (remoteRkey : UInt32)
    (wrId : UInt64) : Status × QueuePair :=
  let (signaled, qp) := qp.shouldSignal
  qp.post { wrId, opcode := .rdmaWrite, signaled, sgList := [sgeOf buf], remoteAddr, rkey := remoteRkey }
    "ibv_post_send RDMA write failed"

def QueuePair.postWriteWithImm (qp : QueuePair) (buf : Buffer) (remoteAddr : UInt64) (remoteRkey immData : UInt32)
    (wrId : UInt64) : Status × QueuePair :=
  let (signaled, qp) := qp.shouldSignal
  qp.post { wrId, opcode := .rdmaWriteWithImm, signaled, sgList := [sgeOf buf], immData := htonl immData,
            remoteAddr, rkey := remoteRkey }
    "ibv_post_send RDMA write with imm failed"

def QueuePair.postRead (qp : QueuePair) (buf : Buffer) (remoteAddr : UInt64) (remoteRkey : UInt32)
    (wrId : UInt64) : Status × QueuePair :=
  let (signaled, qp) := qp.shouldSignal
  qp.post { wrId, opcode := .rdmaRead, signaled, sgList := [sgeOf buf], remoteAddr, rkey := remoteRkey }
    "ibv_post_send RDMA read failed"

def QueuePair.postRecv (qp : QueuePair) (buf : Buffer) (wrId : UInt64) : Status × QueuePair :=
  match qp.device.ibvPostRecv { wrId, sgList := [sgeOf buf] } with
  | (none, device) => (Status.OK, { qp with device })
  | (some errno, device) => (Status.ioError "ibv_post_recv failed" errno, { qp with device })

def QueuePair.doPostSendSGL (qp : QueuePair) (iov : List Iovec) (lkey : UInt32) (wrId : UInt64) (signaled : Bool) :
    Status × QueuePair :=
  if 16 < iov.length then (Status.invalidArgument "Too many SGEs", qp)
  else
    qp.post { wrId, opcode := .send, signaled,
              sgList := iov.map fun segment => ⟨segment.iovBase, segment.iovLen.toUInt32, lkey⟩ }
      "ibv_post_send SGL failed"

/-- The slot index field of the id of a fragment. -/
def fragmentSlot (wrIdBase : UInt64) (fragmentIndex : UInt32) : UInt32 :=
  wrIdBase.toUInt32 &&& (0xFFFFFF : UInt32) ||| fragmentIndex <<< 24

/-- The body of the fragmentation loop of `postSendSGL`: the post of the first `chunk` of the remaining segments. -/
def QueuePair.postFragment (qp : QueuePair) (chunk : Nat) (wrIdBase : UInt64) (connId : UInt16) (generation : UInt8)
    (remaining : List Iovec) (fragmentIndex : UInt32) : Status × QueuePair :=
  let isLast := remaining.length = chunk
  let fragWrId := WrIds.encode connId .requestSend generation (fragmentSlot wrIdBase fragmentIndex)
  let (signaled, qp) := if isLast then qp.shouldSignal else (false, qp)
  qp.doPostSendSGL (remaining.take chunk) 0 fragWrId signaled

/-- The fragmentation loop on the remaining segments. The status is `none` when the loop has not ended within `fuel`
    rounds: it never ends when `maxSge` is 0 and the device accepts every fragment. -/
def QueuePair.postFragments (qp : QueuePair) (maxSge : Nat) (wrIdBase : UInt64) (connId : UInt16) (generation : UInt8) :
    Nat → List Iovec → UInt32 → Option Status × QueuePair
  | _, [], _ => (some Status.OK, qp)
  | 0, _ :: _, _ => (none, qp)
  | fuel + 1, remaining@(_ :: _), fragmentIndex =>
    let chunk := if remaining.length < maxSge then remaining.length else maxSge
    match qp.postFragment chunk wrIdBase connId generation remaining fragmentIndex with
    | (status, qp) =>
      if !status.ok then (some status, qp)
      else qp.postFragments maxSge wrIdBase connId generation fuel (remaining.drop chunk) (fragmentIndex + 1)

def QueuePair.postSendSGL (qp : QueuePair) (fuel : Nat) (iov : List Iovec) (wrIdBase : UInt64) (connId : UInt16)
    (generation : UInt8) : Option Status × QueuePair :=
  let maxSge := qp.config.maxSendSge.toNat
  if iov.length ≤ maxSge then
    let (signaled, qp) := qp.shouldSignal
    let (status, qp) := qp.doPostSendSGL iov 0 wrIdBase signaled
    (some status, qp)
  else qp.postFragments maxSge wrIdBase connId generation fuel iov 0

def QueuePair.onSendComplete (qp : QueuePair) (wasSignaled : Bool) : QueuePair :=
  if wasSignaled then { qp with outstandingSignaled := qp.outstandingSignaled - 1 } else qp

/-- `answer` is the answer of `ibv_modify_qp`. -/
def QueuePair.reset (qp : QueuePair) (answer : Option Int) : Status × QueuePair :=
  match answer with
  | some errno => (Status.ioError "Failed to reset QP" errno, qp)
  | none => (Status.OK, { qp with unsignaledCount := 0, outstandingSignaled := 0 })

/-! ### What signaling decides -/

/-- The signaling decision changes the two counters only. -/
@[simp] theorem shouldSignal_frame (qp : QueuePair) :
    qp.shouldSignal.2.config = qp.config ∧ qp.shouldSignal.2.device = qp.device := by
  unfold QueuePair.shouldSignal
  dsimp only
  split
  · split <;> exact ⟨rfl, rfl⟩
  · exact ⟨rfl, rfl⟩

/-! ### What posting hands to the device -/

/-- The work requests handed to the device between two states, with the device's answers. -/
def handed (before after : QueuePair) : List (SendWr × Bool) := after.device.sends.drop before.device.sends.length

theorem handed_append {before after : QueuePair} {wrs : List (SendWr × Bool)}
    (sends : after.device.sends = before.device.sends ++ wrs) : handed before after = wrs := by
  rw [handed, sends, List.drop_left]

@[simp] theorem handed_self (qp : QueuePair) : handed qp qp = [] := by simp [handed]

/-- The ids of the completions that the device generates: one for each accepted work request that is signaled. -/
def cqes (wrs : List (SendWr × Bool)) : List UInt64 :=
  (wrs.filter fun wr => wr.1.signaled && wr.2).map fun wr => wr.1.wrId

theorem cqes_append (front back : List (SendWr × Bool)) : cqes (front ++ back) = cqes front ++ cqes back := by
  rw [cqes, List.filter_append, List.map_append]
  rfl

theorem cqes_single (wr : SendWr) (answer : Bool) : (cqes [(wr, answer)]).length = (wr.signaled && answer).toNat := by
  cases both : wr.signaled && answer <;> simp [cqes, both]

theorem post_eq (qp : QueuePair) (wr : SendWr) (failed : String) :
    qp.post wr failed =
      (match qp.device.nextAnswer with | none => Status.OK | some errno => Status.ioError failed errno,
        { qp with device := (qp.device.ibvPostSend wr).2 }) := by
  unfold QueuePair.post Device.ibvPostSend
  cases qp.device.nextAnswer <;> rfl

theorem post_ok (qp : QueuePair) (wr : SendWr) (failed : String) :
    (qp.post wr failed).1.ok = qp.device.nextAnswer.isNone := by
  rw [post_eq]
  cases qp.device.nextAnswer <;> rfl

/-- A post hands the device one work request. -/
theorem post_sends (qp : QueuePair) (wr : SendWr) (failed : String) :
    (qp.post wr failed).2.device.sends = qp.device.sends ++ [(wr, (qp.post wr failed).1.ok)] := by
  rw [post_ok, post_eq]
  rfl

/-- An inline send that fits hands the device one work request, else none. -/
theorem postSendInline_sends (qp : QueuePair) (data length wrId : UInt64) :
    (qp.postSendInline data length wrId).2.device.sends = qp.device.sends ++
      if qp.config.maxInlineData.toNat < length.toNat then []
      else [({ wrId, opcode := .send, signaled := qp.shouldSignal.1, inlined := true,
               sgList := [⟨data, length.toUInt32, 0⟩] }, (qp.postSendInline data length wrId).1.ok)] := by
  unfold QueuePair.postSendInline
  split
  · rw [List.append_nil]
  · dsimp only
    rw [post_sends, (shouldSignal_frame qp).2]

theorem postSendInline_ok (qp : QueuePair) (data length wrId : UInt64) :
    (qp.postSendInline data length wrId).1.ok =
      (decide (length.toNat ≤ qp.config.maxInlineData.toNat) && qp.device.nextAnswer.isNone) := by
  unfold QueuePair.postSendInline
  split
  · rename_i large
    rw [decide_eq_false (Nat.not_le_of_lt large), Bool.false_and]
    rfl
  · rename_i fits
    rw [decide_eq_true (Nat.le_of_not_lt fits), Bool.true_and]
    dsimp only
    rw [post_ok, (shouldSignal_frame qp).2]

theorem postWriteWithImm_sends (qp : QueuePair) (buf : Buffer) (remoteAddr : UInt64) (remoteRkey immData : UInt32)
    (wrId : UInt64) :
    (qp.postWriteWithImm buf remoteAddr remoteRkey immData wrId).2.device.sends = qp.device.sends ++
      [({ wrId, opcode := .rdmaWriteWithImm, signaled := qp.shouldSignal.1, sgList := [sgeOf buf],
          immData := htonl immData, remoteAddr, rkey := remoteRkey },
        (qp.postWriteWithImm buf remoteAddr remoteRkey immData wrId).1.ok)] := by
  unfold QueuePair.postWriteWithImm
  dsimp only
  rw [post_sends, (shouldSignal_frame qp).2]

theorem post_counters (qp : QueuePair) (wr : SendWr) (failed : String) :
    (qp.post wr failed).2.config = qp.config ∧ (qp.post wr failed).2.unsignaledCount = qp.unsignaledCount ∧
      (qp.post wr failed).2.outstandingSignaled = qp.outstandingSignaled := by
  rw [post_eq]
  exact ⟨rfl, rfl, rfl⟩

/-- An inline send that fits leaves the counters as the signaling decision does. -/
theorem postSendInline_counters (qp : QueuePair) (data wrId : UInt64) {length : UInt64}
    (fits : ¬qp.config.maxInlineData.toNat < length.toNat) :
    (qp.postSendInline data length wrId).2.config = qp.config ∧
      (qp.postSendInline data length wrId).2.unsignaledCount = qp.shouldSignal.2.unsignaledCount ∧
      (qp.postSendInline data length wrId).2.outstandingSignaled = qp.shouldSignal.2.outstandingSignaled := by
  unfold QueuePair.postSendInline
  rw [if_neg fits]
  obtain ⟨config, unsignaled, outstanding⟩ := post_counters qp.shouldSignal.2
    { wrId, opcode := .send, signaled := qp.shouldSignal.1, inlined := true,
      sgList := [⟨data, length.toUInt32, 0⟩] } "ibv_post_send inline failed"
  exact ⟨config.trans (shouldSignal_frame qp).1, unsignaled, outstanding⟩

/-- The decision depends on the counters and the configuration only. -/
theorem shouldSignal_eq (qp : QueuePair) :
    qp.shouldSignal.1 = (decide (qp.config.signalInterval ≤ qp.unsignaledCount + 1) && qp.canPostSignaled) := by
  unfold QueuePair.shouldSignal
  dsimp only
  split
  · rename_i due
    rw [decide_eq_true due, Bool.true_and]
    change (if !qp.canPostSignaled then _ else _ : Bool × QueuePair).1 = qp.canPostSignaled
    cases qp.canPostSignaled <;> rfl
  · rename_i early
    rw [decide_eq_false early, Bool.false_and]

theorem shouldSignal_congr {qp other : QueuePair} (config : other.config = qp.config)
    (unsignaledCount : other.unsignaledCount = qp.unsignaledCount)
    (outstanding : other.outstandingSignaled = qp.outstandingSignaled) : other.shouldSignal.1 = qp.shouldSignal.1 := by
  rw [shouldSignal_eq, shouldSignal_eq, QueuePair.canPostSignaled, QueuePair.canPostSignaled, config, unsignaledCount,
    outstanding]

theorem shouldSignal_unsignaled {qp : QueuePair} (unsignaled : qp.shouldSignal.1 = false) :
    qp.shouldSignal.2 = { qp with unsignaledCount := qp.unsignaledCount + 1 } := by
  unfold QueuePair.shouldSignal at unsignaled ⊢
  dsimp only at unsignaled ⊢
  split at unsignaled
  · rename_i due
    rw [if_pos due]
    split at unsignaled
    · rename_i full
      rw [if_pos full]
    · cases unsignaled
  · rename_i early
    rw [if_neg early]

/-- Of two posts in a row one is signaled if and only if there is capacity and the interval ends at one of them. -/
theorem two_posts_signaled {qp next : QueuePair} (config : next.config = qp.config)
    (unsignaledCount : next.unsignaledCount = qp.shouldSignal.2.unsignaledCount)
    (outstanding : next.outstandingSignaled = qp.shouldSignal.2.outstandingSignaled) :
    (qp.shouldSignal.1 = true ∨ next.shouldSignal.1 = true) ↔
      qp.canPostSignaled = true ∧ (qp.config.signalInterval ≤ qp.unsignaledCount + 1 ∨
        qp.config.signalInterval ≤ qp.unsignaledCount + 1 + 1) := by
  cases first : qp.shouldSignal.1 with
  | true =>
    rw [shouldSignal_eq, Bool.and_eq_true, decide_eq_true_iff] at first
    exact ⟨fun _ => ⟨first.2, .inl first.1⟩, fun _ => .inl rfl⟩
  | false =>
    have kept := shouldSignal_unsignaled first
    rw [kept] at unsignaledCount outstanding
    have capacity : next.canPostSignaled = qp.canPostSignaled := by
      rw [QueuePair.canPostSignaled, outstanding, config]
      rfl
    rw [shouldSignal_eq] at first
    rw [shouldSignal_eq next, config, capacity, unsignaledCount, Bool.and_eq_true, decide_eq_true_iff]
    constructor
    · rintro (impossible | ⟨due, capacity⟩)
      · cases impossible
      · exact ⟨capacity, .inr due⟩
    · rintro ⟨capacity, due | due⟩
      · rw [capacity, decide_eq_true due] at first
        cases first
      · exact .inr ⟨due, capacity⟩

/-! ### Segments and fragments -/

theorem doPostSendSGL_large (qp : QueuePair) {iov : List Iovec} (large : 16 < iov.length) (lkey : UInt32)
    (wrId : UInt64) (signaled : Bool) :
    qp.doPostSendSGL iov lkey wrId signaled = (Status.invalidArgument "Too many SGEs", qp) := if_pos large

/-- At most 16 segments are handed to the device in one work request. -/
theorem doPostSendSGL_sends (qp : QueuePair) {iov : List Iovec} (fits : iov.length ≤ 16) (lkey : UInt32)
    (wrId : UInt64) (signaled : Bool) :
    (qp.doPostSendSGL iov lkey wrId signaled).1.ok = qp.device.nextAnswer.isNone ∧
      ∃ wr : SendWr, (qp.doPostSendSGL iov lkey wrId signaled).2.device.sends =
        qp.device.sends ++ [(wr, qp.device.nextAnswer.isNone)] ∧ wr.wrId = wrId ∧ wr.signaled = signaled := by
  unfold QueuePair.doPostSendSGL
  rw [if_neg (Nat.not_lt.mpr fits), ← post_ok]
  exact ⟨rfl, _, post_sends .., rfl, rfl⟩

theorem doPostSendSGL_answers (qp : QueuePair) (iov : List Iovec) (lkey : UInt32) (wrId : UInt64) (signaled : Bool) :
    (qp.doPostSendSGL iov lkey wrId signaled).2.device.sendAnswer = qp.device.sendAnswer := by
  unfold QueuePair.doPostSendSGL
  split
  · rfl
  · rw [post_eq]
    rfl

variable (maxSge : Nat) (wrIdBase : UInt64) (connId : UInt16) (generation : UInt8)

/-- A fragment of more than 16 segments is rejected before it reaches the device. -/
theorem postFragment_large (qp : QueuePair) {chunk : Nat} {remaining : List Iovec} (large : 16 < chunk)
    (inside : chunk ≤ remaining.length) (fragmentIndex : UInt32) :
    (qp.postFragment chunk wrIdBase connId generation remaining fragmentIndex).1.ok = false ∧
      (qp.postFragment chunk wrIdBase connId generation remaining fragmentIndex).2.device = qp.device := by
  have taken : 16 < (remaining.take chunk).length := by rw [List.length_take]; omega
  unfold QueuePair.postFragment
  dsimp only
  split
  · rw [doPostSendSGL_large _ taken]
    exact ⟨rfl, (shouldSignal_frame qp).2⟩
  · rw [doPostSendSGL_large _ taken]
    exact ⟨rfl, rfl⟩

/-- A fragment of at most 16 segments is one work request, with the fragment's index in its id. -/
theorem postFragment_sends (qp : QueuePair) {chunk : Nat} (fits : chunk ≤ 16) (remaining : List Iovec)
    (fragmentIndex : UInt32) :
    (qp.postFragment chunk wrIdBase connId generation remaining fragmentIndex).1.ok = qp.device.nextAnswer.isNone ∧
      ∃ wr : SendWr, (qp.postFragment chunk wrIdBase connId generation remaining fragmentIndex).2.device.sends =
          qp.device.sends ++ [(wr, qp.device.nextAnswer.isNone)] ∧
        wr.wrId = WrIds.encode connId .requestSend generation (fragmentSlot wrIdBase fragmentIndex) := by
  have taken : (remaining.take chunk).length ≤ 16 := by rw [List.length_take]; omega
  have device := (shouldSignal_frame qp).2
  unfold QueuePair.postFragment
  dsimp only
  split
  · obtain ⟨ok, wr, sends, wrId, -⟩ := doPostSendSGL_sends qp.shouldSignal.2 taken 0
      (WrIds.encode connId .requestSend generation (fragmentSlot wrIdBase fragmentIndex)) qp.shouldSignal.1
    rw [device] at ok sends
    exact ⟨ok, wr, sends, wrId⟩
  · obtain ⟨ok, wr, sends, wrId, -⟩ := doPostSendSGL_sends qp taken 0
      (WrIds.encode connId .requestSend generation (fragmentSlot wrIdBase fragmentIndex)) false
    exact ⟨ok, wr, sends, wrId⟩

theorem postFragment_answers (qp : QueuePair) (chunk : Nat) (remaining : List Iovec) (fragmentIndex : UInt32) :
    (qp.postFragment chunk wrIdBase connId generation remaining fragmentIndex).2.device.sendAnswer =
      qp.device.sendAnswer := by
  have device := (shouldSignal_frame qp).2
  unfold QueuePair.postFragment
  dsimp only
  split
  · rw [doPostSendSGL_answers, device]
  · rw [doPostSendSGL_answers]

theorem postFragments_succ (qp : QueuePair) (fuel : Nat) {remaining : List Iovec} (more : remaining ≠ [])
    (fragmentIndex : UInt32) :
    qp.postFragments maxSge wrIdBase connId generation (fuel + 1) remaining fragmentIndex =
      match qp.postFragment (min remaining.length maxSge) wrIdBase connId generation remaining fragmentIndex with
      | (status, qp) =>
        if !status.ok then (some status, qp)
        else qp.postFragments maxSge wrIdBase connId generation fuel (remaining.drop (min remaining.length maxSge))
          (fragmentIndex + 1) := by
  obtain ⟨first, rest, rfl⟩ := List.exists_cons_of_ne_nil more
  have chunk : (if (first :: rest).length < maxSge then (first :: rest).length else maxSge) =
      min (first :: rest).length maxSge := by
    split <;> omega
  rw [QueuePair.postFragments, chunk]

/-- A post of segments yields at most one completion, and only if it is signaled; it leaves the counters alone. -/
theorem doPostSendSGL_cqes (qp : QueuePair) (iov : List Iovec) (lkey : UInt32) (wrId : UInt64) (signaled : Bool) :
    (∃ wrs, (qp.doPostSendSGL iov lkey wrId signaled).2.device.sends = qp.device.sends ++ wrs ∧
        (cqes wrs).length ≤ signaled.toNat) ∧
      (qp.doPostSendSGL iov lkey wrId signaled).2.shouldSignal.1 = qp.shouldSignal.1 := by
  unfold QueuePair.doPostSendSGL
  split
  · exact ⟨⟨[], (List.append_nil _).symm, Nat.zero_le _⟩, rfl⟩
  · obtain ⟨config, unsignaledCount, outstanding⟩ := post_counters qp
      { wrId, opcode := .send, signaled,
        sgList := iov.map fun segment => ⟨segment.iovBase, segment.iovLen.toUInt32, lkey⟩ } "ibv_post_send SGL failed"
    refine ⟨⟨_, post_sends .., ?_⟩, shouldSignal_congr config unsignaledCount outstanding⟩
    rw [cqes_single]
    cases signaled
    · exact Nat.zero_le _
    · exact Bool.toNat_le _

/-- A fragment other than the last yields no completion. -/
theorem postFragment_cqes (qp : QueuePair) (chunk : Nat) (remaining : List Iovec) (fragmentIndex : UInt32) :
    ∃ wrs, (qp.postFragment chunk wrIdBase connId generation remaining fragmentIndex).2.device.sends =
        qp.device.sends ++ wrs ∧
      if remaining.length = chunk then (cqes wrs).length ≤ qp.shouldSignal.1.toNat
      else (cqes wrs).length = 0 ∧
        (qp.postFragment chunk wrIdBase connId generation remaining fragmentIndex).2.shouldSignal.1 =
          qp.shouldSignal.1 := by
  unfold QueuePair.postFragment
  dsimp only
  split
  · obtain ⟨⟨wrs, sends, few⟩, -⟩ := doPostSendSGL_cqes qp.shouldSignal.2 (remaining.take chunk) 0
      (WrIds.encode connId .requestSend generation (fragmentSlot wrIdBase fragmentIndex)) qp.shouldSignal.1
    rw [(shouldSignal_frame qp).2] at sends
    exact ⟨wrs, sends, few⟩
  · obtain ⟨⟨wrs, sends, few⟩, same⟩ := doPostSendSGL_cqes qp (remaining.take chunk) 0
      (WrIds.encode connId .requestSend generation (fragmentSlot wrIdBase fragmentIndex)) false
    exact ⟨wrs, sends, Nat.le_zero.mp few, same⟩

/-- The loop only adds to what has been handed to the device, and yields at most one completion. -/
theorem postFragments_cqes (qp : QueuePair) (fuel : Nat) (remaining : List Iovec) (fragmentIndex : UInt32) :
    ∃ wrs, (qp.postFragments maxSge wrIdBase connId generation fuel remaining fragmentIndex).2.device.sends =
      qp.device.sends ++ wrs ∧ (cqes wrs).length ≤ qp.shouldSignal.1.toNat := by
  induction fuel generalizing qp remaining fragmentIndex with
  | zero => exact ⟨[], by cases remaining <;> exact (List.append_nil _).symm, Nat.zero_le _⟩
  | succ fuel ih =>
    by_cases empty : remaining = []
    · subst empty
      exact ⟨[], (List.append_nil _).symm, Nat.zero_le _⟩
    · rw [postFragments_succ maxSge wrIdBase connId generation qp fuel empty]
      obtain ⟨wrs, sends, few⟩ := postFragment_cqes wrIdBase connId generation qp (min remaining.length maxSge)
        remaining fragmentIndex
      generalize qp.postFragment _ _ _ _ _ _ = posted at sends few
      obtain ⟨status, after⟩ := posted
      dsimp only at sends few ⊢
      by_cases last : remaining.length = min remaining.length maxSge
      · rw [if_pos last] at few
        rw [← last, List.drop_length]
        split
        · exact ⟨wrs, sends, few⟩
        · exact ⟨wrs, by rw [show (after.postFragments ..).2 = after by cases fuel <;> rfl, sends], few⟩
      · rw [if_neg last] at few
        split
        · exact ⟨wrs, sends, few.1.trans_le (Nat.zero_le _)⟩
        · obtain ⟨more, rest, some_more⟩ :=
            ih after (remaining.drop (min remaining.length maxSge)) (fragmentIndex + 1)
          refine ⟨wrs ++ more, by rw [rest, sends, List.append_assoc], ?_⟩
          rw [cqes_append, List.length_append, few.1, Nat.zero_add, ← few.2]
          exact some_more

variable {connId generation} {qp : QueuePair} {iov : List Iovec}

/-- Segments that fit in one work request go out under the base id itself. -/
theorem postSendSGL_single (fits : iov.length ≤ qp.config.maxSendSge.toNat) (small : iov.length ≤ 16) (fuel : Nat) :
    ∃ wr, (qp.postSendSGL fuel iov wrIdBase connId generation).2.device.sends =
      qp.device.sends ++ [(wr, qp.device.nextAnswer.isNone)] ∧ wr.wrId = wrIdBase := by
  unfold QueuePair.postSendSGL
  dsimp only
  rw [if_pos fits]
  obtain ⟨-, wr, sends, wrId, -⟩ := doPostSendSGL_sends qp.shouldSignal.2 small 0 wrIdBase qp.shouldSignal.1
  rw [(shouldSignal_frame qp).2] at sends
  exact ⟨wr, sends, wrId⟩

theorem postSendSGL_large (fits : iov.length ≤ qp.config.maxSendSge.toNat) (large : 16 < iov.length) (fuel : Nat) :
    (qp.postSendSGL fuel iov wrIdBase connId generation).2.device = qp.device := by
  unfold QueuePair.postSendSGL
  dsimp only
  rw [if_pos fits, doPostSendSGL_large _ large]
  exact (shouldSignal_frame qp).2

section Fragments
variable (more : qp.config.maxSendSge.toNat < iov.length) (fuel : Nat)
include more

/-- The first round of the loop on more segments than one work request may have. -/
theorem postSendSGL_fragments :
    qp.postSendSGL (fuel + 1) iov wrIdBase connId generation =
      match qp.postFragment qp.config.maxSendSge.toNat wrIdBase connId generation iov 0 with
      | (status, next) =>
        if !status.ok then (some status, next)
        else next.postFragments qp.config.maxSendSge.toNat wrIdBase connId generation fuel
          (iov.drop qp.config.maxSendSge.toNat) 1 := by
  have some_left : iov ≠ [] := List.ne_nil_of_length_pos (Nat.lt_of_le_of_lt (Nat.zero_le _) more)
  unfold QueuePair.postSendSGL
  dsimp only
  rw [if_neg (Nat.not_le.mpr more), postFragments_succ _ _ _ _ _ _ some_left, Nat.min_eq_right (Nat.le_of_lt more)]
  rfl

theorem postSendSGL_fragments_large (large : 16 < qp.config.maxSendSge.toNat) :
    (qp.postSendSGL (fuel + 1) iov wrIdBase connId generation).2.device = qp.device := by
  obtain ⟨failed, same⟩ := postFragment_large wrIdBase connId generation qp large (Nat.le_of_lt more) 0
  rw [postSendSGL_fragments wrIdBase more]
  simp only [failed, Bool.not_false, if_true]
  exact same

/-- A first fragment that the device rejects is the last. -/
theorem postSendSGL_fragments_rejected (fits : qp.config.maxSendSge.toNat ≤ 16) (rejected : qp.device.nextAnswer ≠ none) :
    ∃ wr, (qp.postSendSGL (fuel + 1) iov wrIdBase connId generation).2.device.sends =
        qp.device.sends ++ [(wr, false)] ∧
      wr.wrId = WrIds.encode connId .requestSend generation (fragmentSlot wrIdBase 0) := by
  obtain ⟨answer, wr, sends, wrId⟩ := postFragment_sends wrIdBase connId generation qp fits iov 0
  have failed : qp.device.nextAnswer.isNone = false := by
    rw [Option.isNone_eq_false_iff, ← Option.ne_none_iff_isSome]
    exact rejected
  rw [failed] at answer sends
  rw [postSendSGL_fragments wrIdBase more]
  simp only [answer, Bool.not_false, if_true]
  exact ⟨wr, sends, wrId⟩

/-- After a first fragment that the device accepts comes a second, and nothing if it rejects that one. -/
theorem postSendSGL_fragments_accepted (fits : qp.config.maxSendSge.toNat ≤ 16) (accepted : qp.device.nextAnswer = none) :
    ∃ first second others, (qp.postSendSGL (fuel + 2) iov wrIdBase connId generation).2.device.sends =
        qp.device.sends ++
          (first, true) :: (second, (qp.device.sendAnswer (qp.device.sends.length + 1)).isNone) :: others ∧
      (qp.device.sendAnswer (qp.device.sends.length + 1) ≠ none → others = []) ∧
      second.wrId = WrIds.encode connId .requestSend generation (fragmentSlot wrIdBase 1) := by
  obtain ⟨answer, wr, sends, -⟩ := postFragment_sends wrIdBase connId generation qp fits iov 0
  have answers := postFragment_answers wrIdBase connId generation qp qp.config.maxSendSge.toNat iov 0
  rw [accepted, Option.isNone_none] at answer sends
  have left : iov.drop qp.config.maxSendSge.toNat ≠ [] := by
    rw [Ne, List.drop_eq_nil_iff]
    exact Nat.not_le.mpr more
  rw [postSendSGL_fragments wrIdBase more]
  simp only [answer, Bool.not_true, Bool.false_eq_true, if_false]
  generalize (qp.postFragment qp.config.maxSendSge.toNat wrIdBase connId generation iov 0).2 = next at sends answers
  have following : next.device.nextAnswer = qp.device.sendAnswer (qp.device.sends.length + 1) := by
    rw [Device.nextAnswer, answers, sends, List.length_append, List.length_singleton]
  rw [postFragments_succ _ _ _ _ _ _ left]
  generalize iov.drop qp.config.maxSendSge.toNat = remaining at left
  obtain ⟨goes, second, sent, wrId⟩ := postFragment_sends wrIdBase connId generation next
    (Nat.le_trans (Nat.min_le_right remaining.length _) fits) remaining 1
  rw [following] at goes sent
  generalize next.postFragment _ _ _ _ _ _ = posted at goes sent
  obtain ⟨status, after⟩ := posted
  dsimp only at goes sent ⊢
  rw [goes]
  split
  · exact ⟨wr, second, [], by rw [sent, sends, List.append_assoc]; rfl, fun _ => rfl, wrId⟩
  · rename_i goes
    rw [Bool.not_eq_true, Bool.not_eq_false', Option.isNone_iff_eq_none] at goes
    obtain ⟨others, rest, -⟩ := postFragments_cqes qp.config.maxSendSge.toNat wrIdBase connId generation after fuel
      (remaining.drop (min remaining.length qp.config.maxSendSge.toNat)) (1 + 1)
    refine ⟨wr, second, others, ?_, fun rejected => absurd goes rejected, wrId⟩
    rw [rest, sent, sends, List.append_assoc, List.append_assoc]
    rfl

end Fragments

theorem fragmentSlot_toNat (slotIndex fragmentIndex : UInt32) :
    (fragmentSlot slotIndex.toUInt64 fragmentIndex).toNat =
      slotIndex.toNat % 2 ^ 24 + fragmentIndex.toNat * 2 ^ 24 % 2 ^ 32 := by
  have bound := slotIndex.toNat_lt
  simp only [fragmentSlot, UInt32.toNat_or, UInt32.toNat_and, UInt32.toNat_shiftLeft, UInt64.toNat_toUInt32,
    UInt32.toNat_toUInt64, UInt32.reduceToNat, Nat.reduceMod, Nat.shiftLeft_eq]
  rw [mask_eq_mod 24 _ rfl, Nat.mod_eq_of_lt bound, Nat.or_comm, or_eq_add 24 (by omega) (by omega), Nat.add_comm]
  rfl

end Rdma.QueuePairs
