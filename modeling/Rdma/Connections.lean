import Rdma.QueuePairs

/-!
Connections (`connection.h`, `connection.cpp`): the send operations of the
queue pair behind a check of the connection state. `postRecv` has no check.
-/
namespace Rdma.Connections
open Rdma.Types Rdma.Verbs Rdma.QueuePairs

structure Connection where
  connId : UInt16 := 0
  state : ConnectionState := .disconnected
  qp : QueuePair
  remoteRecvBuffer : RemoteMemoryInfo := ⟨0, 0, 0⟩

/-- The check every send operation makes before it posts. -/
def Connection.ifConnected (conn : Connection) (post : QueuePair → Status × QueuePair) : Status × Connection :=
  if conn.state ≠ .connected then (Status.invalidArgument "Connection not established", conn)
  else
    let (status, qp) := post conn.qp
    (status, { conn with qp })

def Connection.send (conn : Connection) (buf : Buffer) (wrId : UInt64) : Status × Connection :=
  conn.ifConnected (·.postSend buf wrId)

def Connection.sendInline (conn : Connection) (data length wrId : UInt64) : Status × Connection :=
  conn.ifConnected (·.postSendInline data length wrId)

def Connection.write (conn : Connection) (buf : Buffer) (remoteAddr : UInt64) (remoteRkey : UInt32)
    (wrId : UInt64) : Status × Connection :=
  conn.ifConnected (·.postWrite buf remoteAddr remoteRkey wrId)

def Connection.writeWithImm (conn : Connection) (buf : Buffer) (remoteAddr : UInt64) (remoteRkey immData : UInt32)
    (wrId : UInt64) : Status × Connection :=
  conn.ifConnected (·.postWriteWithImm buf remoteAddr remoteRkey immData wrId)

def Connection.read (conn : Connection) (buf : Buffer) (remoteAddr : UInt64) (remoteRkey : UInt32)
    (wrId : UInt64) : Status × Connection :=
  conn.ifConnected (·.postRead buf remoteAddr remoteRkey wrId)

def Connection.postRecv (conn : Connection) (buf : Buffer) (wrId : UInt64) : Status × Connection :=
  let (status, qp) := conn.qp.postRecv buf wrId
  (status, { conn with qp })

/-! ### What the check leaves -/

theorem ifConnected_eq {conn : Connection} (connected : conn.state = .connected)
    (post : QueuePair → Status × QueuePair) :
    conn.ifConnected post = ((post conn.qp).1, { conn with qp := (post conn.qp).2 }) := by
  rw [Connection.ifConnected, if_neg (not_not.mpr connected)]

theorem sendInline_eq {conn : Connection} (connected : conn.state = .connected) (data length wrId : UInt64) :
    conn.sendInline data length wrId =
      ((conn.qp.postSendInline data length wrId).1, { conn with qp := (conn.qp.postSendInline data length wrId).2 }) :=
  ifConnected_eq connected _

theorem writeWithImm_eq {conn : Connection} (connected : conn.state = .connected) (buf : Buffer)
    (remoteAddr : UInt64) (remoteRkey immData : UInt32) (wrId : UInt64) :
    conn.writeWithImm buf remoteAddr remoteRkey immData wrId =
      ((conn.qp.postWriteWithImm buf remoteAddr remoteRkey immData wrId).1,
        { conn with qp := (conn.qp.postWriteWithImm buf remoteAddr remoteRkey immData wrId).2 }) :=
  ifConnected_eq connected _

/-- A send makes the signaling decision and hands the device one work request. -/
theorem send_conn {conn : Connection} (connected : conn.state = .connected) (buf : Buffer) (wrId : UInt64) :
    (conn.send buf wrId).2 = { conn with qp := { conn.qp.shouldSignal.2 with
      device := (conn.qp.device.ibvPostSend
        { wrId, opcode := .send, signaled := conn.qp.shouldSignal.1, sgList := [sgeOf buf] }).2 } } := by
  rw [Connection.send, ifConnected_eq connected]
  unfold QueuePair.postSend QueuePair.doPostSend
  dsimp only
  rw [post_eq, (shouldSignal_frame conn.qp).2]

theorem postRecv_conn (conn : Connection) (buf : Buffer) (wrId : UInt64) :
    (conn.postRecv buf wrId).2 =
      { conn with qp := { conn.qp with device := (conn.qp.device.ibvPostRecv { wrId, sgList := [sgeOf buf] }).2 } } := by
  unfold Connection.postRecv QueuePair.postRecv
  cases answer : conn.qp.device.ibvPostRecv { wrId, sgList := [sgeOf buf] } with
  | mk status device =>
    cases status with
    | none => rfl
    | some errno => rfl

theorem ifConnected_ok {conn : Connection} {post : QueuePair → Status × QueuePair}
    (ok : (conn.ifConnected post).1.ok = true) : conn.state = .connected := by
  by_contra apart
  rw [Connection.ifConnected, if_pos apart] at ok
  cases ok

theorem sendInline_ok (conn : Connection) (data length wrId : UInt64) :
    (conn.sendInline data length wrId).1.ok = true ↔
      conn.state = .connected ∧ length.toNat ≤ conn.qp.config.maxInlineData.toNat ∧
        conn.qp.device.nextAnswer = none := by
  constructor
  · intro ok
    have connected := ifConnected_ok ok
    rw [sendInline_eq connected, postSendInline_ok, Bool.and_eq_true, decide_eq_true_iff,
      Option.isNone_iff_eq_none] at ok
    exact ⟨connected, ok⟩
  · rintro ⟨connected, fits, answer⟩
    rw [sendInline_eq connected, postSendInline_ok, decide_eq_true fits, answer]
    rfl

/-- An inline send that goes out leaves the queue pair with one more work request. -/
theorem sendInline_goes {conn : Connection} {length : UInt64} (connected : conn.state = .connected)
    (fits : length.toNat ≤ conn.qp.config.maxInlineData.toNat) (accepted : conn.qp.device.nextAnswer = none)
    (data wrId : UInt64) :
    (conn.sendInline data length wrId).1.ok = true ∧ (conn.sendInline data length wrId).2.connId = conn.connId ∧
      (conn.sendInline data length wrId).2.qp.config = conn.qp.config ∧ ∃ wr : SendWr, wr.wrId = wrId ∧
        (conn.sendInline data length wrId).2.qp.device =
          { conn.qp.device with sends := conn.qp.device.sends ++ [(wr, true)] } := by
  refine ⟨(sendInline_ok ..).mpr ⟨connected, fits, accepted⟩, ?_⟩
  rw [sendInline_eq connected, QueuePair.postSendInline, if_neg (Nat.not_lt.mpr fits)]
  dsimp only
  have frame := shouldSignal_frame conn.qp
  rw [post_eq, Device.ibvPostSend, frame.2, accepted]
  exact ⟨rfl, frame.1, _, rfl, rfl⟩

/-- What an inline send that has gone out leaves for the work requests behind it. -/
theorem sendInline_accepted {conn : Connection} {data length wrId : UInt64}
    (ok : (conn.sendInline data length wrId).1.ok = true) :
    (conn.sendInline data length wrId).2.state = .connected ∧
      (conn.sendInline data length wrId).2.qp.config = conn.qp.config ∧ ∃ wr : SendWr,
        (conn.sendInline data length wrId).2.qp.device =
          { conn.qp.device with sends := conn.qp.device.sends ++ [(wr, true)] } := by
  obtain ⟨connected, fits, accepted⟩ := (sendInline_ok ..).mp ok
  obtain ⟨-, -, config, wr, -, device⟩ := sendInline_goes connected fits accepted data wrId
  refine ⟨?_, config, wr, device⟩
  rw [sendInline_eq connected]
  exact connected

/-- Whatever a step hands to the device has the given id. -/
def HandsOnly (wrId : UInt64) (before after : QueuePair) : Prop :=
  ∃ wrs, after.device.sends = before.device.sends ++ wrs ∧ ∀ wr ∈ wrs, wr.1.wrId = wrId

theorem HandsOnly.trans {wrId : UInt64} {before middle after : QueuePair} (first : HandsOnly wrId before middle)
    (second : HandsOnly wrId middle after) : HandsOnly wrId before after := by
  obtain ⟨wrs, sends, ids⟩ := first
  obtain ⟨more, sent, others⟩ := second
  refine ⟨wrs ++ more, by rw [sent, sends, List.append_assoc], fun wr member => ?_⟩
  rcases List.mem_append.mp member with early | late
  · exact ids wr early
  · exact others wr late

/-- What the check lets through hands over as the post does. -/
theorem ifConnected_handsOnly {wrId : UInt64} {conn : Connection} {post : QueuePair → Status × QueuePair}
    (hands : HandsOnly wrId conn.qp (post conn.qp).2) : HandsOnly wrId conn.qp (conn.ifConnected post).2.qp := by
  by_cases connected : conn.state = .connected
  · rw [ifConnected_eq connected]
    exact hands
  · rw [Connection.ifConnected, if_pos connected]
    exact ⟨[], (List.append_nil _).symm, fun _ member => by cases member⟩

theorem sendInline_handsOnly (conn : Connection) (data length wrId : UInt64) :
    HandsOnly wrId conn.qp (conn.sendInline data length wrId).2.qp := by
  refine ifConnected_handsOnly ⟨_, postSendInline_sends .., fun wr member => ?_⟩
  split at member
  · cases member
  · rw [List.mem_singleton.mp member]

theorem writeWithImm_handsOnly (conn : Connection) (buf : Buffer) (remoteAddr : UInt64) (remoteRkey immData : UInt32)
    (wrId : UInt64) : HandsOnly wrId conn.qp (conn.writeWithImm buf remoteAddr remoteRkey immData wrId).2.qp := by
  refine ifConnected_handsOnly ⟨_, postWriteWithImm_sends .., fun wr member => ?_⟩
  rw [List.mem_singleton.mp member]

end Rdma.Connections
