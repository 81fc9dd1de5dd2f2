import Rdma.CompletionQueues
import Rdma.ConnectionIds
import Rdma.HandshakeMessages
import Rdma.Handshakes

/-!
How the key-value server accepts a connection (`KVServer::AcceptConnections`), up
to the message that it sends (`offer`) and from there on (`conclude`). Wherever
the handshake fails the new connection is removed, so its id is free again
(`offer_cases`, `conclude_cases`); where it succeeds the queue pair is programmed
with what the peer sent (`connect_programmed`).
-/
namespace Rdma.KvAcceptances
open Rdma.Verbs Rdma.Connections Rdma.ConnectionManagers Rdma.HandshakeMessages
open Rdma.ConnectionIds (Kept placed_kept removed_kept used_kept)
open Rdma.CompletionQueues (getConnection_update)
open Rdma.QpTransitions (QpConnParams rtrAhAttr connect_connects connect_refused)
open Rdma.Handshakes (Host RdmaDevice)

/-- What the verbs do while a connection is accepted: the error number of `ibv_create_qp`, if there is one, the new
    queue pair's number, its device's answers, and the device's ports and GIDs. -/
structure Attempt where
  createAnswer : Option Int
  qpNum : UInt32
  sendAnswer : Nat → Option Int
  recvAnswer : Nat → Option Int
  modifyAnswer : Nat → Option Int
  device : RdmaDevice

def Attempt.created (attempt : Attempt) : Except Int Device :=
  match attempt.createAnswer with
  | some errno => .error errno
  | none => .ok ⟨attempt.sendAnswer, attempt.recvAnswer, [], []⟩

/-- The connection and the queue pair of verbs behind it. -/
def Attempt.host (attempt : Attempt) (conn : Connection) : Host :=
  ⟨.create conn {} attempt.qpNum attempt.modifyAnswer, attempt.device⟩

/-- A connection that was created for a peer, and the message for it. -/
structure Offered where
  connId : UInt16
  host : Host
  greeting : Greeting

def offer (manager : ConnectionManager) (attempt : Attempt) : Option (ConnectionManager × Option Offered) := do
  let (created, manager) ← manager.createConnection {} attempt.created
  match created with
  | .error _ => some (manager, none)
  | .ok connId =>
    let conn ← manager.getConnection connId
    let host := attempt.host conn
    match host.getLocalParams with
    | .error _ => some (manager.removeConnection connId, none)
    | .ok qpParams => some (manager, some ⟨connId, host, { qpParams, connId, version := 1 }⟩)

/-- `received` is the peer's message, unless `Send` or `Receive` fails. -/
def conclude (manager : ConnectionManager) (offered : Offered) (received : Option Greeting) :
    ConnectionManager × Option Host :=
  match received with
  | none => (manager.removeConnection offered.connId, none)
  | some remote =>
    let (status, host) := offered.host.connect remote.qpParams
    if !status.ok then (manager.removeConnection offered.connId, none)
    else (manager.update offered.connId host.link.connection, some host)

/-! ### Connecting -/

/-- The queue pair is ready, with the peer's parameters. -/
structure Programmed (host : Host) (params : QpConnParams) : Prop where
  connected : host.link.connection.state = .connected
  ready : host.link.ibv.attr.qpState = .rts
  destQpNum : host.link.ibv.attr.destQpNum = params.qpNum
  pathMtu : host.link.ibv.attr.pathMtu = params.mtu
  rqPsn : host.link.ibv.attr.rqPsn = params.psn
  ahAttr : host.link.ibv.attr.ahAttr = rtrAhAttr params

section Connecting
variable {host : Host} {params : QpConnParams}

theorem connect_programmed (ok : (host.connect params).1.ok = true) : Programmed (host.connect params).2 params ∧
    (host.connect params).2.link.connection = { host.link.connection with state := .connected } := by
  unfold Host.connect at ok ⊢
  by_cases idle : host.link.connection.state = .disconnected
  · obtain ⟨asks, connects⟩ := connect_connects idle params
    generalize host.link.connect params = result at connects ok
    cases connects with
    | stays => cases ok
    | inits => cases ok
    | receives => cases ok
    | connects => exact ⟨⟨rfl, rfl, rfl, rfl, rfl, rfl⟩, rfl⟩
  · rw [connect_refused idle] at ok
    cases ok

/-- What a host tells its peer does not depend on how far it is connected. -/
theorem connect_params (host : Host) (params : QpConnParams) :
    (host.connect params).2.getLocalParams = host.getLocalParams := by
  unfold Host.connect
  by_cases idle : host.link.connection.state = .disconnected
  · obtain ⟨asks, connects⟩ := connect_connects idle params
    generalize host.link.connect params = result at connects
    cases connects with
    | stays => rfl
    | inits => rfl
    | receives => rfl
    | connects => rfl
  · rw [connect_refused idle]

/-- A new queue pair gets ready if its device refuses nothing. -/
theorem connect_ok (idle : host.link.connection.state = .disconnected)
    (fresh : host.link.ibv.attr.qpState.allows .init = true) (answers : ∀ k, host.link.ibv.modifyAnswer k = none) :
    (host.connect params).1.ok = true := by
  obtain ⟨asks, connects⟩ := connect_connects idle params
  unfold Host.connect
  dsimp only
  generalize host.link.connect params = result at connects ⊢
  cases connects with
  | stays failed errno refused => exact absurd (answers _) (refused fresh)
  | inits failed errno entered accepted refused => exact absurd (answers _) refused
  | receives failed errno entered accepted refused => exact absurd (answers _) refused
  | connects => rfl

end Connecting

/-! ### The ids -/

/-- The manager has the same connections. -/
def SameIds (before after : ConnectionManager) : Prop :=
  Kept after ∧ after.config = before.config ∧
    ∀ connId, after.getConnection connId = none ↔ before.getConnection connId = none

/-- The manager has another connection. -/
def AddsId (connId : UInt16) (before after : ConnectionManager) : Prop :=
  Kept after ∧ after.config = before.config ∧ before.getConnection connId = none ∧
    ∀ other, after.getConnection other = none ↔ other ≠ connId ∧ before.getConnection other = none

/-- The connection is gone. -/
def DropsId (connId : UInt16) (before after : ConnectionManager) : Prop :=
  Kept after ∧ after.config = before.config ∧
    ∀ other, after.getConnection other = none ↔ other = connId ∨ before.getConnection other = none

section Ids
variable {manager middle after : ConnectionManager} {connId : UInt16}

/-- A connection that was added and is gone. -/
theorem AddsId.dropped (adds : AddsId connId manager middle) (drops : DropsId connId middle after) :
    SameIds manager after := by
  obtain ⟨-, config, fresh, added⟩ := adds
  obtain ⟨kept, config', dropped⟩ := drops
  refine ⟨kept, config'.trans config, fun other => ?_⟩
  rw [dropped, added]
  by_cases mine : other = connId
  · simp [mine, fresh]
  · simp [mine]

theorem removeConnection_drops (kept : Kept manager) (connId : UInt16) :
    DropsId connId manager (manager.removeConnection connId) := by
  have gone := getConnection_removed manager connId
  have dropped : ∀ other, (manager.removeConnection connId).getConnection other = none ↔
      other = connId ∨ manager.getConnection other = none := by
    intro other
    rw [gone]
    by_cases mine : other = connId
    · simp [mine]
    · simp [mine]
  cases found : manager.getConnection connId with
  | none =>
    have same : manager.removeConnection connId = manager := by rw [ConnectionManager.removeConnection, found]; rfl
    exact ⟨by rwa [same], by rw [same], dropped⟩
  | some conn =>
    refine ⟨removed_kept kept found, ?_, dropped⟩
    rw [ConnectionManager.removeConnection, found]
    rfl

end Ids

/-- The connection as it was created for the attempt. -/
def Attempt.fresh (attempt : Attempt) (connId : UInt16) : Connection :=
  freshConnection {} ⟨attempt.sendAnswer, attempt.recvAnswer, [], []⟩ connId

/-- Without a queue pair, an id or the local parameters there is no message for the peer; otherwise it has the
parameters of a new connection. -/
inductive Offers (manager : ConnectionManager) (attempt : Attempt) : ConnectionManager × Option Offered → Prop
  | declined {after : ConnectionManager} (same : SameIds manager after) : Offers manager attempt (after, none)
  | offered {after : ConnectionManager} {connId : UInt16} {qpParams : QpConnParams} (adds : AddsId connId manager after)
    (params : (attempt.host (attempt.fresh connId)).getLocalParams = .ok qpParams) :
    Offers manager attempt
      (after, some ⟨connId, attempt.host (attempt.fresh connId), { qpParams, connId, version := 1 }⟩)

/-- Where the peer's message does not come or `Connect` fails the connection is gone; otherwise it is programmed. -/
inductive Concludes (manager : ConnectionManager) (offered : Offered) (received : Option Greeting) :
    ConnectionManager × Option Host → Prop
  | refused {after : ConnectionManager} (drops : DropsId offered.connId manager after) :
    Concludes manager offered received (after, none)
  | established {after : ConnectionManager} {remote : Greeting} (came : received = some remote)
    (ok : (offered.host.connect remote.qpParams).1.ok = true) (same : SameIds manager after) :
    Concludes manager offered received (after, some (offered.host.connect remote.qpParams).2)

section Accepting
variable {manager : ConnectionManager} {attempt : Attempt}

theorem created_device {device : Device} (created : attempt.created = .ok device) :
    device = ⟨attempt.sendAnswer, attempt.recvAnswer, [], []⟩ := by
  unfold Attempt.created at created
  split at created
  · cases created
  · exact (Except.ok.inj created).symm

theorem offer_cases (kept : Kept manager) (attempt : Attempt) :
    ∃ result, offer manager attempt = some result ∧ Offers manager attempt result := by
  have wf := kept.wellFormed
  have unchanged : SameIds manager manager := ⟨kept, rfl, fun _ => Iff.rfl⟩
  unfold offer
  rcases createConnection_cases wf {} attempt.created with
    ⟨status, failed⟩ | ⟨device, rest, connId, created, stack, placed⟩
  · rw [failed]
    exact ⟨_, rfl, .declined unchanged⟩
  obtain rfl := created_device created
  change manager.createConnection {} attempt.created =
    some (.ok connId, manager.placed rest connId (attempt.fresh connId)) at placed
  have cells := getConnection_placed wf stack (attempt.fresh connId)
  have free : manager.getConnection connId = none := by
    rw [ConnectionManager.getConnection, (wf.free connId (by rw [stack]; simp)).2, ite_self]
  have found : (manager.placed rest connId (attempt.fresh connId)).getConnection connId =
      some (attempt.fresh connId) := by
    rw [cells, if_pos rfl]
  have adds : AddsId connId manager (manager.placed rest connId (attempt.fresh connId)) := by
    refine ⟨placed_kept kept stack rfl, rfl, free, fun other => ?_⟩
    rw [cells]
    by_cases mine : other = connId
    · simp [mine]
    · simp [mine]
  rw [placed]
  simp only [Option.bind_eq_bind, Option.bind_some, found]
  cases params : (attempt.host (attempt.fresh connId)).getLocalParams with
  | error status => exact ⟨_, rfl, .declined (adds.dropped (removeConnection_drops adds.1 connId))⟩
  | ok qpParams => exact ⟨_, rfl, .offered adds params⟩

theorem conclude_cases (kept : Kept manager) {offered : Offered}
    (live : manager.getConnection offered.connId ≠ none) (named : offered.host.link.connection.connId = offered.connId)
    (received : Option Greeting) : Concludes manager offered received (conclude manager offered received) := by
  have drops := removeConnection_drops kept offered.connId
  cases received with
  | none => exact .refused drops
  | some remote =>
    unfold conclude
    cases ok : (offered.host.connect remote.qpParams).1.ok with
    | false =>
      simp only [ok, Bool.not_false, if_true]
      exact .refused drops
    | true =>
      simp only [ok, Bool.not_true, Bool.false_eq_true, if_false]
      obtain ⟨conn, found⟩ := Option.ne_none_iff_exists'.mp live
      have stored := (ConnectionIds.getConnection_some.mp found)
      have id : (offered.host.connect remote.qpParams).2.link.connection.connId = conn.connId := by
        rw [(connect_programmed ok).2]
        exact named.trans (UInt16.toNat_inj.mp (kept.named _ _ stored.1 stored.2)).symm
      refine .established rfl ok ⟨used_kept kept found id, rfl, fun other => ?_⟩
      rw [getConnection_update found]
      by_cases mine : other = offered.connId
      · simp [mine, found]
      · rw [if_neg mine]

/-- Verbs with which nothing fails. -/
structure Attempt.Cooperates (attempt : Attempt) : Prop where
  created : attempt.createAnswer = none
  port : ∃ portAttr, attempt.device.ibvQueryPort 1 = .ok portAttr
  gid : ∃ gid, attempt.device.ibvQueryGid 1 0 = .ok gid
  modifies : ∀ k, attempt.modifyAnswer k = none

theorem Attempt.Cooperates.connects (cooperates : attempt.Cooperates) (conn : Connection) (params : QpConnParams) :
    ((attempt.host conn).connect params).1.ok = true :=
  connect_ok rfl rfl cooperates.modifies

theorem Attempt.Cooperates.params (cooperates : attempt.Cooperates) (conn : Connection) :
    ∃ qpParams, (attempt.host conn).getLocalParams = .ok qpParams := by
  obtain ⟨portAttr, port⟩ := cooperates.port
  obtain ⟨gid, queried⟩ := cooperates.gid
  have own : (attempt.host conn).device = attempt.device := rfl
  have config : (attempt.host conn).link.config = {} := rfl
  cases params : (attempt.host conn).getLocalParams with
  | ok qpParams => exact ⟨qpParams, rfl⟩
  | error status =>
    unfold Host.getLocalParams Host.queuePairParams RdmaDevice.queryPort RdmaDevice.queryGid at params
    simp only [own, config, port, queried] at params
    cases params

/-- With an id left there is a message for the peer. -/
theorem Attempt.Cooperates.offers (cooperates : attempt.Cooperates) (kept : Kept manager) {rest : List UInt16}
    {connId : UInt16} (stack : manager.freeConnIds = rest ++ [connId]) :
    ∃ after offered, offer manager attempt = some (after, some offered) ∧
      offered.host = attempt.host (attempt.fresh offered.connId) := by
  have wf := kept.wellFormed
  obtain ⟨qpParams, params⟩ := cooperates.params (attempt.fresh connId)
  have created : attempt.created = .ok ⟨attempt.sendAnswer, attempt.recvAnswer, [], []⟩ := by
    rw [Attempt.created, cooperates.created]
  have placed := createConnection_top wf stack {} ⟨attempt.sendAnswer, attempt.recvAnswer, [], []⟩
  have found : (manager.placed rest connId (attempt.fresh connId)).getConnection connId =
      some (attempt.fresh connId) := by
    rw [getConnection_placed wf stack, if_pos rfl]
  rw [← Attempt.fresh, ← created] at placed
  refine ⟨manager.placed rest connId (attempt.fresh connId), ⟨connId, attempt.host (attempt.fresh connId),
    { qpParams, connId, version := 1 }⟩, ?_, rfl⟩
  unfold offer
  rw [placed]
  simp only [Option.bind_eq_bind, Option.bind_some, found, params]

end Accepting

end Rdma.KvAcceptances
