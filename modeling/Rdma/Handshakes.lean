import Mathlib.Tactic.Ring
import Rdma.QpTransitions

/-!
The handshake: two connections exchange what `GetLocalParams` returns and each
calls `Connect` with the other's parameters. `TransitionToRTR` takes every
attribute from the peer's parameters, also the port, the index of the source GID
and the MTU. So the local port and GID index are those configured only where
both sides agree on them (`addressed_iff`), and each side programs the other's
MTU (`paths_agree_iff`).
-/
namespace Rdma.Handshakes
open Rdma.Types Rdma.QpTransitions

structure PortAttr where
  lid : UInt16
  activeMtu : UInt32
  deriving DecidableEq, Repr

/-- What `ibv_query_port` and `ibv_query_gid` answer, or an error number. -/
structure RdmaDevice where
  ibvQueryPort : UInt8 → Except Int PortAttr
  ibvQueryGid : UInt8 → Int32 → Except Int Gid

def RdmaDevice.queryPort (device : RdmaDevice) (portNum : UInt8) : Except Status PortAttr :=
  match device.ibvQueryPort portNum with
  | .error errno => .error (Status.ioError "Failed to query port" errno)
  | .ok portAttr => .ok portAttr

def RdmaDevice.queryGid (device : RdmaDevice) (portNum : UInt8) (gidIndex : Int32) : Except Status Gid :=
  match device.ibvQueryGid portNum gidIndex with
  | .error errno => .error (Status.ioError "Failed to query GID" errno)
  | .ok gid => .ok gid

/-- A connection on its device. -/
structure Host where
  link : Link
  device : RdmaDevice

/-- `QueuePair::GetLocalParams`; the GID index is converted to the field's eight bits. -/
def Host.queuePairParams (host : Host) (portNum : UInt8) (gidIndex : Int32) : Except Status QpConnParams :=
  match host.device.queryPort portNum with
  | .error status => .error status
  | .ok portAttr =>
    match host.device.queryGid portNum gidIndex with
    | .error status => .error status
    | .ok gid => .ok {
        qpNum := host.link.ibv.qpNum
        psn := 0
        portNum := portNum.toUInt16
        gidIndex := UInt8.ofInt gidIndex.toInt
        lid := portAttr.lid
        mtu := portAttr.activeMtu
        gid }

def Host.getLocalParams (host : Host) : Except Status QpConnParams :=
  host.queuePairParams host.link.config.portNum host.link.config.gidIndex

/-- The host after it was given the peer's parameters. -/
def Host.connect (host : Host) (remoteParams : QpConnParams) : Status × Host :=
  let (status, link) := host.link.connect remoteParams
  (status, { host with link })

/-- The attributes of the requests for `RTR` that a call has made. -/
def rtrAttrs (before after : Host) : List QpAttr :=
  ((after.link.ibv.requests.drop before.link.ibv.requests.length).map Request.attr).filter (·.qpState = .rtr)

/-! ### Addressing -/

/-- The attributes name the host's own port and, where there is a global route, its own GID index, and the peer as
    destination. -/
structure Addressed (host peer : Host) (attr : QpAttr) : Prop where
  portNum : attr.ahAttr.portNum = host.link.config.portNum
  sgidIndex : attr.ahAttr.isGlobal = true → (attr.ahAttr.sgidIndex.toNat : Int) = host.link.config.gidIndex.toInt
  dlid : ∃ portAttr, peer.device.ibvQueryPort peer.link.config.portNum = .ok portAttr ∧
    attr.ahAttr.dlid = portAttr.lid
  dgid : peer.device.ibvQueryGid peer.link.config.portNum peer.link.config.gidIndex = .ok attr.ahAttr.dgid
  destQpNum : attr.destQpNum = peer.link.ibv.qpNum

/-- The connection is not in use, and the device accepts its request for `INIT`. -/
def Initializes (host : Host) : Prop :=
  host.link.connection.state = .disconnected ∧ host.link.ibv.attr.qpState.allows .init = true ∧
    host.link.ibv.nextAnswer = none

/-- The peer is configured with the same port and, where its GID is not all zeros, with a GID index whose low eight
    bits are the host's. -/
def SamePorts (host peer : Host) : Prop :=
  host.link.config.portNum = peer.link.config.portNum ∧
    (peer.device.ibvQueryGid peer.link.config.portNum peer.link.config.gidIndex ≠ .ok (Vector.replicate 16 0) →
      host.link.config.gidIndex.toInt = peer.link.config.gidIndex.toInt % 256)

variable {host peer : Host} {params : QpConnParams}

theorem getLocalParams_ok (sent : peer.getLocalParams = .ok params) :
    ∃ portAttr gid, peer.device.ibvQueryPort peer.link.config.portNum = .ok portAttr ∧
      peer.device.ibvQueryGid peer.link.config.portNum peer.link.config.gidIndex = .ok gid ∧
      params = { qpNum := peer.link.ibv.qpNum, psn := 0, portNum := peer.link.config.portNum.toUInt16,
                 gidIndex := UInt8.ofInt peer.link.config.gidIndex.toInt, lid := portAttr.lid,
                 mtu := portAttr.activeMtu, gid } := by
  unfold Host.getLocalParams Host.queuePairParams RdmaDevice.queryPort RdmaDevice.queryGid at sent
  cases port : peer.device.ibvQueryPort peer.link.config.portNum with
  | error errno =>
    rw [port] at sent
    cases sent
  | ok portAttr =>
    cases found : peer.device.ibvQueryGid peer.link.config.portNum peer.link.config.gidIndex with
    | error errno =>
      rw [port, found] at sent
      cases sent
    | ok gid =>
      rw [port, found] at sent
      exact ⟨portAttr, gid, rfl, rfl, (Except.ok.inj sent).symm⟩

/-- A `Connect` asks for `RTR` once, or not at all where it does not come to `INIT`. -/
theorem rtrAttrs_eq (remoteParams : QpConnParams) :
    (Initializes host ∧ rtrAttrs host (host.connect remoteParams).2 = [rtrAttr remoteParams]) ∨
      (¬ Initializes host ∧ rtrAttrs host (host.connect remoteParams).2 = []) := by
  by_cases idle : host.link.connection.state = .disconnected
  · obtain ⟨asks, connects⟩ := connect_connects idle remoteParams
    have added : rtrAttrs host (host.connect remoteParams).2 = (asks.map Request.attr).filter (·.qpState = .rtr) := by
      change ((List.drop _ (host.link.connect remoteParams).2.ibv.requests).map Request.attr).filter _ = _
      rw [connects.requests, List.drop_left]
    rw [added]
    generalize host.link.connect remoteParams = result at connects
    cases connects with
    | stays _ _ refused => exact .inr ⟨fun initializes => refused initializes.2.1 initializes.2.2, rfl⟩
    | inits _ _ entered accepted => exact .inl ⟨⟨idle, entered, accepted⟩, rfl⟩
    | receives _ _ entered accepted => exact .inl ⟨⟨idle, entered, accepted⟩, rfl⟩
    | connects entered accepted => exact .inl ⟨⟨idle, entered, accepted⟩, rfl⟩
  · refine .inr ⟨fun initializes => idle initializes.1, ?_⟩
    unfold rtrAttrs Host.connect
    rw [connect_refused idle]
    simp

theorem gid_zero_iff (gid : Gid) : gid.toList.any (· ≠ 0) = false ↔ gid = Vector.replicate 16 0 := by
  constructor
  · intro zero
    apply Vector.toList_inj.mp
    rw [Vector.toList_replicate]
    refine List.eq_replicate_iff.mpr ⟨Vector.length_toList, fun byte listed => ?_⟩
    simpa using List.any_eq_false.mp zero byte listed
  · rintro rfl
    decide

/-- What is set from the parameters; without a global route the GID is all zeros. -/
theorem rtrAhAttr_fields (params : QpConnParams) :
    (rtrAhAttr params).dlid = params.lid ∧ (rtrAhAttr params).portNum = params.portNum.toUInt8 ∧
      (rtrAhAttr params).dgid = params.gid ∧
      ((rtrAhAttr params).isGlobal = true ↔ params.gid ≠ Vector.replicate 16 0) ∧
      ((rtrAhAttr params).isGlobal = true → (rtrAhAttr params).sgidIndex = params.gidIndex) := by
  unfold rtrAhAttr
  dsimp only
  by_cases global : params.gid.toList.any (· ≠ 0) = true
  · rw [if_pos global]
    refine ⟨rfl, rfl, rfl, iff_of_true rfl fun zero => ?_, fun _ => rfl⟩
    rw [(gid_zero_iff _).mpr zero] at global
    cases global
  · have zero := (gid_zero_iff _).mp (Bool.eq_false_iff.mpr global)
    rw [if_neg global]
    exact ⟨rfl, rfl, zero.symm, iff_of_false Bool.false_ne_true (not_not.mpr zero), fun impossible => by cases impossible⟩

theorem ofInt_toNat (value : Int) : ((UInt8.ofInt value).toNat : Int) = value % 256 := by
  have positive := Int.emod_nonneg value (by decide : (256 : Int) ≠ 0)
  have below := Int.emod_lt_of_pos value (by decide : (0 : Int) < 256)
  change (((value % 256).toNat % 256 : Nat) : Int) = value % 256
  omega

/-- What is taken from the peer's parameters is the host's own exactly where both are configured alike. -/
theorem rtrAttr_addressed_iff (sent : peer.getLocalParams = .ok params) :
    Addressed host peer (rtrAttr params) ↔ SamePorts host peer := by
  obtain ⟨portAttr, gid, port, found, sent⟩ := getLocalParams_ok sent
  obtain ⟨dlid, portNum, dgid, route, source⟩ := rtrAhAttr_fields params
  have narrowed : params.portNum.toUInt8 = peer.link.config.portNum := by simp [sent]
  have same_gid : params.gid = gid := by rw [sent]
  have index : (params.gidIndex.toNat : Int) = peer.link.config.gidIndex.toInt % 256 := by
    rw [sent]
    exact ofInt_toNat _
  have global : peer.device.ibvQueryGid peer.link.config.portNum peer.link.config.gidIndex ≠ .ok (Vector.replicate 16 0) ↔
      (rtrAhAttr params).isGlobal = true := by
    rw [route, found, same_gid, ne_eq, Except.ok.injEq]
  rw [SamePorts, global, ← index, ← narrowed, ← portNum]
  constructor
  · intro addressed
    refine ⟨addressed.portNum.symm, fun routed => ?_⟩
    have own := addressed.sgidIndex routed
    rw [rtrAttr, source routed] at own
    exact own.symm
  · rintro ⟨same, own⟩
    refine ⟨same.symm, fun routed => ?_, ⟨portAttr, port, ?_⟩, ?_, ?_⟩
    · rw [rtrAttr, source routed]
      exact (own routed).symm
    · exact dlid.trans (by rw [sent])
    · rw [found, rtrAttr, dgid, same_gid]
    · rw [rtrAttr, sent]

theorem side_addressed_iff (sent : peer.getLocalParams = .ok params) :
    (∀ attr ∈ rtrAttrs host (host.connect params).2, Addressed host peer attr) ↔
      (Initializes host → SamePorts host peer) := by
  rcases rtrAttrs_eq params with ⟨initializes, asked⟩ | ⟨fails, asked⟩
  · rw [asked, List.forall_mem_singleton, rtrAttr_addressed_iff sent]
    exact ⟨fun same _ => same, fun same => same initializes⟩
  · rw [asked]
    exact iff_of_true (List.forall_mem_nil _) fun initializes => absurd initializes fails

/-- After an exchange of the parameters, the attributes that both sides ask for `RTR` with name their own ports and GID
    indices and the other side as destination, if and only if each side that gets so far is configured with the other's
    port number and, where there is a global route, GID index. -/
theorem addressed_iff {near far : Host} {nearParams farParams : QpConnParams}
    (nearSent : near.getLocalParams = .ok nearParams) (farSent : far.getLocalParams = .ok farParams) :
    ((∀ attr ∈ rtrAttrs near (near.connect farParams).2, Addressed near far attr) ∧
      ∀ attr ∈ rtrAttrs far (far.connect nearParams).2, Addressed far near attr) ↔
    (Initializes near → SamePorts near far) ∧ (Initializes far → SamePorts far near) :=
  and_congr (side_addressed_iff farSent) (side_addressed_iff nearSent)

/-- A host with a new connection, on a device that accepts everything; its port's LID is the queue pair's number. -/
def sampleHost (portNum : UInt8) (gidIndex : Int32) (qpNum : UInt16) (activeMtu : UInt32) : Host where
  link := .create sampleLink.connection { portNum, gidIndex } qpNum.toUInt32 fun _ => none
  device := ⟨fun _ => .ok ⟨qpNum, activeMtu⟩, fun _ _ => .ok (Vector.replicate 16 0xFE)⟩

/-- Both sides use port 1 and GID index 3. -/
theorem same_ports_addressed : ∃ nearParams farParams, (sampleHost 1 3 7 4).getLocalParams = .ok nearParams ∧
    (sampleHost 1 3 8 5).getLocalParams = .ok farParams ∧
    (∀ attr ∈ rtrAttrs (sampleHost 1 3 7 4) ((sampleHost 1 3 7 4).connect farParams).2,
      Addressed (sampleHost 1 3 7 4) (sampleHost 1 3 8 5) attr) ∧
    ∀ attr ∈ rtrAttrs (sampleHost 1 3 8 5) ((sampleHost 1 3 8 5).connect nearParams).2,
      Addressed (sampleHost 1 3 8 5) (sampleHost 1 3 7 4) attr := by
  refine ⟨_, _, rfl, rfl, ?_⟩
  refine (addressed_iff ?_ ?_).mpr ⟨fun _ => ⟨rfl, fun _ => by decide⟩, fun _ => ⟨rfl, fun _ => by decide⟩⟩
  · rfl
  · rfl

/-- Port 1 and GID index 0 on this side, port 2 and GID index 3 on the other: this side programs the other's. -/
theorem peer_port_programmed : ∃ farParams, (sampleHost 2 3 8 4).getLocalParams = .ok farParams ∧
    ∃ attr, rtrAttrs (sampleHost 1 0 7 4) ((sampleHost 1 0 7 4).connect farParams).2 = [attr] ∧
      attr.ahAttr.portNum = 2 ∧ attr.ahAttr.isGlobal = true ∧ attr.ahAttr.sgidIndex = 3 ∧
      ¬ Addressed (sampleHost 1 0 7 4) (sampleHost 2 3 8 4) attr := by
  refine ⟨_, rfl, _, rfl, rfl, rfl, rfl, fun addressed => ?_⟩
  exact absurd addressed.portNum (by decide)

/-! ### Path parameters -/

/-- The MTU that the connection's port has active, if it can be queried. -/
def Host.activeMtu (host : Host) : Except Int UInt32 :=
  (host.device.ibvQueryPort host.link.config.portNum).map PortAttr.activeMtu

/-- What the two queue pairs are programmed with: one MTU that neither side's port exceeds, and in each direction the
    packet number that the other side starts with. -/
structure PathsAgree (near far : Host) : Prop where
  pathMtu : near.link.ibv.attr.pathMtu = far.link.ibv.attr.pathMtu
  nearMtu : ∀ mtu, near.activeMtu = .ok mtu → near.link.ibv.attr.pathMtu ≤ mtu
  farMtu : ∀ mtu, far.activeMtu = .ok mtu → far.link.ibv.attr.pathMtu ≤ mtu
  nearPsn : near.link.ibv.attr.rqPsn = far.link.ibv.attr.sqPsn
  farPsn : far.link.ibv.attr.rqPsn = near.link.ibv.attr.sqPsn

/-- A `Connect` that returns OK has programmed what the peer sent. -/
theorem connect_programs (ok : (host.connect params).1.ok = true) :
    (host.connect params).2.link.connection.state = .connected ∧
      (host.connect params).2.activeMtu = host.activeMtu ∧
      (host.connect params).2.link.ibv.attr.pathMtu = params.mtu ∧
      (host.connect params).2.link.ibv.attr.rqPsn = params.psn ∧ (host.connect params).2.link.ibv.attr.sqPsn = 0 := by
  unfold Host.connect at ok ⊢
  by_cases idle : host.link.connection.state = .disconnected
  · obtain ⟨asks, connects⟩ := connect_connects idle params
    generalize host.link.connect params = result at connects ok
    cases connects with
    | stays => cases ok
    | inits => cases ok
    | receives => cases ok
    | connects => exact ⟨rfl, rfl, rfl, rfl, rfl⟩
  · rw [connect_refused idle] at ok
    cases ok

theorem params_mtu (sent : peer.getLocalParams = .ok params) :
    peer.activeMtu = .ok params.mtu ∧ params.psn = 0 := by
  obtain ⟨portAttr, gid, port, -, rfl⟩ := getLocalParams_ok sent
  refine ⟨?_, rfl⟩
  rw [Host.activeMtu, port]
  rfl

/-- After an exchange of the parameters and two calls of `Connect` that return OK, both queue pairs are programmed with
    one MTU that fits both ports, and with each other's packet numbers, if and only if the active MTUs are equal. -/
theorem paths_agree_iff {near far : Host} {nearParams farParams : QpConnParams}
    (nearSent : near.getLocalParams = .ok nearParams) (farSent : far.getLocalParams = .ok farParams)
    (nearOk : (near.connect farParams).1.ok = true) (farOk : (far.connect nearParams).1.ok = true) :
    (near.connect farParams).2.link.connection.state = .connected ∧
      (far.connect nearParams).2.link.connection.state = .connected ∧
      (PathsAgree (near.connect farParams).2 (far.connect nearParams).2 ↔ near.activeMtu = far.activeMtu) := by
  obtain ⟨nearUp, nearPort, nearMtu, nearRq, nearSq⟩ := connect_programs nearOk
  obtain ⟨farUp, farPort, farMtu, farRq, farSq⟩ := connect_programs farOk
  obtain ⟨nearActive, nearPsn⟩ := params_mtu nearSent
  obtain ⟨farActive, farPsn⟩ := params_mtu farSent
  refine ⟨nearUp, farUp, ?_⟩
  rw [nearActive, farActive]
  constructor
  · intro agree
    have same := agree.pathMtu
    rw [nearMtu, farMtu] at same
    rw [same]
  · intro equal
    have same : nearParams.mtu = farParams.mtu := Except.ok.inj equal
    constructor
    · rw [nearMtu, farMtu, same]
    · intro mtu active
      rw [nearPort, nearActive] at active
      rw [nearMtu, ← same, Except.ok.inj active]
      exact UInt32.le_refl mtu
    · intro mtu active
      rw [farPort, farActive] at active
      rw [farMtu, same, Except.ok.inj active]
      exact UInt32.le_refl mtu
    · rw [nearRq, farSq, farPsn]
    · rw [farRq, nearSq, nearPsn]

/-- Both ports have MTU 4 (2048 bytes) active. -/
theorem equal_mtus_agree : ∃ nearParams farParams, (sampleHost 1 0 7 4).getLocalParams = .ok nearParams ∧
    (sampleHost 1 0 8 4).getLocalParams = .ok farParams ∧
    PathsAgree ((sampleHost 1 0 7 4).connect farParams).2 ((sampleHost 1 0 8 4).connect nearParams).2 := by
  refine ⟨_, _, rfl, rfl, (paths_agree_iff ?_ ?_ ?_ ?_).2.2.mpr ?_⟩
  · rfl
  · rfl
  · rfl
  · rfl
  · rfl

/-- With MTU 4 active on one side and 5 on the other, each is programmed with the other's. -/
theorem mtus_crossed : ∃ nearParams farParams near far, (sampleHost 1 0 7 4).getLocalParams = .ok nearParams ∧
    (sampleHost 1 0 8 5).getLocalParams = .ok farParams ∧
    (sampleHost 1 0 7 4).connect farParams = (Status.OK, near) ∧
    (sampleHost 1 0 8 5).connect nearParams = (Status.OK, far) ∧
    near.link.ibv.attr.pathMtu = 5 ∧ far.link.ibv.attr.pathMtu = 4 ∧ ¬ PathsAgree near far := by
  refine ⟨_, _, _, _, rfl, rfl, rfl, rfl, rfl, rfl, fun agree => ?_⟩
  exact absurd agree.pathMtu (by decide)

end Rdma.Handshakes
