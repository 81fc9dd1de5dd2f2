import Mathlib.Data.List.Nodup
import Rdma.Arrays
import Rdma.Connections

/-!
The connection manager (`connection_manager.h`, `connection_manager.cpp`) and
what it creates connections from (`QueuePair::Create`, `Connection::Create`).
A connection is known by its index in the manager. The ids that are not in use
are kept on a stack, so the id of a connection that was removed is the next one
given out.
-/
namespace Rdma.ConnectionManagers
open Rdma.Arrays Rdma.Types Rdma.Verbs Rdma.QueuePairs Rdma.Connections

/-- `ibv_qp_init_attr`, less the two completion queues. -/
structure QpInitAttr where
  qpType : QpType
  maxSendWr : UInt32
  maxRecvWr : UInt32
  maxSendSge : UInt32
  maxRecvSge : UInt32
  maxInlineData : UInt32
  sqSigAll : Bool
  deriving DecidableEq, Repr

/-- What a queue pair is asked for. Only the posts say which work requests are signaled. -/
def initAttr (config : QueuePairConfig) : QpInitAttr where
  qpType := config.qpType
  maxSendWr := config.maxSendWr
  maxRecvWr := config.maxRecvWr
  maxSendSge := config.maxSendSge
  maxRecvSge := config.maxRecvSge
  maxInlineData := config.maxInlineData
  sqSigAll := false

/-- `pd`, `sendCq` and `recvCq` tell which pointers are there, each with a handle of the device behind it. `ibvCreateQp`
    answers with the device behind the new queue pair or with an error number. -/
def createQueuePair (pd sendCq recvCq : Bool) (config : QueuePairConfig) (ibvCreateQp : QpInitAttr → Except Int Device) :
    Except Status QueuePair :=
  if !pd then .error (Status.invalidArgument "Invalid protection domain")
  else if !sendCq then .error (Status.invalidArgument "Invalid send completion queue")
  else if !recvCq then .error (Status.invalidArgument "Invalid receive completion queue")
  else
    match ibvCreateQp (initAttr config) with
    | .error errno => .error (Status.ioError "Failed to create queue pair" errno)
    | .ok device => .ok { config, device }

structure ConnectionConfig where
  qpConfig : QueuePairConfig := {}
  deriving DecidableEq, Repr

def createConnection (pd sendCq recvCq : Bool) (config : ConnectionConfig)
    (ibvCreateQp : QpInitAttr → Except Int Device) : Except Status Connection :=
  if !pd then .error (Status.invalidArgument "Invalid protection domain")
  else
    match createQueuePair pd sendCq recvCq config.qpConfig ibvCreateQp with
    | .error status => .error status
    | .ok qp => .ok { qp, state := .disconnected }

/-- With all pointers there, the answer of `ibv_create_qp` decides. -/
theorem createConnection_granted {config : ConnectionConfig} {ibvCreateQp : QpInitAttr → Except Int Device}
    {device : Device} (granted : ibvCreateQp (initAttr config.qpConfig) = .ok device) :
    createConnection true true true config ibvCreateQp = .ok { qp := { config := config.qpConfig, device } } := by
  simp [createConnection, createQueuePair, granted]

theorem createConnection_denied {config : ConnectionConfig} {ibvCreateQp : QpInitAttr → Except Int Device} {errno : Int}
    (denied : ibvCreateQp (initAttr config.qpConfig) = .error errno) :
    createConnection true true true config ibvCreateQp =
      .error (Status.ioError "Failed to create queue pair" errno) := by
  simp [createConnection, createQueuePair, denied]

structure ConnectionManagerConfig where
  maxConnections : UInt16 := 1024
  deriving DecidableEq, Repr

/-- The last of `freeConnIds` is the next to be given out. -/
structure ConnectionManager where
  config : ConnectionManagerConfig
  connections : Cells (Option Connection)
  freeConnIds : List UInt16
  activeCount : Nat

/-- The protection domain and the completion queues are not null. -/
def ConnectionManager.create (config : ConnectionManagerConfig) : ConnectionManager where
  config
  connections := ⟨config.maxConnections.toNat, fun _ => none⟩
  freeConnIds := (List.range config.maxConnections.toNat).map fun i =>
    UInt16.ofNat (config.maxConnections.toNat - 1 - i)
  activeCount := 0

def ConnectionManager.allocConnId (manager : ConnectionManager) : UInt16 × ConnectionManager :=
  match manager.freeConnIds.getLast? with
  | none => (0xFFFF, manager)
  | some id => (id, { manager with freeConnIds := manager.freeConnIds.dropLast })

def ConnectionManager.freeConnId (manager : ConnectionManager) (connId : UInt16) : ConnectionManager :=
  { manager with freeConnIds := manager.freeConnIds ++ [connId] }

/-- `created` is the answer of `ibv_create_qp`; `create` has checked the pointers. The id of the new connection stands
    for the pointer to it; `none` where the id is outside the array. -/
def ConnectionManager.createConnection (manager : ConnectionManager) (config : ConnectionConfig)
    (created : Except Int Device) : Option (Except Status UInt16 × ConnectionManager) :=
  let (connId, manager) := manager.allocConnId
  if connId = 0xFFFF then some (.error (Status.resourceExhausted "No available connection slots"), manager)
  else
    match ConnectionManagers.createConnection true true true config fun _ => created with
    | .error status => some (.error status, manager.freeConnId connId)
    | .ok conn => do
      let connections ← manager.connections.write connId.toNat (some { conn with connId })
      some (.ok connId, { manager with connections, activeCount := manager.activeCount + 1 })

def ConnectionManager.getConnection (manager : ConnectionManager) (connId : UInt16) : Option Connection :=
  if manager.connections.size ≤ connId.toNat then none else manager.connections.cell connId.toNat

def ConnectionManager.removeConnection (manager : ConnectionManager) (connId : UInt16) : ConnectionManager :=
  if (manager.getConnection connId).isNone then manager
  else
    { manager.freeConnId connId with
      connections := manager.connections.put connId.toNat none
      activeCount := manager.activeCount - 1 }

/-- A use of a connection, through the pointer to it. -/
def ConnectionManager.update (manager : ConnectionManager) (connId : UInt16) (conn : Connection) : ConnectionManager :=
  { manager with connections := manager.connections.put connId.toNat (some conn) }

/-! ### The ids -/

/-- The ids on the stack are distinct ids of the array that no connection has. -/
structure WellFormed (manager : ConnectionManager) : Prop where
  size : manager.connections.size = manager.config.maxConnections.toNat
  free : ∀ connId ∈ manager.freeConnIds, connId.toNat < manager.connections.size ∧
    manager.connections.cell connId.toNat = none
  distinct : manager.freeConnIds.Nodup

variable {manager : ConnectionManager} {connId : UInt16}

theorem id_named (wf : WellFormed manager) (inside : connId.toNat < manager.connections.size) : connId ≠ 0xFFFF := by
  rintro rfl
  rw [wf.size] at inside
  exact absurd inside (Nat.not_lt.mpr (Nat.le_of_lt_succ manager.config.maxConnections.toNat_lt))

theorem firstId_toNat (config : ConnectionManagerConfig) {i : Nat} :
    (UInt16.ofNat (config.maxConnections.toNat - 1 - i)).toNat = config.maxConnections.toNat - 1 - i := by
  have bound := config.maxConnections.toNat_lt
  rw [UInt16.toNat_ofNat']
  exact Nat.mod_eq_of_lt (by omega)

theorem create_wellFormed (config : ConnectionManagerConfig) : WellFormed (.create config) where
  size := rfl
  free := by
    intro connId member
    obtain ⟨i, inside, rfl⟩ := List.mem_map.mp member
    have below := List.mem_range.mp inside
    refine ⟨?_, rfl⟩
    rw [firstId_toNat]
    change _ < config.maxConnections.toNat
    omega
  distinct := by
    refine List.nodup_range.map_on fun i inside j other same => ?_
    have below := List.mem_range.mp inside
    have beneath := List.mem_range.mp other
    have equal := congrArg UInt16.toNat same
    rw [firstId_toNat, firstId_toNat] at equal
    omega

/-- The stack after its top was taken. -/
theorem allocConnId_top {rest : List UInt16} (stack : manager.freeConnIds = rest ++ [connId]) :
    manager.allocConnId = (connId, { manager with freeConnIds := rest }) := by
  rw [ConnectionManager.allocConnId, stack, List.getLast?_append, List.dropLast_concat]
  rfl

theorem allocConnId_empty (empty : manager.freeConnIds = []) : manager.allocConnId = (0xFFFF, manager) := by
  rw [ConnectionManager.allocConnId, empty]
  rfl

/-- The manager after the id on top of the stack was given to a connection. -/
def ConnectionManager.placed (manager : ConnectionManager) (rest : List UInt16) (connId : UInt16) (conn : Connection) :
    ConnectionManager :=
  { manager with
    freeConnIds := rest
    connections := manager.connections.put connId.toNat (some conn)
    activeCount := manager.activeCount + 1 }

/-- A connection that was just created. -/
def freshConnection (config : ConnectionConfig) (device : Device) (connId : UInt16) : Connection :=
  { connId, qp := { config := config.qpConfig, device } }

theorem placed_wellFormed (wf : WellFormed manager) {rest : List UInt16} (stack : manager.freeConnIds = rest ++ [connId])
    (conn : Connection) : WellFormed (manager.placed rest connId conn) where
  size := wf.size
  free := by
    intro other member
    obtain ⟨inside, unused⟩ := wf.free other (by rw [stack]; exact List.mem_append_left _ member)
    refine ⟨inside, ?_⟩
    have apart : other.toNat ≠ connId.toNat := by
      intro same
      have distinct := wf.distinct
      rw [stack, List.nodup_append] at distinct
      exact distinct.2.2 other member connId (by simp) (UInt16.toNat_inj.mp same)
    exact (put_apart manager.connections apart _).trans unused
  distinct := by
    have distinct := wf.distinct
    rw [stack, List.nodup_append] at distinct
    exact distinct.1

/-- A connection gets the id on top of the stack. -/
theorem createConnection_top (wf : WellFormed manager) {rest : List UInt16}
    (stack : manager.freeConnIds = rest ++ [connId]) (config : ConnectionConfig) (device : Device) :
    manager.createConnection config (.ok device) =
      some (.ok connId, manager.placed rest connId (freshConnection config device connId)) := by
  have inside := (wf.free connId (by rw [stack]; simp)).1
  rw [ConnectionManager.createConnection, allocConnId_top stack]
  dsimp only
  rw [if_neg (id_named wf inside), createConnection_granted rfl]
  exact Option.bind_eq_some_iff.mpr ⟨_, write_inside inside _, rfl⟩

/-- Where no queue pair can be created, the id on top of the stack goes back. -/
theorem createConnection_refused (wf : WellFormed manager) {rest : List UInt16}
    (stack : manager.freeConnIds = rest ++ [connId]) (config : ConnectionConfig) (errno : Int) :
    manager.createConnection config (.error errno) =
      some (.error (Status.ioError "Failed to create queue pair" errno), manager) := by
  have inside := (wf.free connId (by rw [stack]; simp)).1
  rw [ConnectionManager.createConnection, allocConnId_top stack]
  dsimp only
  rw [if_neg (id_named wf inside), createConnection_denied rfl]
  dsimp only
  rw [ConnectionManager.freeConnId, ← stack]

theorem createConnection_exhausted (empty : manager.freeConnIds = []) (config : ConnectionConfig)
    (created : Except Int Device) :
    manager.createConnection config created =
      some (.error (Status.resourceExhausted "No available connection slots"), manager) := by
  rw [ConnectionManager.createConnection, allocConnId_empty empty]
  rfl

/-- What a call creates: nothing, or a connection with the id on top of the stack. -/
theorem createConnection_cases (wf : WellFormed manager) (config : ConnectionConfig) (created : Except Int Device) :
    (∃ status, manager.createConnection config created = some (.error status, manager)) ∨
      ∃ device rest connId, created = .ok device ∧ manager.freeConnIds = rest ++ [connId] ∧
        manager.createConnection config created =
          some (.ok connId, manager.placed rest connId (freshConnection config device connId)) := by
  rcases List.eq_nil_or_concat manager.freeConnIds with empty | ⟨rest, connId, stack⟩
  · exact .inl ⟨_, createConnection_exhausted empty config created⟩
  · rw [List.concat_eq_append] at stack
    cases created with
    | ok device => exact .inr ⟨device, rest, connId, rfl, stack, createConnection_top wf stack config device⟩
    | error errno => exact .inl ⟨_, createConnection_refused wf stack config errno⟩

theorem getConnection_placed (wf : WellFormed manager) {rest : List UInt16}
    (stack : manager.freeConnIds = rest ++ [connId]) (conn : Connection) (other : UInt16) :
    (manager.placed rest connId conn).getConnection other =
      if other = connId then some conn else manager.getConnection other := by
  have inside := (wf.free connId (by rw [stack]; simp)).1
  unfold ConnectionManager.getConnection
  by_cases same : other = connId
  · rw [if_pos same, same]
    exact (if_neg (Nat.not_le.mpr inside)).trans (put_same ..)
  · rw [if_neg same]
    have apart : other.toNat ≠ connId.toNat := fun equal => same (UInt16.toNat_inj.mp equal)
    exact congrArg _ (put_apart manager.connections apart _)

/-- Only the connection itself is removed. -/
theorem getConnection_removed (manager : ConnectionManager) (connId other : UInt16) :
    (manager.removeConnection connId).getConnection other = if other = connId then none else manager.getConnection other := by
  unfold ConnectionManager.removeConnection
  cases found : manager.getConnection connId with
  | none =>
    rw [Option.isNone_none, if_pos rfl]
    by_cases same : other = connId
    · rw [if_pos same, same, found]
    · rw [if_neg same]
  | some conn =>
    rw [Option.isNone_some, if_neg Bool.false_ne_true]
    unfold ConnectionManager.getConnection at found ⊢
    by_cases same : other = connId
    · rw [if_pos same, same]
      split
      · rfl
      · exact put_same ..
    · rw [if_neg same]
      have apart : other.toNat ≠ connId.toNat := fun equal => same (UInt16.toNat_inj.mp equal)
      exact congrArg _ (put_apart manager.connections apart _)

end Rdma.ConnectionManagers
