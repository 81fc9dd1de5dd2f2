import Rdma.Connections
import Rdma.Runs

/-!
The state of a queue pair in verbs and how a connection changes it
(`QueuePair::TransitionToInit` and its siblings, `Connection::Connect`,
`Connection::Disconnect`). The device keeps every call of `ibv_modify_qp` with
the state that it found. `Connect` asks for `INIT`, `RTR` and `RTS`, which is
allowed from `RESET`; `Disconnect` leaves the queue pair in another state, so
all requests of a run are allowed exactly if no `Connect` comes after a
`Disconnect` that closed a connection (`requests_allowed_iff`).
-/
namespace Rdma.QpTransitions
open Rdma.Types Rdma.QueuePairs Rdma.Connections Rdma.Runs

/-! ### Verbs -/

inductive QpState
  | reset
  | init
  | rtr
  | rts
  | error
  deriving DecidableEq, Repr

abbrev Gid := Vector UInt8 16

/-- `ibv_ah_attr`; the last five fields are those of its `grh`. -/
structure AhAttr where
  dlid : UInt16 := 0
  sl : UInt8 := 0
  srcPathBits : UInt8 := 0
  portNum : UInt8 := 0
  isGlobal : Bool := false
  dgid : Gid := Vector.replicate 16 0
  sgidIndex : UInt8 := 0
  hopLimit : UInt8 := 0
  flowLabel : UInt32 := 0
  trafficClass : UInt8 := 0
  deriving DecidableEq, Repr

/-- The fields of `ibv_qp_attr` that the framework sets. -/
structure QpAttr where
  qpState : QpState := .reset
  pkeyIndex : UInt16 := 0
  portNum : UInt8 := 0
  qpAccessFlags : UInt32 := 0
  pathMtu : UInt32 := 0
  destQpNum : UInt32 := 0
  rqPsn : UInt32 := 0
  maxDestRdAtomic : UInt8 := 0
  minRnrTimer : UInt8 := 0
  ahAttr : AhAttr := {}
  timeout : UInt8 := 0
  retryCnt : UInt8 := 0
  rnrRetry : UInt8 := 0
  sqPsn : UInt32 := 0
  maxRdAtomic : UInt8 := 0
  deriving DecidableEq, Repr

/-- The bits of `ibv_qp_attr_mask` that the framework uses. -/
inductive QpAttrMask
  | state
  | accessFlags
  | pkeyIndex
  | port
  | av
  | pathMtu
  | timeout
  | retryCnt
  | rnrRetry
  | rqPsn
  | maxQpRdAtomic
  | minRnrTimer
  | sqPsn
  | maxDestRdAtomic
  | destQpn
  deriving DecidableEq, Repr

/-- The attributes after those named by the flags were set. -/
def QpAttr.set (current attr : QpAttr) (flags : List QpAttrMask) : QpAttr where
  qpState := if .state ∈ flags then attr.qpState else current.qpState
  pkeyIndex := if .pkeyIndex ∈ flags then attr.pkeyIndex else current.pkeyIndex
  portNum := if .port ∈ flags then attr.portNum else current.portNum
  qpAccessFlags := if .accessFlags ∈ flags then attr.qpAccessFlags else current.qpAccessFlags
  pathMtu := if .pathMtu ∈ flags then attr.pathMtu else current.pathMtu
  destQpNum := if .destQpn ∈ flags then attr.destQpNum else current.destQpNum
  rqPsn := if .rqPsn ∈ flags then attr.rqPsn else current.rqPsn
  maxDestRdAtomic := if .maxDestRdAtomic ∈ flags then attr.maxDestRdAtomic else current.maxDestRdAtomic
  minRnrTimer := if .minRnrTimer ∈ flags then attr.minRnrTimer else current.minRnrTimer
  ahAttr := if .av ∈ flags then attr.ahAttr else current.ahAttr
  timeout := if .timeout ∈ flags then attr.timeout else current.timeout
  retryCnt := if .retryCnt ∈ flags then attr.retryCnt else current.retryCnt
  rnrRetry := if .rnrRetry ∈ flags then attr.rnrRetry else current.rnrRetry
  sqPsn := if .sqPsn ∈ flags then attr.sqPsn else current.sqPsn
  maxRdAtomic := if .maxQpRdAtomic ∈ flags then attr.maxRdAtomic else current.maxRdAtomic

/-- The transitions of the queue pair's state machine. -/
def QpState.allows : QpState → QpState → Bool
  | _, .reset => true
  | _, .error => true
  | .reset, .init => true
  | .init, .init => true
  | .init, .rtr => true
  | .rtr, .rts => true
  | _, _ => false

/-- A call of `ibv_modify_qp`: the state that it found, what it asked for, and the device's answer to a transition that
    is allowed. -/
structure Request where
  found : QpState
  attr : QpAttr
  answer : Option Int
  deriving DecidableEq, Repr

def Request.Allowed (request : Request) : Prop := request.found.allows request.attr.qpState = true

instance (request : Request) : Decidable request.Allowed := inferInstanceAs (Decidable (_ = true))

/-- `modifyAnswer k` is the device's answer to the k-th call, `none` for success and an error number otherwise. -/
structure IbvQp where
  qpNum : UInt32
  modifyAnswer : Nat → Option Int
  attr : QpAttr := {}
  requests : List Request := []

/-- The answer the device gives to the next `ibv_modify_qp`. -/
def IbvQp.nextAnswer (qp : IbvQp) : Option Int := qp.modifyAnswer qp.requests.length

/-- A transition that is not allowed fails with `EINVAL`; a call that fails changes nothing. -/
def IbvQp.modify (qp : IbvQp) (attr : QpAttr) (flags : List QpAttrMask) : Option Int × IbvQp :=
  let asked := { qp with requests := qp.requests ++ [⟨qp.attr.qpState, attr, qp.nextAnswer⟩] }
  if qp.attr.qpState.allows attr.qpState then
    match qp.nextAnswer with
    | some errno => (some errno, asked)
    | none => (none, { asked with attr := qp.attr.set attr flags })
  else (some 22, asked)

/-! ### The framework -/

/-- What `QueuePair::TransitionToRTR` is given of the peer. -/
structure QpConnParams where
  lid : UInt16 := 0
  qpNum : UInt32 := 0
  psn : UInt32 := 0
  gid : Gid := Vector.replicate 16 0
  portNum : UInt16 := 0
  gidIndex : UInt8 := 0
  mtu : UInt32 := 0
  deriving DecidableEq, Repr

/-- The part of `ConnectionConfig` that the handshake reads. -/
structure HandshakeConfig where
  portNum : UInt8 := 1
  gidIndex : Int32 := 0
  deriving DecidableEq, Repr

/-- A connection, and the queue pair of verbs behind its own. -/
structure Link where
  connection : Connection
  config : HandshakeConfig
  ibv : IbvQp

/-- The call of `ibv_modify_qp` that ends every transition; `failed` is the transition's error message. -/
def Link.modify (link : Link) (attr : QpAttr) (flags : List QpAttrMask) (failed : String) : Status × Link :=
  match link.ibv.modify attr flags with
  | (none, ibv) => (Status.OK, { link with ibv })
  | (some errno, ibv) => (Status.ioError failed errno, { link with ibv })

/-- The access flags are `IBV_ACCESS_LOCAL_WRITE`, `IBV_ACCESS_REMOTE_WRITE` and `IBV_ACCESS_REMOTE_READ`. -/
def initAttr (portNum : UInt8) : QpAttr := { qpState := .init, pkeyIndex := 0, portNum, qpAccessFlags := 7 }

def Link.transitionToInit (link : Link) (portNum : UInt8) : Status × Link :=
  link.modify (initAttr portNum) [.state, .pkeyIndex, .port, .accessFlags] "Failed to transition QP to INIT"

/-- With a GID that is not all zeros the route is global. -/
def rtrAhAttr (remoteParams : QpConnParams) : AhAttr :=
  let ahAttr : AhAttr := { dlid := remoteParams.lid, portNum := remoteParams.portNum.toUInt8 }
  if remoteParams.gid.toList.any (· ≠ 0) then
    { ahAttr with isGlobal := true, hopLimit := 64, dgid := remoteParams.gid, sgidIndex := remoteParams.gidIndex }
  else ahAttr

def rtrAttr (remoteParams : QpConnParams) : QpAttr where
  qpState := .rtr
  pathMtu := remoteParams.mtu
  destQpNum := remoteParams.qpNum
  rqPsn := remoteParams.psn
  maxDestRdAtomic := 16
  minRnrTimer := 12
  ahAttr := rtrAhAttr remoteParams

def Link.transitionToRTR (link : Link) (remoteParams : QpConnParams) : Status × Link :=
  link.modify (rtrAttr remoteParams)
    [.state, .av, .pathMtu, .destQpn, .rqPsn, .maxDestRdAtomic, .minRnrTimer] "Failed to transition QP to RTR"

def rtsAttr : QpAttr :=
  { qpState := .rts, timeout := 14, retryCnt := 7, rnrRetry := 7, sqPsn := 0, maxRdAtomic := 16 }

def Link.transitionToRTS (link : Link) : Status × Link :=
  link.modify rtsAttr [.state, .timeout, .retryCnt, .rnrRetry, .sqPsn, .maxQpRdAtomic] "Failed to transition QP to RTS"

def Link.transitionToError (link : Link) : Status × Link :=
  link.modify { qpState := .error } [.state] "Failed to transition QP to ERROR"

/-- `QueuePair::Reset`, which nothing in the framework calls. -/
def Link.reset (link : Link) : Status × Link :=
  let (status, link) := link.modify { qpState := .reset } [.state] "Failed to reset QP"
  if !status.ok then (status, link)
  else
    let qp := { link.connection.qp with unsignaledCount := 0, outstandingSignaled := 0 }
    (Status.OK, { link with connection := { link.connection with qp } })

def Link.setState (link : Link) (state : ConnectionState) : Link :=
  { link with connection := { link.connection with state } }

def Link.connect (link : Link) (remoteParams : QpConnParams) : Status × Link :=
  if link.connection.state ≠ .disconnected then
    (Status.invalidArgument "Connection already established or in progress", link)
  else
    let (status, link) := (link.setState .connecting).transitionToInit link.config.portNum
    if !status.ok then (status, link.setState .error)
    else
      let (status, link) := link.transitionToRTR remoteParams
      if !status.ok then (status, link.setState .error)
      else
        let (status, link) := link.transitionToRTS
        if !status.ok then (status, link.setState .error)
        else (Status.OK, link.setState .connected)

/-- A failure of the transition is only logged. -/
def Link.disconnect (link : Link) : Status × Link :=
  if link.connection.state ≠ .connected then (Status.OK, link)
  else (Status.OK, ((link.setState .closing).transitionToError).2.setState .disconnected)

/-! ### What a call asks for -/

/-- After a request that has failed. -/
def Link.asked (link : Link) (attr : QpAttr) : Link :=
  { link with ibv := { link.ibv with
      requests := link.ibv.requests ++ [⟨link.ibv.attr.qpState, attr, link.ibv.nextAnswer⟩] } }

/-- After a request that was made. -/
def Link.made (link : Link) (attr : QpAttr) (flags : List QpAttrMask) : Link :=
  { link with ibv := { link.ibv with
      requests := link.ibv.requests ++ [⟨link.ibv.attr.qpState, attr, link.ibv.nextAnswer⟩]
      attr := link.ibv.attr.set attr flags } }

variable {link next : Link} {remoteParams : QpConnParams}

/-- A request that is allowed and that the device does not refuse is made; any other fails. -/
theorem modify_cases (link : Link) (attr : QpAttr) (flags : List QpAttrMask) (failed : String) :
    (link.modify attr flags failed = (Status.OK, link.made attr flags) ∧
      link.ibv.attr.qpState.allows attr.qpState = true ∧ link.ibv.nextAnswer = none) ∨
    ∃ errno, link.modify attr flags failed = (Status.ioError failed errno, link.asked attr) ∧
      (link.ibv.attr.qpState.allows attr.qpState = true → link.ibv.nextAnswer ≠ none) := by
  cases allowed : link.ibv.attr.qpState.allows attr.qpState with
  | false =>
    refine .inr ⟨22, ?_, by simp⟩
    simp [Link.modify, IbvQp.modify, allowed, Link.asked]
  | true =>
    cases answer : link.ibv.nextAnswer with
    | none =>
      refine .inl ⟨?_, rfl, rfl⟩
      simp [Link.modify, IbvQp.modify, allowed, answer, Link.made]
    | some errno =>
      refine .inr ⟨errno, ?_, by simp⟩
      simp [Link.modify, IbvQp.modify, allowed, answer, Link.asked]

/-- The connection after its queue pair has come to `INIT`, `RTR` and `RTS`. -/
def Link.initialized (link : Link) : Link :=
  (link.setState .connecting).made (initAttr link.config.portNum) [.state, .pkeyIndex, .port, .accessFlags]

def Link.readyToReceive (link : Link) (remoteParams : QpConnParams) : Link :=
  link.initialized.made (rtrAttr remoteParams)
    [.state, .av, .pathMtu, .destQpn, .rqPsn, .maxDestRdAtomic, .minRnrTimer]

def Link.readyToSend (link : Link) (remoteParams : QpConnParams) : Link :=
  (link.readyToReceive remoteParams).made rtsAttr [.state, .timeout, .retryCnt, .rnrRetry, .sqPsn, .maxQpRdAtomic]

/-- The calls of `ibv_modify_qp` that a `Connect` makes if it gets so far. -/
def Link.initRequest (link : Link) : Request :=
  ⟨link.ibv.attr.qpState, initAttr link.config.portNum, link.ibv.nextAnswer⟩

def Link.rtrRequest (link : Link) (remoteParams : QpConnParams) : Request :=
  ⟨.init, rtrAttr remoteParams, link.initialized.ibv.nextAnswer⟩

def Link.rtsRequest (link : Link) (remoteParams : QpConnParams) : Request :=
  ⟨.rtr, rtsAttr, (link.readyToReceive remoteParams).ibv.nextAnswer⟩

/-- How far a `Connect` gets, with the requests that it makes. Once in `INIT`, those for `RTR` and `RTS` are allowed. -/
inductive Connects (link : Link) (remoteParams : QpConnParams) : List Request → Status × Link → Prop
  | stays (failed : String) (errno : Int)
    (refused : link.ibv.attr.qpState.allows .init = true → link.ibv.nextAnswer ≠ none) :
    Connects link remoteParams [link.initRequest] (Status.ioError failed errno,
      ((link.setState .connecting).asked (initAttr link.config.portNum)).setState .error)
  | inits (failed : String) (errno : Int) (entered : link.ibv.attr.qpState.allows .init = true)
    (accepted : link.ibv.nextAnswer = none) (refused : link.initialized.ibv.nextAnswer ≠ none) :
    Connects link remoteParams [link.initRequest, link.rtrRequest remoteParams] (Status.ioError failed errno,
      (link.initialized.asked (rtrAttr remoteParams)).setState .error)
  | receives (failed : String) (errno : Int) (entered : link.ibv.attr.qpState.allows .init = true)
    (accepted : link.ibv.nextAnswer = none) (refused : (link.readyToReceive remoteParams).ibv.nextAnswer ≠ none) :
    Connects link remoteParams [link.initRequest, link.rtrRequest remoteParams, link.rtsRequest remoteParams]
      (Status.ioError failed errno, ((link.readyToReceive remoteParams).asked rtsAttr).setState .error)
  | connects (entered : link.ibv.attr.qpState.allows .init = true) (accepted : link.ibv.nextAnswer = none) :
    Connects link remoteParams [link.initRequest, link.rtrRequest remoteParams, link.rtsRequest remoteParams]
      (Status.OK, (link.readyToSend remoteParams).setState .connected)

theorem Connects.requests {asks : List Request} {result : Status × Link}
    (connects : Connects link remoteParams asks result) :
    result.2.ibv.requests = link.ibv.requests ++ asks := by
  have received : (link.readyToReceive remoteParams).ibv.requests =
    link.ibv.requests ++ [link.initRequest, link.rtrRequest remoteParams] := List.append_assoc ..
  have sent : (link.readyToReceive remoteParams).ibv.requests ++ [link.rtsRequest remoteParams] =
      link.ibv.requests ++ [link.initRequest, link.rtrRequest remoteParams, link.rtsRequest remoteParams] := by
    rw [received, List.append_assoc]
    rfl
  cases connects with
  | stays => rfl
  | inits => exact List.append_assoc ..
  | receives => exact sent
  | connects => exact sent

theorem connect_connects (idle : link.connection.state = .disconnected) (remoteParams : QpConnParams) :
    ∃ asks, Connects link remoteParams asks (link.connect remoteParams) := by
  unfold Link.connect
  rw [if_neg (not_not.mpr idle)]
  rcases modify_cases (link.setState .connecting) (initAttr link.config.portNum)
    [.state, .pkeyIndex, .port, .accessFlags] "Failed to transition QP to INIT" with
    ⟨first, entered, accepted⟩ | ⟨errno, first, refused⟩
  · change (link.setState .connecting).transitionToInit link.config.portNum = (_, link.initialized) at first
    rcases modify_cases link.initialized (rtrAttr remoteParams)
      [.state, .av, .pathMtu, .destQpn, .rqPsn, .maxDestRdAtomic, .minRnrTimer] "Failed to transition QP to RTR" with
      ⟨second, -⟩ | ⟨errno, second, refused⟩
    · change link.initialized.transitionToRTR remoteParams = (_, link.readyToReceive remoteParams) at second
      rcases modify_cases (link.readyToReceive remoteParams) rtsAttr
        [.state, .timeout, .retryCnt, .rnrRetry, .sqPsn, .maxQpRdAtomic] "Failed to transition QP to RTS" with
        ⟨third, -⟩ | ⟨errno, third, refused⟩
      · change (link.readyToReceive remoteParams).transitionToRTS = (_, link.readyToSend remoteParams) at third
        simp only [first, second, third, ok_OK, Bool.not_true, Bool.false_eq_true, if_false]
        exact ⟨_, .connects entered accepted⟩
      · change (link.readyToReceive remoteParams).transitionToRTS = _ at third
        simp only [first, second, third, ok_OK, ok_ioError, Bool.not_true, Bool.not_false, Bool.false_eq_true, if_false,
          if_true]
        exact ⟨_, .receives _ errno entered accepted (refused rfl)⟩
    · change link.initialized.transitionToRTR remoteParams = _ at second
      simp only [first, second, ok_OK, ok_ioError, Bool.not_true, Bool.not_false, Bool.false_eq_true, if_false, if_true]
      exact ⟨_, .inits _ errno entered accepted (refused rfl)⟩
  · change (link.setState .connecting).transitionToInit link.config.portNum = _ at first
    simp only [first, ok_ioError, Bool.not_false, if_true]
    exact ⟨_, .stays _ errno refused⟩

theorem connect_refused (busy : link.connection.state ≠ .disconnected) (remoteParams : QpConnParams) :
    link.connect remoteParams = (Status.invalidArgument "Connection already established or in progress", link) :=
  if_pos busy

theorem disconnect_idle (idle : link.connection.state ≠ .connected) : link.disconnect = (Status.OK, link) :=
  if_pos idle

/-- A `Disconnect` asks for `ERR`, which is always allowed, and does not mind a failure. -/
theorem disconnect_cases (connected : link.connection.state = .connected) :
    link.disconnect =
        (Status.OK, ((link.setState .closing).made { qpState := .error } [.state]).setState .disconnected) ∨
      link.disconnect =
        (Status.OK, ((link.setState .closing).asked { qpState := .error }).setState .disconnected) := by
  unfold Link.disconnect Link.transitionToError
  rw [if_neg (not_not.mpr connected)]
  rcases modify_cases (link.setState .closing) { qpState := .error } [.state] "Failed to transition QP to ERROR" with
    ⟨made, -⟩ | ⟨errno, asked, -⟩
  · rw [made]
    exact .inl rfl
  · rw [asked]
    exact .inr rfl

/-! ### Runs -/

inductive Event
  | connect (remoteParams : QpConnParams)
  | disconnect
  deriving DecidableEq, Repr

/-- What a call does: whether it got past its check of the connection state, its calls of `ibv_modify_qp`, and what it
    returns. -/
structure Outcome where
  admitted : Bool
  requests : List Request
  status : Status
  deriving DecidableEq, Repr

def outcome (admitted : Bool) (link : Link) (result : Status × Link) : Link × List Outcome :=
  (result.2, [⟨admitted, result.2.ibv.requests.drop link.ibv.requests.length, result.1⟩])

def Link.step (link : Link) : Event → Option (Link × List Outcome)
  | .connect remoteParams => some (outcome (link.connection.state = .disconnected) link (link.connect remoteParams))
  | .disconnect => some (outcome (link.connection.state = .connected) link link.disconnect)

/-- A new connection; its queue pair is in `RESET`. -/
def Link.create (connection : Connection) (config : HandshakeConfig) (qpNum : UInt32) (modifyAnswer : Nat → Option Int) :
    Link :=
  ⟨{ connection with state := .disconnected }, config, { qpNum, modifyAnswer }⟩

/-- All requests are allowed, and where a call that got past its check fails, the device has refused one of them. -/
structure Outcome.Legal (outcome : Outcome) : Prop where
  allowed : ∀ request ∈ outcome.requests, request.Allowed
  refused : outcome.admitted = true → outcome.status.ok = false → ∃ request ∈ outcome.requests, request.answer ≠ none

/-- Where a `Disconnect` finds the connection connected, no `Connect` comes after it. -/
def NoReconnect : Link → List Event → Prop
  | _, [] => True
  | link, .connect remoteParams :: rest => NoReconnect (link.connect remoteParams).2 rest
  | link, .disconnect :: rest =>
    (link.connection.state = .connected → ∀ remoteParams, .connect remoteParams ∉ rest) ∧
      NoReconnect link.disconnect.2 rest

/-! ### Phases of a connection -/

/-- No `Disconnect` has closed the connection yet. -/
inductive Unclosed (link : Link) : Prop
  | fresh (idle : link.connection.state = .disconnected) (state : link.ibv.attr.qpState = .reset)
  | connected (up : link.connection.state = .connected) (state : link.ibv.attr.qpState = .rts)
  | broken (error : link.connection.state = .error)

/-- A `Disconnect` has closed the connection, and its queue pair is left in a state other than `RESET` and `INIT`. -/
structure Closed (link : Link) : Prop where
  idle : link.connection.state = .disconnected
  stuck : link.ibv.attr.qpState.allows .init = false

/-- The requests that a call adds. -/
theorem outcome_legal {admitted : Bool} {result : Status × Link} {asks : List Request}
    (asked : result.2.ibv.requests = link.ibv.requests ++ asks) (allowed : ∀ request ∈ asks, request.Allowed)
    (refused : admitted = true → result.1.ok = false → ∃ request ∈ asks, request.answer ≠ none) :
    ∀ found ∈ (outcome admitted link result).2, found.Legal := by
  intro found member
  obtain rfl := List.mem_singleton.mp member
  have same : result.2.ibv.requests.drop link.ibv.requests.length = asks := by
    rw [asked]
    exact List.drop_left ..
  constructor
  · rw [same]
    exact allowed
  · rw [same]
    exact refused

/-- From a state in which `INIT` can be entered, a `Connect` asks for what is allowed. -/
theorem connects_legal {asks : List Request} {result : Status × Link} (connects : Connects link remoteParams asks result)
    (entered : link.ibv.attr.qpState.allows .init = true) (admitted : Bool) :
    ∀ found ∈ (outcome admitted link result).2, found.Legal := by
  have requests := connects.requests
  cases connects with
  | stays failed errno refused =>
    refine outcome_legal requests (List.forall_mem_singleton.mpr entered) fun _ _ => ?_
    exact ⟨_, List.mem_singleton_self _, refused entered⟩
  | inits failed errno _ _ refused =>
    refine outcome_legal requests ?_ fun _ _ => ?_
    · exact List.forall_mem_cons.mpr ⟨entered, List.forall_mem_singleton.mpr rfl⟩
    · exact ⟨_, List.mem_cons_of_mem _ (List.mem_singleton_self _), refused⟩
  | receives failed errno _ _ refused =>
    refine outcome_legal requests ?_ fun _ _ => ?_
    · exact List.forall_mem_cons.mpr ⟨entered, List.forall_mem_cons.mpr ⟨rfl, List.forall_mem_singleton.mpr rfl⟩⟩
    · exact ⟨_, List.mem_cons_of_mem _ (List.mem_cons_of_mem _ (List.mem_singleton_self _)), refused⟩
  | connects =>
    refine outcome_legal requests ?_ fun _ failed => ?_
    · exact List.forall_mem_cons.mpr ⟨entered, List.forall_mem_cons.mpr ⟨rfl, List.forall_mem_singleton.mpr rfl⟩⟩
    · cases failed

theorem Connects.unclosed {asks : List Request} {result : Status × Link}
    (connects : Connects link remoteParams asks result) : Unclosed result.2 := by
  cases connects with
  | stays => exact .broken rfl
  | inits => exact .broken rfl
  | receives => exact .broken rfl
  | connects => exact .connected rfl rfl

/-- A call that its check of the state turns away. -/
theorem idle_legal (link : Link) (status : Status) :
    ∀ found ∈ (outcome false link (status, link)).2, found.Legal := by
  refine outcome_legal (List.append_nil _).symm (List.forall_mem_nil _) ?_
  intro admitted
  cases admitted

theorem connect_unclosed (unclosed : Unclosed link) (remoteParams : QpConnParams) :
    Unclosed (link.connect remoteParams).2 ∧
      ∀ found ∈ (outcome (link.connection.state = .disconnected) link (link.connect remoteParams)).2, found.Legal := by
  by_cases idle : link.connection.state = .disconnected
  · have reset : link.ibv.attr.qpState = .reset := by
      cases unclosed with
      | fresh _ state => exact state
      | connected up =>
        rw [idle] at up
        cases up
      | broken error =>
        rw [idle] at error
        cases error
    obtain ⟨asks, connects⟩ := connect_connects idle remoteParams
    refine ⟨connects.unclosed, connects_legal connects ?_ _⟩
    rw [reset]
    rfl
  · rw [connect_refused idle, decide_eq_false idle]
    exact ⟨unclosed, idle_legal link _⟩

/-- The first request of a `Connect` is not allowed on a queue pair that is stuck. -/
theorem connect_closed (closed : Closed link) (remoteParams : QpConnParams) :
    ¬ ∀ found ∈ (outcome (link.connection.state = .disconnected) link (link.connect remoteParams)).2, found.Legal := by
  obtain ⟨asks, connects⟩ := connect_connects closed.idle remoteParams
  have stuck := closed.stuck
  intro all
  have legal := (all _ (List.mem_singleton_self _)).allowed
  rw [connects.requests, List.drop_left] at legal
  generalize link.connect remoteParams = result at connects
  cases connects with
  | stays =>
    have first := legal _ (List.mem_singleton_self _)
    exact absurd first (Bool.eq_false_iff.mp stuck)
  | inits _ _ entered =>
    rw [stuck] at entered
    cases entered
  | receives _ _ entered =>
    rw [stuck] at entered
    cases entered
  | connects entered =>
    rw [stuck] at entered
    cases entered

theorem disconnect_connected (up : link.connection.state = .connected) (state : link.ibv.attr.qpState = .rts) :
    Closed link.disconnect.2 ∧
      ∀ found ∈ (outcome (link.connection.state = .connected) link link.disconnect).2, found.Legal := by
  rcases disconnect_cases up with made | failed
  · rw [made]
    have asked : ((link.setState .closing).made { qpState := .error } [.state]).ibv.requests =
      link.ibv.requests ++ [⟨link.ibv.attr.qpState, { qpState := .error }, link.ibv.nextAnswer⟩] := rfl
    refine ⟨⟨rfl, rfl⟩, outcome_legal asked (List.forall_mem_singleton.mpr ?_) fun _ failed => ?_⟩
    · change link.ibv.attr.qpState.allows .error = true
      rw [state]
      rfl
    · cases failed
  · rw [failed]
    have asked : ((link.setState .closing).asked { qpState := .error }).ibv.requests =
      link.ibv.requests ++ [⟨link.ibv.attr.qpState, { qpState := .error }, link.ibv.nextAnswer⟩] := rfl
    refine ⟨⟨rfl, ?_⟩, outcome_legal asked (List.forall_mem_singleton.mpr ?_) fun _ failed => ?_⟩
    · change link.ibv.attr.qpState.allows .init = false
      rw [state]
      rfl
    · change link.ibv.attr.qpState.allows .error = true
      rw [state]
      rfl
    · cases failed

theorem disconnect_unconnected (idle : link.connection.state ≠ .connected) :
    ∀ found ∈ (outcome (link.connection.state = .connected) link link.disconnect).2, found.Legal := by
  rw [disconnect_idle idle, decide_eq_false idle]
  exact idle_legal link _

/-! ### Whole runs -/

theorem noReconnect_idle {events : List Event} (idle : link.connection.state ≠ .connected)
    (quiet : ∀ remoteParams, .connect remoteParams ∉ events) : NoReconnect link events := by
  induction events with
  | nil => trivial
  | cons event rest ih =>
    cases event with
    | connect remoteParams => exact absurd List.mem_cons_self (quiet remoteParams)
    | disconnect =>
      refine ⟨fun up => absurd up idle, ?_⟩
      rw [disconnect_idle idle]
      exact ih fun remoteParams later => quiet remoteParams (List.mem_cons_of_mem _ later)

/-- Once closed, the connection asks only for what is allowed exactly if it is not connected again. -/
theorem run_closed {events : List Event} {last : Link} {outcomes : List Outcome} (closed : Closed link)
    (ran : run Link.step link events = some (last, outcomes)) :
    (∀ found ∈ outcomes, found.Legal) ↔ ∀ remoteParams, .connect remoteParams ∉ events := by
  induction events generalizing outcomes with
  | nil =>
    obtain ⟨-, rfl⟩ := by simpa using ran
    exact iff_of_true (List.forall_mem_nil _) (by simp)
  | cons event rest ih =>
    obtain ⟨next, now, later, taken, after, rfl⟩ := run_cons_some.mp ran
    rw [List.forall_mem_append]
    cases event with
    | connect remoteParams =>
      obtain ⟨-, rfl⟩ := Prod.mk.inj (Option.some.inj taken)
      refine iff_of_false (fun legal => connect_closed closed remoteParams legal.1) ?_
      exact fun quiet => quiet remoteParams List.mem_cons_self
    | disconnect =>
      have idle : link.connection.state ≠ .connected := by
        rw [closed.idle]
        decide
      obtain ⟨same, rfl⟩ := Prod.mk.inj (Option.some.inj taken)
      rw [disconnect_idle idle] at same
      obtain rfl : link = next := same
      refine (and_iff_right (disconnect_unconnected idle)).trans ((ih after).trans ?_)
      simp

/-- The same of a connection that has not been closed. -/
theorem run_unclosed {events : List Event} {last : Link} {outcomes : List Outcome} (unclosed : Unclosed link)
    (ran : run Link.step link events = some (last, outcomes)) :
    (∀ found ∈ outcomes, found.Legal) ↔ NoReconnect link events := by
  induction events generalizing link outcomes with
  | nil =>
    obtain ⟨-, rfl⟩ := by simpa using ran
    exact iff_of_true (List.forall_mem_nil _) trivial
  | cons event rest ih =>
    obtain ⟨next, now, later, taken, after, rfl⟩ := run_cons_some.mp ran
    rw [List.forall_mem_append]
    cases event with
    | connect remoteParams =>
      obtain ⟨rfl, rfl⟩ := Prod.mk.inj (Option.some.inj taken)
      obtain ⟨kept, legal⟩ := connect_unclosed unclosed remoteParams
      exact (and_iff_right legal).trans (ih kept after)
    | disconnect =>
      obtain ⟨rfl, rfl⟩ := Prod.mk.inj (Option.some.inj taken)
      by_cases up : link.connection.state = .connected
      · have state : link.ibv.attr.qpState = .rts := by
          cases unclosed with
          | fresh idle =>
            rw [up] at idle
            cases idle
          | connected _ state => exact state
          | broken error =>
            rw [up] at error
            cases error
        obtain ⟨closed, legal⟩ := disconnect_connected up state
        refine (and_iff_right legal).trans ((run_closed closed after).trans ?_)
        constructor
        · intro quiet
          refine ⟨fun _ => quiet, noReconnect_idle ?_ quiet⟩
          rw [closed.idle]
          decide
        · exact fun only => only.1 up
      · have same : link.disconnect = (Status.OK, link) := disconnect_idle up
        have kept : Unclosed link.disconnect.2 := by
          rw [same]
          exact unclosed
        refine (and_iff_right (disconnect_unconnected up)).trans ((ih kept after).trans ?_)
        exact (and_iff_right fun connected => absurd connected up).symm

/-- In a run of a new connection every request is allowed by the state that it finds, and a call that is admitted fails
    only where the device refuses a request, if and only if no `Connect` comes after a `Disconnect` that has closed the
    connection. -/
theorem requests_allowed_iff (connection : Connection) (config : HandshakeConfig) (qpNum : UInt32)
    (modifyAnswer : Nat → Option Int) (events : List Event) :
    ∃ last outcomes, run Link.step (.create connection config qpNum modifyAnswer) events = some (last, outcomes) ∧
      ((∀ found ∈ outcomes, found.Legal) ↔ NoReconnect (.create connection config qpNum modifyAnswer) events) := by
  have progress : ∀ link event, True → True → ∃ next outcomes, Link.step link event = some (next, outcomes) ∧ True := by
    rintro link event - -
    cases event with
    | connect remoteParams => exact ⟨_, _, rfl, trivial⟩
    | disconnect => exact ⟨_, _, rfl, trivial⟩
  obtain ⟨last, outcomes, ran, -⟩ := defined_run progress trivial (meets_of_forall fun _ _ => trivial)
  exact ⟨last, outcomes, ran, run_unclosed (.fresh rfl rfl) ran⟩

/-- A new connection with default settings on a device that accepts everything. -/
def sampleLink : Link :=
  .create { qp := { config := {}, device := ⟨fun _ => none, fun _ => none, [], []⟩ } } {} 7 fun _ => none

/-- The connection is connected, disconnected and connected again: the second `Connect` asks for `INIT` in the error
    state and fails, though the device has nothing against it. -/
theorem reconnect_not_allowed : ∃ last first second,
    run Link.step sampleLink [.connect {}, .disconnect, .connect {}] = some (last, [first, second,
      ⟨true, [⟨.error, initAttr 1, none⟩], Status.ioError "Failed to transition QP to INIT" 22⟩]) ∧
    ¬ Request.Allowed ⟨.error, initAttr 1, none⟩ := by
  exact ⟨_, _, _, rfl, by decide⟩

end Rdma.QpTransitions
