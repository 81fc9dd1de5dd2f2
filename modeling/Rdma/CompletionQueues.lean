import Mathlib.Algebra.Order.BigOperators.Group.List
import Mathlib.Data.List.Forall2
import Rdma.ConnectionManagers
import Rdma.Signaling

/-!
Completion queues (`completion_queue.h`, `completion_queue.cpp`) shared by the
connections of a manager. Each queue pair limits its own signaled work requests
to half of the depth that it was configured with, whatever the depth of the
queue is, and its send queue has room for no more work requests than the device
granted. So the completions that wait in the queue stay within its depth in
every run if and only if these limits, the smaller one of each connection, add
up to no more (`overrun_free_iff`).
-/
namespace Rdma.CompletionQueues
open Rdma.Arrays Rdma.Types Rdma.Verbs Rdma.Runs Rdma.QueuePairs Rdma.Connections Rdma.ConnectionManagers Rdma.Signaling

structure CompletionQueueConfig where
  cqDepth : UInt32 := 65536
  useChannel : Bool := false
  deriving DecidableEq, Repr

structure CompletionQueue where
  depth : UInt32
  deriving DecidableEq, Repr

/-- `device` tells whether there is a device with a context; the answers are those of `ibv_create_comp_channel` and
    `ibv_create_cq`. -/
def CompletionQueue.create (device : Bool) (channelAnswer cqAnswer : Option Int) (config : CompletionQueueConfig) :
    Except Status CompletionQueue :=
  if !device then .error (Status.invalidArgument "Invalid device")
  else
    match if config.useChannel then channelAnswer else none with
    | some errno => .error (Status.ioError "Failed to create completion channel" errno)
    | none =>
      match cqAnswer with
      | some errno => .error (Status.ioError "Failed to create completion queue" errno)
      | none => .ok ⟨config.cqDepth⟩

theorem create_depth {device : Bool} {channelAnswer cqAnswer : Option Int} {config : CompletionQueueConfig}
    {queue : CompletionQueue} (created : CompletionQueue.create device channelAnswer cqAnswer config = .ok queue) :
    queue.depth = config.cqDepth := by
  unfold CompletionQueue.create at created
  split at created
  · cases created
  · split at created
    · cases created
    · split at created
      · cases created
      · obtain rfl := Except.ok.inj created
        rfl

/-- A connection to be created: its configuration, and the work requests that the send queue has room for which
    `ibv_create_qp` sets up. These are at least as many as it is asked for. -/
structure Grant where
  config : ConnectionConfig
  sendCapacity : Nat
  enough : (initAttr config.qpConfig).maxSendWr.toNat ≤ sendCapacity

/-- Connections created one after the other; `none` if one of them is not created. -/
def createConnections (manager : ConnectionManager) :
    List (Grant × Device) → Option (List UInt16 × ConnectionManager)
  | [] => some ([], manager)
  | (grant, device) :: rest => do
    let (created, manager) ← manager.createConnection grant.config (.ok device)
    let connId ← created.toOption
    let (connIds, manager) ← createConnections manager rest
    some (connId :: connIds, manager)

/-- The connections of a manager over one queue. `sendQueue` is a history variable, not in the source: for each
    connection the accepted work requests that still have a place in the send queue, oldest first, and whether they are
    signaled. -/
structure Fabric where
  manager : ConnectionManager
  sendQueue : UInt16 → List Bool

inductive Event
  | post (connId : UInt16) (post : Post)
  | poll (connId : UInt16)

/-- The accepted of the work requests, by whether they are signaled. -/
def accepted (wrs : List (SendWr × Bool)) : List Bool := (wrs.filter (·.2)).map fun wr => wr.1.signaled

/-- A send queue after its oldest completion was polled, which gives back the places of its work request and of all
    before it; `none` where none of the work requests is signaled. -/
def retire : List Bool → Option (List Bool)
  | [] => none
  | true :: rest => some rest
  | false :: rest => retire rest

/-- A post on a connection that does not return is no step, nor is a poll of a completion that is not there. A queue
    pair whose completion is polled is told. -/
def Fabric.step (fabric : Fabric) : Event → Option (Fabric × List Unit)
  | .post connId post => do
    let conn ← fabric.manager.getConnection connId
    let (status, qp) := post.on conn.qp
    let _ ← status
    some (⟨fabric.manager.update connId { conn with qp },
      Function.update fabric.sendQueue connId (fabric.sendQueue connId ++ accepted (handed conn.qp qp))⟩, [])
  | .poll connId => do
    let sendQueue ← retire (fabric.sendQueue connId)
    let conn ← fabric.manager.getConnection connId
    some (⟨fabric.manager.update connId { conn with qp := conn.qp.onSendComplete true },
      Function.update fabric.sendQueue connId sendQueue⟩, [])

/-- The accepted signaled work requests of a connection whose completion has not been polled. -/
def Fabric.unpolled (fabric : Fabric) (connId : UInt16) : Nat := (fabric.sendQueue connId).count true

/-- No device accepts a work request that its send queue has no room for. -/
def Held (capacity : UInt16 → Nat) (fabric : Fabric) (event : Event) : Prop :=
  ∀ next outputs, fabric.step event = some (next, outputs) →
    ∀ connId, (next.sendQueue connId).length ≤ capacity connId

/-- The signaled work requests that the queue pairs allow themselves. -/
def limit (config : ConnectionConfig) : Nat := config.qpConfig.cqDepth.toNat / 2

/-- What a connection can have of the queue at a time. -/
def share (grant : Grant) : Nat := min (limit grant.config) grant.sendCapacity

/-- In every run over connections with these configurations and send queues, whatever their devices answer while there
    is room, no more completions wait than the completion queue has room for. -/
def OverrunFree (queue : CompletionQueue) (manager : ConnectionManager) (grants : List Grant) : Prop :=
  ∀ requests connIds start capacity events last outputs, requests.map Prod.fst = grants →
    createConnections manager requests = some (connIds, start) →
    connIds.map capacity = grants.map Grant.sendCapacity →
    Meets Fabric.step (Held capacity) ⟨start, fun _ => []⟩ events →
    run Fabric.step ⟨start, fun _ => []⟩ events = some (last, outputs) →
    (connIds.map last.unpolled).sum ≤ queue.depth.toNat

/-! ### Connections that were created -/

/-- A connection whose queue pair is as it was created. -/
def Unused (manager : ConnectionManager) (connId : UInt16) (request : Grant × Device) : Prop :=
  manager.getConnection connId = some (freshConnection request.1.config request.2 connId)

variable {manager next : ConnectionManager} {connIds : List UInt16}

/-- The connections have distinct ids from the stack, and the manager has no others than before. -/
theorem createConnections_spec (wf : WellFormed manager) {requests : List (Grant × Device)}
    (created : createConnections manager requests = some (connIds, next)) :
    connIds.Nodup ∧ (∀ connId ∈ connIds, connId ∈ manager.freeConnIds) ∧ List.Forall₂ (Unused next) connIds requests ∧
      ∀ connId, connId ∉ connIds → next.getConnection connId = manager.getConnection connId := by
  induction requests generalizing manager connIds with
  | nil =>
    obtain ⟨rfl, rfl⟩ := Prod.mk.inj (Option.some.inj created)
    exact ⟨List.nodup_nil, nofun, .nil, fun _ _ => rfl⟩
  | cons request others ih =>
    obtain ⟨grant, device⟩ := request
    obtain ⟨⟨result, middle⟩, one, created⟩ := Option.bind_eq_some_iff.mp created
    obtain ⟨connId, given, created⟩ := Option.bind_eq_some_iff.mp created
    obtain ⟨⟨laterIds, last⟩, later, created⟩ := Option.bind_eq_some_iff.mp created
    obtain ⟨rfl, rfl⟩ := Prod.mk.inj (Option.some.inj created)
    rcases createConnection_cases wf grant.config (.ok device) with ⟨status, failed⟩ | ⟨_, rest, top, same, stack, placed⟩
    · obtain ⟨rfl, -⟩ := Prod.mk.inj (Option.some.inj (failed.symm.trans one))
      cases given
    · obtain rfl := Except.ok.inj same
      obtain ⟨rfl, rfl⟩ := Prod.mk.inj (Option.some.inj (placed.symm.trans one))
      obtain rfl := Option.some.inj given
      obtain ⟨distinct, fromStack, unused, kept⟩ := ih (placed_wellFormed wf stack _) later
      have apart : top ∉ laterIds := by
        intro member
        have all := wf.distinct
        rw [stack, List.nodup_append] at all
        exact all.2.2 top (fromStack top member) top (by simp) rfl
      refine ⟨List.nodup_cons.mpr ⟨apart, distinct⟩, ?_, .cons ?_ unused, fun other outside => ?_⟩
      · intro other member
        rw [stack]
        rcases List.mem_cons.mp member with rfl | member
        · simp
        · exact List.mem_append_left _ (fromStack other member)
      · rw [Unused, kept top apart, getConnection_placed wf stack, if_pos rfl]
      · obtain ⟨different, elsewhere⟩ := not_or.mp fun either => outside (List.mem_cons.mpr either)
        rw [kept other elsewhere, getConnection_placed wf stack, if_neg different]

/-- As long as there are ids left, connections are created. -/
theorem createConnections_some (wf : WellFormed manager) {requests : List (Grant × Device)}
    (room : requests.length ≤ manager.freeConnIds.length) :
    ∃ connIds next, createConnections manager requests = some (connIds, next) := by
  induction requests generalizing manager with
  | nil => exact ⟨[], manager, rfl⟩
  | cons request others ih =>
    rcases List.eq_nil_or_concat manager.freeConnIds with empty | ⟨rest, connId, stack⟩
    · rw [empty] at room
      cases room
    · rw [List.concat_eq_append] at stack
      have fits : others.length ≤ (manager.placed rest connId
          (freshConnection request.1.config request.2 connId)).freeConnIds.length := by
        rw [stack, List.length_append] at room
        exact Nat.le_of_succ_le_succ room
      obtain ⟨laterIds, last, later⟩ := ih (placed_wellFormed wf stack _) fits
      refine ⟨connId :: laterIds, last, Option.bind_eq_some_iff.mpr
        ⟨_, createConnection_top wf stack request.1.config request.2, ?_⟩⟩
      exact Option.bind_eq_some_iff.mpr ⟨connId, rfl, Option.bind_eq_some_iff.mpr ⟨_, later, rfl⟩⟩

/-! ### The limits hold -/

/-- What a queue pair of the connection allows itself, if there is one. -/
def limitOf (manager : ConnectionManager) (connId : UInt16) : Nat :=
  match manager.getConnection connId with
  | some conn => conn.qp.config.cqDepth.toNat / 2
  | none => 0

theorem shares_requested {requests : List (Grant × Device)} {capacity : UInt16 → Nat}
    (unused : List.Forall₂ (Unused manager) connIds requests)
    (granted : connIds.map capacity = (requests.map Prod.fst).map Grant.sendCapacity) :
    connIds.map (fun connId => min (limitOf manager connId) (capacity connId)) = (requests.map Prod.fst).map share := by
  induction unused with
  | nil => rfl
  | cons first _ ih =>
    obtain ⟨here, later⟩ := List.cons.inj granted
    rw [List.map_cons, List.map_cons, List.map_cons, ih later, here, limitOf, first]
    rfl

theorem getConnection_update {connId : UInt16} {conn : Connection} (used : manager.getConnection connId = some conn)
    (new : Connection) (other : UInt16) :
    (manager.update connId new).getConnection other = if other = connId then some new else manager.getConnection other := by
  have inside : ¬manager.connections.size ≤ connId.toNat := by
    intro outside
    rw [ConnectionManager.getConnection, if_pos outside] at used
    cases used
  unfold ConnectionManager.getConnection
  by_cases same : other = connId
  · rw [if_pos same, same]
    exact (if_neg inside).trans (put_same ..)
  · rw [if_neg same]
    exact congrArg _ (put_apart manager.connections (fun equal => same (UInt16.toNat_inj.mp equal)) _)

theorem accepted_signaled (wrs : List (SendWr × Bool)) : (accepted wrs).count true = (cqes wrs).length := by
  induction wrs with
  | nil => rfl
  | cons wr rest ih =>
    obtain ⟨wr, answer⟩ := wr
    cases answer <;> cases signaled : wr.signaled <;> simp_all [accepted, cqes]

theorem accepted_length (wrs : List (SendWr × Bool)) : (accepted wrs).length ≤ wrs.length := by
  rw [accepted, List.length_map]
  exact List.length_filter_le ..

/-- A poll takes one completion. -/
theorem retire_count {queue left : List Bool} (retired : retire queue = some left) :
    queue.count true = left.count true + 1 := by
  induction queue with
  | nil => cases retired
  | cons signaled rest ih =>
    cases signaled with
    | true =>
      obtain rfl := Option.some.inj retired
      exact List.count_cons_self
    | false => exact (List.count_cons_of_ne Bool.false_ne_true).trans (ih retired)

/-- The completions of each connection that wait are among the outstanding work requests of its queue pair, and these
    are within the bound. -/
structure Within (connIds : List UInt16) (bound : UInt16 → Nat) (fabric : Fabric) : Prop where
  others : ∀ connId, connId ∉ connIds → fabric.manager.getConnection connId = none
  conns : ∀ connId ∈ connIds, ∃ conn, fabric.manager.getConnection connId = some conn ∧
    conn.qp.config.cqDepth.toNat / 2 = bound connId ∧ fabric.unpolled connId ≤ conn.qp.outstandingSignaled.toNat ∧
    conn.qp.outstandingSignaled.toNat ≤ bound connId

variable {fabric : Fabric} {bound capacity : UInt16 → Nat}

theorem Within.room (within : Within connIds bound fabric)
    (fits : ∀ connId, (fabric.sendQueue connId).length ≤ capacity connId) :
    (connIds.map fabric.unpolled).sum ≤ (connIds.map fun connId => min (bound connId) (capacity connId)).sum := by
  refine List.sum_le_sum fun connId member => ?_
  obtain ⟨conn, -, -, waiting, limited⟩ := within.conns connId member
  exact Nat.le_min.mpr ⟨Nat.le_trans waiting limited, Nat.le_trans List.count_le_length (fits connId)⟩

theorem Within.member (within : Within connIds bound fabric) {connId : UInt16} {conn : Connection}
    (used : fabric.manager.getConnection connId = some conn) : connId ∈ connIds := by
  by_contra outside
  rw [within.others connId outside] at used
  cases used

/-- A connection whose queue pair and send queue change, and those of no other connection with them. -/
theorem Within.update (within : Within connIds bound fabric) {connId : UInt16} {conn : Connection}
    (used : fabric.manager.getConnection connId = some conn) {qp : QueuePair} {queue : List Bool}
    (config : qp.config = conn.qp.config) (few : queue.count true ≤ qp.outstandingSignaled.toNat)
    (limited : qp.outstandingSignaled.toNat ≤ bound connId) :
    Within connIds bound ⟨fabric.manager.update connId { conn with qp },
      Function.update fabric.sendQueue connId queue⟩ := by
  have member := within.member used
  refine ⟨fun other outside => ?_, fun other inside => ?_⟩
  · have apart : other ≠ connId := by
      rintro rfl
      exact outside member
    rw [getConnection_update used, if_neg apart]
    exact within.others other outside
  · rw [getConnection_update used, Fabric.unpolled]
    dsimp only
    by_cases equal : other = connId
    · subst equal
      obtain ⟨_, used', depth, -, -⟩ := within.conns other inside
      obtain rfl := Option.some.inj (used.symm.trans used')
      rw [Function.update_self]
      refine ⟨{ conn with qp }, if_pos rfl, ?_, few, limited⟩
      rw [← depth, ← config]
    · rw [if_neg equal, Function.update_of_ne equal]
      exact within.conns other inside

/-- A queue pair that is within its limit stays within it when it posts. -/
theorem on_limited {qp after : QueuePair} {post : Post} {status : Status} (returned : post.on qp = (some status, after))
    (limited : qp.outstandingSignaled.toNat ≤ qp.config.cqDepth.toNat / 2) :
    after.outstandingSignaled.toNat ≤ qp.config.cqDepth.toNat / 2 := by
  obtain ⟨effect, -⟩ := on_effect returned
  by_cases decides : post.Decides qp
  · obtain ⟨counted, room⟩ := shouldSignal_outstanding qp
    rw [(effect.decided decides).outstanding, counted]
    cases signaled : qp.shouldSignal.1 with
    | false => exact limited
    | true => exact room signaled
  · rw [(effect.undecided decides).outstanding]
    exact limited

theorem step_post {connId : UInt16} {post : Post} {last : Fabric} {outputs : List Unit}
    (stepped : fabric.step (.post connId post) = some (last, outputs)) :
    ∃ conn status qp, fabric.manager.getConnection connId = some conn ∧ post.on conn.qp = (some status, qp) ∧
      last = ⟨fabric.manager.update connId { conn with qp },
        Function.update fabric.sendQueue connId (fabric.sendQueue connId ++ accepted (handed conn.qp qp))⟩ := by
  obtain ⟨conn, used, stepped⟩ := Option.bind_eq_some_iff.mp stepped
  obtain ⟨status, returned, stepped⟩ := Option.bind_eq_some_iff.mp stepped
  obtain ⟨rfl, -⟩ := Prod.mk.inj (Option.some.inj stepped)
  exact ⟨conn, status, _, used, Prod.ext returned rfl, rfl⟩

theorem post_within (within : Within connIds bound fabric) {connId : UInt16} {post : Post} {last : Fabric}
    {outputs : List Unit} (stepped : fabric.step (.post connId post) = some (last, outputs)) :
    Within connIds bound last := by
  obtain ⟨conn, status, qp, used, posted, rfl⟩ := step_post stepped
  obtain ⟨_, used', depth, waiting, limited⟩ := within.conns connId (within.member used)
  obtain rfl := Option.some.inj (used.symm.trans used')
  obtain ⟨config, -, leaking, kept⟩ := on_outstanding posted
  rw [Fabric.unpolled] at waiting
  rw [← depth] at limited
  refine within.update used config ?_ ?_
  · rw [List.count_append, accepted_signaled]
    by_cases leaks : post.Leaks conn.qp
    · rw [leaking leaks]
      omega
    · rw [kept leaks]
      omega
  · rw [← depth]
    exact on_limited posted limited

theorem poll_within (within : Within connIds bound fabric) {connId : UInt16} {last : Fabric} {outputs : List Unit}
    (stepped : fabric.step (.poll connId) = some (last, outputs)) : Within connIds bound last := by
  obtain ⟨queue, retired, stepped⟩ := Option.bind_eq_some_iff.mp stepped
  obtain ⟨conn, used, stepped⟩ := Option.bind_eq_some_iff.mp stepped
  obtain ⟨rfl, -⟩ := Prod.mk.inj (Option.some.inj stepped)
  obtain ⟨_, used', depth, waiting, limited⟩ := within.conns connId (within.member used)
  obtain rfl := Option.some.inj (used.symm.trans used')
  rw [Fabric.unpolled, retire_count retired] at waiting
  have less : (conn.qp.onSendComplete true).outstandingSignaled.toNat = conn.qp.outstandingSignaled.toNat - 1 := by
    change (conn.qp.outstandingSignaled - 1).toNat = _
    rw [UInt32.toNat_sub_of_le]
    · rfl
    · rw [UInt32.le_iff_toNat_le]
      change 1 ≤ _
      omega
  exact within.update used rfl (by omega) (by omega)

/-- Every step keeps the connections within their bounds. -/
theorem step_within (within : Within connIds bound fabric) {event : Event} {last : Fabric} {outputs : List Unit}
    (stepped : fabric.step event = some (last, outputs)) : Within connIds bound last := by
  cases event with
  | post connId post => exact post_within within stepped
  | poll connId => exact poll_within within stepped

/-! ### The limits are reached -/

/-- A run to `last` in which so many signaled work requests of one connection, and no others, get into the send queues. -/
structure Fills (capacity : UInt16 → Nat) (fabric last : Fabric) (connId : UInt16) (count : Nat) : Prop where
  reached : ReachesUnder Fabric.step (Held capacity) fabric last
  queue : last.sendQueue connId = fabric.sendQueue connId ++ List.replicate count true
  others : ∀ other, other ≠ connId → last.manager.getConnection other = fabric.manager.getConnection other ∧
    last.sendQueue other = fabric.sendQueue other

theorem Fills.refl (fabric : Fabric) (connId : UInt16) : Fills capacity fabric fabric connId 0 :=
  ⟨.refl fabric, (List.append_nil _).symm, fun _ _ => ⟨rfl, rfl⟩⟩

theorem Fills.trans {middle last : Fabric} {connId : UInt16} {early late : Nat}
    (first : Fills capacity fabric middle connId early) (second : Fills capacity middle last connId late) :
    Fills capacity fabric last connId (early + late) where
  reached := first.reached.trans second.reached
  queue := by rw [second.queue, first.queue, List.append_assoc, List.replicate_append_replicate]
  others other apart :=
    ⟨(second.others other apart).1.trans (first.others other apart).1,
      (second.others other apart).2.trans (first.others other apart).2⟩

/-- How many sends there are for each signaled one. -/
def gap (config : QueuePairConfig) : Nat := max 1 config.signalInterval.toNat

/-- A device that accepts only the sends that the signaling interval ends with; the others fail with `ENOMEM`. -/
def sparseDevice (config : QueuePairConfig) : Device :=
  ⟨fun index => if (index + 1) % gap config = 0 then none else some 12, fun _ => none, [], []⟩

/-- A queue pair over such a device that has so many signaled work requests outstanding. -/
structure Ready (config : QueuePairConfig) (outstanding : Nat) (qp : QueuePair) : Prop where
  configured : qp.config = config
  answers : qp.device.sendAnswer = (sparseDevice config).sendAnswer
  unsignaled : qp.unsignaledCount.toNat = qp.device.sends.length % gap config
  outstanding : qp.outstandingSignaled.toNat = outstanding

variable {connId : UInt16} {config : QueuePairConfig} {outstanding : Nat} {qp : QueuePair}

theorem index_below (config : QueuePairConfig) (index : Nat) : index % gap config < gap config :=
  Nat.mod_lt _ (Nat.le_max_left ..)

theorem next_index {config : QueuePairConfig} {index : Nat} (early : (index + 1) % gap config ≠ 0) :
    (index + 1) % gap config = index % gap config + 1 ∧ index % gap config + 1 < gap config := by
  have below := index_below config index
  rw [← Nat.mod_add_mod] at early ⊢
  have apart : index % gap config + 1 ≠ gap config := by
    intro ends
    rw [ends, Nat.mod_self] at early
    exact early rfl
  have less : index % gap config + 1 < gap config := by omega
  exact ⟨Nat.mod_eq_of_lt less, less⟩

/-- The counter with the next send does not wrap. -/
theorem ready_counted (ready : Ready config outstanding qp) :
    (qp.unsignaledCount + 1).toNat = qp.device.sends.length % gap config + 1 := by
  rw [UInt32.toNat_add, ready.unsignaled]
  refine Nat.mod_eq_of_lt (Nat.lt_of_le_of_lt (index_below config _) ?_)
  exact Nat.max_lt.mpr ⟨by decide, config.signalInterval.toNat_lt⟩

/-- While there is capacity, the next send is signaled exactly if it ends the interval, and then it is accepted. -/
theorem ready_signal (ready : Ready config outstanding qp) (room : outstanding < config.cqDepth.toNat / 2) :
    qp.shouldSignal.1 = decide ((qp.device.sends.length + 1) % gap config = 0) ∧
      qp.device.nextAnswer.isNone = qp.shouldSignal.1 := by
  have capacity : qp.canPostSignaled = true := by
    rw [QueuePair.canPostSignaled, decide_eq_true_iff, UInt32.lt_iff_toNat_lt, UInt32.toNat_div, ready.outstanding,
      ready.configured]
    exact room
  have below := index_below config qp.device.sends.length
  have ends : config.signalInterval.toNat ≤ qp.device.sends.length % gap config + 1 ↔
      (qp.device.sends.length + 1) % gap config = 0 := by
    rw [← Nat.mod_add_mod]
    generalize qp.device.sends.length % gap config = index at below
    constructor
    · intro due
      have last : index + 1 = gap config := Nat.le_antisymm below (Nat.max_le.mpr ⟨Nat.le_add_left .., due⟩)
      rw [last, Nat.mod_self]
    · intro due
      have last : gap config ≤ index + 1 := Nat.le_of_dvd (Nat.succ_pos _) (Nat.dvd_of_mod_eq_zero due)
      exact Nat.le_trans (Nat.le_max_right ..) last
  have signaled : qp.shouldSignal.1 = decide ((qp.device.sends.length + 1) % gap config = 0) := by
    rw [shouldSignal_eq, capacity, Bool.and_true, ready.configured, decide_eq_decide, UInt32.le_iff_toNat_le,
      ready_counted ready]
    exact ends
  refine ⟨signaled, ?_⟩
  rw [signaled, Device.nextAnswer, ready.answers, sparseDevice]
  dsimp only
  split
  · rename_i due
    rw [decide_eq_true due]
    rfl
  · rename_i early
    rw [decide_eq_false early]
    rfl

/-- A send hands the device one work request, signaled as decided. -/
theorem send_spec (qp : QueuePair) (buf : Buffer) (wrId : UInt64) :
    ∃ status after wr, (Post.send buf wrId).on qp = (some status, after) ∧ wr.signaled = qp.shouldSignal.1 ∧
      after.device.sends = qp.device.sends ++ [(wr, qp.device.nextAnswer.isNone)] ∧ Alike qp.shouldSignal.2 after := by
  have sends := post_sends qp.shouldSignal.2
    { wrId, opcode := .send, signaled := qp.shouldSignal.1, sgList := [sgeOf buf] } "ibv_post_send failed"
  rw [post_ok, (shouldSignal_frame qp).2] at sends
  exact ⟨_, _, _, rfl, rfl, sends, post_alike ..⟩

/-- A send goes into the send queue exactly if it is signaled. -/
theorem ready_send (ready : Ready config outstanding qp) (room : outstanding < config.cqDepth.toNat / 2) :
    ∃ status after, (Post.send Buffer.empty 0).on qp = (some status, after) ∧
      after.device.sends.length = qp.device.sends.length + 1 ∧
      accepted (handed qp after) = List.replicate qp.shouldSignal.1.toNat true ∧
      Ready config (outstanding + qp.shouldSignal.1.toNat) after := by
  obtain ⟨signaled, answered⟩ := ready_signal ready room
  obtain ⟨status, after, wr, posted, decided, sends, alike⟩ := send_spec qp Buffer.empty 0
  have longer : after.device.sends.length = qp.device.sends.length + 1 := by
    rw [sends, List.length_append]
    rfl
  refine ⟨status, after, posted, longer, ?_, ?_, ?_, ?_, ?_⟩
  · rw [handed_append sends, answered]
    cases signals : qp.shouldSignal.1 <;> simp [accepted, decided, signals]
  · exact alike.config.trans ((shouldSignal_frame qp).1.trans ready.configured)
  · exact alike.answers.trans ((congrArg _ (shouldSignal_frame qp).2).trans ready.answers)
  · rw [alike.unsignaledCount, longer]
    cases signals : qp.shouldSignal.1 with
    | true =>
      rw [signaled, decide_eq_true_iff] at signals
      rw [signals, shouldSignal_signaled (signaled.trans (decide_eq_true signals))]
      rfl
    | false =>
      rw [shouldSignal_unsignaled signals]
      rw [signaled, decide_eq_false_iff_not] at signals
      rw [(next_index signals).1]
      exact ready_counted ready
  · rw [alike.outstanding, (shouldSignal_outstanding qp).1, ready.outstanding]

/-- A connection whose queue pair is ready, `index` sends after a signaled one. Its send queue holds signaled work
    requests only. -/
structure ReadyAt (capacity : UInt16 → Nat) (connId : UInt16) (config : QueuePairConfig) (outstanding index : Nat)
    (fabric : Fabric) : Prop where
  fits : ∀ other, (fabric.sendQueue other).length ≤ capacity other
  queue : (fabric.sendQueue connId).length = outstanding
  conn : ∃ conn, fabric.manager.getConnection connId = some conn ∧ Ready config outstanding conn.qp ∧
    conn.qp.device.sends.length % gap config = index

variable {index : Nat}

/-- A post changes the queue pair and the send queue of its connection, and nothing of the others. -/
theorem post_spec {conn : Connection} (used : fabric.manager.getConnection connId = some conn) {post : Post}
    {status : Status} {after : QueuePair} (posted : post.on conn.qp = (some status, after)) :
    ∃ last, fabric.step (.post connId post) = some (last, []) ∧
      last.manager.getConnection connId = some { conn with qp := after } ∧
      last.sendQueue connId = fabric.sendQueue connId ++ accepted (handed conn.qp after) ∧
      ∀ other, other ≠ connId → last.manager.getConnection other = fabric.manager.getConnection other ∧
        last.sendQueue other = fabric.sendQueue other := by
  refine ⟨_, by simp [Fabric.step, used, posted]; rfl, ?_, Function.update_self .., fun other apart => ?_⟩
  · exact (getConnection_update used _ connId).trans (if_pos rfl)
  · exact ⟨(getConnection_update used _ other).trans (if_neg apart), Function.update_of_ne apart ..⟩

/-- While there is capacity, the next send is signaled or one send less is left to the interval's end. -/
theorem send_fills (ready : ReadyAt capacity connId config outstanding index fabric)
    (room : outstanding < min (config.cqDepth.toNat / 2) (capacity connId)) :
    (index + 1 < gap config ∧ ∃ last, Fills capacity fabric last connId 0 ∧
        ReadyAt capacity connId config outstanding (index + 1) last) ∨
      ∃ last, Fills capacity fabric last connId 1 ∧ ReadyAt capacity connId config (outstanding + 1) 0 last := by
  obtain ⟨conn, used, here, rfl⟩ := ready.conn
  obtain ⟨limited, space⟩ := Nat.lt_min.mp room
  obtain ⟨signaled, -⟩ := ready_signal here limited
  obtain ⟨status, after, posted, longer, goes, there⟩ := ready_send here limited
  obtain ⟨last, stepped, conn_last, queue, others⟩ := post_spec used posted
  rw [goes] at queue
  have filled : (last.sendQueue connId).length = outstanding + conn.qp.shouldSignal.1.toNat := by
    rw [queue, List.length_append, List.length_replicate, ready.queue]
  have fits : ∀ other, (last.sendQueue other).length ≤ capacity other := by
    intro other
    by_cases same : other = connId
    · rw [same, filled]
      exact Nat.le_trans (Nat.add_le_add_left (Bool.toNat_le _) _) space
    · rw [(others other same).2]
      exact ready.fits other
  have held : Held capacity fabric (.post connId (.send Buffer.empty 0)) := by
    intro next outputs taken
    obtain ⟨rfl, -⟩ := Prod.mk.inj (Option.some.inj (stepped.symm.trans taken))
    exact fits
  have fills : Fills capacity fabric last connId conn.qp.shouldSignal.1.toNat := ⟨.single stepped held, queue, others⟩
  cases signals : conn.qp.shouldSignal.1 with
  | true =>
    rw [signals] at fills filled there
    rw [signaled, decide_eq_true_iff] at signals
    exact .inr ⟨last, fills, fits, filled, _, conn_last, there, by rw [longer, signals]⟩
  | false =>
    rw [signals] at fills filled there
    rw [signaled, decide_eq_false_iff_not] at signals
    obtain ⟨next, less⟩ := next_index signals
    exact .inl ⟨less, last, fills, fits, filled, _, conn_last, there, by rw [longer, next]⟩

/-- While there is capacity, some work request is signaled in the end. -/
theorem signal_reached (left : Nat) (ready : ReadyAt capacity connId config outstanding index fabric)
    (room : outstanding < min (config.cqDepth.toNat / 2) (capacity connId)) (few : gap config ≤ index + 1 + left) :
    ∃ last, Fills capacity fabric last connId 1 ∧ ReadyAt capacity connId config (outstanding + 1) 0 last := by
  induction left generalizing fabric index with
  | zero =>
    rcases send_fills ready room with ⟨more, -⟩ | signaled
    · omega
    · exact signaled
  | succ left ih =>
    rcases send_fills ready room with ⟨-, middle, quiet, ready⟩ | signaled
    · obtain ⟨last, fills, ends⟩ := ih ready (by omega)
      have whole := quiet.trans fills
      rw [Nat.zero_add] at whole
      exact ⟨last, whole, ends⟩
    · exact signaled

/-- A connection uses up its share. -/
theorem share_reached (left : Nat) (ready : ReadyAt capacity connId config outstanding 0 fabric)
    (room : outstanding + left ≤ min (config.cqDepth.toNat / 2) (capacity connId)) :
    ∃ last, Fills capacity fabric last connId left ∧ ∀ other, (last.sendQueue other).length ≤ capacity other := by
  induction left generalizing fabric outstanding with
  | zero => exact ⟨fabric, .refl fabric connId, ready.fits⟩
  | succ left ih =>
    obtain ⟨middle, one, ready⟩ := signal_reached (gap config) ready (by omega) (Nat.le_add_left ..)
    obtain ⟨last, others, fits⟩ := ih ready (by omega)
    exact ⟨last, by rw [Nat.add_comm]; exact one.trans others, fits⟩

/-- All connections use up their shares. -/
theorem shares_reached {grants : List Grant} (distinct : connIds.Nodup)
    (unused : List.Forall₂ (Unused fabric.manager) connIds
      (grants.map fun grant => (grant, sparseDevice grant.config.qpConfig)))
    (granted : connIds.map capacity = grants.map Grant.sendCapacity)
    (empty : ∀ connId ∈ connIds, fabric.sendQueue connId = [])
    (fits : ∀ connId, (fabric.sendQueue connId).length ≤ capacity connId) :
    ∃ last, ReachesUnder Fabric.step (Held capacity) fabric last ∧ connIds.map last.unpolled = grants.map share ∧
      ∀ other, other ∉ connIds → last.sendQueue other = fabric.sendQueue other := by
  induction connIds generalizing fabric grants with
  | nil =>
    rw [List.map_nil, eq_comm, List.map_eq_nil_iff] at granted
    exact ⟨fabric, .refl fabric, by rw [granted]; rfl, fun _ _ => rfl⟩
  | cons connId rest ih =>
    cases grants with
    | nil => cases granted
    | cons grant others =>
      obtain ⟨here, later⟩ := List.cons.inj granted
      obtain ⟨first, unused⟩ := List.forall₂_cons.mp unused
      obtain ⟨apart, distinct⟩ := List.nodup_cons.mp distinct
      have ready : ReadyAt capacity connId grant.config.qpConfig 0 0 fabric := by
        refine ⟨fits, ?_, _, first, ⟨rfl, rfl, (Nat.zero_mod _).symm, rfl⟩, Nat.zero_mod _⟩
        rw [empty connId (by simp)]
        rfl
      have room : 0 + share grant ≤ min (grant.config.qpConfig.cqDepth.toNat / 2) (capacity connId) := by
        rw [Nat.zero_add, here]
        exact Nat.le_refl _
      obtain ⟨middle, fills, fits⟩ := share_reached (share grant) ready room
      have still : List.Forall₂ (Unused middle.manager) rest
          (others.map fun grant => (grant, sparseDevice grant.config.qpConfig)) := by
        have elsewhere : List.Forall₂ (fun other request => other ≠ connId ∧ Unused fabric.manager other request) rest
            (others.map fun grant => (grant, sparseDevice grant.config.qpConfig)) := by
          refine (List.forall₂_and_left rest _).mpr ⟨?_, unused⟩
          rintro other member rfl
          exact apart member
        exact elsewhere.imp fun other request unused => (fills.others other unused.1).1.trans unused.2
      have cleared : ∀ other ∈ rest, middle.sendQueue other = [] := by
        intro other member
        have elsewhere : other ≠ connId := by
          rintro rfl
          exact apart member
        rw [(fills.others other elsewhere).2]
        exact empty other (List.mem_cons_of_mem _ member)
      obtain ⟨last, reached, counts, kept⟩ := ih distinct still later cleared fits
      refine ⟨last, fills.reached.trans reached, ?_, fun other outside => ?_⟩
      · rw [List.map_cons, List.map_cons, counts, Fabric.unpolled, kept connId apart, fills.queue, empty connId (by simp),
          List.nil_append, List.count_replicate_self]
      · obtain ⟨different, elsewhere⟩ := not_or.mp fun either => outside (List.mem_cons.mpr either)
        exact (kept other elsewhere).trans (fills.others other different).2

/-- Each of distinct keys can be given a value of its own. -/
theorem exists_map_eq {Key Value : Type} [DecidableEq Key] (default : Value) {keys : List Key} (distinct : keys.Nodup)
    {values : List Value} (same : keys.length = values.length) : ∃ assign : Key → Value, keys.map assign = values := by
  induction keys generalizing values with
  | nil => exact ⟨fun _ => default, (List.length_eq_zero_iff.mp same.symm).symm⟩
  | cons key rest ih =>
    obtain ⟨apart, distinct⟩ := List.nodup_cons.mp distinct
    cases values with
    | nil => cases same
    | cons value others =>
      obtain ⟨assign, assigned⟩ := ih distinct (Nat.succ.inj same)
      refine ⟨Function.update assign key value, ?_⟩
      rw [List.map_cons, Function.update_self, ← assigned]
      refine congrArg _ (List.map_congr_left fun other member => Function.update_of_ne ?_ ..)
      rintro rfl
      exact apart member

theorem unused_member {requests : List (Grant × Device)} (unused : List.Forall₂ (Unused manager) connIds requests)
    (member : connId ∈ connIds) : ∃ request, Unused manager connId request := by
  induction unused with
  | nil => cases member
  | cons first _ ih =>
    rcases List.mem_cons.mp member with rfl | later
    · exact ⟨_, first⟩
    · exact ih later

/-- The connections of a manager that has no others. -/
theorem createConnections_within {requests : List (Grant × Device)} {config : ConnectionManagerConfig}
    (created : createConnections (.create config) requests = some (connIds, manager)) :
    Within connIds (limitOf manager) ⟨manager, fun _ => []⟩ := by
  obtain ⟨-, -, unused, kept⟩ := createConnections_spec (create_wellFormed config) created
  refine ⟨fun connId outside => ?_, fun connId member => ?_⟩
  · rw [kept connId outside, ConnectionManager.getConnection]
    exact ite_self none
  · obtain ⟨request, fresh⟩ := unused_member unused member
    refine ⟨_, fresh, ?_, Nat.zero_le _, Nat.zero_le _⟩
    rw [limitOf, fresh]

/-- For any connections of a manager over a completion queue, no run overruns the queue if and only if what the
    connections can have of it adds up to no more than its depth. -/
theorem overrun_free_iff {device : Bool} {channelAnswer cqAnswer : Option Int} {queueConfig : CompletionQueueConfig}
    {queue : CompletionQueue} (created : CompletionQueue.create device channelAnswer cqAnswer queueConfig = .ok queue)
    {config : ConnectionManagerConfig} {grants : List Grant} (room : grants.length ≤ config.maxConnections.toNat) :
    OverrunFree queue (.create config) grants ↔ (grants.map share).sum ≤ queueConfig.cqDepth.toNat := by
  have depth := create_depth created
  rw [← depth]
  constructor
  · intro safe
    have asked : (grants.map fun grant => (grant, sparseDevice grant.config.qpConfig)).map Prod.fst = grants := by
      rw [List.map_map]
      exact List.map_id grants
    have stack : (grants.map fun grant => (grant, sparseDevice grant.config.qpConfig)).length ≤
        (ConnectionManager.create config).freeConnIds.length := by
      rw [List.length_map, ConnectionManager.create, List.length_map, List.length_range]
      exact room
    obtain ⟨connIds, start, made⟩ := createConnections_some (create_wellFormed config) stack
    obtain ⟨distinct, -, unused, -⟩ := createConnections_spec (create_wellFormed config) made
    have length := unused.length_eq
    rw [List.length_map] at length
    obtain ⟨capacity, granted⟩ := exists_map_eq 0 distinct (length.trans (grants.length_map Grant.sendCapacity).symm)
    have fits : ∀ connId, ((⟨start, fun _ => []⟩ : Fabric).sendQueue connId).length ≤ capacity connId :=
      fun _ => Nat.zero_le _
    obtain ⟨last, ⟨events, outputs, held, ran⟩, counts, -⟩ :=
      shares_reached distinct unused granted (fun _ _ => rfl) fits
    have fits := safe _ connIds start capacity events last outputs asked made granted held ran
    rwa [counts] at fits
  · rintro few requests connIds start capacity events last outputs rfl made granted held ran
    have preserves : ∀ fabric event next now,
        (Within connIds (limitOf start) fabric ∧ ∀ connId, (fabric.sendQueue connId).length ≤ capacity connId) →
        Held capacity fabric event → fabric.step event = some (next, now) →
        Within connIds (limitOf start) next ∧ ∀ connId, (next.sendQueue connId).length ≤ capacity connId :=
      fun _ _ _ _ within held stepped => ⟨step_within within.1 stepped, held _ _ stepped⟩
    obtain ⟨within, fits⟩ :=
      invariant_of_run preserves ⟨createConnections_within made, fun _ => Nat.zero_le _⟩ held ran
    have unused := (createConnections_spec (create_wellFormed config) made).2.2.1
    rw [← shares_requested unused granted] at few
    exact Nat.le_trans (within.room fits) few

/-- A connection configured by default, on a device that makes its send queue as large as it is asked to. -/
def defaultGrant : Grant := ⟨{}, 4096, Nat.le_refl _⟩

/-- Two connections over a queue, everything as configured by default. -/
theorem default_queue_shared :
    OverrunFree ⟨65536⟩ (.create {}) [defaultGrant, defaultGrant] ↔
      ([defaultGrant, defaultGrant].map share).sum ≤ (65536 : UInt32).toNat :=
  overrun_free_iff (show CompletionQueue.create true none none {} = .ok ⟨65536⟩ from rfl) (by decide)

/-- Sends for which there is room. -/
theorem sends_held {buf : Buffer} {wrId : UInt64} (count : Nat)
    (fits : ∀ other, (fabric.sendQueue other).length + count ≤ capacity other) :
    Meets Fabric.step (Held capacity) fabric (List.replicate count (.post connId (.send buf wrId))) := by
  induction count generalizing fabric with
  | zero => trivial
  | succ count ih =>
    have longer : ∀ next outputs, fabric.step (.post connId (.send buf wrId)) = some (next, outputs) →
        ∀ other, (next.sendQueue other).length ≤ (fabric.sendQueue other).length + 1 := by
      intro next outputs stepped other
      obtain ⟨conn, _, _, -, posted, rfl⟩ := step_post stepped
      obtain ⟨_, after, wr, posted', -, sends, -⟩ := send_spec conn.qp buf wrId
      obtain ⟨-, rfl⟩ := Prod.mk.inj (posted.symm.trans posted')
      rw [handed_append sends]
      dsimp only
      by_cases same : other = connId
      · rw [same, Function.update_self, List.length_append]
        exact Nat.add_le_add_left (accepted_length [_]) _
      · rw [Function.update_of_ne same]
        exact Nat.le_succ _
    refine ⟨fun next outputs stepped other => ?_, fun next outputs stepped => ih fun other => ?_⟩
    · have step := longer next outputs stepped other
      have room := fits other
      omega
    · have step := longer next outputs stepped other
      have room := fits other
      omega

/-- A device that accepts everything. -/
def acceptingDevice : Device := ⟨fun _ => none, fun _ => none, [], []⟩

/-- One connection with the default configuration, over a queue for one completion. -/
theorem default_limit_overruns : ∃ connIds start last outputs,
    CompletionQueue.create true none none { cqDepth := 1 } = .ok ⟨1⟩ ∧
      createConnections (.create { maxConnections := 1 }) [(defaultGrant, acceptingDevice)] = some (connIds, start) ∧
      Meets Fabric.step (Held fun _ => defaultGrant.sendCapacity) ⟨start, fun _ => []⟩
        (List.replicate 32 (.post 0 (.send ⟨4096, 64, 1⟩ 0))) ∧
      run Fabric.step ⟨start, fun _ => []⟩ (List.replicate 32 (.post 0 (.send ⟨4096, 64, 1⟩ 0))) =
        some (last, outputs) ∧
      (connIds.map last.unpolled).sum = 2 :=
  ⟨_, _, _, _, rfl, rfl, sends_held 32 fun _ => show 0 + 32 ≤ 4096 by decide, rfl, by decide +kernel⟩

end Rdma.CompletionQueues
