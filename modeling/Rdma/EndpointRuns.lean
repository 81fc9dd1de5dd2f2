import Rdma.SlotLedgers

/-!
Runs of an endpoint: send calls, completions, immediates and timeouts in any
order, between other uses of the connection, the buffer pool and the timing
wheel. A run is sound while no event names a free slot by its current
generation (`Sound`). Every step of a sound run is defined and does to the
ledger of the slot pool what the ledger allows (`step_acts`), so sound runs
keep the slot pool well formed (`run_wellFormed`).
-/
namespace Rdma.EndpointRuns
open Rdma.Types Rdma.Verbs Rdma.Runs Rdma.WrIds Rdma.Connections Rdma.BufferPools Rdma.TimingWheels Rdma.SlotPools
open Rdma.Endpoints Rdma.Ledgers Rdma.SlotLedgers

/-! ### The machine -/

/-- `issued` is a history variable, not in the source: the requests that were given a slot, in order. -/
structure World where
  endpoint : RpcEndpoint
  issued : List Request

/-- `environment` stands for all that others do to the objects the endpoint points to. -/
inductive Event
  | sendRequest (header headerLen : UInt64) (dataBuf : Option Buffer) (callbackCtx : Nat) (callback : Option Nat)
  | sendRequestSGL (fuel : Nat) (header headerLen : UInt64) (iov : List Iovec) (callbackCtx : Nat)
      (callback : Option Nat)
  | sendReadResponse (clientSlotIndex : UInt32) (clientGeneration : UInt8) (dataBuf : Buffer)
      (clientBuffer : RemoteMemoryInfo)
  | onSendComplete (wc : Wc)
  | onWriteWithImmRecv (wc : Wc)
  | checkTimeouts (expired : List (UInt32 × UInt8))
  | environment (conn : Connection) (bufferPool : LocalBufferPool) (timingWheel : TimingWheel)

abbrev World.pool (world : World) : RpcSlotPool := world.endpoint.slotPool

/-- The requests issued after a send call, with the token that `allocate` gave the call. -/
def World.issue (world : World) (callbackCtx : Nat) (callback : Option Nat) (accepted : Bool) : List Request :=
  match world.pool.allocate with
  | some ((slotIndex, generation), _) =>
    if slotIndex = 0xFFFFFFFF then world.issued
    else world.issued ++
      [⟨slotIndex, generation, world.pool.frees slotIndex.toNat, callback, callbackCtx, accepted⟩]
  | none => world.issued

/-- A send call that does not return is no step. -/
def World.step (world : World) : Event → Option (World × List Call)
  | .sendRequest header headerLen dataBuf callbackCtx callback => do
    let (result, endpoint) ← world.endpoint.sendRequest header headerLen dataBuf callbackCtx callback
    some (⟨endpoint, world.issue callbackCtx callback result.isOk⟩, [])
  | .sendRequestSGL fuel header headerLen iov callbackCtx callback => do
    let (returned, endpoint) ← world.endpoint.sendRequestSGL fuel header headerLen iov callbackCtx callback
    let result ← returned
    some (⟨endpoint, world.issue callbackCtx callback result.isOk⟩, [])
  | .sendReadResponse clientSlotIndex clientGeneration dataBuf clientBuffer =>
    let (_, endpoint) := world.endpoint.sendReadResponse clientSlotIndex clientGeneration dataBuf clientBuffer
    some ({ world with endpoint }, [])
  | .onSendComplete wc => do
    let (endpoint, calls) ← world.endpoint.onSendComplete wc
    some ({ world with endpoint }, calls)
  | .onWriteWithImmRecv wc => do
    let (endpoint, calls) ← world.endpoint.onWriteWithImmRecv wc
    some ({ world with endpoint }, calls)
  | .checkTimeouts expired => do
    let (endpoint, calls, _) ← world.endpoint.checkTimeouts expired
    some ({ world with endpoint }, calls)
  | .environment conn bufferPool timingWheel =>
    some ({ world with endpoint := { world.endpoint with conn, bufferPool, timingWheel } }, [])

def World.ledger (world : World) : Ledger := ledgerOf world.pool world.issued

/-- The request has been given its slot and the slot has not been freed since. -/
def World.Pending (world : World) (request : Request) : Prop :=
  request ∈ world.issued ∧ world.pool.frees request.slot = request.born

/-- The token is the current generation of a free slot. -/
def NamesFree (pool : RpcSlotPool) (slotIndex : UInt32) (generation : UInt8) : Prop :=
  pool.Names slotIndex generation ∧ ¬pool.InUse slotIndex.toNat

/-- No completion, immediate or unhandled timeout entry names a free slot by its current generation, a call of
    `sendRequestSGL` returns, and others keep the buffer pool inside its ring. -/
def Sound (world : World) : Event → Prop
  | .sendRequest .. | .sendReadResponse .. => True
  | .sendRequestSGL fuel header headerLen iov callbackCtx callback =>
    ∀ endpoint, world.endpoint.sendRequestSGL fuel header headerLen iov callbackCtx callback ≠ some (none, endpoint)
  | .onSendComplete wc =>
    (getSlotIndex wc.wrId).toNat < kMaxSlots ∧ ¬NamesFree world.pool (getSlotIndex wc.wrId) (getGeneration wc.wrId)
  | .onWriteWithImmRecv wc => ¬NamesFree world.pool (immSlotIndex wc) (immGeneration wc)
  | .checkTimeouts expired => ∀ entry ∈ expired, entry.1.toNat < kMaxSlots ∧
      (NamesFree world.pool entry.1 entry.2 → (world.pool.hot entry.1.toNat).isCompleted = true)
  | .environment _ bufferPool _ => InRange bufferPool

structure Wf (world : World) : Prop where
  pool : WellFormed world.pool
  buffers : InRange world.endpoint.bufferPool
  ledger : Sane world.ledger
  tokens : ∀ request ∈ world.issued, request.slot < kMaxSlots ∧ request.generation.toNat = request.born % 256

/-- The state in which a run starts. -/
def World.start (endpoint : RpcEndpoint) : World := ⟨endpoint, []⟩

/-- The endpoint is as `create` builds it, over a buffer pool inside its ring. -/
def Fresh (endpoint : RpcEndpoint) : Prop :=
  (∃ conn bufferPool timingWheel config, Endpoints.create conn bufferPool timingWheel config = .ok endpoint) ∧
    InRange endpoint.bufferPool

/-- A state that a sound run reaches. -/
def Reached (world : World) : Prop :=
  ∃ endpoint events calls, Fresh endpoint ∧ Meets World.step Sound (.start endpoint) events ∧
    run World.step (.start endpoint) events = some (world, calls)

theorem fresh_pool {endpoint : RpcEndpoint} (fresh : Fresh endpoint) : endpoint.slotPool = RpcSlotPool.create := by
  obtain ⟨⟨conn, bufferPool, timingWheel, config, created⟩, -⟩ := fresh
  unfold Endpoints.create at created
  split at created
  · obtain rfl := Except.ok.inj created
    rfl
  · cases created

theorem start_wf {endpoint : RpcEndpoint} (fresh : Fresh endpoint) : Wf (.start endpoint) := by
  have pool := fresh_pool fresh
  have unused : ∀ slot, holderOf endpoint.slotPool slot = none := by
    intro slot
    refine holderOf_free fun inUse => ?_
    have free := create_free slot
    rw [← pool, inUse.2] at free
    exact absurd free (by decide)
  refine ⟨?_, fresh.2, ⟨?_, ?_, ?_, List.nodup_nil⟩, ?_⟩
  · change WellFormed endpoint.slotPool
    rw [pool]
    exact create_wellFormed
  · intro slot holder held
    have none_held : holderOf endpoint.slotPool slot = some holder := held
    rw [unused] at none_held
    cases none_held
  · intro request issued
    cases issued
  · intro request issued
    cases issued
  · intro request issued
    cases issued

/-- An endpoint as `create` builds it, on a connected connection whose device accepts every work request. -/
def sampleEndpoint (connId : UInt16) (config : QueuePairs.QueuePairConfig) : RpcEndpoint where
  conn := { connId, state := .connected, qp := { config, device := ⟨fun _ => none, fun _ => none, [], []⟩ } }
  bufferPool := twoPool
  timingWheel := TimingWheel.create
  slotPool := RpcSlotPool.create
  config := {}

theorem sample_fresh (connId : UInt16) (config : QueuePairs.QueuePairConfig) :
    Fresh (sampleEndpoint connId config) := by
  have inRange : InRange twoPool := ⟨rfl, by decide⟩
  exact ⟨⟨some _, some _, some _, {}, rfl⟩, inRange⟩

/-! ### What an event does to the ledger -/

/-- The actions an event may stand for. -/
def Explains (world : World) : Event → List Action → Prop
  | .sendRequest .., actions | .sendRequestSGL .., actions =>
    actions = [] ∨ (∃ request total, actions = [.accept request total]) ∨ ∃ request, actions = [.refuse request]
  | .onSendComplete wc, actions =>
    actions = if world.pool.Names (getSlotIndex wc.wrId) (getGeneration wc.wrId) then [.advance (getSlotIndex wc.wrId)]
      else []
  | .onWriteWithImmRecv wc, actions =>
    actions = if world.pool.Names (immSlotIndex wc) (immGeneration wc) then [.advance (immSlotIndex wc)] else []
  | .checkTimeouts _, actions => ∀ action ∈ actions, ∃ slotIndex, action = .expire slotIndex
  | .sendReadResponse .., actions | .environment .., actions => actions = []

/-- The event takes the world to `next` through actions that the ledger allows. -/
def Acts (world : World) (event : Event) (next : World) (calls : List Call) : Prop :=
  world.step event = some (next, calls) ∧ Wf next ∧
    ∃ actions, Explains world event actions ∧ Meets Ledger.step Ledger.Allowed world.ledger actions ∧
      run Ledger.step world.ledger actions = some (next.ledger, calls)

section Steps
variable {world : World}

/-- No action. -/
theorem idle_acts (wf : Wf world) {event : Event} (endpoint : RpcEndpoint)
    (stepped : world.step event = some ({ world with endpoint }, [])) (pool : endpoint.slotPool = world.pool)
    (buffers : InRange endpoint.bufferPool) (explains : Explains world event []) :
    Acts world event { world with endpoint } [] := by
  have same : World.ledger { world with endpoint } = world.ledger := by
    change ledgerOf endpoint.slotPool world.issued = _
    rw [pool]
    rfl
  refine ⟨stepped, ⟨?_, buffers, by rw [same]; exact wf.ledger, wf.tokens⟩, [], explains, trivial, by rw [same]; rfl⟩
  change WellFormed endpoint.slotPool
  rw [pool]
  exact wf.pool

/-- A single allowed action. -/
theorem single_acts (wf : Wf world) {event : Event} {next : World} {calls : List Call} {action : Action}
    (stepped : world.step event = some (next, calls)) (pool : WellFormed next.pool)
    (buffers : InRange next.endpoint.bufferPool)
    (tokens : ∀ request ∈ next.issued, request.slot < kMaxSlots ∧ request.generation.toNat = request.born % 256)
    (explains : Explains world event [action]) (allowed : world.ledger.Allowed action)
    (acts : (next.ledger, calls) = world.ledger.act action) : Acts world event next calls := by
  have taken : world.ledger.step action = some (next.ledger, calls) := by rw [Ledger.step, acts]
  obtain ⟨ends, -⟩ := step_some.mp taken
  refine ⟨stepped, ⟨pool, buffers, by rw [ends]; exact act_sane wf.ledger allowed, tokens⟩, [action], explains,
    ⟨allowed, fun _ _ _ => trivial⟩, ?_⟩
  exact run_cons_some.mpr ⟨_, _, [], taken, rfl, (List.append_nil _).symm⟩

/-! ### Send calls -/

/-- The request that is given the slot on top of the free stack. -/
def World.newRequest (world : World) (slotIndex : UInt32) (callbackCtx : Nat) (callback : Option Nat)
    (accepted : Bool) : Request :=
  ⟨slotIndex, (world.pool.hot slotIndex.toNat).getGeneration.toUInt8, world.pool.frees slotIndex.toNat, callback,
    callbackCtx, accepted⟩

variable {slotIndex : UInt32} {rest : List Nat}

theorem issue_top (wf : Wf world) (stack : world.pool.freeSlots = rest ++ [slotIndex.toNat]) (callbackCtx : Nat)
    (callback : Option Nat) (accepted : Bool) :
    world.issue callbackCtx callback accepted =
      world.issued ++ [world.newRequest slotIndex callbackCtx callback accepted] := by
  have named : slotIndex ≠ 0xFFFFFFFF := by
    rintro rfl
    exact absurd (top_free wf.pool stack).1 (by decide)
  rw [World.issue, allocate_top wf.pool stack]
  simp only [if_neg named, World.newRequest]

theorem issue_exhausted (empty : world.pool.stackTop = 0) (callbackCtx : Nat) (callback : Option Nat)
    (accepted : Bool) : world.issue callbackCtx callback accepted = world.issued := by
  rw [World.issue, allocate_empty empty]
  rfl

/-- The token keeps the generation modulo 256. -/
theorem newRequest_token (wf : Wf world) (stack : world.pool.freeSlots = rest ++ [slotIndex.toNat])
    (callbackCtx : Nat) (callback : Option Nat) (accepted : Bool) :
    ∀ request ∈ world.issued ++ [world.newRequest slotIndex callbackCtx callback accepted],
      request.slot < kMaxSlots ∧ request.generation.toNat = request.born % 256 := by
  intro request issued
  rcases List.mem_append.mp issued with old | new
  · exact wf.tokens request old
  · obtain rfl := List.mem_singleton.mp new
    have inside := (top_free wf.pool stack).1
    refine ⟨inside, ?_⟩
    change (world.pool.hot slotIndex.toNat).getGeneration.toUInt8.toNat = world.pool.frees slotIndex.toNat % 256
    rw [UInt16.toNat_toUInt8, wf.pool.generation _ inside]
    omega

/-- A send call that opens a slot and keeps it. -/
theorem accept_acts (wf : Wf world) (stack : world.pool.freeSlots = rest ++ [slotIndex.toNat]) {event : Event}
    {endpoint : RpcEndpoint} (callbackCtx : Nat) (callback : Option Nat) {total : UInt8}
    (stepped : world.step event = some (⟨endpoint, world.issue callbackCtx callback true⟩, []))
    (pool : endpoint.slotPool =
      opened world.pool slotIndex world.endpoint.conn.connId callbackCtx callback total)
    (buffers : endpoint.bufferPool = world.endpoint.bufferPool) (counts : 0 < total.toNat ∧ total.toNat ≤ 2)
    (explains : ∀ request total, Explains world event [.accept request total]) :
    Acts world event ⟨endpoint, world.issue callbackCtx callback true⟩ [] := by
  rw [issue_top wf stack] at stepped ⊢
  refine single_acts wf stepped ?_ ?_ (newRequest_token wf stack _ _ _)
    (explains (world.newRequest slotIndex callbackCtx callback true) total.toNat)
    ⟨top_holder wf.pool stack, rfl, rfl, counts.1, counts.2⟩ ?_
  · change WellFormed endpoint.slotPool
    rw [pool]
    exact opened_wellFormed _ _ _ _ wf.pool stack
  · change InRange endpoint.bufferPool
    rw [buffers]
    exact wf.buffers
  · change (ledgerOf endpoint.slotPool _, _) = _
    rw [pool, ledgerOf, opened_holder _ _ _ _ wf.pool stack]
    rfl

/-- A send call that opens a slot and frees it again. -/
theorem refuse_acts (wf : Wf world) (stack : world.pool.freeSlots = rest ++ [slotIndex.toNat]) {event : Event}
    (callbackCtx : Nat) (callback : Option Nat) (conn : Connection)
    (stepped : world.step event = some (⟨refused world.endpoint slotIndex callbackCtx callback conn,
      world.issue callbackCtx callback false⟩, []))
    (explains : ∀ request, Explains world event [.refuse request]) :
    Acts world event ⟨refused world.endpoint slotIndex callbackCtx callback conn,
      world.issue callbackCtx callback false⟩ [] := by
  have inUse := opened_inUse world.endpoint.conn.connId callbackCtx callback 1 wf.pool stack
  have openedWf := opened_wellFormed world.endpoint.conn.connId callbackCtx callback 1 wf.pool stack
  rw [issue_top wf stack] at stepped ⊢
  refine single_acts wf stepped (released_wellFormed openedWf inUse) wf.buffers (newRequest_token wf stack _ _ _)
    (explains (world.newRequest slotIndex callbackCtx callback false))
    ⟨top_holder wf.pool stack, rfl, rfl⟩ ?_
  change (ledgerOf ((opened world.pool slotIndex world.endpoint.conn.connId callbackCtx callback 1).released slotIndex)
    _, _) = _
  rw [ledgerOf, refused_holder wf.pool stack]
  rfl

theorem accepted_frame (endpoint : RpcEndpoint) (slotIndex : UInt32) (header headerLen : UInt64)
    (dataBuf : Option Buffer) (callbackCtx : Nat) (callback : Option Nat) :
    (accepted endpoint slotIndex header headerLen dataBuf callbackCtx callback).slotPool =
        opened endpoint.slotPool slotIndex endpoint.conn.connId callbackCtx callback
          (if (dataBuf.filter Buffer.isValid).isSome then 2 else 1) ∧
      (accepted endpoint slotIndex header headerLen dataBuf callbackCtx callback).bufferPool = endpoint.bufferPool := by
  unfold accepted
  cases dataBuf.filter Buffer.isValid <;> exact ⟨rfl, rfl⟩

theorem acceptedSGL_frame (endpoint : RpcEndpoint) (slotIndex : UInt32) (fuel : Nat) (header headerLen : UInt64)
    (iov : List Iovec) (callbackCtx : Nat) (callback : Option Nat) :
    (acceptedSGL endpoint slotIndex fuel header headerLen iov callbackCtx callback).slotPool =
        opened endpoint.slotPool slotIndex endpoint.conn.connId callbackCtx callback (if iov = [] then 1 else 2) ∧
      (acceptedSGL endpoint slotIndex fuel header headerLen iov callbackCtx callback).bufferPool =
        endpoint.bufferPool := by
  unfold acceptedSGL
  split <;> exact ⟨rfl, rfl⟩

/-- A send call whose header is posted issues an accepted request, which holds its slot. -/
theorem accepted_step (wf : Wf world) (stack : world.pool.freeSlots = rest ++ [slotIndex.toNat])
    (header headerLen : UInt64) (dataBuf : Option Buffer) (callbackCtx : Nat) (callback : Option Nat)
    (posted : (postHeader world.endpoint slotIndex header headerLen).1.ok = true) :
    ∃ next, world.step (.sendRequest header headerLen dataBuf callbackCtx callback) = some (next, []) ∧
      next.endpoint = accepted world.endpoint slotIndex header headerLen dataBuf callbackCtx callback ∧
      next.issued = world.issued ++ [world.newRequest slotIndex callbackCtx callback true] ∧
      next.Pending (world.newRequest slotIndex callbackCtx callback true) := by
  have pool := (accepted_frame world.endpoint slotIndex header headerLen dataBuf callbackCtx callback).1
  refine ⟨⟨accepted world.endpoint slotIndex header headerLen dataBuf callbackCtx callback,
    world.issue callbackCtx callback true⟩, ?_, rfl, issue_top wf stack .., ?_, ?_⟩
  · simp only [World.step, sendRequest_accepted header headerLen dataBuf callbackCtx callback wf.pool stack posted,
      Option.bind_eq_bind, Option.bind_some]
    rfl
  · change _ ∈ world.issue callbackCtx callback true
    rw [issue_top wf stack]
    exact List.mem_append_right _ (List.mem_singleton_self _)
  · change (accepted world.endpoint slotIndex header headerLen dataBuf callbackCtx callback).slotPool.frees _ = _
    rw [pool]
    rfl

theorem sendRequest_acts (wf : Wf world) (header headerLen : UInt64) (dataBuf : Option Buffer) (callbackCtx : Nat)
    (callback : Option Nat) :
    ∃ next calls, Acts world (.sendRequest header headerLen dataBuf callbackCtx callback) next calls := by
  by_cases empty : world.pool.stackTop = 0
  · refine ⟨_, _, idle_acts wf world.endpoint ?_ rfl wf.buffers (.inl rfl)⟩
    simp only [World.step, sendRequest_exhausted header headerLen dataBuf callbackCtx callback empty,
      Option.bind_eq_bind, Option.bind_some, issue_exhausted empty]
  · obtain ⟨slotIndex, rest, stack, -⟩ := allocate_spec wf.pool empty
    cases posted : (postHeader world.endpoint slotIndex header headerLen).1.ok with
    | true =>
      obtain ⟨pool, buffers⟩ := accepted_frame world.endpoint slotIndex header headerLen dataBuf callbackCtx callback
      refine ⟨_, _, accept_acts wf stack callbackCtx callback ?_ pool buffers ?_ fun _ _ => .inr (.inl ⟨_, _, rfl⟩)⟩
      · simp only [World.step, sendRequest_accepted header headerLen dataBuf callbackCtx callback wf.pool stack posted,
          Option.bind_eq_bind, Option.bind_some]
        rfl
      · split <;> decide
    | false =>
      refine ⟨_, _, refuse_acts wf stack callbackCtx callback (postHeader world.endpoint slotIndex header headerLen).2 ?_
        fun _ => .inr (.inr ⟨_, rfl⟩)⟩
      simp only [World.step, sendRequest_refused header headerLen dataBuf callbackCtx callback wf.pool stack posted,
        Option.bind_eq_bind, Option.bind_some]
      rfl

theorem sendRequestSGL_acts (wf : Wf world) (fuel : Nat) (header headerLen : UInt64) (iov : List Iovec)
    (callbackCtx : Nat) (callback : Option Nat)
    (returns : Sound world (.sendRequestSGL fuel header headerLen iov callbackCtx callback)) :
    ∃ next calls, Acts world (.sendRequestSGL fuel header headerLen iov callbackCtx callback) next calls := by
  by_cases empty : world.pool.stackTop = 0
  · refine ⟨_, _, idle_acts wf world.endpoint ?_ rfl wf.buffers (.inl rfl)⟩
    simp only [World.step, sendRequestSGL_exhausted header headerLen fuel iov callbackCtx callback empty,
      Option.bind_eq_bind, Option.bind_some, issue_exhausted empty]
  · obtain ⟨slotIndex, rest, stack, -⟩ := allocate_spec wf.pool empty
    cases posted : (postHeader world.endpoint slotIndex header headerLen).1.ok with
    | true =>
      have sent := sendRequestSGL_accepted header headerLen fuel iov callbackCtx callback wf.pool stack posted
      obtain ⟨pool, buffers⟩ := acceptedSGL_frame world.endpoint slotIndex fuel header headerLen iov callbackCtx callback
      split at sent
      · refine ⟨_, _, accept_acts wf stack callbackCtx callback ?_ pool buffers ?_ fun _ _ => .inr (.inl ⟨_, _, rfl⟩)⟩
        · simp only [World.step, sent, Option.bind_eq_bind, Option.bind_some]
          rfl
        · split <;> decide
      · exact absurd sent (returns _)
    | false =>
      refine ⟨_, _, refuse_acts wf stack callbackCtx callback (postHeader world.endpoint slotIndex header headerLen).2 ?_
        fun _ => .inr (.inr ⟨_, rfl⟩)⟩
      simp only [World.step, sendRequestSGL_refused header headerLen fuel iov callbackCtx callback wf.pool stack posted,
        Option.bind_eq_bind, Option.bind_some]
      rfl

/-! ### Completions -/

/-- What a slot in use records. -/
theorem inUse_waits (wf : Wf world) {slot : Nat} (inUse : world.pool.InUse slot) :
    (world.pool.hot slot).completedWrCount.toNat < (world.pool.hot slot).totalWrCount.toNat ∧
      (world.pool.hot slot).totalWrCount.toNat ≤ 2 ∧ (world.pool.hot slot).errorCode = 0 := by
  have held : world.ledger.holder slot = some (describe (world.pool.hot slot) (world.pool.context slot)) :=
    holderOf_inUse inUse
  obtain ⟨request, -, -, is_of⟩ := wf.ledger.holder_request held
  exact ⟨is_of.waiting, is_of.total, is_of.noError⟩

theorem inUse_not_completed (wf : Wf world) {slot : Nat} (inUse : world.pool.InUse slot) :
    (world.pool.hot slot).isCompleted = false := by
  rw [RpcSlotHot.isCompleted, decide_eq_false_iff_not, UInt8.le_iff_toNat_le]
  exact Nat.not_le_of_lt (inUse_waits wf inUse).1

theorem completeWr_step (wf : Wf world) {slotIndex : UInt32} (inUse : world.pool.InUse slotIndex.toNat) :
    ∃ pool, world.endpoint.completeWr slotIndex (world.pool.hot slotIndex.toNat) =
        some ({ world.endpoint with slotPool := pool }, (world.ledger.act (.advance slotIndex)).2) ∧
      WellFormed pool ∧ ledgerOf pool world.issued = (world.ledger.act (.advance slotIndex)).1 ∧
      world.ledger.Allowed (.advance slotIndex) := by
  have small : (world.pool.hot slotIndex.toNat).completedWrCount.toNat < 255 := by
    obtain ⟨waiting, total, -⟩ := inUse_waits wf inUse
    omega
  obtain ⟨pool, completed, kept, acts⟩ := completeWr_acts wf.pool inUse rfl small world.issued
  exact ⟨pool, completed, kept, acts, holderOf_isSome.mpr inUse⟩

theorem onSendComplete_acts (wf : Wf world) (wc : Wc) (sound : Sound world (.onSendComplete wc)) :
    ∃ next calls, Acts world (.onSendComplete wc) next calls := by
  have checked := getHotChecked_eq wf.pool sound.1 (getGeneration wc.wrId)
  by_cases names : world.pool.Names (getSlotIndex wc.wrId) (getGeneration wc.wrId)
  · have inUse : world.pool.InUse (getSlotIndex wc.wrId).toNat := by
      by_contra free
      exact sound.2 ⟨names, free⟩
    obtain ⟨pool, completed, kept, acts, allowed⟩ := completeWr_step wf inUse
    rw [if_pos names] at checked
    refine ⟨⟨{ world.endpoint with slotPool := pool }, world.issued⟩, _, single_acts wf ?_ kept wf.buffers wf.tokens
      (if_pos names).symm allowed (Prod.ext acts rfl)⟩
    simp only [World.step, RpcEndpoint.onSendComplete]
    rw [show world.endpoint.slotPool.getHotChecked _ _ = _ from checked]
    simp only [Option.bind_eq_bind, Option.bind_some]
    rw [completed]
    rfl
  · rw [if_neg names] at checked
    refine ⟨_, _, idle_acts wf world.endpoint ?_ rfl wf.buffers (if_neg names).symm⟩
    simp only [World.step, RpcEndpoint.onSendComplete]
    rw [show world.endpoint.slotPool.getHotChecked _ _ = _ from checked]
    rfl

theorem immSlotIndex_lt (wc : Wc) : (immSlotIndex wc).toNat < kMaxSlots := by
  rw [immSlotIndex, UInt32.toNat_and]
  exact Nat.lt_of_le_of_lt Nat.and_le_right (by decide)

/-- Reposting a receive buffer touches the buffer pool and the connection only. -/
theorem repostRecvBuffer_frame {endpoint : RpcEndpoint} (inRange : InRange endpoint.bufferPool) :
    ∃ conn bufferPool, endpoint.repostRecvBuffer = some { endpoint with conn, bufferPool } ∧ InRange bufferPool := by
  obtain ⟨buf, bufferPool, allocated, kept⟩ := allocate_defined inRange
  simp only [RpcEndpoint.repostRecvBuffer, allocated, Option.bind_eq_bind, Option.bind_some]
  split
  · exact ⟨_, bufferPool, rfl, kept⟩
  · exact ⟨endpoint.conn, bufferPool, rfl, kept⟩

theorem onWriteWithImmRecv_acts (wf : Wf world) (wc : Wc) (sound : Sound world (.onWriteWithImmRecv wc)) :
    ∃ next calls, Acts world (.onWriteWithImmRecv wc) next calls := by
  have checked := getHotChecked_eq wf.pool (immSlotIndex_lt wc) (immGeneration wc)
  by_cases names : world.pool.Names (immSlotIndex wc) (immGeneration wc)
  · have inUse : world.pool.InUse (immSlotIndex wc).toNat := by
      by_contra free
      exact sound ⟨names, free⟩
    obtain ⟨pool, completed, kept, acts, allowed⟩ := completeWr_step wf inUse
    have buffers : InRange ({ world.endpoint with slotPool := pool } : RpcEndpoint).bufferPool := wf.buffers
    obtain ⟨conn, bufferPool, reposted, inRange⟩ := repostRecvBuffer_frame buffers
    rw [if_pos names] at checked
    refine ⟨⟨{ world.endpoint with slotPool := pool, conn, bufferPool }, world.issued⟩, _,
      single_acts wf ?_ kept inRange wf.tokens (if_pos names).symm allowed (Prod.ext acts rfl)⟩
    simp only [World.step, RpcEndpoint.onWriteWithImmRecv, checked, Option.bind_eq_bind, Option.bind_some, completed,
      reposted]
  · rw [if_neg names] at checked
    refine ⟨_, _, idle_acts wf world.endpoint ?_ rfl wf.buffers (if_neg names).symm⟩
    simp only [World.step, RpcEndpoint.onWriteWithImmRecv, checked, Option.bind_eq_bind, Option.bind_some]

/-! ### Timeouts -/

/-- A free slot that an entry names by its current generation has nothing left to complete. -/
def Handled (pool : RpcSlotPool) (entry : UInt32 × UInt8) : Prop :=
  entry.1.toNat < kMaxSlots ∧ (NamesFree pool entry.1 entry.2 → (pool.hot entry.1.toNat).isCompleted = true)

/-- Expiring one slot leaves the other entries of the list handled. -/
theorem expired_handled {pool : RpcSlotPool} {entry : UInt32 × UInt8} (slotIndex : UInt32)
    (handled : Handled pool entry) : Handled (expired pool slotIndex) entry := by
  refine ⟨handled.1, ?_⟩
  by_cases same : entry.1.toNat = slotIndex.toNat
  · intro _
    rw [same]
    exact expired_completed pool slotIndex
  · obtain ⟨hot, -⟩ := expired_other pool same
    rw [NamesFree, RpcSlotPool.Names, RpcSlotPool.InUse, hot]
    exact handled.2

/-- The slot is as before, or has lost its request to a timeout. -/
def KeptOrExpired (pool last : RpcSlotPool) (slot : Nat) : Prop :=
  (last.hot slot = pool.hot slot ∧ last.frees slot = pool.frees slot) ∨ (last.hot slot).isCompleted = true

theorem expired_keptOrExpired {pool last : RpcSlotPool} {slotIndex : UInt32} {slot : Nat}
    (later : KeptOrExpired (expired pool slotIndex) last slot) : KeptOrExpired pool last slot := by
  rcases later with ⟨hot, frees⟩ | completed
  · by_cases same : slot = slotIndex.toNat
    · right
      rw [hot, same]
      exact expired_completed pool slotIndex
    · obtain ⟨kept, keptFrees⟩ := expired_other pool same
      exact .inl ⟨hot.trans kept, frees.trans keptFrees⟩
  · exact .inr completed

/-- The entries that name a request with completions to come expire it, one after the other. -/
theorem checkTimeouts_acts {issued : List Request} {expired : List (UInt32 × UInt8)} {endpoint : RpcEndpoint}
    (wf : Wf ⟨endpoint, issued⟩) (handled : ∀ entry ∈ expired, Handled endpoint.slotPool entry) :
    ∃ last calls count actions, endpoint.checkTimeouts expired = some (last, calls, count) ∧ Wf ⟨last, issued⟩ ∧
      (∀ action ∈ actions, ∃ slotIndex, action = .expire slotIndex) ∧
      Meets Ledger.step Ledger.Allowed (ledgerOf endpoint.slotPool issued) actions ∧
      run Ledger.step (ledgerOf endpoint.slotPool issued) actions = some (ledgerOf last.slotPool issued, calls) ∧
      ∀ slot, KeptOrExpired endpoint.slotPool last.slotPool slot := by
  induction expired generalizing endpoint with
  | nil => exact ⟨endpoint, [], 0, [], rfl, wf, by simp, trivial, rfl, fun _ => .inl ⟨rfl, rfl⟩⟩
  | cons entry expired ih =>
    obtain ⟨slotIndex, generation⟩ := entry
    obtain ⟨inside, freeHandled⟩ := handled _ (List.mem_cons_self ..)
    have others : ∀ entry ∈ expired, Handled endpoint.slotPool entry := fun entry member =>
      handled entry (List.mem_cons_of_mem _ member)
    by_cases hits : endpoint.slotPool.Names slotIndex generation ∧ endpoint.slotPool.InUse slotIndex.toNat
    · obtain ⟨names, inUse⟩ := hits
      have pool : WellFormed endpoint.slotPool := wf.pool
      obtain ⟨checked, kept, acts⟩ := checkTimeout_acts pool inUse names (inUse_not_completed wf inUse) issued
      have allowed : (ledgerOf endpoint.slotPool issued).Allowed (.expire slotIndex) := holderOf_isSome.mpr inUse
      have sane : Sane ((ledgerOf endpoint.slotPool issued).act (.expire slotIndex)).1 := act_sane wf.ledger allowed
      have next : Wf ⟨{ endpoint with slotPool := SlotLedgers.expired endpoint.slotPool slotIndex }, issued⟩ :=
        ⟨kept, wf.buffers, by rw [← acts] at sane; exact sane, wf.tokens⟩
      obtain ⟨last, calls, count, actions, rest, ends, expires, meets, ran, slots⟩ := ih next fun entry member =>
        expired_handled slotIndex (others entry member)
      dsimp only at meets ran
      rw [acts] at meets ran
      refine ⟨last, ((ledgerOf endpoint.slotPool issued).act (.expire slotIndex)).2 ++ calls, 1 + count,
        .expire slotIndex :: actions, ?_, ends, ?_, ⟨allowed, ?_⟩,
        run_cons_some.mpr ⟨_, _, calls, step_some.mpr ⟨rfl, rfl⟩, ran, rfl⟩, fun slot =>
        expired_keptOrExpired (slots slot)⟩
      · simp only [RpcEndpoint.checkTimeouts, checked, Option.bind_eq_bind, Option.bind_some, rest]
      · intro action member
        rcases List.mem_cons.mp member with rfl | member
        · exact ⟨slotIndex, rfl⟩
        · exact expires action member
      · intro state now taken
        obtain ⟨rfl, -⟩ := step_some.mp taken
        exact meets
    · have skips : endpoint.slotPool.Names slotIndex generation →
          (endpoint.slotPool.hot slotIndex.toNat).isCompleted = true := fun names =>
        freeHandled ⟨names, fun inUse => hits ⟨names, inUse⟩⟩
      obtain ⟨last, calls, count, actions, rest, ends⟩ := ih wf others
      refine ⟨last, calls, count, actions, ?_, ends⟩
      simp only [RpcEndpoint.checkTimeouts, checkTimeout_skips wf.pool inside skips, Option.bind_eq_bind,
        Option.bind_some, rest, List.nil_append, Nat.zero_add]

/-! ### Steps and runs -/

/-- A sound step is defined, and its actions are allowed. -/
theorem step_acts (wf : Wf world) {event : Event} (sound : Sound world event) :
    ∃ next calls, Acts world event next calls := by
  cases event with
  | sendRequest header headerLen dataBuf callbackCtx callback => exact sendRequest_acts wf ..
  | sendRequestSGL fuel header headerLen iov callbackCtx callback => exact sendRequestSGL_acts wf _ _ _ _ _ _ sound
  | sendReadResponse clientSlotIndex clientGeneration dataBuf clientBuffer =>
    exact ⟨_, _, idle_acts wf _ rfl rfl wf.buffers rfl⟩
  | onSendComplete wc => exact onSendComplete_acts wf wc sound
  | onWriteWithImmRecv wc => exact onWriteWithImmRecv_acts wf wc sound
  | checkTimeouts expired =>
    obtain ⟨last, calls, count, actions, checked, ends, expires, meets, ran, -⟩ := checkTimeouts_acts wf sound
    refine ⟨⟨last, world.issued⟩, calls, ?_, ends, actions, expires, meets, ran⟩
    simp only [World.step, checked, Option.bind_eq_bind, Option.bind_some]
  | environment conn bufferPool timingWheel => exact ⟨_, _, idle_acts wf _ rfl rfl sound rfl⟩

theorem step_wellFormed (wf : Wf world) {event : Event} (sound : Sound world event) {next : World} {calls : List Call}
    (stepped : world.step event = some (next, calls)) : Acts world event next calls := by
  obtain ⟨other, called, acts⟩ := step_acts wf sound
  obtain ⟨rfl, rfl⟩ := Prod.mk.inj (Option.some.inj (stepped.symm.trans acts.1))
  exact acts

theorem sends_sound {events : List Event}
    (sends : ∀ event ∈ events, ∃ header headerLen dataBuf callbackCtx callback,
      event = .sendRequest header headerLen dataBuf callbackCtx callback) : Meets World.step Sound world events := by
  induction events generalizing world with
  | nil => trivial
  | cons event rest ih =>
    obtain ⟨_, _, _, _, _, rfl⟩ := sends event (List.mem_cons_self ..)
    exact ⟨trivial, fun _ _ _ => ih fun other member => sends other (List.mem_cons_of_mem _ member)⟩

theorem run_wellFormed (wf : Wf world) {events : List Event} (sound : Meets World.step Sound world events)
    {last : World} {calls : List Call} (ran : run World.step world events = some (last, calls)) : Wf last :=
  invariant_of_run (fun _ _ _ _ wf sound stepped => (step_wellFormed wf sound stepped).2.1) wf sound ran

theorem reached_wf (reached : Reached world) : Wf world := by
  obtain ⟨endpoint, events, calls, fresh, sound, ran⟩ := reached
  exact run_wellFormed (start_wf fresh) sound ran

theorem reached_step (reached : Reached world) {event : Event} (sound : Sound world event) {next : World}
    {calls : List Call} (stepped : world.step event = some (next, calls)) : Reached next := by
  obtain ⟨endpoint, events, before, fresh, meets, ran⟩ := reached
  refine ⟨endpoint, events ++ [event], before ++ (calls ++ []), fresh, meets_append.mpr ⟨meets, ?_⟩,
    run_append_some.mpr ⟨world, before, _, ran, run_cons_some.mpr ⟨next, calls, [], stepped, rfl, rfl⟩, rfl⟩⟩
  intro middle now ran'
  obtain ⟨rfl, -⟩ := Prod.mk.inj (Option.some.inj (ran.symm.trans ran'))
  exact ⟨sound, fun _ _ _ => trivial⟩

theorem start_reached {endpoint : RpcEndpoint} (fresh : Fresh endpoint) : Reached (.start endpoint) :=
  ⟨endpoint, [], [], fresh, trivial, rfl⟩

/-- A sound run is a run of the ledger. -/
theorem run_acts (wf : Wf world) {events : List Event} (sound : Meets World.step Sound world events) :
    ∃ last calls, run World.step world events = some (last, calls) ∧ Wf last ∧
      ∃ actions, Meets Ledger.step Ledger.Allowed world.ledger actions ∧
        run Ledger.step world.ledger actions = some (last.ledger, calls) := by
  induction events generalizing world with
  | nil => exact ⟨world, [], rfl, wf, [], trivial, rfl⟩
  | cons event rest ih =>
    obtain ⟨next, now, stepped, kept, actions, -, allowed, acted⟩ := step_acts wf sound.1
    obtain ⟨last, later, ran, ends, more, meets, after⟩ := ih kept (sound.2 _ _ stepped)
    refine ⟨last, now ++ later, run_cons_some.mpr ⟨next, now, later, stepped, ran, rfl⟩, ends, actions ++ more, ?_, ?_⟩
    · refine meets_append.mpr ⟨allowed, fun middle calls ran => ?_⟩
      obtain ⟨rfl, -⟩ := Prod.mk.inj (Option.some.inj (ran.symm.trans acted))
      exact meets
    · exact run_append_some.mpr ⟨_, _, _, acted, after, rfl⟩

end Steps

/-! ### What a step issues -/

/-- The event is a send call of a request. -/
def Event.sends : Event → Bool
  | .sendRequest .. | .sendRequestSGL .. => true
  | _ => false

theorem step_quiet {world next : World} {event : Event} {calls : List Call} (quiet : event.sends = false)
    (stepped : world.step event = some (next, calls)) : next.issued = world.issued := by
  cases event with
  | sendRequest header headerLen dataBuf callbackCtx callback => cases quiet
  | sendRequestSGL fuel header headerLen iov callbackCtx callback => cases quiet
  | sendReadResponse clientSlotIndex clientGeneration dataBuf clientBuffer =>
    rw [← (Prod.mk.inj (Option.some.inj stepped)).1]
  | environment conn bufferPool timingWheel => rw [← (Prod.mk.inj (Option.some.inj stepped)).1]
  | onSendComplete wc =>
    obtain ⟨⟨endpoint, called⟩, -, same⟩ := Option.bind_eq_some_iff.mp stepped
    rw [← (Prod.mk.inj (Option.some.inj same)).1]
  | onWriteWithImmRecv wc =>
    obtain ⟨⟨endpoint, called⟩, -, same⟩ := Option.bind_eq_some_iff.mp stepped
    rw [← (Prod.mk.inj (Option.some.inj same)).1]
  | checkTimeouts expired =>
    obtain ⟨⟨endpoint, called, count⟩, -, same⟩ := Option.bind_eq_some_iff.mp stepped
    rw [← (Prod.mk.inj (Option.some.inj same)).1]

/-- A send call invokes no callback, and issues what `issue` says. -/
theorem step_sends {world next : World} {event : Event} {calls : List Call} (sends : event.sends = true)
    (stepped : world.step event = some (next, calls)) :
    calls = [] ∧ ∃ callbackCtx callback accepted, next.issued = world.issue callbackCtx callback accepted := by
  cases event with
  | sendRequest header headerLen dataBuf callbackCtx callback =>
    obtain ⟨⟨result, endpoint⟩, -, same⟩ := Option.bind_eq_some_iff.mp stepped
    obtain ⟨rfl, rfl⟩ := Prod.mk.inj (Option.some.inj same)
    exact ⟨rfl, _, _, _, rfl⟩
  | sendRequestSGL fuel header headerLen iov callbackCtx callback =>
    obtain ⟨⟨returned, endpoint⟩, -, same⟩ := Option.bind_eq_some_iff.mp stepped
    obtain ⟨result, -, same⟩ := Option.bind_eq_some_iff.mp same
    obtain ⟨rfl, rfl⟩ := Prod.mk.inj (Option.some.inj same)
    exact ⟨rfl, _, _, _, rfl⟩
  | _ => cases sends

/-- A step issues at most one request. -/
theorem step_issues {world next : World} {event : Event} {calls : List Call}
    (stepped : world.step event = some (next, calls)) :
    next.issued = world.issued ∨ ∃ request, next.issued = world.issued ++ [request] := by
  cases sends : event.sends with
  | false => exact .inl (step_quiet sends stepped)
  | true =>
    obtain ⟨-, callbackCtx, callback, accepted, issued⟩ := step_sends sends stepped
    rw [issued, World.issue]
    split
    · split
      · exact .inl rfl
      · exact .inr ⟨_, rfl⟩
    · exact .inl rfl

/-! ### Runs that need not be sound -/

/-- A state that any defined run reaches. -/
def Visited (world : World) : Prop :=
  ∃ endpoint events calls, Fresh endpoint ∧ run World.step (.start endpoint) events = some (world, calls)

theorem step_sized {world next : World} {event : Event} {calls : List Call} (sized : world.pool.Sized)
    (stepped : world.step event = some (next, calls)) : next.pool.Sized := by
  cases event with
  | sendRequest header headerLen dataBuf callbackCtx callback =>
    obtain ⟨⟨result, endpoint⟩, sent, stepped⟩ := Option.bind_eq_some_iff.mp stepped
    obtain ⟨rfl, -⟩ := Prod.mk.inj (Option.some.inj stepped)
    obtain ⟨token, started, starts, ends⟩ := sendRequest_inv sent
    exact ends.sized (starts.sized sized)
  | sendRequestSGL fuel header headerLen iov callbackCtx callback =>
    obtain ⟨⟨returned, endpoint⟩, sent, stepped⟩ := Option.bind_eq_some_iff.mp stepped
    obtain ⟨result, -, stepped⟩ := Option.bind_eq_some_iff.mp stepped
    obtain ⟨rfl, -⟩ := Prod.mk.inj (Option.some.inj stepped)
    obtain ⟨token, started, starts, ends⟩ := sendRequestSGL_inv sent
    exact ends.sized (starts.sized sized)
  | sendReadResponse clientSlotIndex clientGeneration dataBuf clientBuffer =>
    obtain ⟨rfl, -⟩ := Prod.mk.inj (Option.some.inj stepped)
    exact sized
  | onSendComplete wc =>
    obtain ⟨⟨endpoint, called⟩, handled, stepped⟩ := Option.bind_eq_some_iff.mp stepped
    obtain ⟨rfl, -⟩ := Prod.mk.inj (Option.some.inj stepped)
    exact (onSendComplete_onPool handled).sized sized
  | onWriteWithImmRecv wc =>
    obtain ⟨⟨endpoint, called⟩, handled, stepped⟩ := Option.bind_eq_some_iff.mp stepped
    obtain ⟨rfl, -⟩ := Prod.mk.inj (Option.some.inj stepped)
    rcases onWriteWithImmRecv_inv handled with rfl | ⟨counted, counts, reposted⟩
    · exact sized
    · rw [World.pool, repostRecvBuffer_pool reposted]
      exact counts.sized sized
  | checkTimeouts expired =>
    obtain ⟨⟨endpoint, called, count⟩, checked, stepped⟩ := Option.bind_eq_some_iff.mp stepped
    obtain ⟨rfl, -⟩ := Prod.mk.inj (Option.some.inj stepped)
    exact (checkTimeouts_onPool checked).sized sized
  | environment conn bufferPool timingWheel =>
    obtain ⟨rfl, -⟩ := Prod.mk.inj (Option.some.inj stepped)
    exact sized

theorem visited_sized {world : World} (visited : Visited world) : world.pool.Sized := by
  obtain ⟨endpoint, events, calls, fresh, ran⟩ := visited
  have start : (World.start endpoint).pool.Sized := by
    change endpoint.slotPool.Sized
    rw [fresh_pool fresh]
    exact ⟨rfl, rfl, rfl⟩
  have always : Meets World.step (fun _ _ => True) (.start endpoint) events := meets_of_forall fun _ _ => trivial
  exact invariant_of_run (fun _ _ _ _ sized _ stepped => step_sized sized stepped) start always ran

theorem start_visited {endpoint : RpcEndpoint} (fresh : Fresh endpoint) : Visited (.start endpoint) :=
  ⟨endpoint, [], [], fresh, rfl⟩

/-- The sample endpoint's first request, with 64 bytes of header. -/
theorem sample_request (connId : UInt16) (signalInterval : UInt32) :
    ∃ next, World.step (.start (sampleEndpoint connId { signalInterval })) (.sendRequest 0 64 none 5 (some 3)) =
        some (next, []) ∧
      Reached next ∧ next.issued = [⟨0, 0, 0, some 3, 5, true⟩] ∧ next.Pending ⟨0, 0, 0, some 3, 5, true⟩ := by
  have fresh := sample_fresh connId { signalInterval }
  obtain ⟨rest, stack⟩ := create_stack
  have fits : (64 : UInt64).toNat ≤ (256 : UInt32).toNat := by decide
  have posted : (postHeader (sampleEndpoint connId { signalInterval }) 0 0 64).1.ok = true :=
    (sendInline_ok ..).mpr ⟨rfl, fits, rfl⟩
  have first : World.newRequest (.start (sampleEndpoint connId { signalInterval })) 0 5 (some 3) true =
      ⟨0, 0, 0, some 3, 5, true⟩ := by
    have zero : (RpcSlotPool.create.hot 0).getGeneration.toUInt8 = 0 := by decide
    exact congrArg (Request.mk 0 · 0 (some 3) 5 true) zero
  have sound : Sound (.start (sampleEndpoint connId { signalInterval })) (.sendRequest 0 64 none 5 (some 3)) := trivial
  obtain ⟨next, sent, -, issued, pending⟩ := accepted_step (start_wf fresh) stack 0 64 none 5 (some 3) posted
  rw [first] at issued pending
  exact ⟨next, sent, reached_step (start_reached fresh) sound sent, issued, pending⟩

end Rdma.EndpointRuns
