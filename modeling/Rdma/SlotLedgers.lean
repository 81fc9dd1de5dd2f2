import Rdma.Ledgers

/-!
The ledger that a slot pool stands for (`ledgerOf`), and what the operations of
an endpoint do to it: a send call accepts or refuses a request
(`sendRequest_eq`, `opened_ledger`, `refused_ledger`), a completion that passes
the generation check advances its slot (`completeWr_acts`), and a timeout entry
that does expires it (`checkTimeout_acts`).
-/
namespace Rdma.SlotLedgers
open Rdma.Types Rdma.Arrays Rdma.SlotPools Rdma.Endpoints Rdma.Ledgers Rdma.WrIds

/-! ### The abstraction -/

/-- The holder that the data of a slot describes. -/
def describe (hot : RpcSlotHot) (context : RpcSlotContext) : Holder where
  callbackFn := context.callbackFn
  callbackCtx := context.callbackCtx
  completed := hot.completedWrCount.toNat
  total := hot.totalWrCount.toNat
  errorCode := hot.errorCode

def holderOf (pool : RpcSlotPool) (slot : Nat) : Option Holder :=
  if pool.InUse slot then some (describe (pool.hot slot) (pool.context slot)) else none

def ledgerOf (pool : RpcSlotPool) (issued : List Request) : Ledger := ⟨pool.frees, holderOf pool, issued⟩

theorem holderOf_inUse {pool : RpcSlotPool} {slot : Nat} (inUse : pool.InUse slot) :
    holderOf pool slot = some (describe (pool.hot slot) (pool.context slot)) := if_pos inUse

theorem holderOf_free {pool : RpcSlotPool} {slot : Nat} (free : ¬pool.InUse slot) : holderOf pool slot = none :=
  if_neg free

theorem holderOf_isSome {pool : RpcSlotPool} {slot : Nat} : (holderOf pool slot).isSome ↔ pool.InUse slot := by
  by_cases inUse : pool.InUse slot
  · simp [holderOf_inUse inUse, inUse]
  · simp [holderOf_free inUse, inUse]

/-- A pool that differs in one slot has the holders of the other slots. -/
theorem holderOf_update {pool next : RpcSlotPool} {slot : Nat}
    (others : ∀ other, other ≠ slot → next.hot other = pool.hot other ∧ next.context other = pool.context other) :
    holderOf next = Function.update (holderOf pool) slot (holderOf next slot) := by
  funext other
  by_cases same : other = slot
  · subst same
    simp
  · obtain ⟨hot, context⟩ := others other same
    have inUse : next.InUse other ↔ pool.InUse other := by rw [RpcSlotPool.InUse, RpcSlotPool.InUse, hot]
    rw [Function.update_of_ne same]
    simp only [holderOf, inUse, hot, context]

/-! ### Opening a slot -/

/-- The hot data of a slot that a send call has initialised. -/
def openedHot (hot : RpcSlotHot) (connId : UInt16) (total : UInt8) : RpcSlotHot :=
  { hot.setState kStateInUse with connId, totalWrCount := total, completedWrCount := 0, errorCode := 0 }

/-- The pool after a send call has taken and initialised `slotIndex` and counted `total` work requests. -/
def opened (pool : RpcSlotPool) (slotIndex : UInt32) (connId : UInt16) (callbackCtx : Nat) (callback : Option Nat)
    (total : UInt8) : RpcSlotPool :=
  ((pool.taken slotIndex).putHot slotIndex (openedHot (pool.hot slotIndex.toNat) connId total)).putContext slotIndex
    ⟨callback, callbackCtx⟩

section Opening
variable {pool : RpcSlotPool} {slotIndex : UInt32} {rest : List Nat}

theorem top_free (wf : WellFormed pool) (stack : pool.freeSlots = rest ++ [slotIndex.toNat]) :
    slotIndex.toNat < kMaxSlots ∧ (pool.hot slotIndex.toNat).getState = kStateFree :=
  (wf.free_iff _).mp (by rw [stack]; simp)

theorem top_holder (wf : WellFormed pool) (stack : pool.freeSlots = rest ++ [slotIndex.toNat]) :
    holderOf pool slotIndex.toNat = none := by
  refine holderOf_free fun inUse => ?_
  have free := (top_free wf stack).2
  rw [inUse.2] at free
  exact absurd free (by decide)

variable (connId : UInt16) (callbackCtx : Nat) (callback : Option Nat) (total : UInt8)

theorem opened_hot :
    (opened pool slotIndex connId callbackCtx callback total).hot slotIndex.toNat =
      openedHot (pool.hot slotIndex.toNat) connId total := putHot_same ..

theorem opened_other {other : Nat} (apart : other ≠ slotIndex.toNat) :
    (opened pool slotIndex connId callbackCtx callback total).hot other = pool.hot other ∧
      (opened pool slotIndex connId callbackCtx callback total).context other = pool.context other :=
  ⟨(putHot_other _ apart _).trans (taken_hot_other pool apart), putContext_other _ apart _⟩

theorem opened_wellFormed (wf : WellFormed pool) (stack : pool.freeSlots = rest ++ [slotIndex.toNat]) :
    WellFormed (opened pool slotIndex connId callbackCtx callback total) := by
  refine putContext_wellFormed (putHot_wellFormed (taken_wellFormed wf stack) ?_ ?_) _ _
  · rw [taken_hot]
    rfl
  · rw [taken_hot]
    rfl

theorem opened_inUse (wf : WellFormed pool) (stack : pool.freeSlots = rest ++ [slotIndex.toNat]) :
    (opened pool slotIndex connId callbackCtx callback total).InUse slotIndex.toNat := by
  refine ⟨(top_free wf stack).1, ?_⟩
  rw [opened_hot]
  exact getState_setState_inUse _

theorem opened_holder (wf : WellFormed pool) (stack : pool.freeSlots = rest ++ [slotIndex.toNat]) :
    holderOf (opened pool slotIndex connId callbackCtx callback total) =
      Function.update (holderOf pool) slotIndex.toNat (some ⟨callback, callbackCtx, 0, total.toNat, 0⟩) := by
  rw [holderOf_update fun _ apart => opened_other connId callbackCtx callback total apart,
    holderOf_inUse (opened_inUse connId callbackCtx callback total wf stack), opened_hot]
  congr 1
  rw [opened, putContext_same]
  rfl

end Opening

/-! ### Leaving a slot -/

section Leaving
variable {pool : RpcSlotPool} {slotIndex : UInt32}

theorem released_holder (wf : WellFormed pool) (inUse : pool.InUse slotIndex.toNat) :
    holderOf (pool.released slotIndex) = Function.update (holderOf pool) slotIndex.toNat none := by
  have free : ¬(pool.released slotIndex).InUse slotIndex.toNat := by
    intro still
    have listed : slotIndex.toNat ∈ (pool.released slotIndex).freeSlots := by rw [released_freeSlots]; simp
    exact (released_wellFormed wf inUse).not_free still listed
  rw [holderOf_update fun other apart => ⟨released_hot_other pool apart, congrFun (released_context pool _) other⟩,
    holderOf_free free]

/-- A slot opened and released at once ends one epoch and changes no holder. -/
theorem refused_holder (wf : WellFormed pool) {rest : List Nat} (stack : pool.freeSlots = rest ++ [slotIndex.toNat])
    (connId : UInt16) (callbackCtx : Nat) (callback : Option Nat) (total : UInt8) :
    holderOf ((opened pool slotIndex connId callbackCtx callback total).released slotIndex) = holderOf pool := by
  rw [released_holder (opened_wellFormed connId callbackCtx callback total wf stack)
      (opened_inUse connId callbackCtx callback total wf stack),
    opened_holder connId callbackCtx callback total wf stack, Function.update_idem, ← top_holder wf stack,
    Function.update_eq_self]

/-- A write that keeps the slot in use replaces its holder. -/
theorem putHot_holder (inUse : pool.InUse slotIndex.toNat) (hot : RpcSlotHot)
    (state : hot.getState = (pool.hot slotIndex.toNat).getState) :
    holderOf (pool.putHot slotIndex hot) = Function.update (holderOf pool) slotIndex.toNat
      (some (describe hot (pool.context slotIndex.toNat))) := by
  have still : (pool.putHot slotIndex hot).InUse slotIndex.toNat := ⟨inUse.1, by rw [putHot_same, state]; exact inUse.2⟩
  rw [holderOf_update fun other apart => ⟨putHot_other pool apart hot, rfl⟩, holderOf_inUse still, putHot_same]
  rfl

end Leaving

/-! ### Send calls -/

section Sending
variable {endpoint : RpcEndpoint}

theorem startRequest_exhausted (empty : endpoint.slotPool.stackTop = 0) (callbackCtx : Nat) (callback : Option Nat) :
    endpoint.startRequest callbackCtx callback = some (none, endpoint) := by
  simp only [RpcEndpoint.startRequest, allocate_empty empty, Option.bind_eq_bind, Option.bind_some, if_true]

variable {slotIndex : UInt32} {rest : List Nat}

/-- The endpoint after steps 1 to 3 of a send call that takes `slotIndex`, with `total` work requests counted. -/
def started (endpoint : RpcEndpoint) (slotIndex : UInt32) (callbackCtx : Nat) (callback : Option Nat) (total : UInt8) :
    RpcEndpoint :=
  { endpoint with
    slotPool := opened endpoint.slotPool slotIndex endpoint.conn.connId callbackCtx callback total
    timingWheel := (endpoint.timingWheel.schedule slotIndex
      (endpoint.slotPool.hot slotIndex.toNat).getGeneration.toUInt8 endpoint.config.timeoutMs).2 }

theorem startRequest_eq (wf : WellFormed endpoint.slotPool)
    (stack : endpoint.slotPool.freeSlots = rest ++ [slotIndex.toNat]) (callbackCtx : Nat) (callback : Option Nat) :
    endpoint.startRequest callbackCtx callback =
      some (some (slotIndex, (endpoint.slotPool.hot slotIndex.toNat).getGeneration.toUInt8),
        started endpoint slotIndex callbackCtx callback 1) := by
  have inside := (top_free wf stack).1
  have taken := taken_wellFormed wf stack
  have named : slotIndex ≠ 0xFFFFFFFF := by
    rintro rfl
    exact absurd inside (by decide)
  have packed : (openedHot (endpoint.slotPool.hot slotIndex.toNat) endpoint.conn.connId 1).slotGenPacked =
      ((endpoint.slotPool.taken slotIndex).hot slotIndex.toNat).slotGenPacked := by rw [taken_hot]; rfl
  have state : (openedHot (endpoint.slotPool.hot slotIndex.toNat) endpoint.conn.connId 1).getState =
      ((endpoint.slotPool.taken slotIndex).hot slotIndex.toNat).getState := by rw [taken_hot]; rfl
  have written := putHot_wellFormed taken state packed
  have again : { ((endpoint.slotPool.taken slotIndex).hot slotIndex.toNat).setState kStateInUse with
        connId := endpoint.conn.connId, totalWrCount := 1, completedWrCount := 0 } =
      openedHot (endpoint.slotPool.hot slotIndex.toNat) endpoint.conn.connId 1 := by
    have twice := setState_inUse_twice (endpoint.slotPool.hot slotIndex.toNat)
    rw [taken_hot]
    simp only [RpcSlotHot.setState, RpcSlotHot.mk.injEq, openedHot] at twice ⊢
    simp [twice.2.1]
  simp only [RpcEndpoint.startRequest, allocate_top wf stack, Option.bind_eq_bind, Option.bind_some, if_neg named,
    getHot_eq taken inside, getContext_eq taken inside, again, setHot_eq taken inside, setContext_eq written inside]
  rfl

theorem addWr_started (wf : WellFormed endpoint.slotPool)
    (stack : endpoint.slotPool.freeSlots = rest ++ [slotIndex.toNat]) (callbackCtx : Nat) (callback : Option Nat)
    (conn : Connections.Connection) :
    ({ started endpoint slotIndex callbackCtx callback 1 with conn } : RpcEndpoint).addWr slotIndex =
      some { started endpoint slotIndex callbackCtx callback 2 with conn } := by
  have inside := (top_free wf stack).1
  have wf' := opened_wellFormed endpoint.conn.connId callbackCtx callback 1 wf stack
  simp only [RpcEndpoint.addWr, started, getHot_eq wf' inside, setHot_eq wf' inside, Option.bind_eq_bind,
    Option.bind_some, opened_hot]
  simp only [opened, RpcSlotPool.putHot, RpcSlotPool.putContext, put_put]
  rfl

/-- The endpoint after a send call whose header could not be posted. -/
def refused (endpoint : RpcEndpoint) (slotIndex : UInt32) (callbackCtx : Nat) (callback : Option Nat)
    (conn : Connections.Connection) : RpcEndpoint :=
  { started endpoint slotIndex callbackCtx callback 1 with
    conn
    slotPool := (opened endpoint.slotPool slotIndex endpoint.conn.connId callbackCtx callback 1).released slotIndex }

/-- The post of the header of a request that was given `slotIndex`. -/
def postHeader (endpoint : RpcEndpoint) (slotIndex : UInt32) (header headerLen : UInt64) :
    Status × Connections.Connection :=
  endpoint.postHeader slotIndex (endpoint.slotPool.hot slotIndex.toNat).getGeneration.toUInt8 header headerLen

/-- The post of the data of a request that was given `slotIndex`. -/
def postData (endpoint : RpcEndpoint) (slotIndex : UInt32) (conn : Connections.Connection) (dataBuf : Buffer) :
    Status × Connections.Connection :=
  conn.writeWithImm dataBuf conn.remoteRecvBuffer.addr conn.remoteRecvBuffer.rkey
    (immOf slotIndex (endpoint.slotPool.hot slotIndex.toNat).getGeneration.toUInt8)
    (encode endpoint.conn.connId .requestSend (endpoint.slotPool.hot slotIndex.toNat).getGeneration.toUInt8 slotIndex)

/-- The post of the segments of a request that was given `slotIndex`. -/
def postSegments (endpoint : RpcEndpoint) (slotIndex : UInt32) (conn : Connections.Connection) (fuel : Nat)
    (iov : List Iovec) : Option Status × QueuePairs.QueuePair :=
  conn.qp.postSendSGL fuel iov slotIndex.toUInt64 conn.connId
    (endpoint.slotPool.hot slotIndex.toNat).getGeneration.toUInt8

variable (header headerLen : UInt64) (dataBuf : Option Buffer) (fuel : Nat) (iov : List Iovec) (callbackCtx : Nat)
  (callback : Option Nat)

/-- A send call that finds no free slot returns an error and changes nothing. -/
theorem sendRequest_exhausted (empty : endpoint.slotPool.stackTop = 0) :
    endpoint.sendRequest header headerLen dataBuf callbackCtx callback =
      some (.error (Status.resourceExhausted "No available RPC slots"), endpoint) := by
  simp only [RpcEndpoint.sendRequest, startRequest_exhausted empty, Option.bind_eq_bind, Option.bind_some]

theorem sendRequestSGL_exhausted (empty : endpoint.slotPool.stackTop = 0) :
    endpoint.sendRequestSGL fuel header headerLen iov callbackCtx callback =
      some (some (.error (Status.resourceExhausted "No available RPC slots")), endpoint) := by
  simp only [RpcEndpoint.sendRequestSGL, startRequest_exhausted empty, Option.bind_eq_bind, Option.bind_some]

/-- A send call whose header is not posted frees its slot and returns the error. -/
theorem sendRequest_refused (wf : WellFormed endpoint.slotPool)
    (stack : endpoint.slotPool.freeSlots = rest ++ [slotIndex.toNat])
    (failed : (postHeader endpoint slotIndex header headerLen).1.ok = false) :
    endpoint.sendRequest header headerLen dataBuf callbackCtx callback =
      some (.error (postHeader endpoint slotIndex header headerLen).1, refused endpoint slotIndex callbackCtx callback
        (postHeader endpoint slotIndex header headerLen).2) := by
  have freed : (started endpoint slotIndex callbackCtx callback 1).slotPool.free slotIndex = _ :=
    free_spec (opened_wellFormed endpoint.conn.connId callbackCtx callback 1 wf stack)
      (opened_inUse endpoint.conn.connId callbackCtx callback 1 wf stack)
  have failed : (endpoint.conn.sendInline header headerLen _).1.ok = false := failed
  simp only [RpcEndpoint.sendRequest, startRequest_eq wf stack, Option.bind_eq_bind, Option.bind_some]
  rw [show (started endpoint slotIndex callbackCtx callback 1).conn = endpoint.conn from rfl]
  simp only [failed, freed, Bool.not_false, if_true, Option.bind_some]
  rfl

/-- The endpoint after `sendRequest` has posted the header and, if there is valid data, tried to post the data. -/
def accepted (endpoint : RpcEndpoint) (slotIndex : UInt32) (header headerLen : UInt64) (dataBuf : Option Buffer)
    (callbackCtx : Nat) (callback : Option Nat) : RpcEndpoint :=
  match dataBuf.filter Buffer.isValid with
  | none => { started endpoint slotIndex callbackCtx callback 1 with
      conn := (postHeader endpoint slotIndex header headerLen).2 }
  | some dataBuf => { started endpoint slotIndex callbackCtx callback 2 with
      conn := (postData endpoint slotIndex (postHeader endpoint slotIndex header headerLen).2 dataBuf).2 }

/-- A send call whose header is posted returns the slot. -/
theorem sendRequest_accepted (wf : WellFormed endpoint.slotPool)
    (stack : endpoint.slotPool.freeSlots = rest ++ [slotIndex.toNat])
    (posted : (postHeader endpoint slotIndex header headerLen).1.ok = true) :
    endpoint.sendRequest header headerLen dataBuf callbackCtx callback =
      some (.ok slotIndex, accepted endpoint slotIndex header headerLen dataBuf callbackCtx callback) := by
  have posted : (endpoint.conn.sendInline header headerLen _).1.ok = true := posted
  simp only [RpcEndpoint.sendRequest, startRequest_eq wf stack, Option.bind_eq_bind, Option.bind_some]
  rw [show (started endpoint slotIndex callbackCtx callback 1).conn = endpoint.conn from rfl]
  simp only [posted, Bool.not_true, Bool.false_eq_true, if_false, accepted]
  cases dataBuf.filter Buffer.isValid with
  | none => rfl
  | some dataBuf =>
    dsimp only
    rw [addWr_started wf stack callbackCtx callback]
    rfl

theorem sendRequestSGL_refused (wf : WellFormed endpoint.slotPool)
    (stack : endpoint.slotPool.freeSlots = rest ++ [slotIndex.toNat])
    (failed : (postHeader endpoint slotIndex header headerLen).1.ok = false) :
    endpoint.sendRequestSGL fuel header headerLen iov callbackCtx callback =
      some (some (.error (postHeader endpoint slotIndex header headerLen).1),
        refused endpoint slotIndex callbackCtx callback (postHeader endpoint slotIndex header headerLen).2) := by
  have freed : (started endpoint slotIndex callbackCtx callback 1).slotPool.free slotIndex = _ :=
    free_spec (opened_wellFormed endpoint.conn.connId callbackCtx callback 1 wf stack)
      (opened_inUse endpoint.conn.connId callbackCtx callback 1 wf stack)
  have failed : (endpoint.conn.sendInline header headerLen _).1.ok = false := failed
  simp only [RpcEndpoint.sendRequestSGL, startRequest_eq wf stack, Option.bind_eq_bind, Option.bind_some]
  rw [show (started endpoint slotIndex callbackCtx callback 1).conn = endpoint.conn from rfl]
  simp only [failed, freed, Bool.not_false, if_true, Option.bind_some]
  rfl

/-- The endpoint after `sendRequestSGL` has posted the header and started on the segments. -/
def acceptedSGL (endpoint : RpcEndpoint) (slotIndex : UInt32) (fuel : Nat) (header headerLen : UInt64)
    (iov : List Iovec) (callbackCtx : Nat) (callback : Option Nat) : RpcEndpoint :=
  if iov = [] then { started endpoint slotIndex callbackCtx callback 1 with
    conn := (postHeader endpoint slotIndex header headerLen).2 }
  else { started endpoint slotIndex callbackCtx callback 2 with
    conn := { (postHeader endpoint slotIndex header headerLen).2 with
      qp := (postSegments endpoint slotIndex (postHeader endpoint slotIndex header headerLen).2 fuel iov).2 } }

/-- The call returns the slot when the segments have been gone through. -/
theorem sendRequestSGL_accepted (wf : WellFormed endpoint.slotPool)
    (stack : endpoint.slotPool.freeSlots = rest ++ [slotIndex.toNat])
    (posted : (postHeader endpoint slotIndex header headerLen).1.ok = true) :
    endpoint.sendRequestSGL fuel header headerLen iov callbackCtx callback =
      some (if iov = [] ∨
          (postSegments endpoint slotIndex (postHeader endpoint slotIndex header headerLen).2 fuel iov).1.isSome
        then some (.ok slotIndex) else none,
        acceptedSGL endpoint slotIndex fuel header headerLen iov callbackCtx callback) := by
  have posted : (endpoint.conn.sendInline header headerLen _).1.ok = true := posted
  simp only [RpcEndpoint.sendRequestSGL, startRequest_eq wf stack, Option.bind_eq_bind, Option.bind_some]
  rw [show (started endpoint slotIndex callbackCtx callback 1).conn = endpoint.conn from rfl]
  simp only [posted, Bool.not_true, Bool.false_eq_true, if_false, acceptedSGL]
  by_cases empty : iov = []
  · simp only [empty, if_true, true_or]
    rfl
  · simp only [empty, if_false, false_or]
    rw [addWr_started wf stack callbackCtx callback]
    cases answer : (postSegments endpoint slotIndex (postHeader endpoint slotIndex header headerLen).2 fuel iov).1 with
    | none =>
      simp only [Option.isSome_none, Bool.false_eq_true, if_false, Option.bind_some]
      split
      · rfl
      · rename_i returned
        cases answer.symm.trans returned
    | some status =>
      simp only [Option.isSome_some, if_true, Option.bind_some]
      split
      · rename_i unfinished
        cases answer.symm.trans unfinished
      · rfl

end Sending

/-! ### Completions and timeouts -/

section Events
variable {endpoint : RpcEndpoint} {slotIndex : UInt32}

theorem onRpcComplete_eq (endpoint : RpcEndpoint) (wf : WellFormed endpoint.slotPool) (inUse : endpoint.slotPool.InUse slotIndex.toNat) :
    endpoint.onRpcComplete slotIndex =
      some ({ endpoint with slotPool := endpoint.slotPool.released slotIndex },
        invoke endpoint.slotPool (endpoint.slotPool.context slotIndex.toNat) slotIndex
          (endpoint.slotPool.hot slotIndex.toNat).errorCode) := by
  simp only [RpcEndpoint.onRpcComplete, getContext_eq wf inUse.1, getHot_eq wf inUse.1, free_spec wf inUse,
    Option.bind_eq_bind, Option.bind_some]

theorem markCompleted_count {hot : RpcSlotHot} (small : hot.completedWrCount.toNat < 255) :
    hot.markCompleted.completedWrCount.toNat = hot.completedWrCount.toNat + 1 := by
  rw [RpcSlotHot.markCompleted, UInt8.toNat_add, UInt8.toNat_one]
  omega

theorem markCompleted_isCompleted {hot : RpcSlotHot} (small : hot.completedWrCount.toNat < 255) :
    hot.markCompleted.isCompleted = decide (hot.totalWrCount.toNat ≤ hot.completedWrCount.toNat + 1) := by
  rw [RpcSlotHot.isCompleted, decide_eq_decide, UInt8.le_iff_toNat_le, markCompleted_count small]
  exact Iff.rfl

/-- A completion counted for a slot in use advances the slot. -/
theorem completeWr_acts (wf : WellFormed endpoint.slotPool) (inUse : endpoint.slotPool.InUse slotIndex.toNat)
    {hot : RpcSlotHot} (at_slot : endpoint.slotPool.hot slotIndex.toNat = hot)
    (small : hot.completedWrCount.toNat < 255) (issued : List Request) :
    ∃ pool, endpoint.completeWr slotIndex hot =
        some ({ endpoint with slotPool := pool }, ((ledgerOf endpoint.slotPool issued).act (.advance slotIndex)).2) ∧
      WellFormed pool ∧ ledgerOf pool issued = ((ledgerOf endpoint.slotPool issued).act (.advance slotIndex)).1 := by
  have held : (ledgerOf endpoint.slotPool issued).holder slotIndex.toNat = some _ := holderOf_inUse inUse
  have state : hot.markCompleted.getState = (endpoint.slotPool.hot slotIndex.toNat).getState := by rw [at_slot]; rfl
  have packed : hot.markCompleted.slotGenPacked = (endpoint.slotPool.hot slotIndex.toNat).slotGenPacked := by
    rw [at_slot]
    rfl
  have marked := putHot_wellFormed wf state packed
  have holders := putHot_holder inUse hot.markCompleted state
  rw [at_slot] at held
  have described : describe hot.markCompleted (endpoint.slotPool.context slotIndex.toNat) =
      { describe hot (endpoint.slotPool.context slotIndex.toNat) with completed := hot.completedWrCount.toNat + 1 } := by
    rw [describe, markCompleted_count small]
    rfl
  rw [described] at holders
  by_cases more : hot.completedWrCount.toNat + 1 < hot.totalWrCount.toNat
  · have waits : hot.markCompleted.isCompleted = false :=
      (markCompleted_isCompleted small).trans (decide_eq_false (Nat.not_le_of_lt more))
    rw [act_advance_more held more]
    refine ⟨endpoint.slotPool.putHot slotIndex hot.markCompleted, ?_, marked, ?_⟩
    · simp only [RpcEndpoint.completeWr, setHot_eq wf inUse.1, Option.bind_eq_bind, Option.bind_some, waits]
      rfl
    · rw [ledgerOf, holders]
      rfl
  · have done : hot.markCompleted.isCompleted = true :=
      (markCompleted_isCompleted small).trans (decide_eq_true (Nat.le_of_not_lt more))
    have still : (endpoint.slotPool.putHot slotIndex hot.markCompleted).InUse slotIndex.toNat :=
      ⟨inUse.1, by rw [putHot_same, state]; exact inUse.2⟩
    rw [act_advance_last held more]
    refine ⟨(endpoint.slotPool.putHot slotIndex hot.markCompleted).released slotIndex, ?_,
      released_wellFormed marked still, ?_⟩
    · have finishes := onRpcComplete_eq
        { endpoint with slotPool := endpoint.slotPool.putHot slotIndex hot.markCompleted } marked still
      dsimp only at finishes
      rw [putHot_same] at finishes
      simp only [RpcEndpoint.completeWr, setHot_eq wf inUse.1, Option.bind_eq_bind, Option.bind_some, done, if_true,
        finishes]
      rfl
    · rw [ledgerOf, released_holder marked still, holders, Function.update_idem]
      rfl

theorem free_frees {pool next : RpcSlotPool} (freed : pool.free slotIndex = some next) :
    next.frees slotIndex.toNat = pool.frees slotIndex.toNat + 1 := by
  obtain ⟨hot, -, freed⟩ := Option.bind_eq_some_iff.mp freed
  obtain ⟨marked, written, freed⟩ := Option.bind_eq_some_iff.mp freed
  obtain ⟨cells, -, written⟩ := Option.bind_eq_some_iff.mp written
  obtain ⟨stack, -, freed⟩ := Option.bind_eq_some_iff.mp freed
  obtain rfl := Option.some.inj freed
  obtain rfl := Option.some.inj written
  exact Function.update_self ..

/-- A completion that is counted changes the slot pool, whatever the state of the slot. -/
theorem completeWr_changes {next : RpcEndpoint} {calls : List Call}
    (completed : endpoint.completeWr slotIndex (endpoint.slotPool.hot slotIndex.toNat) = some (next, calls)) :
    next.slotPool ≠ endpoint.slotPool := by
  obtain ⟨marked, written, completed⟩ := Option.bind_eq_some_iff.mp completed
  obtain ⟨cells, put, written⟩ := Option.bind_eq_some_iff.mp written
  obtain rfl := Option.some.inj written
  split at completed
  · obtain ⟨context, -, completed⟩ := Option.bind_eq_some_iff.mp completed
    obtain ⟨hot, -, completed⟩ := Option.bind_eq_some_iff.mp completed
    obtain ⟨freed, freeing, completed⟩ := Option.bind_eq_some_iff.mp completed
    obtain ⟨rfl, -⟩ := Prod.mk.inj (Option.some.inj completed)
    intro same
    have bumped := free_frees freeing
    rw [show freed = endpoint.slotPool from same] at bumped
    exact absurd bumped (Nat.ne_of_lt (Nat.lt_succ_self _))
  · obtain ⟨rfl, -⟩ := Prod.mk.inj (Option.some.inj completed)
    intro same
    have kept : cells.cell slotIndex.toNat = endpoint.slotPool.hot slotIndex.toNat :=
      congrArg (fun pool : RpcSlotPool => pool.hot slotIndex.toNat) same
    unfold Cells.write at put
    split at put
    · obtain rfl := Option.some.inj put
      rw [put_same] at kept
      have counted := congrArg (fun hot : RpcSlotHot => hot.completedWrCount.toNat) kept
      simp only [RpcSlotHot.markCompleted, UInt8.toNat_add, UInt8.toNat_one] at counted
      have small := (endpoint.slotPool.hot slotIndex.toNat).completedWrCount.toNat_lt
      omega
    · cases put

/-- The pool after a timeout entry has expired the request in a slot. -/
def expired (pool : RpcSlotPool) (slotIndex : UInt32) : RpcSlotPool :=
  (pool.putHot slotIndex (markTimeout (pool.hot slotIndex.toNat))).released slotIndex

theorem expired_completed (pool : RpcSlotPool) (slotIndex : UInt32) :
    ((expired pool slotIndex).hot slotIndex.toNat).isCompleted = true := by
  rw [expired, released_hot, putHot_same]
  simp [RpcSlotHot.isCompleted, RpcSlotHot.setState, RpcSlotHot.incrementGeneration, markTimeout]

theorem expired_other (pool : RpcSlotPool) {slotIndex : UInt32} {other : Nat} (apart : other ≠ slotIndex.toNat) :
    (expired pool slotIndex).hot other = pool.hot other ∧ (expired pool slotIndex).frees other = pool.frees other :=
  ⟨(released_hot_other _ apart).trans (putHot_other pool apart _), released_frees_other _ apart⟩

theorem timedOut_wellFormed {pool : RpcSlotPool} (wf : WellFormed pool) (inUse : pool.InUse slotIndex.toNat) :
    WellFormed (pool.putHot slotIndex (markTimeout (pool.hot slotIndex.toNat))) ∧
      (pool.putHot slotIndex (markTimeout (pool.hot slotIndex.toNat))).InUse slotIndex.toNat :=
  ⟨putHot_wellFormed wf rfl rfl, inUse.1, by rw [putHot_same]; exact inUse.2⟩

/-- A timeout entry that names a request with completions to come expires it. -/
theorem checkTimeout_acts (wf : WellFormed endpoint.slotPool) (inUse : endpoint.slotPool.InUse slotIndex.toNat)
    {generation : UInt8} (names : endpoint.slotPool.Names slotIndex generation)
    (waiting : (endpoint.slotPool.hot slotIndex.toNat).isCompleted = false) (issued : List Request) :
    endpoint.checkTimeout (slotIndex, generation) =
        some ({ endpoint with slotPool := expired endpoint.slotPool slotIndex },
          ((ledgerOf endpoint.slotPool issued).act (.expire slotIndex)).2, 1) ∧
      WellFormed (expired endpoint.slotPool slotIndex) ∧
      ledgerOf (expired endpoint.slotPool slotIndex) issued =
        ((ledgerOf endpoint.slotPool issued).act (.expire slotIndex)).1 := by
  have held : (ledgerOf endpoint.slotPool issued).holder slotIndex.toNat =
      some (describe (endpoint.slotPool.hot slotIndex.toNat) (endpoint.slotPool.context slotIndex.toNat)) :=
    holderOf_inUse inUse
  obtain ⟨marked, still⟩ := timedOut_wellFormed wf inUse
  rw [act_expire held]
  refine ⟨?_, released_wellFormed marked still, ?_⟩
  · simp only [RpcEndpoint.checkTimeout, getHotChecked_eq wf inUse.1, if_pos names, Option.bind_eq_bind,
      Option.bind_some, waiting, setHot_eq wf inUse.1, getContext_eq marked inUse.1, free_spec marked still,
      Bool.false_eq_true, if_false]
    rfl
  · rw [ledgerOf, expired, released_holder marked still,
      putHot_holder inUse (markTimeout (endpoint.slotPool.hot slotIndex.toNat)) rfl, Function.update_idem]
    rfl

/-- An entry that names no request with completions to come changes nothing. -/
theorem checkTimeout_skips (wf : WellFormed endpoint.slotPool) (inside : slotIndex.toNat < kMaxSlots)
    {generation : UInt8} (skips : endpoint.slotPool.Names slotIndex generation →
      (endpoint.slotPool.hot slotIndex.toNat).isCompleted = true) :
    endpoint.checkTimeout (slotIndex, generation) = some (endpoint, [], 0) := by
  simp only [RpcEndpoint.checkTimeout, getHotChecked_eq wf inside, Option.bind_eq_bind, Option.bind_some]
  by_cases names : endpoint.slotPool.Names slotIndex generation
  · simp [names, skips names]
  · simp [names]

end Events

end Rdma.SlotLedgers
