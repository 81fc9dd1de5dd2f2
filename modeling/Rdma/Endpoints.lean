import Rdma.BufferPools
import Rdma.Connections
import Rdma.SlotPools
import Rdma.TimingWheels

/-!
RPC endpoints (`rpc_endpoint.h`, `rpc_endpoint.cpp`). An operation is `none`
where it indexes outside an array; the callbacks it invokes are its outputs,
in order. A callback is taken not to call into the endpoint that invokes it.
-/
namespace Rdma.Endpoints
open Rdma.Types Rdma.Verbs Rdma.WrIds Rdma.QueuePairs Rdma.Connections Rdma.BufferPools Rdma.TimingWheels Rdma.SlotPools

structure Config where
  timeoutMs : UInt32 := 30000
  maxInlineData : UInt64 := 256
  enableZeroCopyResponse : Bool := true
  deriving DecidableEq, Repr

structure RpcEndpoint where
  conn : Connection
  bufferPool : LocalBufferPool
  timingWheel : TimingWheel
  slotPool : RpcSlotPool
  config : Config

/-- `none` is a null pointer. -/
def create (conn : Option Connection) (bufferPool : Option LocalBufferPool) (timingWheel : Option TimingWheel)
    (config : Config) : Except Status RpcEndpoint :=
  match conn, bufferPool, timingWheel with
  | some conn, some bufferPool, some timingWheel =>
    .ok { conn, bufferPool, timingWheel, slotPool := RpcSlotPool.create, config }
  | _, _, _ => .error (Status.invalidArgument "Invalid parameters")

/-- A call of a callback function. `epoch` is a history variable, not in the source: how often the slot had been
    freed before the call. -/
structure Call where
  callbackFn : Nat
  callbackCtx : Nat
  slotIndex : UInt32
  status : UInt8
  epoch : Nat
  deriving DecidableEq, Repr

/-- The call of the callback of a slot, if it is not null. -/
def invoke (pool : RpcSlotPool) (context : RpcSlotContext) (slotIndex : UInt32) (status : UInt8) : List Call :=
  match context.callbackFn with
  | none => []
  | some callbackFn => [⟨callbackFn, context.callbackCtx, slotIndex, status, pool.frees slotIndex.toNat⟩]

/-! ### Sending -/

/-- Steps 1 to 3, the same in `sendRequest` and `sendRequestSGL`; the inner `none` where no slot is available. -/
def RpcEndpoint.startRequest (endpoint : RpcEndpoint) (callbackCtx : Nat) (callback : Option Nat) :
    Option (Option (UInt32 × UInt8) × RpcEndpoint) := do
  let ((slotIndex, generation), slotPool) ← endpoint.slotPool.allocate
  if slotIndex = 0xFFFFFFFF then some (none, { endpoint with slotPool })
  else
    let hot ← slotPool.getHot slotIndex
    let context ← slotPool.getContext slotIndex
    let slotPool ← slotPool.setHot slotIndex
      { hot.setState kStateInUse with connId := endpoint.conn.connId, totalWrCount := 1, completedWrCount := 0 }
    let slotPool ← slotPool.setContext slotIndex { context with callbackCtx, callbackFn := callback }
    let (_, timingWheel) := endpoint.timingWheel.schedule slotIndex generation endpoint.config.timeoutMs
    some (some (slotIndex, generation), { endpoint with slotPool, timingWheel })

/-- `hot->total_wr_count++` -/
def RpcEndpoint.addWr (endpoint : RpcEndpoint) (slotIndex : UInt32) : Option RpcEndpoint := do
  let hot ← endpoint.slotPool.getHot slotIndex
  let slotPool ← endpoint.slotPool.setHot slotIndex { hot with totalWrCount := hot.totalWrCount + 1 }
  some { endpoint with slotPool }

/-- The immediate value that carries a token. -/
def immOf (slotIndex : UInt32) (generation : UInt8) : UInt32 :=
  generation.toUInt32 <<< 16 ||| (slotIndex &&& (0xFFFF : UInt32))

/-- `header` is the address of `headerLen` bytes. -/
def RpcEndpoint.sendRequest (endpoint : RpcEndpoint) (header headerLen : UInt64) (dataBuf : Option Buffer)
    (callbackCtx : Nat) (callback : Option Nat) : Option (Except Status UInt32 × RpcEndpoint) := do
  let (started, endpoint) ← endpoint.startRequest callbackCtx callback
  match started with
  | none => some (.error (Status.resourceExhausted "No available RPC slots"), endpoint)
  | some (slotIndex, generation) =>
    let wrId := encode endpoint.conn.connId .requestSend generation slotIndex
    let (status, conn) := endpoint.conn.sendInline header headerLen wrId
    let endpoint := { endpoint with conn }
    if !status.ok then
      let slotPool ← endpoint.slotPool.free slotIndex
      some (.error status, { endpoint with slotPool })
    else
      match dataBuf.filter Buffer.isValid with
      | none => some (.ok slotIndex, endpoint)
      | some dataBuf =>
        let endpoint ← endpoint.addWr slotIndex
        let remoteBuf := endpoint.conn.remoteRecvBuffer
        -- a failure is logged only
        let (_, conn) := endpoint.conn.writeWithImm dataBuf remoteBuf.addr remoteBuf.rkey
          (immOf slotIndex generation) wrId
        some (.ok slotIndex, { endpoint with conn })

/-- The inner `none` where the call has not returned after `fuel` rounds of the fragmentation loop. -/
def RpcEndpoint.sendRequestSGL (endpoint : RpcEndpoint) (fuel : Nat) (header headerLen : UInt64) (iov : List Iovec)
    (callbackCtx : Nat) (callback : Option Nat) : Option (Option (Except Status UInt32) × RpcEndpoint) := do
  let (started, endpoint) ← endpoint.startRequest callbackCtx callback
  match started with
  | none => some (some (.error (Status.resourceExhausted "No available RPC slots")), endpoint)
  | some (slotIndex, generation) =>
    let wrId := encode endpoint.conn.connId .requestSend generation slotIndex
    let (status, conn) := endpoint.conn.sendInline header headerLen wrId
    let endpoint := { endpoint with conn }
    if !status.ok then
      let slotPool ← endpoint.slotPool.free slotIndex
      some (some (.error status), { endpoint with slotPool })
    else if iov = [] then some (some (.ok slotIndex), endpoint)
    else
      let endpoint ← endpoint.addWr slotIndex
      -- past the connection, with the bare slot index as base of the ids
      let (status, qp) := endpoint.conn.qp.postSendSGL fuel iov slotIndex.toUInt64 endpoint.conn.connId generation
      let endpoint := { endpoint with conn := { endpoint.conn with qp } }
      match status with
      | none => some (none, endpoint)
      | some _ => some (some (.ok slotIndex), endpoint)

def RpcEndpoint.sendReadResponse (endpoint : RpcEndpoint) (clientSlotIndex : UInt32) (clientGeneration : UInt8)
    (dataBuf : Buffer) (clientBuffer : RemoteMemoryInfo) : Status × RpcEndpoint :=
  let immData := immOf clientSlotIndex clientGeneration
  let (status, conn) := endpoint.conn.writeWithImm dataBuf clientBuffer.addr clientBuffer.rkey (htonl immData) 0
  (status, { endpoint with conn })

/-! ### Completing -/

def RpcEndpoint.onRpcComplete (endpoint : RpcEndpoint) (slotIndex : UInt32) : Option (RpcEndpoint × List Call) := do
  let context ← endpoint.slotPool.getContext slotIndex
  let hot ← endpoint.slotPool.getHot slotIndex
  let slotPool ← endpoint.slotPool.free slotIndex
  some ({ endpoint with slotPool }, invoke endpoint.slotPool context slotIndex hot.errorCode)

/-- What both completion handlers do with a slot whose generation matches. -/
def RpcEndpoint.completeWr (endpoint : RpcEndpoint) (slotIndex : UInt32) (hot : RpcSlotHot) :
    Option (RpcEndpoint × List Call) := do
  let hot := hot.markCompleted
  let slotPool ← endpoint.slotPool.setHot slotIndex hot
  let endpoint := { endpoint with slotPool }
  if hot.isCompleted then endpoint.onRpcComplete slotIndex else some (endpoint, [])

def RpcEndpoint.repostRecvBuffer (endpoint : RpcEndpoint) : Option RpcEndpoint := do
  let (buf, bufferPool) ← endpoint.bufferPool.allocate
  let endpoint := { endpoint with bufferPool }
  if buf.isValid then
    let (_, conn) := endpoint.conn.postRecv buf 0
    some { endpoint with conn }
  else some endpoint

def RpcEndpoint.onSendComplete (endpoint : RpcEndpoint) (wc : Wc) : Option (RpcEndpoint × List Call) := do
  let slotIndex := getSlotIndex wc.wrId
  let generation := getGeneration wc.wrId
  match ← endpoint.slotPool.getHotChecked slotIndex generation with
  | none => some (endpoint, [])
  | some hot => endpoint.completeWr slotIndex hot

def immSlotIndex (wc : Wc) : UInt32 := ntohl wc.immData &&& (0xFFFF : UInt32)
def immGeneration (wc : Wc) : UInt8 := (ntohl wc.immData >>> 16 &&& (0xFF : UInt32)).toUInt8

def RpcEndpoint.onWriteWithImmRecv (endpoint : RpcEndpoint) (wc : Wc) : Option (RpcEndpoint × List Call) := do
  match ← endpoint.slotPool.getHotChecked (immSlotIndex wc) (immGeneration wc) with
  | none => some (endpoint, [])
  | some hot =>
    let (endpoint, calls) ← endpoint.completeWr (immSlotIndex wc) hot
    let endpoint ← endpoint.repostRecvBuffer
    some (endpoint, calls)

/-- "Mark as timeout" -/
def markTimeout (hot : RpcSlotHot) : RpcSlotHot := { hot with errorCode := 1, completedWrCount := hot.totalWrCount }

/-- The body of the loop of `checkTimeouts`; the number is what it adds to the count. -/
def RpcEndpoint.checkTimeout (endpoint : RpcEndpoint) (entry : UInt32 × UInt8) :
    Option (RpcEndpoint × List Call × Nat) := do
  match ← endpoint.slotPool.getHotChecked entry.1 entry.2 with
  | none => some (endpoint, [], 0)
  | some hot =>
    if hot.isCompleted then some (endpoint, [], 0)
    else
      let slotPool ← endpoint.slotPool.setHot entry.1 (markTimeout hot)
      let context ← slotPool.getContext entry.1
      let freed ← slotPool.free entry.1
      some ({ endpoint with slotPool := freed }, invoke slotPool context entry.1 1, 1)

def RpcEndpoint.checkTimeouts (endpoint : RpcEndpoint) :
    List (UInt32 × UInt8) → Option (RpcEndpoint × List Call × Nat)
  | [] => some (endpoint, [], 0)
  | entry :: expired => do
    let (endpoint, now, one) ← endpoint.checkTimeout entry
    let (endpoint, later, count) ← endpoint.checkTimeouts expired
    some (endpoint, now ++ later, one + count)

/-! ### How a send call ends -/

/-- Steps 1 to 3: no slot is available, or one is given, the request is written into it and its timeout is scheduled. -/
inductive Started (endpoint : RpcEndpoint) (callbackCtx : Nat) (callback : Option Nat) :
    Option (UInt32 × UInt8) → RpcEndpoint → Prop
  | exhausted {generation : UInt8} {pool : RpcSlotPool}
      (allocated : endpoint.slotPool.allocate = some ((0xFFFFFFFF, generation), pool)) :
      Started endpoint callbackCtx callback none { endpoint with slotPool := pool }
  | given {slotIndex : UInt32} {generation : UInt8} {pool opened recorded : RpcSlotPool} {hot : RpcSlotHot}
      (named : slotIndex ≠ 0xFFFFFFFF)
      (allocated : endpoint.slotPool.allocate = some ((slotIndex, generation), pool))
      (read : pool.getHot slotIndex = some hot)
      (written : pool.setHot slotIndex
        { hot.setState kStateInUse with connId := endpoint.conn.connId, totalWrCount := 1, completedWrCount := 0 } =
          some opened)
      (recording : opened.setContext slotIndex { callbackCtx, callbackFn := callback } = some recorded) :
      Started endpoint callbackCtx callback (some (slotIndex, generation))
        { endpoint with
          slotPool := recorded
          timingWheel := (endpoint.timingWheel.schedule slotIndex generation endpoint.config.timeoutMs).2 }

/-- The post of the header of a request with the given token. -/
def RpcEndpoint.postHeader (endpoint : RpcEndpoint) (slotIndex : UInt32) (generation : UInt8)
    (header headerLen : UInt64) : Status × Connection :=
  endpoint.conn.sendInline header headerLen (encode endpoint.conn.connId .requestSend generation slotIndex)

/-- What is posted on a connection for the request with a token; the status is `none` where that does not return. -/
abbrev Posting := UInt32 × UInt8 → Connection → Option Status × Connection

/-- The steps of a send call behind steps 1 to 3, which have ended in `started`: no slot was given; the header is not
    posted, and the slot is freed; the header is posted, and `behind` says that nothing follows it, or what. -/
inductive Sending (endpoint started : RpcEndpoint) (header headerLen : UInt64) (behind : Option Posting) :
    Option (UInt32 × UInt8) → Option (Except Status UInt32) → RpcEndpoint → Prop
  | exhausted : Sending endpoint started header headerLen behind none
      (some (.error (Status.resourceExhausted "No available RPC slots"))) started
  | refused {slotIndex : UInt32} {generation : UInt8} {pool : RpcSlotPool}
      (failed : (endpoint.postHeader slotIndex generation header headerLen).1.ok = false)
      (freed : started.slotPool.free slotIndex = some pool) :
      Sending endpoint started header headerLen behind (some (slotIndex, generation))
        (some (.error (endpoint.postHeader slotIndex generation header headerLen).1))
        { started with
          conn := (endpoint.postHeader slotIndex generation header headerLen).2
          slotPool := pool }
  | alone {slotIndex : UInt32} {generation : UInt8}
      (posted : (endpoint.postHeader slotIndex generation header headerLen).1.ok = true) (nothing : behind = none) :
      Sending endpoint started header headerLen behind (some (slotIndex, generation)) (some (.ok slotIndex))
        { started with conn := (endpoint.postHeader slotIndex generation header headerLen).2 }
  | followed {slotIndex : UInt32} {generation : UInt8} {post : Posting} {hot : RpcSlotHot} {pool : RpcSlotPool}
      {returned : Option (Except Status UInt32)}
      (posted : (endpoint.postHeader slotIndex generation header headerLen).1.ok = true) (more : behind = some post)
      (read : started.slotPool.getHot slotIndex = some hot)
      (written : started.slotPool.setHot slotIndex { hot with totalWrCount := hot.totalWrCount + 1 } = some pool)
      (returns : returned =
        (post (slotIndex, generation) (endpoint.postHeader slotIndex generation header headerLen).2).1.map
          fun _ => .ok slotIndex) :
      Sending endpoint started header headerLen behind (some (slotIndex, generation)) returned
        { started with
          conn := (post (slotIndex, generation) (endpoint.postHeader slotIndex generation header headerLen).2).2
          slotPool := pool }

/-- The data that `sendRequest` posts behind the header. -/
def dataBehind (connId : UInt16) (dataBuf : Option Buffer) : Option Posting :=
  (dataBuf.filter Buffer.isValid).map fun dataBuf token conn =>
    (conn.writeWithImm dataBuf conn.remoteRecvBuffer.addr conn.remoteRecvBuffer.rkey (immOf token.1 token.2)
      (encode connId .requestSend token.2 token.1)).map some id

/-- The segments that `sendRequestSGL` posts behind the header. -/
def segmentsBehind (fuel : Nat) (iov : List Iovec) : Option Posting :=
  if iov = [] then none
  else some fun token conn =>
    (conn.qp.postSendSGL fuel iov token.1.toUInt64 conn.connId token.2).map id fun qp => { conn with qp }

theorem segmentsBehind_none {fuel : Nat} {iov : List Iovec} : segmentsBehind fuel iov = none ↔ iov = [] := by
  unfold segmentsBehind
  split <;> simp [*]

theorem segmentsBehind_some {fuel : Nat} {iov : List Iovec} {post : Posting}
    (more : segmentsBehind fuel iov = some post) :
    iov ≠ [] ∧ post = fun token conn =>
      (conn.qp.postSendSGL fuel iov token.1.toUInt64 conn.connId token.2).map id fun qp => { conn with qp } := by
  unfold segmentsBehind at more
  split at more
  · cases more
  · rename_i segments
    exact ⟨segments, (Option.some.inj more).symm⟩

section Inversion
variable {endpoint started next : RpcEndpoint} {calls : List Call} {slotIndex : UInt32} {generation : UInt8}
  {header headerLen : UInt64} {dataBuf : Option Buffer} {fuel : Nat} {iov : List Iovec} {callbackCtx : Nat}
  {callback : Option Nat} {token : Option (UInt32 × UInt8)} {behind : Option Posting}
  {returned : Option (Except Status UInt32)}

theorem startRequest_inv (starting : endpoint.startRequest callbackCtx callback = some (token, started)) :
    Started endpoint callbackCtx callback token started := by
  obtain ⟨⟨⟨index, gen⟩, pool⟩, allocated, starting⟩ := Option.bind_eq_some_iff.mp starting
  dsimp only at starting
  split at starting
  · rename_i exhausted
    obtain ⟨rfl, rfl⟩ := Prod.mk.inj (Option.some.inj starting)
    rw [exhausted] at allocated
    exact .exhausted allocated
  · rename_i named
    obtain ⟨hot, read, starting⟩ := Option.bind_eq_some_iff.mp starting
    obtain ⟨context, -, starting⟩ := Option.bind_eq_some_iff.mp starting
    obtain ⟨opened, written, starting⟩ := Option.bind_eq_some_iff.mp starting
    obtain ⟨recorded, recording, starting⟩ := Option.bind_eq_some_iff.mp starting
    obtain ⟨rfl, rfl⟩ := Prod.mk.inj (Option.some.inj starting)
    exact .given named allocated read written recording

theorem Started.conn (starts : Started endpoint callbackCtx callback token started) :
    started.conn = endpoint.conn := by
  cases starts with
  | exhausted => rfl
  | given => rfl

theorem Started.token_eq (starts : Started endpoint callbackCtx callback token started) (named : slotIndex ≠ 0xFFFFFFFF)
    {pool : RpcSlotPool} (allocated : endpoint.slotPool.allocate = some ((slotIndex, generation), pool)) :
    token = some (slotIndex, generation) := by
  cases starts with
  | exhausted same =>
    obtain ⟨rfl, -⟩ := Prod.mk.inj (Prod.mk.inj (Option.some.inj (allocated.symm.trans same))).1
    exact absurd rfl named
  | given named same => rw [(Prod.mk.inj (Option.some.inj (allocated.symm.trans same))).1]

theorem Started.sized (starts : Started endpoint callbackCtx callback token started) (sized : endpoint.slotPool.Sized) :
    started.slotPool.Sized := by
  cases starts with
  | exhausted allocated => exact allocate_sized allocated sized
  | given _ allocated _ written recording =>
    exact setContext_sized recording (setHot_sized written (allocate_sized allocated sized))

/-- A request starts with one work request to wait for, and does not change the generation of its slot. -/
theorem Started.hot (starts : Started endpoint callbackCtx callback (some (slotIndex, generation)) started) :
    generation = (endpoint.slotPool.hot slotIndex.toNat).getGeneration.toUInt8 ∧
      (started.slotPool.hot slotIndex.toNat).getGeneration = (endpoint.slotPool.hot slotIndex.toNat).getGeneration ∧
      (started.slotPool.hot slotIndex.toNat).totalWrCount = 1 := by
  cases starts with
  | given named allocated read written recording =>
    have opened := (setContext_hot recording slotIndex.toNat).trans (setHot_hot written)
    dsimp only
    rw [opened]
    cases allocate_inv allocated with
    | empty => exact absurd rfl named
    | taken _ _ marking =>
      have before := (Arrays.read_some read).2.symm.trans (setHot_hot marking)
      rw [before]
      exact ⟨rfl, rfl, rfl⟩

theorem addWr_inv (added : endpoint.addWr slotIndex = some next) : ∃ hot pool,
    endpoint.slotPool.getHot slotIndex = some hot ∧
      endpoint.slotPool.setHot slotIndex { hot with totalWrCount := hot.totalWrCount + 1 } = some pool ∧
      next = { endpoint with slotPool := pool } := by
  obtain ⟨hot, read, added⟩ := Option.bind_eq_some_iff.mp added
  obtain ⟨pool, written, added⟩ := Option.bind_eq_some_iff.mp added
  exact ⟨hot, pool, read, written, (Option.some.inj added).symm⟩

theorem sendRequest_inv {result : Except Status UInt32}
    (sent : endpoint.sendRequest header headerLen dataBuf callbackCtx callback = some (result, next)) :
    ∃ token started, Started endpoint callbackCtx callback token started ∧
      Sending endpoint started header headerLen (dataBehind endpoint.conn.connId dataBuf) token (some result) next := by
  obtain ⟨⟨token, started⟩, starting, sent⟩ := Option.bind_eq_some_iff.mp sent
  have starts := startRequest_inv starting
  refine ⟨token, started, starts, ?_⟩
  dsimp only at sent
  rw [starts.conn] at sent
  split at sent
  · obtain ⟨rfl, rfl⟩ := Prod.mk.inj (Option.some.inj sent)
    exact .exhausted
  · rename_i slotIndex generation
    change (if !(endpoint.postHeader slotIndex generation header headerLen).1.ok then _ else _) = _ at sent
    split at sent
    · rename_i failed
      obtain ⟨freed, freeing, sent⟩ := Option.bind_eq_some_iff.mp sent
      obtain ⟨rfl, rfl⟩ := Prod.mk.inj (Option.some.inj sent)
      rw [Bool.not_eq_true'] at failed
      exact .refused failed freeing
    · rename_i posted
      rw [Bool.not_eq_true, Bool.not_eq_false'] at posted
      split at sent
      · rename_i none_valid
        obtain ⟨rfl, rfl⟩ := Prod.mk.inj (Option.some.inj sent)
        exact .alone posted (congrArg (Option.map _) none_valid)
      · rename_i valid
        obtain ⟨counted, adding, sent⟩ := Option.bind_eq_some_iff.mp sent
        obtain ⟨hot, pool, read, written, rfl⟩ := addWr_inv adding
        obtain ⟨rfl, rfl⟩ := Prod.mk.inj (Option.some.inj sent)
        exact .followed posted (congrArg (Option.map _) valid) read written rfl

theorem sendRequestSGL_inv
    (sent : endpoint.sendRequestSGL fuel header headerLen iov callbackCtx callback = some (returned, next)) :
    ∃ token started, Started endpoint callbackCtx callback token started ∧
      Sending endpoint started header headerLen (segmentsBehind fuel iov) token returned next := by
  obtain ⟨⟨token, started⟩, starting, sent⟩ := Option.bind_eq_some_iff.mp sent
  have starts := startRequest_inv starting
  refine ⟨token, started, starts, ?_⟩
  dsimp only at sent
  rw [starts.conn] at sent
  split at sent
  · obtain ⟨rfl, rfl⟩ := Prod.mk.inj (Option.some.inj sent)
    exact .exhausted
  · rename_i slotIndex generation
    change (if !(endpoint.postHeader slotIndex generation header headerLen).1.ok then _ else _) = _ at sent
    split at sent
    · rename_i failed
      obtain ⟨freed, freeing, sent⟩ := Option.bind_eq_some_iff.mp sent
      obtain ⟨rfl, rfl⟩ := Prod.mk.inj (Option.some.inj sent)
      rw [Bool.not_eq_true'] at failed
      exact .refused failed freeing
    · rename_i posted
      rw [Bool.not_eq_true, Bool.not_eq_false'] at posted
      split at sent
      · rename_i empty
        obtain ⟨rfl, rfl⟩ := Prod.mk.inj (Option.some.inj sent)
        exact .alone posted (if_pos empty)
      · rename_i segments
        obtain ⟨counted, adding, sent⟩ := Option.bind_eq_some_iff.mp sent
        obtain ⟨hot, pool, read, written, rfl⟩ := addWr_inv adding
        let accepted : Status → Except Status UInt32 := fun _ => .ok slotIndex
        split at sent
        · rename_i looping
          obtain ⟨rfl, rfl⟩ := Prod.mk.inj (Option.some.inj sent)
          exact .followed posted (if_neg segments) read written (congrArg (Option.map accepted) looping).symm
        · rename_i status answered
          obtain ⟨rfl, rfl⟩ := Prod.mk.inj (Option.some.inj sent)
          exact .followed posted (if_neg segments) read written (congrArg (Option.map accepted) answered).symm

theorem Sending.sized (ends : Sending endpoint started header headerLen behind token returned next)
    (sized : started.slotPool.Sized) : next.slotPool.Sized := by
  cases ends with
  | exhausted => exact sized
  | refused _ freed => exact free_sized freed sized
  | alone => exact sized
  | followed _ _ _ written => exact setHot_sized written sized

/-- The wheel after the call of `Schedule` for a token, which is made if there is one. -/
def RpcEndpoint.wheelAfter (endpoint : RpcEndpoint) : Option (UInt32 × UInt8) → TimingWheel
  | none => endpoint.timingWheel
  | some (slotIndex, generation) =>
    (endpoint.timingWheel.schedule slotIndex generation endpoint.config.timeoutMs).2

theorem Started.wheel (starts : Started endpoint callbackCtx callback token started) :
    started.timingWheel = endpoint.wheelAfter token := by
  cases starts with
  | exhausted => rfl
  | given => rfl

theorem Sending.wheel (ends : Sending endpoint started header headerLen behind token returned next) :
    next.timingWheel = started.timingWheel := by
  cases ends with
  | exhausted => rfl
  | refused => rfl
  | alone => rfl
  | followed => rfl

/-! ### What the other calls leave alone -/

/-- Only the slot pool is changed, and its arrays keep their sizes. -/
structure OnPool (endpoint next : RpcEndpoint) : Prop where
  frame : next = { endpoint with slotPool := next.slotPool }
  sized : endpoint.slotPool.Sized → next.slotPool.Sized

theorem OnPool.refl (endpoint : RpcEndpoint) : OnPool endpoint endpoint := ⟨rfl, id⟩

theorem OnPool.trans {middle : RpcEndpoint} (first : OnPool endpoint middle) (second : OnPool middle next) :
    OnPool endpoint next := by
  refine ⟨?_, fun sized => second.sized (first.sized sized)⟩
  rw [second.frame, first.frame]

theorem completeWr_onPool {hot : RpcSlotHot} (completed : endpoint.completeWr slotIndex hot = some (next, calls)) :
    OnPool endpoint next := by
  obtain ⟨marked, written, completed⟩ := Option.bind_eq_some_iff.mp completed
  split at completed
  · obtain ⟨context, -, completed⟩ := Option.bind_eq_some_iff.mp completed
    obtain ⟨finished, -, completed⟩ := Option.bind_eq_some_iff.mp completed
    obtain ⟨freed, freeing, completed⟩ := Option.bind_eq_some_iff.mp completed
    obtain ⟨rfl, -⟩ := Prod.mk.inj (Option.some.inj completed)
    exact ⟨rfl, fun sized => free_sized freeing (setHot_sized written sized)⟩
  · obtain ⟨rfl, -⟩ := Prod.mk.inj (Option.some.inj completed)
    exact ⟨rfl, setHot_sized written⟩

theorem onSendComplete_onPool {wc : Wc} (handled : endpoint.onSendComplete wc = some (next, calls)) :
    OnPool endpoint next := by
  obtain ⟨checked, -, handled⟩ := Option.bind_eq_some_iff.mp handled
  split at handled
  · obtain ⟨rfl, -⟩ := Prod.mk.inj (Option.some.inj handled)
    exact .refl endpoint
  · exact completeWr_onPool handled

theorem checkTimeout_onPool {entry : UInt32 × UInt8} {count : Nat}
    (checked : endpoint.checkTimeout entry = some (next, calls, count)) : OnPool endpoint next := by
  obtain ⟨named, -, checked⟩ := Option.bind_eq_some_iff.mp checked
  split at checked
  · obtain ⟨rfl, -⟩ := Prod.mk.inj (Option.some.inj checked)
    exact .refl endpoint
  · split at checked
    · obtain ⟨rfl, -⟩ := Prod.mk.inj (Option.some.inj checked)
      exact .refl endpoint
    · obtain ⟨marked, written, checked⟩ := Option.bind_eq_some_iff.mp checked
      obtain ⟨context, -, checked⟩ := Option.bind_eq_some_iff.mp checked
      obtain ⟨freed, freeing, checked⟩ := Option.bind_eq_some_iff.mp checked
      obtain ⟨rfl, -⟩ := Prod.mk.inj (Option.some.inj checked)
      exact ⟨rfl, fun sized => free_sized freeing (setHot_sized written sized)⟩

theorem checkTimeouts_onPool {expired : List (UInt32 × UInt8)} {count : Nat}
    (checked : endpoint.checkTimeouts expired = some (next, calls, count)) : OnPool endpoint next := by
  induction expired generalizing endpoint calls count with
  | nil =>
    obtain ⟨rfl, -⟩ := Prod.mk.inj (Option.some.inj checked)
    exact .refl endpoint
  | cons entry expired ih =>
    obtain ⟨⟨middle, now, one⟩, first, checked⟩ := Option.bind_eq_some_iff.mp checked
    obtain ⟨⟨last, later, more⟩, rest, checked⟩ := Option.bind_eq_some_iff.mp checked
    obtain ⟨rfl, -⟩ := Prod.mk.inj (Option.some.inj checked)
    exact (checkTimeout_onPool first).trans (ih rest)

/-- Reposting a receive buffer allocates a buffer and posts it, if it is valid. -/
theorem repostRecvBuffer_inv (reposted : endpoint.repostRecvBuffer = some next) :
    ∃ buf bufferPool, endpoint.bufferPool.allocate = some (buf, bufferPool) ∧
      next = { endpoint with
        bufferPool
        conn := if buf.isValid then (endpoint.conn.postRecv buf 0).2 else endpoint.conn } := by
  obtain ⟨⟨buf, bufferPool⟩, allocated, reposted⟩ := Option.bind_eq_some_iff.mp reposted
  refine ⟨buf, bufferPool, allocated, ?_⟩
  dsimp only at reposted
  split at reposted
  · rename_i valid
    obtain rfl := Option.some.inj reposted
    rw [if_pos valid]
  · rename_i invalid
    obtain rfl := Option.some.inj reposted
    rw [if_neg invalid]

theorem repostRecvBuffer_pool (reposted : endpoint.repostRecvBuffer = some next) :
    next.slotPool = endpoint.slotPool := by
  obtain ⟨buf, bufferPool, -, rfl⟩ := repostRecvBuffer_inv reposted
  rfl

/-- An immediate leaves the endpoint alone or counts for its slot and reposts a receive buffer. -/
theorem onWriteWithImmRecv_inv {wc : Wc} (handled : endpoint.onWriteWithImmRecv wc = some (next, calls)) :
    next = endpoint ∨ ∃ counted : RpcEndpoint, OnPool endpoint counted ∧ counted.repostRecvBuffer = some next := by
  obtain ⟨checked, -, handled⟩ := Option.bind_eq_some_iff.mp handled
  split at handled
  · obtain ⟨rfl, -⟩ := Prod.mk.inj (Option.some.inj handled)
    exact .inl rfl
  · obtain ⟨⟨counted, called⟩, completed, handled⟩ := Option.bind_eq_some_iff.mp handled
    obtain ⟨reposted, reposting, handled⟩ := Option.bind_eq_some_iff.mp handled
    obtain ⟨rfl, -⟩ := Prod.mk.inj (Option.some.inj handled)
    exact .inr ⟨counted, completeWr_onPool completed, reposting⟩

end Inversion

end Rdma.Endpoints
