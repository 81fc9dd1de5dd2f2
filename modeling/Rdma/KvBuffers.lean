import Rdma.FiniteMaps
import Rdma.KvMaps
import Rdma.KvServers
import Rdma.Receives
import Rdma.Runs

/-!
The buffers of the key-value server while its queue pairs work. A `System` is the
server with the sends and the receives that the devices accepted and have not
completed; a completed receive brings a request, and a completed send that was
posted signaled brings a completion to the server. `Sound` says where each buffer
of the pool is: free, posted as a receive, tracked for a send, or lost.
`step_possible` says which steps can be taken and `step_cases` what they do with
the buffers.
-/
namespace Rdma.KvBuffers
open Rdma.Types Rdma.Verbs Rdma.WrIds Rdma.QueuePairs Rdma.Connections Rdma.Receives Rdma.FiniteMaps
open Rdma.KvProtocols Rdma.KvStores Rdma.KvServers

/-- What a response answers: the GETs and the PUTs of a connection are each numbered, malformed
requests are not. -/
inductive Request
  | get (number : UInt64)
  | put (number : UInt64)
  | malformed
  deriving DecidableEq, Repr

def Request.number : Request → UInt64
  | .get number => number
  | .put number => number
  | .malformed => 0

/-- The request that a response of the connection answers next. -/
def requestOf (ctx : ConnectionContext) (data : Nat → UInt8) : Request :=
  if (RequestHeader.read data).opType = OpType.get.value then .get ctx.getsProcessed
  else if (RequestHeader.read data).opType = OpType.put.value then .put ctx.putsProcessed
  else .malformed

def sendId (connId : UInt16) (request : Request) : UInt64 :=
  encode connId .requestSend 0 (request.number &&& 0xFFFFFFFF).toUInt32

def recvId (connId : UInt16) (buf : Buffer) : UInt64 := encode connId .recv 0 (buf.addr &&& 0xFFFFFFFF).toUInt32

/-- A response that was posted and is not completed. -/
structure InFlight where
  connId : UInt16
  wr : SendWr
  request : Request
  deriving DecidableEq, Repr

structure System where
  server : KVServer
  sends : List InFlight
  receives : List (UInt16 × RecvWr)

inductive Event
  | accept (connId : UInt16) (config : QueuePairConfig) (sendAnswer recvAnswer : Nat → Option Int)
  | request (connId : UInt16) (data : Nat → UInt8) (byteLen : UInt32)
  | sent (index : Nat)

/-- The sends and the receives that the device accepted between two states of a connection. -/
def newSends (before after : ConnectionContext) : List SendWr :=
  ((handed before.conn.qp after.conn.qp).filter (·.2)).map (·.1)

def newReceives (before after : ConnectionContext) : List RecvWr :=
  (accepted after.conn.qp.device).drop (accepted before.conn.qp.device).length

/-- A connection that has just been established. -/
def established (connId : UInt16) (config : QueuePairConfig) (sendAnswer recvAnswer : Nat → Option Int) :
    ConnectionContext :=
  { conn := { connId, state := .connected, qp := { config, device := ⟨sendAnswer, recvAnswer, [], []⟩ } } }

/-- The end of `AcceptConnections`. -/
def System.accept (sys : System) (ctx : ConnectionContext) : System :=
  let (server, after) := sys.server.postRecvBuffers ctx 32
  { sys with
    server := server.withContext ctx.conn.connId after
    receives := sys.receives ++ (newReceives ctx after).map (ctx.conn.connId, ·) }

/-- The connection's first posted receive completes with the bytes of a request. -/
def System.request (sys : System) (connId : UInt16) (data : Nat → UInt8) (byteLen : UInt32) : Option System := do
  let ctx ← sys.server.connContexts connId
  let receive ← sys.receives.find? (·.1 = connId)
  let server ← sys.server.handleCompletion { wrId := receive.2.wrId, byteLen } data
  let after ← server.connContexts connId
  some {
    server
    sends := sys.sends ++ (newSends ctx after).map fun wr => ⟨connId, wr, requestOf ctx data⟩
    receives := sys.receives.erase receive ++ (newReceives ctx after).map (connId, ·) }

/-- A send completes; a signaled one has a completion. -/
def System.sent (sys : System) (index : Nat) : Option System := do
  let send ← sys.sends[index]?
  let server ← if send.wr.signaled then sys.server.handleCompletion { wrId := send.wr.wrId } (fun _ => 0)
    else some sys.server
  some { sys with server, sends := sys.sends.eraseIdx index }

def step (sys : System) : Event → Option (System × List Unit)
  | .accept connId config sendAnswer recvAnswer =>
    if (sys.server.connContexts connId).isSome then none
    else some (sys.accept (established connId config sendAnswer recvAnswer), [])
  | .request connId data byteLen => (sys.request connId data byteLen).map (·, [])
  | .sent index => (sys.sent index).map (·, [])

/-- The server after `Initialize`, over a pool of buffers. -/
def System.new (store : KVStore) (all : List Buffer) : System :=
  ⟨⟨store, all, fun _ => none, fun _ => none, fun _ => none, fun _ => none⟩, [], []⟩

/-! ### Where the buffers are -/

/-- What the pool hands out: whole buffers of the configured size, told apart by the low half of their addresses. -/
structure Pool (all : List Buffer) : Prop where
  valid : ∀ buf ∈ all, buf.isValid = true
  sized : ∀ buf ∈ all, buf.length = MAX_REQUEST_SIZE.toUInt64
  apart : (all.map fun buf => (buf.addr &&& 0xFFFFFFFF).toUInt32).Nodup

theorem Pool.same {all : List Buffer} (pool : Pool all) {buf other : Buffer} (member : buf ∈ all) (there : other ∈ all)
    (low : (buf.addr &&& 0xFFFFFFFF).toUInt32 = (other.addr &&& 0xFFFFFFFF).toUInt32) : buf = other :=
  List.inj_on_of_nodup_map pool.apart member there low

/-- Each buffer of the pool is in one place: in the hands of the code that runs, free, posted as a receive,
tracked for a send, or lost. -/
structure Sound (all : List Buffer) (server : KVServer) (posted : List (UInt16 × Buffer))
    (entries : List (UInt64 × Buffer)) (lost hand : List Buffer) : Prop where
  shared : (hand ++ (server.freeBuffers ++ (posted.map (·.2) ++ (entries.map (·.2) ++ lost)))).Perm all
  tracked : Listed server.postedSendBuffers entries
  received : ∀ item ∈ posted, server.postedRecvBuffers (recvId item.1 item.2) = some ⟨item.2, item.1⟩

section Moves
variable {all : List Buffer} {server : KVServer} {posted : List (UInt16 × Buffer)} {entries : List (UInt64 × Buffer)}
  {lost hand : List Buffer} {buf : Buffer}

theorem recvId_inj {connId other : UInt16} {buf copy : Buffer} (same : recvId connId buf = recvId other copy) :
    connId = other ∧ (buf.addr &&& 0xFFFFFFFF).toUInt32 = (copy.addr &&& 0xFFFFFFFF).toUInt32 := by
  constructor
  · have ids := congrArg getConnId same
    rwa [recvId, recvId, getConnId_encode, getConnId_encode] at ids
  · have slots := congrArg getSlotIndex same
    rwa [recvId, recvId, getSlotIndex_encode, getSlotIndex_encode] at slots

theorem Sound.nodup (pool : Pool all) (sound : Sound all server posted entries lost hand) :
    (hand ++ (server.freeBuffers ++ (posted.map (·.2) ++ (entries.map (·.2) ++ lost)))).Nodup :=
  sound.shared.nodup_iff.mpr pool.apart.of_map

theorem Sound.posted_mem (sound : Sound all server posted entries lost hand) {item : UInt16 × Buffer}
    (listed : item ∈ posted) : item.2 ∈ all := by
  have placed : item.2 ∈ posted.map (·.2) := List.mem_map_of_mem listed
  exact sound.shared.mem_iff.mp (by simp [placed])

theorem Sound.withStore (sound : Sound all server posted entries lost hand) (store : KVStore) :
    Sound all { server with store := store } posted entries lost hand := ⟨sound.shared, sound.tracked, sound.received⟩

/-- A buffer is taken out of the free ones. -/
theorem Sound.allocate (sound : Sound all server posted entries lost hand) {rest : List Buffer}
    (free : server.freeBuffers = buf :: rest) :
    Sound all { server with freeBuffers := rest } posted entries lost (buf :: hand) := by
  refine ⟨List.Perm.trans ?_ sound.shared, sound.tracked, sound.received⟩
  rw [free]
  exact List.perm_middle.symm

theorem Sound.free (sound : Sound all server posted entries lost (buf :: hand)) :
    Sound all (server.free buf) posted entries lost hand := by
  refine ⟨List.Perm.trans ?_ sound.shared, sound.tracked, sound.received⟩
  rw [KVServer.free, List.append_assoc]
  refine List.Perm.trans (List.Perm.append_left hand ?_) List.perm_middle
  exact List.perm_middle

/-- A response buffer is tracked; the entry it replaces, if there is one, is lost. -/
theorem Sound.track (sound : Sound all server posted entries lost (buf :: hand)) (wrId : UInt64)
    (written : UInt64 → Option Response) :
    ∃ entries', Sound all { server with
        written := written, postedSendBuffers := Function.update server.postedSendBuffers wrId (some buf) }
      posted entries' ((server.postedSendBuffers wrId).toList ++ lost) hand ∧
      (server.postedSendBuffers wrId = none → entries' = (wrId, buf) :: entries) := by
  cases found : server.postedSendBuffers wrId with
  | none =>
    refine ⟨(wrId, buf) :: entries, ⟨List.Perm.trans ?_ sound.shared, sound.tracked.insert found buf,
      sound.received⟩, fun _ => rfl⟩
    refine List.perm_iff_count.mpr fun one => ?_
    simp only [Option.toList_none, List.nil_append, List.count_append, List.map_cons, List.count_cons, List.cons_append]
    omega
  | some old =>
    refine ⟨(wrId, buf) :: entries.erase (wrId, old), ⟨List.Perm.trans ?_ sound.shared,
      sound.tracked.replace found buf, sound.received⟩, fun missing => by cases missing⟩
    have swapped := ((List.perm_cons_erase (sound.tracked.entry.mp found)).map (·.2)).count_eq
    refine List.perm_iff_count.mpr fun one => ?_
    have here := swapped one
    simp only [Option.toList_some, List.nil_append, List.count_append, List.map_cons, List.count_cons,
      List.cons_append] at here ⊢
    omega

/-- The completion of a tracked send brings its entry's buffer back. -/
theorem Sound.untrack (sound : Sound all server posted entries lost hand) {wrId : UInt64}
    (held : server.postedSendBuffers wrId = some buf) :
    Sound all { server with postedSendBuffers := Function.update server.postedSendBuffers wrId none } posted
      (entries.erase (wrId, buf)) lost (buf :: hand) := by
  refine ⟨List.Perm.trans ?_ sound.shared, sound.tracked.erase held, sound.received⟩
  have swapped := ((List.perm_cons_erase (sound.tracked.entry.mp held)).map (·.2)).count_eq
  refine List.perm_iff_count.mpr fun one => ?_
  have here := swapped one
  simp only [List.count_append, List.map_cons, List.count_cons, List.cons_append] at here ⊢
  omega

/-- A receive is tracked and posted; if the device rejects it the buffer is lost. -/
theorem Sound.post (pool : Pool all) (sound : Sound all server posted entries lost (buf :: hand)) (connId : UInt16)
    (accepted : Bool) :
    Sound all { server with
        postedRecvBuffers := Function.update server.postedRecvBuffers (recvId connId buf) (some ⟨buf, connId⟩) }
      (posted ++ if accepted then [(connId, buf)] else []) entries (if accepted then lost else buf :: lost) hand := by
  have mine : buf ∈ all := sound.shared.mem_iff.mp (by simp)
  have others : ∀ item ∈ posted, recvId item.1 item.2 ≠ recvId connId buf := by
    intro item listed same
    have placed : item.2 ∈ posted.map (·.2) := List.mem_map_of_mem listed
    have twice := pool.same (sound.posted_mem listed) mine (recvId_inj same).2
    have fresh := (List.nodup_cons.mp (sound.nodup pool)).1
    exact fresh (by simp [← twice, placed])
  refine ⟨List.Perm.trans ?_ sound.shared, sound.tracked, ?_⟩
  · refine List.perm_iff_count.mpr fun one => ?_
    cases accepted
    · simp only [List.count_append, List.map_append, List.map_nil, List.count_cons, List.count_nil, List.cons_append,
        Bool.false_eq_true, if_false]
      omega
    · simp only [List.count_append, List.map_append, List.map_cons, List.map_nil, List.count_cons, List.count_nil,
        List.cons_append, if_true]
      omega
  · intro item listed
    dsimp only
    rcases List.mem_append.mp listed with old | new
    · rw [Function.update_of_ne (others item old)]
      exact sound.received item old
    · cases accepted
      · exact absurd new List.not_mem_nil
      · obtain rfl := List.mem_singleton.mp new
        rw [Function.update_self]

/-- The server after it erased the entry of a completed receive. -/
def taken (server : KVServer) (connId : UInt16) (buf : Buffer) : KVServer :=
  { server with postedRecvBuffers := Function.update server.postedRecvBuffers (recvId connId buf) none }

/-- A completed receive hands its buffer to the server. -/
theorem Sound.receive (pool : Pool all) (sound : Sound all server posted entries lost hand) {connId : UInt16}
    (listed : (connId, buf) ∈ posted) :
    Sound all (taken server connId buf) (posted.erase (connId, buf)) entries lost (buf :: hand) := by
  have perm := List.perm_cons_erase listed
  have counts := (perm.map (·.2)).count_eq
  have bufs : (posted.map (·.2)).Nodup :=
    ((List.nodup_append.mp (List.nodup_append.mp (List.nodup_append.mp (sound.nodup pool)).2.1).2.1)).1
  have gone := (List.nodup_cons.mp ((perm.map (·.2)).nodup_iff.mp bufs)).1
  refine ⟨List.Perm.trans ?_ sound.shared, sound.tracked, ?_⟩
  · refine List.perm_iff_count.mpr fun one => ?_
    have here := counts one
    simp only [taken, List.count_append, List.map_cons, List.count_cons, List.cons_append] at here ⊢
    omega
  · intro item left
    have before := List.mem_of_mem_erase left
    have mine : buf ∈ all := sound.posted_mem listed
    have theirs : item.2 ∈ all := sound.posted_mem before
    have apart : recvId item.1 item.2 ≠ recvId connId buf := by
      intro same
      have twice := pool.same theirs mine (recvId_inj same).2
      exact gone (List.mem_map.mpr ⟨item, left, twice⟩)
    rw [taken]
    dsimp only
    rw [Function.update_of_ne apart]
    exact sound.received item before

/-! ### Posting receives -/

def recvWr (connId : UInt16) (buf : Buffer) : RecvWr := ⟨recvId connId buf, [sgeOf buf]⟩

/-- The context after receives were handed to the device. -/
def received (ctx : ConnectionContext) (recvs : List (RecvWr × Bool)) : ConnectionContext :=
  { ctx with conn := { ctx.conn with qp := { ctx.conn.qp with
    device := { ctx.conn.qp.device with recvs := ctx.conn.qp.device.recvs ++ recvs } } } }

theorem received_nil (ctx : ConnectionContext) : received ctx [] = ctx := by simp [received]

theorem received_received (ctx : ConnectionContext) (first second : List (RecvWr × Bool)) :
    received (received ctx first) second = received ctx (first ++ second) := by simp [received]

theorem newReceives_received (ctx : ConnectionContext) (recvs : List (RecvWr × Bool)) :
    newReceives ctx (received ctx recvs) = (recvs.filter (·.2)).map (·.1) := by
  simp [newReceives, received, accepted]

/-- The device accepts the next receive. -/
def recvAccepted (ctx : ConnectionContext) : Bool :=
  (ctx.conn.qp.device.recvAnswer ctx.conn.qp.device.recvs.length).isNone

theorem postRecv_received (ctx : ConnectionContext) (buf : Buffer) :
    { ctx with conn := (ctx.conn.postRecv buf (recvId ctx.conn.connId buf)).2 } =
      received ctx [(recvWr ctx.conn.connId buf, recvAccepted ctx)] := by
  rw [postRecv_conn]
  rfl

/-- The device accepts the next `count` receives. -/
def RecvsAccepted (ctx : ConnectionContext) (count : Nat) : Prop :=
  ∀ i < count, ctx.conn.qp.device.recvAnswer (ctx.conn.qp.device.recvs.length + i) = none

theorem recvsAccepted_succ {ctx : ConnectionContext} {count : Nat} (recv : RecvWr × Bool) :
    RecvsAccepted ctx (count + 1) ↔ recvAccepted ctx = true ∧ RecvsAccepted (received ctx [recv]) count := by
  have next : ∀ i, (received ctx [recv]).conn.qp.device.recvs.length + i = ctx.conn.qp.device.recvs.length + (i + 1) := by
    intro i
    simp [received]
    omega
  constructor
  · intro accepts
    refine ⟨Option.isNone_iff_eq_none.mpr (accepts 0 (Nat.succ_pos count)), fun i below => ?_⟩
    rw [next]
    exact accepts (i + 1) (Nat.succ_lt_succ below)
  · rintro ⟨first, later⟩ i below
    cases i with
    | zero => exact Option.isNone_iff_eq_none.mp first
    | succ i =>
      have accepts := later i (Nat.lt_of_succ_lt_succ below)
      rwa [next] at accepts

/-- Without a free buffer no receive is posted. -/
theorem postRecvBuffers_empty (free : server.freeBuffers = []) (ctx : ConnectionContext) (count : Nat) :
    server.postRecvBuffers ctx (count + 1) = server.postRecvBuffers ctx count := by
  have unfilled : server.allocate = (.empty, server) := by rw [KVServer.allocate, free]
  rw [KVServer.postRecvBuffers, unfilled]
  rfl

theorem postRecvBuffers_next {rest : List Buffer} (free : server.freeBuffers = buf :: rest) (valid : buf.isValid = true)
    (ctx : ConnectionContext) (count : Nat) : server.postRecvBuffers ctx (count + 1) =
      KVServer.postRecvBuffers { server with
        freeBuffers := rest
        postedRecvBuffers := Function.update server.postedRecvBuffers (recvId ctx.conn.connId buf)
          (some ⟨buf, ctx.conn.connId⟩) }
        (received ctx [(recvWr ctx.conn.connId buf, recvAccepted ctx)]) count := by
  have filled : server.allocate = (buf, { server with freeBuffers := rest }) := by rw [KVServer.allocate, free]
  have same := postRecv_received ctx buf
  rw [recvId] at same
  rw [KVServer.postRecvBuffers, filled]
  dsimp only
  rw [if_pos valid, same]
  rfl

/-- What `PostRecvBuffers` does: the receives that the device accepts are posted, and nothing is lost exactly where
it accepts all that the pool has buffers for. -/
theorem postRecvBuffers_sound (pool : Pool all) (sound : Sound all server posted entries lost hand)
    (ctx : ConnectionContext) (count : Nat) :
    ∃ (free : List Buffer) (tracked : UInt64 → Option PostedBuffer) (new : List Buffer) (recvs : List (RecvWr × Bool))
      (gone : List Buffer),
      server.postRecvBuffers ctx count =
        ({ server with freeBuffers := free, postedRecvBuffers := tracked }, received ctx recvs) ∧
      Sound all { server with freeBuffers := free, postedRecvBuffers := tracked }
        (posted ++ new.map (ctx.conn.connId, ·)) entries (gone ++ lost) hand ∧
      (recvs.filter (·.2)).map (·.1) = new.map (recvWr ctx.conn.connId) ∧
      (gone = [] ↔ RecvsAccepted ctx (min count server.freeBuffers.length)) := by
  induction count generalizing server posted lost ctx with
  | zero =>
    refine ⟨server.freeBuffers, server.postedRecvBuffers, [], [], [], ?_, ?_, rfl, iff_of_true rfl ?_⟩
    · rw [received_nil]
      rfl
    · simpa using sound
    · intro i below
      simp at below
  | succ count ih =>
    cases free : server.freeBuffers with
    | nil =>
      obtain ⟨_, tracked, new, recvs, gone, posts, after, alike, kept⟩ := ih sound ctx
      rw [postRecvBuffers_empty free]
      exact ⟨_, tracked, new, recvs, gone, posts, after, alike, kept.trans (by simp [free, RecvsAccepted])⟩
    | cons buf rest =>
      have member : buf ∈ all := sound.shared.mem_iff.mp (by simp [free])
      have taken := (sound.allocate free).post pool ctx.conn.connId (recvAccepted ctx)
      obtain ⟨left, tracked, new, recvs, gone, posts, after, alike, kept⟩ := ih taken
        (received ctx [(recvWr ctx.conn.connId buf, recvAccepted ctx)])
      rw [postRecvBuffers_next free (pool.valid buf member)]
      refine ⟨left, tracked, (if recvAccepted ctx then [buf] else []) ++ new,
        (recvWr ctx.conn.connId buf, recvAccepted ctx) :: recvs, gone ++ (if recvAccepted ctx then [] else [buf]),
        ?_, ?_, ?_, ?_⟩
      · refine posts.trans ?_
        rw [received_received]
        rfl
      · cases answer : recvAccepted ctx
        · simpa [answer, received] using after
        · simpa [answer, received] using after
      · rw [List.filter_cons]
        cases answer : recvAccepted ctx
        · simpa [answer, received] using alike
        · simpa [answer, received] using alike
      · rw [List.length_cons, Nat.succ_min_succ,
          recvsAccepted_succ (recvWr ctx.conn.connId buf, recvAccepted ctx), ← kept, List.append_eq_nil_iff, and_comm]
        refine and_congr_left fun _ => ?_
        cases recvAccepted ctx <;> simp

end Moves

/-- The end of `HandleRequest`: the buffer of the request is freed and a receive is posted. -/
theorem recycle_sound {all : List Buffer} {server : KVServer} {posted : List (UInt16 × Buffer)}
    {entries : List (UInt64 × Buffer)} {lost : List Buffer} {buf : Buffer} (pool : Pool all)
    (sound : Sound all server posted entries lost [buf]) {ctx after : ConnectionContext}
    (recvs : after.conn.qp.device.recvs = ctx.conn.qp.device.recvs)
    (answers : after.conn.qp.device.recvAnswer = ctx.conn.qp.device.recvAnswer) :
    ∃ (free : List Buffer) (tracked : UInt64 → Option PostedBuffer) (new : List Buffer) (more : List (RecvWr × Bool))
      (gone : List Buffer),
      (server.free buf).postRecvBuffers after 1 =
        ({ server with freeBuffers := free, postedRecvBuffers := tracked }, received after more) ∧
      Sound all { server with freeBuffers := free, postedRecvBuffers := tracked }
        (posted ++ new.map (after.conn.connId, ·)) entries (gone ++ lost) [] ∧
      newReceives ctx (received after more) = new.map (recvWr after.conn.connId) ∧
      (gone = [] ↔ recvAccepted ctx = true) := by
  obtain ⟨free, tracked, new, more, gone, posts, kept, alike, nothing⟩ :=
    postRecvBuffers_sound pool sound.free after 1
  refine ⟨free, tracked, new, more, gone, posts, kept, ?_, ?_⟩
  · rw [← alike, ← newReceives_received after more, newReceives, newReceives, accepted, accepted, accepted, recvs]
  · have one : min 1 (server.free buf).freeBuffers.length = 1 := by simp [KVServer.free]
    rw [nothing, one, recvAccepted, Option.isNone_iff_eq_none, ← recvs, ← answers]
    constructor
    · exact fun accepts => accepts 0 Nat.one_pos
    · intro accepts i below
      obtain rfl : i = 0 := by omega
      exact accepts

/-! ### Answering a request -/

/-- A connection after a work request was handed to the device by `Send`. -/
def sendConn (conn : Connection) (wr : SendWr) : Connection :=
  { conn with qp := { conn.qp.shouldSignal.2 with device := (conn.qp.device.ibvPostSend wr).2 } }

/-- Without a free buffer a request is not answered; otherwise a buffer is tracked and its response handed to the
device. -/
inductive Answered (server : KVServer) (ctx : ConnectionContext) (request : Request) : KVServer → ConnectionContext → Prop
  | dropped {store : KVStore} {after : ConnectionContext} (empty : server.freeBuffers = []) (same : after.conn = ctx.conn) :
    Answered server ctx request { server with store := store } after
  | sent {store : KVStore} {buf : Buffer} {rest : List Buffer} {written : UInt64 → Option Response} {wr : SendWr}
    {after : ConnectionContext} (free : server.freeBuffers = buf :: rest) (id : wr.wrId = sendId ctx.conn.connId request)
    (address : wr.sgList.map Sge.addr = [buf.addr]) (signaled : wr.signaled = ctx.conn.qp.shouldSignal.1)
    (conn : after.conn = sendConn ctx.conn wr) :
    Answered server ctx request { server with
      store := store
      freeBuffers := rest
      written := written
      postedSendBuffers := Function.update server.postedSendBuffers (sendId ctx.conn.connId request) (some buf) } after

section Answers
variable {server : KVServer} {ctx : ConnectionContext} {buf : Buffer} {rest : List Buffer}

/-- A response that fits the buffer is sent from the start of the buffer. -/
theorem respond_sent (connected : ctx.conn.state = .connected) (free : server.freeBuffers = buf :: rest)
    (sized : buf.length = MAX_REQUEST_SIZE.toUInt64) {responseLen : UInt64} (fits : responseLen ≤ MAX_REQUEST_SIZE.toUInt64)
    (request : Request) (store : KVStore) (response : Response) {after : ConnectionContext}
    (same : after.conn = ({ server with freeBuffers := rest, store := store }.respond ctx buf response responseLen
      (sendId ctx.conn.connId request)).2.conn) :
    Answered server ctx request ({ server with freeBuffers := rest, store := store }.respond ctx buf response responseLen
      (sendId ctx.conn.connId request)).1 after := by
  have slice : buf.slice 0 responseLen = ⟨buf.addr, responseLen, buf.lkey⟩ := by
    rw [Buffer.slice, if_neg, UInt64.add_zero]
    rw [sized, UInt64.zero_add]
    rintro (none_ | long)
    · exact absurd none_ (by decide)
    · exact absurd fits (UInt64.not_le.mpr long)
  have conn : after.conn = sendConn ctx.conn ⟨sendId ctx.conn.connId request, .send, ctx.conn.qp.shouldSignal.1, false,
      [sgeOf (buf.slice 0 responseLen)], 0, 0, 0⟩ := same.trans (send_conn connected ..)
  exact .sent free rfl (by rw [slice]; rfl) rfl conn

theorem header_fits : HEADER_SIZE.toUInt64 ≤ MAX_REQUEST_SIZE.toUInt64 := by decide

theorem sendErrorResponse_cases (connected : ctx.conn.state = .connected)
    (sound : ∀ buf ∈ server.freeBuffers, buf.isValid = true ∧ buf.length = MAX_REQUEST_SIZE.toUInt64)
    (key : UInt64) (status : KvProtocols.Status) :
    Answered server ctx .malformed (server.sendErrorResponse ctx key status).1
      (server.sendErrorResponse ctx key status).2 ∧ (server.sendErrorResponse ctx key status).1.store = server.store := by
  cases free : server.freeBuffers with
  | nil =>
    have unfilled : server.allocate = (.empty, server) := by rw [KVServer.allocate, free]
    rw [KVServer.sendErrorResponse, unfilled]
    exact ⟨.dropped free rfl, rfl⟩
  | cons buf rest =>
    have filled : server.allocate = (buf, { server with freeBuffers := rest }) := by rw [KVServer.allocate, free]
    obtain ⟨valid, sized⟩ := sound buf (by simp [free])
    rw [KVServer.sendErrorResponse, filled]
    dsimp only
    rw [valid, if_neg (by simp)]
    exact ⟨respond_sent connected free sized header_fits .malformed server.store _ rfl, rfl⟩

theorem processGet_cases (connected : ctx.conn.state = .connected)
    (sound : ∀ buf ∈ server.freeBuffers, buf.isValid = true ∧ buf.length = MAX_REQUEST_SIZE.toUInt64)
    {width : Nat} (consistent : Consistent hashKey width server.store) (header : RequestHeader) :
    ∃ next after, server.processGet ctx header = some (next, after) ∧
      Answered server ctx (.get ctx.getsProcessed) next after ∧ next.store = server.store := by
  cases free : server.freeBuffers with
  | nil =>
    have unfilled : server.allocate = (.empty, server) := by rw [KVServer.allocate, free]
    exact ⟨server, ctx, by rw [KVServer.processGet, unfilled]; rfl, .dropped free rfl, rfl⟩
  | cons buf rest =>
    have filled : server.allocate = (buf, { server with freeBuffers := rest }) := by rw [KVServer.allocate, free]
    obtain ⟨valid, sized⟩ := sound buf (by simp [free])
    obtain ⟨result, gets, small⟩ := get_defined consistent header.key MAX_VALUE_SIZE
    unfold KVServer.processGet
    rw [filled]
    dsimp only
    rw [valid, if_neg (by simp), gets]
    cases result with
    | error status =>
      exact ⟨_, _, rfl, respond_sent connected free sized header_fits (.get ctx.getsProcessed) server.store _ rfl, rfl⟩
    | ok copied =>
      obtain ⟨bytes, valueSize⟩ := copied
      have fits : HEADER_SIZE.toUInt64 + valueSize.toUInt64 ≤ MAX_REQUEST_SIZE.toUInt64 := by
        have short : valueSize.toNat ≤ 65536 := UInt32.le_iff_toNat_le.mp (small bytes valueSize rfl)
        rw [UInt64.le_iff_toNat_le, UInt64.toNat_add, UInt32.toNat_toUInt64]
        exact (Nat.mod_le _ _).trans (show 16 + valueSize.toNat ≤ 65680 by omega)
      exact ⟨_, _, rfl, respond_sent connected free sized fits (.get ctx.getsProcessed) server.store _ rfl, rfl⟩

theorem storeValue_consistent {width : Nat} (consistent : Consistent hashKey width server.store)
    (header : RequestHeader) (data : Nat → UInt8) (requestLen : Nat) :
    ∃ status store, server.storeValue header data requestLen = some (status, store) ∧
      Consistent hashKey width store := by
  rw [storeValue_eq]
  split
  · exact ⟨_, _, rfl, consistent⟩
  · obtain ⟨status, store, put, did⟩ :=
      put_cases consistent header.key (fun i => data (valueStart header + i)) header.valueSize
    exact ⟨status, store, put, put_consistent consistent did⟩

theorem processPut_cases (connected : ctx.conn.state = .connected)
    (sound : ∀ buf ∈ server.freeBuffers, buf.isValid = true ∧ buf.length = MAX_REQUEST_SIZE.toUInt64)
    {width : Nat} (consistent : Consistent hashKey width server.store) (header : RequestHeader) (data : Nat → UInt8)
    (requestLen : Nat) : ∃ next after, server.processPut ctx header data requestLen = some (next, after) ∧
      Answered server ctx (.put ctx.putsProcessed) next after ∧ Consistent hashKey width next.store := by
  obtain ⟨status, store, put, kept⟩ := storeValue_consistent consistent header data requestLen
  cases free : server.freeBuffers with
  | nil =>
    have unfilled : { server with store := store }.allocate = (.empty, { server with store := store }) := by
      rw [KVServer.allocate, free]
    refine ⟨_, _, ?_, .dropped free rfl, kept⟩
    unfold KVServer.processPut
    simp only [put, Option.bind_eq_bind, Option.bind_some, unfilled]
    rfl
  | cons buf rest =>
    have filled : { server with store := store }.allocate = (buf, { server with store := store, freeBuffers := rest }) := by
      rw [KVServer.allocate, free]
    obtain ⟨valid, sized⟩ := sound buf (by simp [free])
    unfold KVServer.processPut
    simp only [put, Option.bind_eq_bind, Option.bind_some, filled, valid, Bool.not_true, Bool.false_eq_true, if_false]
    exact ⟨_, _, rfl, respond_sent connected free sized header_fits (.put ctx.putsProcessed) store
      ⟨.setPutResponse header.key status, []⟩ rfl, kept⟩

/-- What `ProcessRequest` does with a request as long as a header. -/
theorem processRequest_cases (connected : ctx.conn.state = .connected)
    (sound : ∀ buf ∈ server.freeBuffers, buf.isValid = true ∧ buf.length = MAX_REQUEST_SIZE.toUInt64)
    {width : Nat} (consistent : Consistent hashKey width server.store) (data : Nat → UInt8) {requestLen : Nat}
    (long : HEADER_SIZE ≤ requestLen) : ∃ next after, server.processRequest ctx data requestLen = some (next, after) ∧
      Answered server ctx (requestOf ctx data) next after ∧ Consistent hashKey width next.store := by
  unfold KVServer.processRequest requestOf
  rw [if_neg (Nat.not_lt.mpr long)]
  dsimp only
  by_cases get : (RequestHeader.read data).opType = OpType.get.value
  · rw [if_pos get, if_pos get]
    obtain ⟨next, after, done, answered, same⟩ := processGet_cases connected sound consistent (RequestHeader.read data)
    exact ⟨next, after, done, answered, same ▸ consistent⟩
  rw [if_neg get, if_neg get]
  by_cases put : (RequestHeader.read data).opType = OpType.put.value
  · rw [if_pos put, if_pos put]
    exact processPut_cases connected sound consistent (RequestHeader.read data) data requestLen
  rw [if_neg put, if_neg put]
  obtain ⟨answered, same⟩ := sendErrorResponse_cases connected sound (RequestHeader.read data).key .invalidRequest
  refine ⟨(server.sendErrorResponse ctx (RequestHeader.read data).key .invalidRequest).1,
    (server.sendErrorResponse ctx (RequestHeader.read data).key .invalidRequest).2, rfl, answered, ?_⟩
  rw [same]
  exact consistent

end Answers

/-! ### Steps of the system -/

structure Inv (all : List Buffer) (sys : System) (posted : List (UInt16 × Buffer)) (entries : List (UInt64 × Buffer))
    (lost : List Buffer) : Prop where
  sound : Sound all sys.server posted entries lost []
  receives : sys.receives.Perm (posted.map fun item => (item.1, recvWr item.1 item.2))
  store : ∃ width, Consistent hashKey width sys.server.store
  contexts : ∀ connId ctx, sys.server.connContexts connId = some ctx →
    ctx.conn.connId = connId ∧ ctx.conn.state = .connected
  numbered : ∀ send ∈ sys.sends, send.wr.wrId = sendId send.connId send.request

/-- A request that is long enough gets an answer while there is a free buffer. -/
def IsAnswered (sys : System) (byteLen : UInt32) : Prop :=
  HEADER_SIZE ≤ byteLen.toNat ∧ sys.server.freeBuffers ≠ []

/-- The response to a request: a free buffer is tracked under its id, and it is in flight if the device accepts it. -/
structure Responded (sys next : System) (connId : UInt16) (ctx : ConnectionContext) (request : Request) (buf : Buffer)
    (wr : SendWr) : Prop where
  free : buf ∈ sys.server.freeBuffers
  id : wr.wrId = sendId connId request
  address : wr.sgList.map Sge.addr = [buf.addr]
  signaled : wr.signaled = ctx.conn.qp.shouldSignal.1
  sends : next.sends = sys.sends ++ if ctx.conn.qp.device.nextAnswer.isNone then [⟨connId, wr, request⟩] else []
  tracked : next.server.postedSendBuffers =
    Function.update sys.server.postedSendBuffers (sendId connId request) (some buf)

section Steps
variable {all : List Buffer} {sys next : System} {posted : List (UInt16 × Buffer)} {entries : List (UInt64 × Buffer)}
  {lost : List Buffer}

theorem Inv.whole (pool : Pool all) (inv : Inv all sys posted entries lost) :
    ∀ buf ∈ sys.server.freeBuffers, buf.isValid = true ∧ buf.length = MAX_REQUEST_SIZE.toUInt64 := by
  intro buf free
  have member : buf ∈ all := inv.sound.shared.mem_iff.mp (by simp [free])
  exact ⟨pool.valid buf member, pool.sized buf member⟩

theorem newSends_sent {ctx after : ConnectionContext} {wr : SendWr} {accepted : Bool}
    (sends : after.conn.qp.device.sends = ctx.conn.qp.device.sends ++ [(wr, accepted)]) :
    newSends ctx after = if accepted then [wr] else [] := by
  rw [newSends, handed_append sends]
  cases accepted <;> rfl

theorem newSends_none {ctx after : ConnectionContext}
    (sends : after.conn.qp.device.sends = ctx.conn.qp.device.sends) : newSends ctx after = [] := by
  rw [newSends, handed, sends, List.drop_length]
  rfl

theorem Inv.receive (inv : Inv all sys posted entries lost) {connId : UInt16} {receive : UInt16 × RecvWr}
    (found : sys.receives.find? (·.1 = connId) = some receive) :
    ∃ buf, (connId, buf) ∈ posted ∧ receive = (connId, recvWr connId buf) := by
  have member := List.mem_of_find?_eq_some found
  have mine : receive.1 = connId := by simpa using List.find?_some found
  obtain ⟨⟨_, buf⟩, listed, rfl⟩ := List.mem_map.mp (inv.receives.mem_iff.mp member)
  obtain rfl := mine
  exact ⟨buf, listed, rfl⟩

theorem erase_receive {connId : UInt16} {buf : Buffer} (listed : (connId, buf) ∈ posted) :
    ((posted.map fun item => (item.1, recvWr item.1 item.2)).erase (connId, recvWr connId buf)).Perm
      ((posted.erase (connId, buf)).map fun item => (item.1, recvWr item.1 item.2)) := by
  have perm := (List.perm_cons_erase listed).map fun item => (item.1, recvWr item.1 item.2)
  exact (perm.erase (connId, recvWr connId buf)).trans (by rw [List.map_cons, List.erase_cons_head])

/-- The completion of a posted receive reaches `HandleRequest` with the buffer that was posted. -/
theorem handleCompletion_request (inv : Inv all sys posted entries lost) {connId : UInt16} {ctx : ConnectionContext}
    (known : sys.server.connContexts connId = some ctx) {buf : Buffer} (listed : (connId, buf) ∈ posted)
    (data : Nat → UInt8) (byteLen : UInt32) :
    sys.server.handleCompletion { wrId := recvId connId buf, byteLen } data =
      if byteLen.toNat < HEADER_SIZE then
        some (KVServer.withContext (((taken sys.server connId buf).free buf).postRecvBuffers ctx 1).1 connId
          (((taken sys.server connId buf).free buf).postRecvBuffers ctx 1).2)
      else ((taken sys.server connId buf).processRequest ctx data byteLen.toNat).bind fun (server, ctx) =>
          some (KVServer.withContext ((server.free buf).postRecvBuffers ctx 1).1 connId
            { ((server.free buf).postRecvBuffers ctx 1).2 with
              requestsProcessed := ((server.free buf).postRecvBuffers ctx 1).2.requestsProcessed + 1 }) := by
  have tracked := inv.sound.received _ listed
  dsimp only at tracked
  unfold KVServer.handleCompletion
  rw [if_neg (by simp)]
  dsimp only
  rw [recvId, getOpcode_encode, if_pos rfl, getConnId_encode, ← recvId, KVServer.handleRequest, known]
  dsimp only
  rw [tracked]
  rfl

/-- The system after a receive of the connection completed: the server processed the request and recycles its buffer. -/
def System.served (sys : System) (connId : UInt16) (buf : Buffer) (ctx : ConnectionContext) (data : Nat → UInt8)
    (server : KVServer) (after : ConnectionContext) : System :=
  ⟨server.withContext connId after,
    sys.sends ++ (newSends ctx after).map fun wr => ⟨connId, wr, requestOf ctx data⟩,
    sys.receives.erase (connId, recvWr connId buf) ++ (newReceives ctx after).map (connId, ·)⟩

theorem request_eq (inv : Inv all sys posted entries lost) {connId : UInt16} {ctx : ConnectionContext}
    (known : sys.server.connContexts connId = some ctx) {buf : Buffer} (listed : (connId, buf) ∈ posted)
    (found : sys.receives.find? (·.1 = connId) = some (connId, recvWr connId buf)) (data : Nat → UInt8)
    (byteLen : UInt32) : sys.request connId data byteLen =
      if byteLen.toNat < HEADER_SIZE then
        some (sys.served connId buf ctx data (((taken sys.server connId buf).free buf).postRecvBuffers ctx 1).1
          (((taken sys.server connId buf).free buf).postRecvBuffers ctx 1).2)
      else ((taken sys.server connId buf).processRequest ctx data byteLen.toNat).bind fun (server, after) =>
          some (sys.served connId buf ctx data ((server.free buf).postRecvBuffers after 1).1
            { ((server.free buf).postRecvBuffers after 1).2 with
              requestsProcessed := ((server.free buf).postRecvBuffers after 1).2.requestsProcessed + 1 }) := by
  have handles := handleCompletion_request inv known listed data byteLen
  have id : (recvWr connId buf).wrId = recvId connId buf := rfl
  unfold System.request
  simp only [known, found, Option.bind_eq_bind, Option.bind_some, id, handles]
  by_cases short : byteLen.toNat < HEADER_SIZE
  · rw [if_pos short, if_pos short, Option.bind_some]
    simp only [KVServer.withContext, Function.update_self, Option.bind_some]
    rfl
  · rw [if_neg short, if_neg short, Option.bind_assoc]
    refine congrArg _ (funext fun done => ?_)
    simp only [KVServer.withContext, Function.update_self, Option.bind_some]
    rfl

/-- Where the buffers are when the server is back in its loop; `bump` counts the request. -/
theorem served_inv (pool : Pool all) (inv : Inv all sys posted entries lost) {connId : UInt16} {buf : Buffer}
    (listed : (connId, buf) ∈ posted) (ctx after : ConnectionContext) {middle : KVServer}
    {entries' : List (UInt64 × Buffer)} {lost' : List Buffer}
    (sound : Sound all middle (posted.erase (connId, buf)) entries' lost' [buf])
    (store : ∃ width, Consistent hashKey width middle.store) (contexts : middle.connContexts = sys.server.connContexts)
    (same : after.conn.connId = connId) (connected : after.conn.state = .connected)
    (recvs : after.conn.qp.device.recvs = ctx.conn.qp.device.recvs)
    (answers : after.conn.qp.device.recvAnswer = ctx.conn.qp.device.recvAnswer) (data : Nat → UInt8)
    (numbered : ∀ wr ∈ newSends ctx after, wr.wrId = sendId connId (requestOf ctx data))
    {bump : ConnectionContext → ConnectionContext} (keeps : ∀ c, (bump c).conn = c.conn) :
    ∃ next posted' gone, sys.served connId buf ctx data ((middle.free buf).postRecvBuffers after 1).1
        (bump ((middle.free buf).postRecvBuffers after 1).2) = next ∧
      Inv all next posted' entries' (gone ++ lost') ∧
      next.sends = sys.sends ++ (newSends ctx after).map (fun wr => ⟨connId, wr, requestOf ctx data⟩) ∧
      next.server.postedSendBuffers = middle.postedSendBuffers ∧ (gone = [] ↔ recvAccepted ctx = true) := by
  obtain ⟨free, tracked, new, more, gone, posts, kept, fresh, nothing⟩ := recycle_sound pool sound recvs answers
  rw [posts]
  rw [same] at kept fresh
  have receives : newReceives ctx (bump (received after more)) = new.map (recvWr connId) := by
    rw [← fresh, newReceives, keeps]
    rfl
  have sends : newSends ctx (bump (received after more)) = newSends ctx after := by
    rw [newSends, keeps]
    rfl
  refine ⟨_, posted.erase (connId, buf) ++ new.map (connId, ·), gone, rfl, ⟨?_, ?_, store, ?_, ?_⟩, ?_, rfl, nothing⟩
  · exact ⟨kept.shared, kept.tracked, kept.received⟩
  · rw [System.served, receives, List.map_append, List.map_map, List.map_map]
    exact ((inv.receives.erase _).trans (erase_receive listed)).append_right _
  · intro other known found
    rw [System.served, KVServer.withContext] at found
    dsimp only at found
    rw [contexts] at found
    by_cases here : other = connId
    · subst here
      rw [Function.update_self] at found
      obtain rfl := Option.some.inj found
      rw [keeps]
      exact ⟨same, connected⟩
    · rw [Function.update_of_ne here] at found
      exact inv.contexts other known found
  · intro send sending
    rw [System.served, sends] at sending
    rcases List.mem_append.mp sending with old | new
    · exact inv.numbered send old
    · obtain ⟨wr, fresh, rfl⟩ := List.mem_map.mp new
      exact numbered wr fresh
  · rw [System.served, sends]

/-- What a request does: without an answer the sends stay as they are, with one they change as `Responded` says. A
buffer is lost if the next receive is rejected, and if the response's id is tracked already. -/
inductive RequestCase (sys : System) (connId : UInt16) (ctx : ConnectionContext) (data : Nat → UInt8) (byteLen : UInt32)
    (entries : List (UInt64 × Buffer)) (lost : List Buffer) (next : System) (entries' : List (UInt64 × Buffer))
    (lost' : List Buffer) : Prop
  | unanswered (silent : ¬IsAnswered sys byteLen) (sends : next.sends = sys.sends)
    (tracked : next.server.postedSendBuffers = sys.server.postedSendBuffers) (same : entries' = entries)
    (gone : List Buffer) (grown : lost' = gone ++ lost) (kept : gone = [] ↔ recvAccepted ctx = true)
  | answered (buf : Buffer) (wr : SendWr) (answered : IsAnswered sys byteLen)
    (responded : Responded sys next connId ctx (requestOf ctx data) buf wr)
    (added : sys.server.postedSendBuffers (sendId connId (requestOf ctx data)) = none →
      entries' = (sendId connId (requestOf ctx data), buf) :: entries)
    (gone : List Buffer)
    (grown : lost' = gone ++ ((sys.server.postedSendBuffers (sendId connId (requestOf ctx data))).toList ++ lost))
    (kept : gone = [] ↔ recvAccepted ctx = true)

/-- A request without an answer leaves the sends alone. -/
theorem unanswered_served (pool : Pool all) (inv : Inv all sys posted entries lost) {connId : UInt16} {buf : Buffer}
    (listed : (connId, buf) ∈ posted) {ctx after : ConnectionContext} {middle : KVServer}
    (sound : Sound all middle (posted.erase (connId, buf)) entries lost [buf])
    (store : ∃ width, Consistent hashKey width middle.store) (contexts : middle.connContexts = sys.server.connContexts)
    (tracked : middle.postedSendBuffers = sys.server.postedSendBuffers) (same : ctx.conn.connId = connId)
    (connected : ctx.conn.state = .connected) (conn : after.conn = ctx.conn) (data : Nat → UInt8) {byteLen : UInt32}
    (silent : ¬IsAnswered sys byteLen) {bump : ConnectionContext → ConnectionContext}
    (keeps : ∀ c, (bump c).conn = c.conn) :
    ∃ next posted' lost', sys.served connId buf ctx data ((middle.free buf).postRecvBuffers after 1).1
        (bump ((middle.free buf).postRecvBuffers after 1).2) = next ∧ Inv all next posted' entries lost' ∧
      RequestCase sys connId ctx data byteLen entries lost next entries lost' := by
  have nothing : newSends ctx after = [] := newSends_none (by rw [conn])
  obtain ⟨next, posted', gone, served, kept, sends, kept_tracked, none_⟩ := served_inv pool inv listed ctx after sound
    store contexts (conn ▸ same) (conn ▸ connected) (by rw [conn]) (by rw [conn]) data (by simp [nothing]) keeps
  rw [nothing, List.map_nil, List.append_nil] at sends
  exact ⟨next, posted', gone ++ lost, served, kept, .unanswered silent sends (kept_tracked.trans tracked) rfl gone rfl none_⟩

/-- A request with an answer tracks the buffer of its response, and the entry that it replaces is lost. -/
theorem answered_served (pool : Pool all) (inv : Inv all sys posted entries lost) {connId : UInt16} {buf : Buffer}
    (listed : (connId, buf) ∈ posted) {ctx after : ConnectionContext} (same : ctx.conn.connId = connId)
    (connected : ctx.conn.state = .connected) {data : Nat → UInt8} {byteLen : UInt32}
    (long : HEADER_SIZE ≤ byteLen.toNat) {store : KVStore} (keeps : ∃ width, Consistent hashKey width store)
    {response : Buffer} {rest : List Buffer} (written : UInt64 → Option Response) {wr : SendWr}
    (free : sys.server.freeBuffers = response :: rest) (id : wr.wrId = sendId connId (requestOf ctx data))
    (address : wr.sgList.map Sge.addr = [response.addr]) (signaled : wr.signaled = ctx.conn.qp.shouldSignal.1)
    (conn : after.conn = sendConn ctx.conn wr) {middle : KVServer}
    (handled : middle = { taken sys.server connId buf with
      store := store
      freeBuffers := rest
      written := written
      postedSendBuffers := Function.update sys.server.postedSendBuffers (sendId connId (requestOf ctx data))
        (some response) })
    {bump : ConnectionContext → ConnectionContext} (bumps : ∀ c, (bump c).conn = c.conn) :
    ∃ next posted' entries' lost', sys.served connId buf ctx data ((middle.free buf).postRecvBuffers after 1).1
        (bump ((middle.free buf).postRecvBuffers after 1).2) = next ∧ Inv all next posted' entries' lost' ∧
      RequestCase sys connId ctx data byteLen entries lost next entries' lost' := by
  have sends : after.conn.qp.device.sends =
      ctx.conn.qp.device.sends ++ [(wr, ctx.conn.qp.device.nextAnswer.isNone)] := by
    rw [conn]
    rfl
  have sent := newSends_sent sends
  have handed := (inv.sound.receive pool listed).withStore store
  obtain ⟨entries', tracks, fresh⟩ := (handed.allocate free).track (sendId connId (requestOf ctx data)) written
  subst handled
  obtain ⟨next, posted', gone, served, kept, sends', tracked, none_⟩ := served_inv pool inv listed ctx after
    tracks keeps rfl (by rw [conn]; exact same) (by rw [conn]; exact connected) (by rw [conn]; rfl)
    (by rw [conn]; rfl) data (by rw [sent]; split <;> simp [id]) bumps
  refine ⟨next, posted', entries', _, served, kept, .answered response wr ?_ ?_ fresh gone rfl none_⟩
  · exact ⟨long, fun none_ => by cases free.symm.trans none_⟩
  · refine ⟨?_, id, address, signaled, ?_, tracked⟩
    · rw [free]
      exact List.mem_cons_self
    · rw [sends', sent]
      split <;> rfl

theorem request_cases (pool : Pool all) (inv : Inv all sys posted entries lost) {connId : UInt16}
    {ctx : ConnectionContext} (known : sys.server.connContexts connId = some ctx) {receive : UInt16 × RecvWr}
    (found : sys.receives.find? (·.1 = connId) = some receive) (data : Nat → UInt8) (byteLen : UInt32) :
    ∃ next posted' entries' lost', sys.request connId data byteLen = some next ∧ Inv all next posted' entries' lost' ∧
      RequestCase sys connId ctx data byteLen entries lost next entries' lost' := by
  obtain ⟨buf, listed, rfl⟩ := inv.receive found
  obtain ⟨same, connected⟩ := inv.contexts connId ctx known
  obtain ⟨width, consistent⟩ := inv.store
  have handed := inv.sound.receive pool listed
  rw [request_eq inv known listed found]
  by_cases short : byteLen.toNat < HEADER_SIZE
  · rw [if_pos short]
    obtain ⟨next, posted', lost', served, done⟩ := unanswered_served pool inv listed handed ⟨width, consistent⟩ rfl rfl
      same connected rfl data (fun answered => Nat.not_lt.mpr answered.1 short)
      (show ∀ c : ConnectionContext, (id c).conn = c.conn from fun _ => rfl)
    exact ⟨next, posted', entries, lost', congrArg some served, done⟩
  rw [if_neg short]
  have long : HEADER_SIZE ≤ byteLen.toNat := Nat.le_of_not_lt short
  have whole : ∀ one ∈ (taken sys.server connId buf).freeBuffers, one.isValid = true ∧
      one.length = MAX_REQUEST_SIZE.toUInt64 := inv.whole pool
  have stored : Consistent hashKey width (taken sys.server connId buf).store := consistent
  obtain ⟨middle, after, processed, answered, keeps⟩ := processRequest_cases connected whole stored data long
  have bumps : ∀ c : ConnectionContext, { c with requestsProcessed := c.requestsProcessed + 1 }.conn = c.conn :=
    fun _ => rfl
  rw [processed, Option.bind_some]
  dsimp only
  cases answered with
  | dropped empty conn =>
    obtain ⟨next, posted', lost', served, done⟩ := unanswered_served pool inv listed (handed.withStore _) ⟨width, keeps⟩
      rfl rfl same connected conn data (fun answered => answered.2 empty) bumps
    exact ⟨next, posted', entries, lost', congrArg some served, done⟩
  | @sent store response rest written wr _ free id address signaled conn =>
    rw [same] at id
    rw [same]
    obtain ⟨next, posted', entries', lost', served, done⟩ := answered_served pool inv listed same connected long
      ⟨width, keeps⟩ written free id address signaled conn rfl bumps
    exact ⟨next, posted', entries', lost', congrArg some served, done⟩

/-- What the completion of a send does: without a completion for the server, or an entry for its id, nothing;
otherwise the buffer of the entry is freed. -/
inductive SentCase (sys : System) (send : InFlight) (entries : List (UInt64 × Buffer)) (next : System)
    (entries' : List (UInt64 × Buffer)) : Prop
  | silent (unsignaled : send.wr.signaled = false) (server : next.server = sys.server) (same : entries' = entries)
  | untracked (signaled : send.wr.signaled = true) (missing : sys.server.postedSendBuffers send.wr.wrId = none)
    (server : next.server = sys.server) (same : entries' = entries)
  | freed (buf : Buffer) (signaled : send.wr.signaled = true)
    (held : sys.server.postedSendBuffers send.wr.wrId = some buf)
    (free : next.server.freeBuffers = sys.server.freeBuffers ++ [buf])
    (erased : next.server.postedSendBuffers = Function.update sys.server.postedSendBuffers send.wr.wrId none)
    (same : entries' = entries.erase (send.wr.wrId, buf))

theorem sends_split {index : Nat} {send : InFlight} (found : sys.sends[index]? = some send) :
    sys.sends.Perm (send :: sys.sends.eraseIdx index) := by
  obtain ⟨inside, rfl⟩ := List.getElem?_eq_some_iff.mp found
  exact (List.getElem_cons_eraseIdx_perm inside).symm

theorem sent_cases (inv : Inv all sys posted entries lost) {index : Nat} {send : InFlight}
    (found : sys.sends[index]? = some send) : ∃ next entries', sys.sent index = some next ∧
      Inv all next posted entries' lost ∧ next.sends = sys.sends.eraseIdx index ∧
        SentCase sys send entries next entries' := by
  have numbered : ∀ one ∈ sys.sends.eraseIdx index, one.wr.wrId = sendId one.connId one.request :=
    fun one left => inv.numbered one (List.mem_of_mem_eraseIdx left)
  have unchanged : Inv all { sys with sends := sys.sends.eraseIdx index } posted entries lost :=
    ⟨inv.sound, inv.receives, inv.store, inv.contexts, numbered⟩
  unfold System.sent
  rw [found]
  cases signaled : send.wr.signaled with
  | false =>
    exact ⟨_, entries, by simp only [Option.bind_eq_bind, Option.bind_some, signaled]; rfl, unchanged, rfl,
      .silent signaled rfl rfl⟩
  | true =>
    have id := inv.numbered send (List.mem_of_getElem? found)
    have opcode : getOpcode send.wr.wrId = RpcOpcode.requestSend.value := by rw [id, sendId, getOpcode_encode]
    cases held : sys.server.postedSendBuffers send.wr.wrId with
    | none =>
      have handles : sys.server.handleCompletion { wrId := send.wr.wrId } (fun _ => 0) = some sys.server := by
        unfold KVServer.handleCompletion
        simp only [opcode, held]
        rfl
      exact ⟨_, entries, by simp only [Option.bind_eq_bind, Option.bind_some, signaled, handles]; rfl, unchanged, rfl,
        .untracked signaled held rfl rfl⟩
    | some buf =>
      have handles : sys.server.handleCompletion { wrId := send.wr.wrId } (fun _ => 0) = some { sys.server.free buf with
          postedSendBuffers := Function.update sys.server.postedSendBuffers send.wr.wrId none } := by
        unfold KVServer.handleCompletion
        simp only [opcode, held]
        rfl
      have sound := (inv.sound.untrack held).free
      refine ⟨⟨{ sys.server.free buf with
          postedSendBuffers := Function.update sys.server.postedSendBuffers send.wr.wrId none },
        sys.sends.eraseIdx index, sys.receives⟩, entries.erase (send.wr.wrId, buf), ?_, ?_, rfl,
        .freed buf signaled held rfl rfl rfl⟩
      · simp only [Option.bind_eq_bind, Option.bind_some, signaled, handles]
        rfl
      · exact ⟨⟨sound.shared, sound.tracked, sound.received⟩, inv.receives, inv.store, inv.contexts, numbered⟩

/-- A new connection takes up to 32 free buffers for its receives. -/
theorem accept_cases (pool : Pool all) (inv : Inv all sys posted entries lost) (ctx : ConnectionContext)
    (connected : ctx.conn.state = .connected) : ∃ posted' gone, Inv all (sys.accept ctx) posted' entries (gone ++ lost) ∧
      (sys.accept ctx).sends = sys.sends ∧
      (sys.accept ctx).server.postedSendBuffers = sys.server.postedSendBuffers ∧
      (gone = [] ↔ RecvsAccepted ctx (min 32 sys.server.freeBuffers.length)) := by
  obtain ⟨free, tracked, new, recvs, gone, posts, kept, fresh, nothing⟩ := postRecvBuffers_sound pool inv.sound ctx 32
  unfold System.accept
  rw [posts]
  dsimp only
  rw [newReceives_received, fresh]
  refine ⟨posted ++ new.map (ctx.conn.connId, ·), gone, ⟨⟨kept.shared, kept.tracked, kept.received⟩, ?_, inv.store, ?_,
    inv.numbered⟩, rfl, rfl, nothing⟩
  · rw [List.map_append, List.map_map, List.map_map]
    exact inv.receives.append_right _
  · intro other known found
    rw [KVServer.withContext] at found
    dsimp only at found
    by_cases here : other = ctx.conn.connId
    · subst here
      rw [Function.update_self] at found
      obtain rfl := Option.some.inj found
      exact ⟨rfl, connected⟩
    · rw [Function.update_of_ne here] at found
      exact inv.contexts other known found

/-- The steps, each with what it does to the sends, the tracked buffers and the lost ones. -/
inductive StepCase (sys : System) (entries : List (UInt64 × Buffer)) (lost : List Buffer) (next : System)
    (entries' : List (UInt64 × Buffer)) (lost' : List Buffer) : Event → Prop
  | accept {connId : UInt16} {config : QueuePairConfig} {sendAnswer recvAnswer : Nat → Option Int}
    (sends : next.sends = sys.sends) (tracked : next.server.postedSendBuffers = sys.server.postedSendBuffers)
    (same : entries' = entries) (gone : List Buffer) (grown : lost' = gone ++ lost)
    (kept : gone = [] ↔
      RecvsAccepted (established connId config sendAnswer recvAnswer) (min 32 sys.server.freeBuffers.length)) :
    StepCase sys entries lost next entries' lost' (.accept connId config sendAnswer recvAnswer)
  | request {connId : UInt16} {data : Nat → UInt8} {byteLen : UInt32} {ctx : ConnectionContext}
    (known : sys.server.connContexts connId = some ctx)
    (did : RequestCase sys connId ctx data byteLen entries lost next entries' lost') :
    StepCase sys entries lost next entries' lost' (.request connId data byteLen)
  | sent {index : Nat} {send : InFlight} (found : sys.sends[index]? = some send)
    (sends : next.sends = sys.sends.eraseIdx index) (did : SentCase sys send entries next entries') (kept : lost' = lost) :
    StepCase sys entries lost next entries' lost' (.sent index)

theorem step_cases (pool : Pool all) (inv : Inv all sys posted entries lost) {event : Event} {now : List Unit}
    (taken : step sys event = some (next, now)) : ∃ posted' entries' lost', Inv all next posted' entries' lost' ∧
      StepCase sys entries lost next entries' lost' event := by
  cases event with
  | accept connId config sendAnswer recvAnswer =>
    rw [step] at taken
    split at taken
    · cases taken
    · obtain ⟨rfl, -⟩ := Prod.mk.inj (Option.some.inj taken)
      obtain ⟨posted', gone, kept, sends, tracked, nothing⟩ :=
        accept_cases pool inv (established connId config sendAnswer recvAnswer) rfl
      exact ⟨posted', entries, gone ++ lost, kept, .accept sends tracked rfl gone rfl nothing⟩
  | request connId data byteLen =>
    obtain ⟨other, done, same⟩ := Option.map_eq_some_iff.mp taken
    obtain ⟨rfl, -⟩ := Prod.mk.inj same
    have unfolded := done
    rw [System.request, Option.bind_eq_bind, Option.bind_eq_some_iff] at unfolded
    obtain ⟨ctx, known, rest⟩ := unfolded
    rw [Option.bind_eq_bind, Option.bind_eq_some_iff] at rest
    obtain ⟨receive, found, -⟩ := rest
    obtain ⟨next, posted', entries', lost', did, kept, case⟩ := request_cases pool inv known found data byteLen
    obtain rfl := Option.some.inj (done.symm.trans did)
    exact ⟨posted', entries', lost', kept, .request known case⟩
  | sent index =>
    obtain ⟨other, done, same⟩ := Option.map_eq_some_iff.mp taken
    obtain ⟨rfl, -⟩ := Prod.mk.inj same
    have unfolded := done
    rw [System.sent, Option.bind_eq_bind, Option.bind_eq_some_iff] at unfolded
    obtain ⟨send, found, -⟩ := unfolded
    obtain ⟨next, entries', did, kept, sends, case⟩ := sent_cases inv found
    obtain rfl := Option.some.inj (done.symm.trans did)
    exact ⟨posted, entries', lost, kept, .sent found sends case rfl⟩

/-- A connection gets an unused id, a request completes a posted receive, and a send completes while it is in flight. -/
def Possible (sys : System) : Event → Prop
  | .accept connId _ _ _ => sys.server.connContexts connId = none
  | .request connId _ _ => sys.server.connContexts connId ≠ none ∧ ∃ receive ∈ sys.receives, receive.1 = connId
  | .sent index => index < sys.sends.length

/-- The server handles whatever can happen. -/
theorem step_possible (pool : Pool all) (inv : Inv all sys posted entries lost) (event : Event) :
    (∃ next now, step sys event = some (next, now)) ↔ Possible sys event := by
  cases event with
  | accept connId config sendAnswer recvAnswer =>
    rw [step, Possible]
    cases known : sys.server.connContexts connId <;> simp
  | request connId data byteLen =>
    constructor
    · rintro ⟨next, now, taken⟩
      obtain ⟨other, done, -⟩ := Option.map_eq_some_iff.mp taken
      rw [System.request, Option.bind_eq_bind, Option.bind_eq_some_iff] at done
      obtain ⟨ctx, known, rest⟩ := done
      rw [Option.bind_eq_bind, Option.bind_eq_some_iff] at rest
      obtain ⟨receive, found, -⟩ := rest
      exact ⟨by simp [known], receive, List.mem_of_find?_eq_some found, by simpa using List.find?_some found⟩
    · rintro ⟨known, receive, posted, mine⟩
      obtain ⟨ctx, known⟩ := Option.ne_none_iff_exists'.mp known
      have some_found : (sys.receives.find? (·.1 = connId)).isSome = true :=
        List.find?_isSome.mpr ⟨receive, posted, by simpa using mine⟩
      obtain ⟨first, found⟩ := Option.isSome_iff_exists.mp some_found
      obtain ⟨next, _, _, _, done, -⟩ := request_cases pool inv known found data byteLen
      exact ⟨next, [], by rw [step, done]; rfl⟩
  | sent index =>
    constructor
    · rintro ⟨next, now, taken⟩
      obtain ⟨other, done, -⟩ := Option.map_eq_some_iff.mp taken
      rw [System.sent, Option.bind_eq_bind, Option.bind_eq_some_iff] at done
      obtain ⟨send, found, -⟩ := done
      exact (List.getElem?_eq_some_iff.mp found).1
    · intro inside
      obtain ⟨next, _, done, -⟩ := sent_cases inv (List.getElem?_eq_getElem inside)
      exact ⟨next, [], by rw [step, done]; rfl⟩

end Steps

/-- The pool of the server's configuration: 512 buffers of the largest request in one block of memory. -/
def poolBuffers (base : UInt64) (lkey : UInt32) : List Buffer :=
  (List.range 512).map fun i => ⟨base + (i * MAX_REQUEST_SIZE).toUInt64, MAX_REQUEST_SIZE.toUInt64, lkey⟩

/-- The block lies in the address space and not at the null pointer. -/
theorem poolBuffers_pool {base : UInt64} (lkey : UInt32) (null : base ≠ 0)
    (fits : base.toNat + 512 * MAX_REQUEST_SIZE ≤ 2 ^ 64) : Pool (poolBuffers base lkey) := by
  have size : MAX_REQUEST_SIZE = 65680 := rfl
  have small : ∀ i < 512, i * 65680 < 2 ^ 32 := by
    intro i below
    omega
  have offset : ∀ i < 512, (i * MAX_REQUEST_SIZE).toUInt64.toNat = i * 65680 := by
    intro i below
    exact UInt64.toNat_ofNat_of_lt' (show i * 65680 < 2 ^ 64 by omega)
  have address : ∀ i < 512, (base + (i * MAX_REQUEST_SIZE).toUInt64).toNat = base.toNat + i * 65680 := by
    intro i below
    rw [UInt64.toNat_add, offset i below]
    exact Nat.mod_eq_of_lt (by omega)
  have positive : 0 < base.toNat := Nat.pos_of_ne_zero fun zero => null (UInt64.toNat_inj.mp zero)
  refine ⟨?_, ?_, ?_⟩
  · intro buf member
    obtain ⟨i, below, rfl⟩ := List.mem_map.mp member
    have nonzero : base + (i * MAX_REQUEST_SIZE).toUInt64 ≠ 0 := by
      intro zero
      have := address i (List.mem_range.mp below)
      rw [zero] at this
      simp at this
      omega
    rw [Buffer.isValid, decide_eq_true_iff]
    exact ⟨nonzero, show (0 : UInt64) < MAX_REQUEST_SIZE.toUInt64 by decide⟩
  · intro buf member
    obtain ⟨i, below, rfl⟩ := List.mem_map.mp member
    rfl
  · rw [poolBuffers, List.map_map]
    refine List.Nodup.map_on ?_ List.nodup_range
    intro i first j second same
    have inI := List.mem_range.mp first
    have inJ := List.mem_range.mp second
    have low : ∀ k < 512, ((base + (k * MAX_REQUEST_SIZE).toUInt64) &&& 0xFFFFFFFF).toUInt32.toNat =
        (base.toNat + k * 65680) % 2 ^ 32 := by
      intro k below
      rw [UInt64.toNat_toUInt32, UInt64.toNat_and, address k below]
      rw [show (0xFFFFFFFF : UInt64).toNat = 2 ^ 32 - 1 from rfl, Nat.and_two_pow_sub_one_eq_mod, Nat.mod_mod]
    have equal := congrArg UInt32.toNat same
    rw [Function.comp_apply, Function.comp_apply, low i inI, low j inJ] at equal
    have offsets : i * 65680 ≡ j * 65680 [MOD 2 ^ 32] := Nat.ModEq.add_left_cancel' base.toNat equal
    exact Nat.eq_of_mul_eq_mul_right (by decide) (offsets.eq_of_lt_of_lt (small i inI) (small j inJ))

theorem new_inv {hash : Nat} {store : KVStore} (consistent : Consistent hashKey hash store) (all : List Buffer) :
    Inv all (.new store all) [] [] [] := by
  refine ⟨⟨by simp [System.new], listed_nil, by simp⟩, by simp [System.new], ⟨hash, consistent⟩, ?_, by simp [System.new]⟩
  intro connId ctx found
  cases found

end Rdma.KvBuffers
