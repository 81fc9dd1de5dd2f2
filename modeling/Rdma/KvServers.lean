import Rdma.BufferQueues
import Rdma.Connections
import Rdma.KvStores

/-!
The server of the key-value example (`kv_server.h`, `kv_server.cpp`) over its
store, its buffer pool and the queue pairs of its connections. The bytes of a
received request are an input, and a completion hands the server one work
completion.

The pool is taken to be a correct free list: the queue of free buffers that a
`LocalBufferPool` with the FIFO policy is once `tail` starts inside its ring
(`BufferQueues.queue_run`). The pool that the server does create is undefined at
the first `Free` (`BufferPools.fifo_iff_no_free`), so nothing here speaks of a
server over that pool after it has freed a buffer.
-/
namespace Rdma.KvServers
open Rdma.Types Rdma.Verbs Rdma.WrIds Rdma.QueuePairs Rdma.Connections Rdma.KvProtocols Rdma.KvStores
open Rdma.BufferPools (Fifo)

structure ConnectionContext where
  conn : Connection
  requestsProcessed : UInt64 := 0
  getsProcessed : UInt64 := 0
  putsProcessed : UInt64 := 0

structure PostedBuffer where
  buf : Buffer
  connId : UInt16
  deriving DecidableEq, Repr

/-- What the server writes into a response buffer. -/
structure Response where
  header : ResponseHeader
  value : List UInt8
  deriving DecidableEq, Repr

/-- `freeBuffers` stands for the pool, which is taken to be a correct free list. `written` is the last response written at
    an address. -/
structure KVServer where
  store : KVStore
  freeBuffers : List Buffer
  written : UInt64 → Option Response
  connContexts : UInt16 → Option ConnectionContext
  postedRecvBuffers : UInt64 → Option PostedBuffer
  postedSendBuffers : UInt64 → Option Buffer

/-- A work completion with its byte count. -/
structure Completion extends Wc where
  byteLen : UInt32 := 0

/-- `Allocate` of a correct pool: the buffer free longest, or the empty one. -/
def KVServer.allocate (server : KVServer) : Buffer × KVServer :=
  match server.freeBuffers with
  | [] => (.empty, server)
  | buf :: rest => (buf, { server with freeBuffers := rest })

/-- `Free` of a correct pool. -/
def KVServer.free (server : KVServer) (buf : Buffer) : KVServer :=
  { server with freeBuffers := server.freeBuffers ++ [buf] }

/-- The server's pool is the queue that `queue_run` is about. -/
theorem KVServer.allocate_queue (server : KVServer) (outstanding : List Buffer) :
    ∃ taken, Fifo.step ⟨server.freeBuffers, outstanding⟩ .allocate =
      (⟨server.allocate.2.freeBuffers, taken⟩, [server.allocate.1]) := by
  unfold Fifo.step KVServer.allocate
  cases empty : server.freeBuffers with
  | nil => exact ⟨outstanding, by simp only [empty]⟩
  | cons buf rest => exact ⟨buf :: outstanding, rfl⟩

theorem KVServer.free_queue (server : KVServer) (outstanding : List Buffer) (buf : Buffer) :
    Fifo.step ⟨server.freeBuffers, outstanding⟩ (.free buf) =
      (⟨(server.free buf).freeBuffers, outstanding.erase buf⟩, []) := rfl

def KVServer.postRecvBuffers (server : KVServer) (ctx : ConnectionContext) : Nat → KVServer × ConnectionContext
  | 0 => (server, ctx)
  | count + 1 =>
    let (buf, server) := server.allocate
    if buf.isValid then
      let bufIndex := (buf.addr &&& 0xFFFFFFFF).toUInt32
      let wrId := encode ctx.conn.connId .recv 0 bufIndex
      let server := { server with
        postedRecvBuffers := Function.update server.postedRecvBuffers wrId (some ⟨buf, ctx.conn.connId⟩) }
      KVServer.postRecvBuffers server { ctx with conn := (ctx.conn.postRecv buf wrId).2 } count
    else KVServer.postRecvBuffers server ctx count

/-- Write the response, track its buffer, and send it; the status of `Send` is dropped. -/
def KVServer.respond (server : KVServer) (ctx : ConnectionContext) (buf : Buffer) (response : Response)
    (responseLen : UInt64) (wrId : UInt64) : KVServer × ConnectionContext :=
  ({ server with
      written := Function.update server.written buf.addr (some response)
      postedSendBuffers := Function.update server.postedSendBuffers wrId (some buf) },
    { ctx with conn := (ctx.conn.send (buf.slice 0 responseLen) wrId).2 })

def KVServer.sendErrorResponse (server : KVServer) (ctx : ConnectionContext) (key : UInt64) (status : KvProtocols.Status) :
    KVServer × ConnectionContext :=
  let (responseBuf, server) := server.allocate
  if !responseBuf.isValid then (server, ctx)
  else
    let wrId := encode ctx.conn.connId .requestSend 0 0
    server.respond ctx responseBuf ⟨.setPutResponse key status, []⟩ HEADER_SIZE.toUInt64 wrId

def KVServer.processGet (server : KVServer) (ctx : ConnectionContext) (header : RequestHeader) :
    Option (KVServer × ConnectionContext) :=
  let (responseBuf, server) := server.allocate
  if !responseBuf.isValid then some (server, ctx)
  else do
    let result ← server.store.get hashKey header.key MAX_VALUE_SIZE
    let wrId := encode ctx.conn.connId .requestSend 0 (ctx.getsProcessed &&& 0xFFFFFFFF).toUInt32
    let (server, ctx) := match result with
      | .error status =>
        server.respond ctx responseBuf ⟨.setGetResponse header.key status 0, []⟩ HEADER_SIZE.toUInt64 wrId
      | .ok (bytes, valueSize) =>
        server.respond ctx responseBuf ⟨.setGetResponse header.key .ok valueSize, bytes⟩
          (HEADER_SIZE.toUInt64 + valueSize.toUInt64) wrId
    some (server, { ctx with getsProcessed := ctx.getsProcessed + 1 })

/-- The value behind the header and the descriptors, if the request is long enough for both. -/
def KVServer.storeValue (server : KVServer) (header : RequestHeader) (data : Nat → UInt8) (requestLen : Nat) :
    Option (KvProtocols.Status × KVStore) :=
  let offset := HEADER_SIZE
  if header.segmentCount = 0 then
    if requestLen < offset + header.valueSize.toNat then some (.invalidRequest, server.store)
    else server.store.put hashKey header.key (fun i => data (offset + i)) header.valueSize
  else
    let descSize := header.segmentCount.toNat * DESCRIPTOR_SIZE
    if requestLen < offset + descSize + header.valueSize.toNat then some (.invalidRequest, server.store)
    else server.store.put hashKey header.key (fun i => data (offset + descSize + i)) header.valueSize

/-- Where the value of a PUT begins. -/
def valueStart (header : RequestHeader) : Nat := HEADER_SIZE + header.segmentCount.toNat * DESCRIPTOR_SIZE

/-- A contiguous value is one behind no descriptors. -/
theorem storeValue_eq (server : KVServer) (header : RequestHeader) (data : Nat → UInt8) (requestLen : Nat) :
    server.storeValue header data requestLen =
      if requestLen < valueStart header + header.valueSize.toNat then some (.invalidRequest, server.store)
      else server.store.put hashKey header.key (fun i => data (valueStart header + i)) header.valueSize := by
  unfold KVServer.storeValue
  dsimp only
  by_cases contiguous : header.segmentCount = 0
  · have start : valueStart header = HEADER_SIZE := by
      rw [valueStart, contiguous]
      rfl
    rw [if_pos contiguous, start]
  · rw [if_neg contiguous, valueStart]

def KVServer.processPut (server : KVServer) (ctx : ConnectionContext) (header : RequestHeader) (data : Nat → UInt8)
    (requestLen : Nat) : Option (KVServer × ConnectionContext) := do
  let (status, store) ← server.storeValue header data requestLen
  let (responseBuf, server) := { server with store := store }.allocate
  if !responseBuf.isValid then some (server, ctx)
  else
    let wrId := encode ctx.conn.connId .requestSend 0 (ctx.putsProcessed &&& 0xFFFFFFFF).toUInt32
    let (server, ctx) := server.respond ctx responseBuf ⟨.setPutResponse header.key status, []⟩ HEADER_SIZE.toUInt64 wrId
    some (server, { ctx with putsProcessed := ctx.putsProcessed + 1 })

def KVServer.processRequest (server : KVServer) (ctx : ConnectionContext) (data : Nat → UInt8) (requestLen : Nat) :
    Option (KVServer × ConnectionContext) :=
  if requestLen < HEADER_SIZE then some (server.sendErrorResponse ctx 0 .invalidRequest)
  else
    let header := RequestHeader.read data
    if header.opType = OpType.get.value then server.processGet ctx header
    else if header.opType = OpType.put.value then server.processPut ctx header data requestLen
    else some (server.sendErrorResponse ctx header.key .invalidRequest)

/-- What the context pointer leads to afterwards. -/
def KVServer.withContext (server : KVServer) (connId : UInt16) (ctx : ConnectionContext) : KVServer :=
  { server with connContexts := Function.update server.connContexts connId (some ctx) }

def KVServer.handleRequest (server : KVServer) (connId : UInt16) (wc : Completion) (data : Nat → UInt8) :
    Option KVServer :=
  match server.connContexts connId with
  | none => some server
  | some ctx =>
    match server.postedRecvBuffers wc.wrId with
    | none => some server
    | some posted =>
      let server := { server with postedRecvBuffers := Function.update server.postedRecvBuffers wc.wrId none }
      if wc.byteLen.toNat < HEADER_SIZE then
        let (server, ctx) := (server.free posted.buf).postRecvBuffers ctx 1
        some (server.withContext connId ctx)
      else do
        let (server, ctx) ← server.processRequest ctx data wc.byteLen.toNat
        let (server, ctx) := (server.free posted.buf).postRecvBuffers ctx 1
        some (server.withContext connId { ctx with requestsProcessed := ctx.requestsProcessed + 1 })

def KVServer.handleCompletion (server : KVServer) (wc : Completion) (data : Nat → UInt8) : Option KVServer :=
  if wc.status ≠ 0 then some server
  else
    let opcode := getOpcode wc.wrId
    if opcode = RpcOpcode.recv.value then server.handleRequest (getConnId wc.wrId) wc data
    else if opcode = RpcOpcode.requestSend.value then
      match server.postedSendBuffers wc.wrId with
      | none => some server
      | some buf =>
        some { server.free buf with postedSendBuffers := Function.update server.postedSendBuffers wc.wrId none }
    else some server

end Rdma.KvServers
