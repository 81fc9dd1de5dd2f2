import Rdma.KvPuts
import Rdma.KvSegments

/-!
Requests of any content (`kv_server.cpp`). `processRequestWithin` is
`ProcessRequest` with the sizes added in 64 bits and with every read of the
request checked: a read behind its end is undefined. On a request with a header
it is always defined and the same as `processRequest`, no sum wraps around, and
a PUT stores the bytes behind the descriptors under the key of the header and
answers OK, or leaves the store as it is and answers otherwise
(`requests_parsed_safely`).
-/
namespace Rdma.KvParsing
open Rdma.Types Rdma.Arrays Rdma.WrIds Rdma.KvProtocols Rdma.KvStores Rdma.KvMaps Rdma.KvServers
open Rdma.Runs (run)
open Rdma.KvSegments (Call)

/-! ### Reading a request -/

/-- The size of the request is `request_len`. -/
def readHeader (request : Cells UInt8) : Option RequestHeader := do
  let bytes ← request.load 0 HEADER_SIZE
  some (.read fun i => bytes.getD i 0)

/-- Where the value begins, if the request is long enough for it. -/
def valueOffset (header : RequestHeader) (requestLen : UInt64) : Option UInt64 :=
  let offset := HEADER_SIZE.toUInt64
  if header.segmentCount = 0 then
    if requestLen < offset + header.valueSize.toUInt64 then none else some offset
  else
    let descSize := header.segmentCount.toUInt64 * DESCRIPTOR_SIZE.toUInt64
    if requestLen < offset + descSize + header.valueSize.toUInt64 then none else some (offset + descSize)

def storeWithin (server : KVServer) (header : RequestHeader) (request : Cells UInt8) :
    Option (KvProtocols.Status × KVStore) :=
  match valueOffset header request.size.toUInt64 with
  | none => some (.invalidRequest, server.store)
  | some offset => do
    let value ← request.load offset.toNat header.valueSize.toNat
    server.store.put hashKey header.key (fun i => value.getD i 0) header.valueSize

/-- Send response. -/
def answerPut (server : KVServer) (ctx : ConnectionContext) (header : RequestHeader) (status : KvProtocols.Status) :
    KVServer × ConnectionContext :=
  let (responseBuf, server) := server.allocate
  if !responseBuf.isValid then (server, ctx)
  else
    let wrId := encode ctx.conn.connId .requestSend 0 (ctx.putsProcessed &&& 0xFFFFFFFF).toUInt32
    let (server, ctx) := server.respond ctx responseBuf ⟨.setPutResponse header.key status, []⟩ HEADER_SIZE.toUInt64 wrId
    (server, { ctx with putsProcessed := ctx.putsProcessed + 1 })

def processPutWithin (server : KVServer) (ctx : ConnectionContext) (header : RequestHeader) (request : Cells UInt8) :
    Option (KVServer × ConnectionContext) := do
  let (status, store) ← storeWithin server header request
  some (answerPut { server with store := store } ctx header status)

def processRequestWithin (server : KVServer) (ctx : ConnectionContext) (request : Cells UInt8) :
    Option (KVServer × ConnectionContext) :=
  if request.size < HEADER_SIZE then some (server.sendErrorResponse ctx 0 .invalidRequest)
  else do
    let header ← readHeader request
    if header.opType = OpType.get.value then server.processGet ctx header
    else if header.opType = OpType.put.value then processPutWithin server ctx header request
    else some (server.sendErrorResponse ctx header.key .invalidRequest)

/-! ### No read behind the end -/

theorem readHeader_eq {request : Cells UInt8} (long : HEADER_SIZE ≤ request.size) :
    readHeader request = some (.read request.cell) := by
  have inside : 0 + HEADER_SIZE ≤ request.size := by rwa [Nat.zero_add]
  rw [readHeader, load_inside inside, Option.bind_eq_bind, Option.bind_some]
  refine congrArg some (header_congr fun i below => ?_)
  rw [window_getD request 0 below, Nat.zero_add]

/-- The sizes that a header can ask for are small: no sum and no product of them wraps around. -/
structure NoWrap (header : RequestHeader) : Prop where
  descriptors : (header.segmentCount.toUInt64 * DESCRIPTOR_SIZE.toUInt64).toNat =
    header.segmentCount.toNat * DESCRIPTOR_SIZE
  contiguous : (HEADER_SIZE.toUInt64 + header.valueSize.toUInt64).toNat = HEADER_SIZE + header.valueSize.toNat
  start : (HEADER_SIZE.toUInt64 + header.segmentCount.toUInt64 * DESCRIPTOR_SIZE.toUInt64).toNat = valueStart header
  whole : (HEADER_SIZE.toUInt64 + header.segmentCount.toUInt64 * DESCRIPTOR_SIZE.toUInt64 +
    header.valueSize.toUInt64).toNat = valueStart header + header.valueSize.toNat

theorem no_wrap (header : RequestHeader) : NoWrap header := by
  have segments := header.segmentCount.toNat_lt
  have size := header.valueSize.toNat_lt
  have descriptors : (header.segmentCount.toUInt64 * DESCRIPTOR_SIZE.toUInt64).toNat =
      header.segmentCount.toNat * DESCRIPTOR_SIZE := by
    rw [UInt64.toNat_mul, UInt8.toNat_toUInt64]
    exact Nat.mod_eq_of_lt (show header.segmentCount.toNat * 8 < 2 ^ 64 by omega)
  have start : (HEADER_SIZE.toUInt64 + header.segmentCount.toUInt64 * DESCRIPTOR_SIZE.toUInt64).toNat =
      valueStart header := by
    rw [UInt64.toNat_add, descriptors]
    exact Nat.mod_eq_of_lt (show 16 + header.segmentCount.toNat * 8 < 2 ^ 64 by omega)
  refine ⟨descriptors, ?_, start, ?_⟩
  · rw [UInt64.toNat_add, UInt32.toNat_toUInt64]
    exact Nat.mod_eq_of_lt (show 16 + header.valueSize.toNat < 2 ^ 64 by omega)
  · rw [UInt64.toNat_add, start, UInt32.toNat_toUInt64]
    exact Nat.mod_eq_of_lt (show 16 + header.segmentCount.toNat * 8 + header.valueSize.toNat < 2 ^ 64 by omega)

/-- The check in 64 bits is the check. -/
theorem valueOffset_eq (header : RequestHeader) (requestLen : UInt64) :
    valueOffset header requestLen =
      if requestLen.toNat < valueStart header + header.valueSize.toNat then none
      else some (UInt64.ofNat (valueStart header)) := by
  have sums := no_wrap header
  unfold valueOffset
  by_cases contiguous : header.segmentCount = 0
  · have start : valueStart header = HEADER_SIZE := by
      rw [valueStart, contiguous]
      rfl
    simp only [if_pos contiguous, UInt64.lt_iff_toNat_lt, sums.contiguous, start]
  · simp only [if_neg contiguous, UInt64.lt_iff_toNat_lt, sums.whole, ← sums.start, UInt64.ofNat_toNat]

/-- The value lies inside the request. -/
theorem storeWithin_eq (server : KVServer) (header : RequestHeader) {request : Cells UInt8}
    (word : request.size < 2 ^ 64) :
    storeWithin server header request = server.storeValue header request.cell request.size := by
  have size : request.size.toUInt64.toNat = request.size := UInt64.toNat_ofNat_of_lt' word
  rw [storeWithin, valueOffset_eq, size, storeValue_eq]
  by_cases short : request.size < valueStart header + header.valueSize.toNat
  · rw [if_pos short, if_pos short]
  · have start : (UInt64.ofNat (valueStart header)).toNat = valueStart header := by
      rw [← (no_wrap header).start, UInt64.ofNat_toNat]
    rw [if_neg short, if_neg short]
    dsimp only
    rw [start, load_inside (Nat.not_lt.mp short), Option.bind_eq_bind, Option.bind_some]
    exact put_congr hashKey server.store header.key fun i below => window_getD request _ below 0

theorem processPut_eq (server : KVServer) (ctx : ConnectionContext) (header : RequestHeader) (data : Nat → UInt8)
    (requestLen : Nat) : server.processPut ctx header data requestLen =
      (server.storeValue header data requestLen).map fun stored =>
        answerPut { server with store := stored.2 } ctx header stored.1 := by
  unfold KVServer.processPut answerPut
  cases server.storeValue header data requestLen with
  | none => rfl
  | some stored =>
    obtain ⟨status, store⟩ := stored
    dsimp only [Option.bind_eq_bind, Option.bind_some, Option.map_some]
    split <;> rfl

theorem processPutWithin_eq (server : KVServer) (ctx : ConnectionContext) (header : RequestHeader)
    {request : Cells UInt8} (word : request.size < 2 ^ 64) :
    processPutWithin server ctx header request = server.processPut ctx header request.cell request.size := by
  rw [processPut_eq, processPutWithin, storeWithin_eq server header word]
  cases server.storeValue header request.cell request.size <;> rfl

/-- A request with a header is only read inside. -/
theorem within_eq (server : KVServer) (ctx : ConnectionContext) {request : Cells UInt8}
    (long : HEADER_SIZE ≤ request.size) (word : request.size < 2 ^ 64) :
    processRequestWithin server ctx request = server.processRequest ctx request.cell request.size := by
  have short : ¬request.size < HEADER_SIZE := Nat.not_lt.mpr long
  rw [processRequestWithin, KVServer.processRequest, if_neg short, if_neg short, readHeader_eq long,
    Option.bind_eq_bind, Option.bind_some, processPutWithin_eq server ctx _ word]

/-! ### What a request does to the store -/

/-- The store holds the value under the key, and under every other key what it held before. -/
structure Holds (before after : KVStore) (key : UInt64) (value : List UInt8) : Prop where
  here : ∀ bufferSize : UInt32, value.length ≤ bufferSize.toNat →
    after.get hashKey key bufferSize = some (.ok (value, .ofNat value.length))
  elsewhere : ∀ other ≠ key, ∀ bufferSize, after.get hashKey other bufferSize = before.get hashKey other bufferSize

section Requests
variable {width : Nat} {server : KVServer}

theorem put_holds {store next : KVStore} (consistent : Consistent hashKey width store)
    (kept : Consistent hashKey width next) {key : UInt64} {value : List UInt8}
    (after : Represents width next (Function.update (contentsOf hashKey store) key (some value))) :
    Holds store next key value := by
  constructor
  · intro bufferSize fits
    rw [get_represents kept.sound after, Contents.get, Function.update_self]
    dsimp only
    rw [if_neg (Nat.not_lt.mpr fits)]
  · intro other different bufferSize
    rw [get_represents kept.sound after, get_represents consistent.sound (represents_contentsOf consistent.sound), Contents.get,
      Contents.get, Function.update_of_ne different]

/-- A put answered with OK stores the value; otherwise it changes nothing. -/
theorem put_outcome {store : KVStore} (consistent : Consistent hashKey width store) (key : UInt64)
    (valueData : Nat → UInt8) (valueSize : UInt32) :
    ∃ status next, store.put hashKey key valueData valueSize = some (status, next) ∧
      (status = .ok ∧ Holds store next key ((List.range valueSize.toNat).map valueData) ∨
        status ≠ .ok ∧ next = store) := by
  obtain ⟨status, next, puts, did⟩ := put_cases consistent key valueData valueSize
  have after := put_represents consistent (represents_contentsOf consistent.sound) did
  have kept := put_consistent consistent did
  refine ⟨status, next, puts, ?_⟩
  cases did with
  | invalid wrong => exact .inr ⟨by decide, rfl⟩
  | noSlot none_ => exact .inr ⟨by decide, rfl⟩
  | full absent taken => exact .inr ⟨by decide, rfl⟩
  | update index entry valid inside filled same => exact .inl ⟨rfl, put_holds consistent kept after⟩
  | insert index slotIndex valid absent last vacant => exact .inl ⟨rfl, put_holds consistent kept after⟩

/-- What becomes of a PUT: the status, the store, and the answer that says the status. -/
structure Served (server after : KVServer) (request : Cells UInt8) (header : RequestHeader)
    (status : KvProtocols.Status) : Prop where
  computed : storeWithin server header request = some (status, after.store)
  outcome : status = .ok ∧ valueStart header + header.valueSize.toNat ≤ request.size ∧
      Holds server.store after.store header.key (request.window (valueStart header) header.valueSize.toNat) ∨
    status ≠ .ok ∧ after.store = server.store
  answered : ∀ buf rest, server.freeBuffers = buf :: rest → buf.isValid = true →
    after.written buf.addr = some ⟨.setPutResponse header.key status, []⟩

theorem allocate_store (server : KVServer) : server.allocate.2.store = server.store := by
  unfold KVServer.allocate
  split <;> rfl

theorem answerPut_store (server : KVServer) (ctx : ConnectionContext) (header : RequestHeader)
    (status : KvProtocols.Status) : (answerPut server ctx header status).1.store = server.store := by
  unfold answerPut
  dsimp only
  split
  · exact allocate_store server
  · exact allocate_store server

theorem answerPut_written (ctx : ConnectionContext) (header : RequestHeader) (status : KvProtocols.Status)
    {buf : Buffer} {rest : List Buffer} (free : server.freeBuffers = buf :: rest) (valid : buf.isValid = true) :
    (answerPut server ctx header status).1.written buf.addr = some ⟨.setPutResponse header.key status, []⟩ := by
  have allocated : server.allocate = (buf, { server with freeBuffers := rest }) := by rw [KVServer.allocate, free]
  unfold answerPut
  rw [allocated]
  simp [valid, KVServer.respond]

theorem storeWithin_outcome (consistent : Consistent hashKey width server.store) (header : RequestHeader)
    {request : Cells UInt8} (word : request.size < 2 ^ 64) :
    ∃ status store, storeWithin server header request = some (status, store) ∧
      (status = .ok ∧ valueStart header + header.valueSize.toNat ≤ request.size ∧
          Holds server.store store header.key (request.window (valueStart header) header.valueSize.toNat) ∨
        status ≠ .ok ∧ store = server.store) := by
  rw [storeWithin_eq server header word, storeValue_eq]
  by_cases short : request.size < valueStart header + header.valueSize.toNat
  · rw [if_pos short]
    exact ⟨.invalidRequest, server.store, rfl, .inr ⟨by decide, rfl⟩⟩
  · rw [if_neg short]
    obtain ⟨status, store, puts, outcome⟩ :=
      put_outcome consistent header.key (fun i => request.cell (valueStart header + i)) header.valueSize
    refine ⟨status, store, puts, ?_⟩
    rcases outcome with ⟨ok, holds⟩ | unchanged
    · exact .inl ⟨ok, Nat.not_lt.mp short, holds⟩
    · exact .inr unchanged

theorem put_served (consistent : Consistent hashKey width server.store) (ctx : ConnectionContext)
    (header : RequestHeader) {request : Cells UInt8} (word : request.size < 2 ^ 64) :
    ∃ after ctx' status, processPutWithin server ctx header request = some (after, ctx') ∧
      Served server after request header status := by
  obtain ⟨status, store, stored, outcome⟩ := storeWithin_outcome consistent header word
  have same := answerPut_store { server with store := store } ctx header status
  refine ⟨(answerPut { server with store := store } ctx header status).1,
    (answerPut { server with store := store } ctx header status).2, status, ?_, ?_, ?_, ?_⟩
  · rw [processPutWithin, stored]
    rfl
  · rw [stored, same]
  · rw [same]
    exact outcome
  · intro buf rest free valid
    have free' : { server with store := store }.freeBuffers = buf :: rest := free
    exact answerPut_written ctx header status free' valid

theorem processGet_store (consistent : Consistent hashKey width server.store) (ctx : ConnectionContext)
    (header : RequestHeader) :
    ∃ after ctx', server.processGet ctx header = some (after, ctx') ∧ after.store = server.store := by
  have same := allocate_store server
  unfold KVServer.processGet
  dsimp only
  split
  · exact ⟨_, _, rfl, same⟩
  · obtain ⟨result, got, -⟩ := get_defined consistent header.key MAX_VALUE_SIZE
    rw [same, got, Option.bind_eq_bind, Option.bind_some]
    cases result with
    | error status => exact ⟨_, _, rfl, same⟩
    | ok copied => exact ⟨_, _, rfl, same⟩

theorem sendErrorResponse_store (server : KVServer) (ctx : ConnectionContext) (key : UInt64)
    (status : KvProtocols.Status) : (server.sendErrorResponse ctx key status).1.store = server.store := by
  unfold KVServer.sendErrorResponse
  dsimp only
  split
  · exact allocate_store server
  · exact allocate_store server

/-- What becomes of a request with a header. -/
theorem request_served (consistent : Consistent hashKey width server.store) (ctx : ConnectionContext)
    {request : Cells UInt8} (long : HEADER_SIZE ≤ request.size) (word : request.size < 2 ^ 64) :
    ∃ after ctx', processRequestWithin server ctx request = some (after, ctx') ∧
      if (RequestHeader.read request.cell).opType = OpType.put.value then
        ∃ status, Served server after request (.read request.cell) status
      else after.store = server.store := by
  rw [processRequestWithin, if_neg (Nat.not_lt.mpr long), readHeader_eq long, Option.bind_eq_bind, Option.bind_some]
  by_cases get : (RequestHeader.read request.cell).opType = OpType.get.value
  · have noPut : (RequestHeader.read request.cell).opType ≠ OpType.put.value := by
      rw [get]
      decide
    obtain ⟨after, ctx', processed, same⟩ := processGet_store consistent ctx (.read request.cell)
    refine ⟨after, ctx', ?_, ?_⟩
    · rw [if_pos get, processed]
    · rw [if_neg noPut, same]
  rw [if_neg get]
  by_cases put : (RequestHeader.read request.cell).opType = OpType.put.value
  · obtain ⟨after, ctx', status, processed, served⟩ := put_served consistent ctx (.read request.cell) word
    refine ⟨after, ctx', ?_, ?_⟩
    · rw [if_pos put, processed]
    · rw [if_pos put]
      exact ⟨status, served⟩
  · rw [if_neg put]
    refine ⟨(server.sendErrorResponse ctx (RequestHeader.read request.cell).key .invalidRequest).1,
      (server.sendErrorResponse ctx (RequestHeader.read request.cell).key .invalidRequest).2, rfl, ?_⟩
    rw [if_neg put, sendErrorResponse_store]

end Requests

/-- On a server with a store that any calls after `Initialize` lead to, every request with a header is read only
    inside, no sum of its sizes wraps around, a PUT stores exactly the value behind the descriptors and answers OK or
    changes nothing and answers otherwise, and other requests leave the store as it is. -/
theorem requests_parsed_safely {config : StoreConfig} (room : MAX_VALUE_SIZE.toNat ≤ config.slotSize.toNat)
    (holds : config.slotSize ≤ config.totalStorageSize)
    (few : config.totalStorageSize.toNat / config.slotSize.toNat < 2 ^ 32) (rounds : config.hashTableSize.toNat ≤ 2 ^ 63)
    {storage : Nat → UInt8} {fresh : KVStore}
    (initialized : KVStore.new.initializeWith config (some storage) = some (true, fresh)) {calls : List Call}
    {answers : List Answer} {server : KVServer}
    (ran : run (KvSegments.step hashKey) fresh calls = some (server.store, answers)) (ctx : ConnectionContext)
    {request : Cells UInt8} (long : HEADER_SIZE ≤ request.size) (word : request.size < 2 ^ 64) :
    NoWrap (.read request.cell) ∧
      ∃ after ctx', processRequestWithin server ctx request = some (after, ctx') ∧
        server.processRequest ctx request.cell request.size = some (after, ctx') ∧
        if (RequestHeader.read request.cell).opType = OpType.put.value then
          ∃ status, Served server after request (.read request.cell) status
        else after.store = server.store := by
  obtain ⟨width, other, same, consistent, -⟩ := initialize_consistent hashKey config room holds few rounds storage
  rw [initialized] at same
  obtain ⟨-, rfl⟩ := Prod.mk.inj (Option.some.inj same)
  have kept := KvSegments.run_consistent consistent ran
  obtain ⟨after, ctx', processed, served⟩ := request_served kept ctx long word
  exact ⟨no_wrap _, after, ctx', processed, (within_eq server ctx long word).symm.trans processed, served⟩

/-- A PUT of 4096 bytes behind two descriptors, key 5. -/
def twoSegmentPut : Cells UInt8 :=
  ⟨4128, fun i => if i < HEADER_SIZE then (RequestHeader.setPut 5 4096 2).bytes i else 7⟩

/-- A server with one free buffer and no connections. -/
def idleServer (store : KVStore) : KVServer :=
  ⟨store, [⟨65536, 65680, 7⟩], fun _ => none, fun _ => none, fun _ => none, fun _ => none⟩

def idleContext : ConnectionContext where
  conn := { connId := 7, state := .connected, qp := { config := {}, device := ⟨fun _ => none, fun _ => none, [], []⟩ } }

theorem two_segment_put_served : ∃ fresh,
    KVStore.new.initializeWith {} (some fun _ => 0) = some (true, fresh) ∧ ∃ after ctx' status,
      processRequestWithin (idleServer fresh) idleContext twoSegmentPut = some (after, ctx') ∧
        Served (idleServer fresh) after twoSegmentPut (.setPut 5 4096 2) status := by
  obtain ⟨width, fresh, initialized, -⟩ :=
    initialize_consistent hashKey {} (by decide) (by decide) (by decide) (by decide) fun _ => 0
  have header : RequestHeader.read twoSegmentPut.cell = .setPut 5 4096 2 :=
    read_header fun i inside => if_pos inside
  have calls : run (KvSegments.step hashKey) fresh [] = some ((idleServer fresh).store, []) := rfl
  obtain ⟨-, after, ctx', processed, -, outcome⟩ := requests_parsed_safely (by decide) (by decide) (by decide) (by decide)
    initialized calls idleContext (show HEADER_SIZE ≤ twoSegmentPut.size by decide)
    (show twoSegmentPut.size < 2 ^ 64 by decide)
  rw [header, if_pos (show (RequestHeader.setPut 5 4096 2).opType = OpType.put.value from rfl)] at outcome
  obtain ⟨status, served⟩ := outcome
  exact ⟨fresh, initialized, after, ctx', status, processed, served⟩

end Rdma.KvParsing
