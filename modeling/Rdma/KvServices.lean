import Rdma.BoundedMaps
import Rdma.KvTracking
import Rdma.Observations

/-!
What the key-value server is for: it serves a map with room for as many keys as
the store has slots (`Service`). `reply` is what the code makes of a request,
apart from the buffers; on a store that the map stands for it answers what the
map answers, NO_SPACE included (`reply_serves`). `serves_as_map` is every run of
the server over a correct pool: the responses that it hands to the devices are,
request by request and over all connections, those of one map.
-/
namespace Rdma.KvServices
open Rdma.Arrays Rdma.Types Rdma.Verbs Rdma.WrIds Rdma.Runs Rdma.QueuePairs Rdma.Connections Rdma.BoundedMaps
open Rdma.KvProtocols Rdma.KvStores Rdma.KvServers Rdma.KvBuffers Rdma.KvTracking Rdma.Observations
open Rdma.KvMaps (Contents Represents contentsOf represents_contentsOf get_represents put_represents
  initialize_consistent initialize_fresh)

/-! ### The service -/

/-- The values by their keys, for a server with so many slots. -/
abbrev Service (capacity : Nat) := BoundedMap UInt64 (List UInt8) capacity

section
variable {capacity : Nat}

def Service.get (service : Service capacity) (key : UInt64) : Response :=
  match service.find key with
  | none => ⟨.setGetResponse key .notFound 0, []⟩
  | some value => ⟨.setGetResponse key .ok (.ofNat value.length), value⟩

/-- A value of another size than the protocol allows is refused, and any value once every slot is in use. -/
def Service.put (service : Service capacity) (key : UInt64) (valueSize : UInt32) (value : List UInt8) :
    KvProtocols.Status × Service capacity :=
  if isValidValueSize valueSize then
    match service.store key value with
    | none => (.noSpace, service)
    | some stored => (.ok, stored)
  else (.invalidRequest, service)

/-- The bytes of the value that a PUT carries. -/
def putValue (data : Nat → UInt8) : List UInt8 :=
  (List.range (RequestHeader.read data).valueSize.toNat).map fun i => data (valueStart (.read data) + i)

/-- What a request with a header is answered, and what it leaves of the map. -/
def Service.serve (service : Service capacity) (data : Nat → UInt8) (requestLen : Nat) : Response × Service capacity :=
  let header := RequestHeader.read data
  if header.opType = OpType.get.value then (service.get header.key, service)
  else if header.opType = OpType.put.value then
    if requestLen < valueStart header + header.valueSize.toNat then
      (⟨.setPutResponse header.key .invalidRequest, []⟩, service)
    else
      let (status, stored) := service.put header.key header.valueSize (putValue data)
      (⟨.setPutResponse header.key status, []⟩, stored)
  else (⟨.setPutResponse header.key .invalidRequest, []⟩, service)

end

/-! ### What the code makes of a request -/

/-- The store after a request, and its response; the value is as long as the header says. -/
def reply (store : KVStore) (data : Nat → UInt8) (requestLen : Nat) : Option (Response × KVStore) :=
  let header := RequestHeader.read data
  if header.opType = OpType.get.value then
    (store.get hashKey header.key MAX_VALUE_SIZE).map fun result =>
      match result with
      | .error status => (⟨.setGetResponse header.key status 0, []⟩, store)
      | .ok (bytes, valueSize) => (⟨.setGetResponse header.key .ok valueSize, bytes⟩, store)
  else if header.opType = OpType.put.value then
    if requestLen < valueStart header + header.valueSize.toNat then
      some (⟨.setPutResponse header.key .invalidRequest, []⟩, store)
    else (store.put hashKey header.key (fun i => data (valueStart header + i)) header.valueSize).map fun (status, stored) =>
        (⟨.setPutResponse header.key status, []⟩, stored)
  else some (⟨.setPutResponse header.key .invalidRequest, []⟩, store)

/-- The counters of the connection after a request of it was answered. -/
def counted (ctx : ConnectionContext) (data : Nat → UInt8) : ConnectionContext :=
  if (RequestHeader.read data).opType = OpType.get.value then { ctx with getsProcessed := ctx.getsProcessed + 1 }
  else if (RequestHeader.read data).opType = OpType.put.value then { ctx with putsProcessed := ctx.putsProcessed + 1 }
  else ctx

/-- The work request of a response. -/
def responseWr (ctx : ConnectionContext) (request : Request) (buf : Buffer) (response : Response) : SendWr :=
  { wrId := sendId ctx.conn.connId request, opcode := .send, signaled := ctx.conn.qp.shouldSignal.1,
    sgList := [sgeOf (buf.slice 0 (HEADER_SIZE.toUInt64 + response.header.valueSize.toUInt64))] }

/-- The server and the connection after a response was written into a buffer and sent. -/
def responded (server : KVServer) (ctx : ConnectionContext) (request : Request) (buf : Buffer) (response : Response) :
    KVServer × ConnectionContext :=
  ({ server with
      written := Function.update server.written buf.addr (some response)
      postedSendBuffers := Function.update server.postedSendBuffers (sendId ctx.conn.connId request) (some buf) },
    { ctx with conn := sendConn ctx.conn (responseWr ctx request buf response) })

section Code
variable {server : KVServer} {ctx : ConnectionContext} {buf : Buffer} {rest : List Buffer} {data : Nat → UInt8}
  {requestLen : Nat} {response : Response} {store : KVStore}

theorem respond_responded (connected : ctx.conn.state = .connected) (request : Request) {responseLen : UInt64}
    (whole : responseLen = HEADER_SIZE.toUInt64 + response.header.valueSize.toUInt64) :
    server.respond ctx buf response responseLen (sendId ctx.conn.connId request) =
      responded server ctx request buf response := by
  rw [KVServer.respond, send_conn connected, whole]
  rfl

/-- The store and the status of a PUT. -/
theorem reply_put (put : (RequestHeader.read data).opType = OpType.put.value) {store : KVStore}
    (replies : reply server.store data requestLen = some (response, store)) :
    ∃ status, server.storeValue (.read data) data requestLen = some (status, store) ∧
      response = ⟨.setPutResponse (RequestHeader.read data).key status, []⟩ := by
  have noGet : (RequestHeader.read data).opType ≠ OpType.get.value := by
    rw [put]
    decide
  unfold reply at replies
  dsimp only at replies
  rw [if_neg noGet, if_pos put] at replies
  rw [storeValue_eq]
  split at replies
  · rename_i short
    obtain ⟨rfl, rfl⟩ := Prod.mk.inj (Option.some.inj replies)
    rw [if_pos short]
    exact ⟨_, rfl, rfl⟩
  · rename_i whole
    rw [if_neg whole]
    obtain ⟨⟨status, stored⟩, puts, same⟩ := Option.map_eq_some_iff.mp replies
    obtain ⟨rfl, rfl⟩ := Prod.mk.inj same
    exact ⟨status, puts, rfl⟩

/-- A request with a header changes the store as `reply` says, and is answered if there is a free buffer. -/
theorem processRequest_dropped (free : server.freeBuffers = []) (long : HEADER_SIZE ≤ requestLen)
    (replies : reply server.store data requestLen = some (response, store)) :
    server.processRequest ctx data requestLen = some ({ server with store := store }, ctx) := by
  have unfilled : ∀ kept : KVStore, KVServer.allocate { server with store := kept } = (.empty, { server with store := kept }) :=
    fun kept => by rw [KVServer.allocate, free]
  have whole := replies
  unfold KVServer.processRequest
  unfold reply at replies
  rw [if_neg (Nat.not_lt.mpr long)]
  dsimp only at replies ⊢
  by_cases get : (RequestHeader.read data).opType = OpType.get.value
  · rw [if_pos get] at replies ⊢
    obtain ⟨result, -, same⟩ := Option.map_eq_some_iff.mp replies
    have kept : store = server.store := by
      cases result with
      | error status => exact (Prod.mk.inj same).2.symm
      | ok copied => exact (Prod.mk.inj same).2.symm
    rw [KVServer.processGet, unfilled server.store, kept]
    rfl
  rw [if_neg get] at replies ⊢
  by_cases put : (RequestHeader.read data).opType = OpType.put.value
  · obtain ⟨status, stored, -⟩ := reply_put put whole
    rw [if_pos put]
    unfold KVServer.processPut
    simp only [stored, Option.bind_eq_bind, Option.bind_some, unfilled store]
    rfl
  · rw [if_neg put] at replies ⊢
    rw [KVServer.sendErrorResponse, unfilled server.store, (Prod.mk.inj (Option.some.inj replies)).2]
    rfl

theorem processRequest_answered (connected : ctx.conn.state = .connected) (free : server.freeBuffers = buf :: rest)
    (valid : buf.isValid = true) (long : HEADER_SIZE ≤ requestLen)
    (replies : reply server.store data requestLen = some (response, store)) :
    server.processRequest ctx data requestLen =
      some ((responded { server with store := store, freeBuffers := rest } ctx (requestOf ctx data) buf response).1,
        counted (responded { server with store := store, freeBuffers := rest } ctx (requestOf ctx data) buf response).2
          data) := by
  have filled : ∀ kept : KVStore, KVServer.allocate { server with store := kept } =
      (buf, { server with store := kept, freeBuffers := rest }) := fun kept => by rw [KVServer.allocate, free]
  have responds : ∀ (request : Request) (responseLen : UInt64),
      responseLen = HEADER_SIZE.toUInt64 + response.header.valueSize.toUInt64 →
        KVServer.respond { server with store := store, freeBuffers := rest } ctx buf response responseLen
          (sendId ctx.conn.connId request) = responded { server with store := store, freeBuffers := rest } ctx request buf
            response := fun request _ whole => respond_responded connected request whole
  unfold KVServer.processRequest counted requestOf
  rw [if_neg (Nat.not_lt.mpr long)]
  dsimp only
  by_cases get : (RequestHeader.read data).opType = OpType.get.value
  · unfold reply at replies
    dsimp only at replies
    rw [if_pos get] at replies
    simp only [if_pos get]
    obtain ⟨result, gets, same⟩ := Option.map_eq_some_iff.mp replies
    unfold KVServer.processGet
    rw [filled server.store]
    dsimp only
    rw [valid, if_neg (by simp), gets, Option.bind_eq_bind, Option.bind_some]
    cases result with
    | error status =>
      obtain ⟨rfl, rfl⟩ := Prod.mk.inj same
      rw [← responds (.get ctx.getsProcessed) HEADER_SIZE.toUInt64 rfl]
      rfl
    | ok copied =>
      obtain ⟨rfl, rfl⟩ := Prod.mk.inj same
      rw [← responds (.get ctx.getsProcessed) _ rfl]
      rfl
  simp only [if_neg get]
  by_cases put : (RequestHeader.read data).opType = OpType.put.value
  · obtain ⟨status, stored, rfl⟩ := reply_put put replies
    simp only [if_pos put]
    unfold KVServer.processPut
    simp only [stored, Option.bind_eq_bind, Option.bind_some, filled store, valid, Bool.not_true, Bool.false_eq_true,
      if_false]
    rw [← responds (.put ctx.putsProcessed) HEADER_SIZE.toUInt64 rfl]
    rfl
  · unfold reply at replies
    dsimp only at replies
    rw [if_neg get, if_neg put] at replies
    obtain ⟨rfl, rfl⟩ := Prod.mk.inj (Option.some.inj replies)
    simp only [if_neg put]
    rw [KVServer.sendErrorResponse, filled server.store]
    dsimp only
    rw [valid, if_neg (by simp), ← responds .malformed HEADER_SIZE.toUInt64 rfl]
    rfl

end Code

/-! ### The store and its map -/

/-- The store holds the values of the map, and its table has a position for every slot. -/
structure Serves {capacity : Nat} (width : Nat) (store : KVStore) (service : Service capacity) : Prop where
  consistent : Consistent hashKey width store
  roomy : store.numSlots.toNat ≤ 2 ^ width
  slots : store.numSlots.toNat = capacity
  finds : ∀ key, service.find key = contentsOf hashKey store key
  counted : service.size = store.usedSlots.toNat

theorem represents_unique {width : Nat} {store : KVStore} {contents other : Contents}
    (first : Represents width store contents) (second : Represents width store other) : contents = other := by
  funext key
  refine Option.ext fun value => ?_
  rw [first key value, second key value]

section Store
variable {capacity width : Nat} {store : KVStore} {service : Service capacity}

theorem Serves.represents (serves : Serves width store service) : Represents width store (contentsOf hashKey store) :=
  represents_contentsOf serves.consistent.sound

/-- The used and the free slots are all slots. -/
theorem Serves.shared (serves : Serves width store service) :
    (live store.hashTable).values.length + store.freeSlots.length = capacity := by
  have all := serves.consistent.shared.length_eq
  rw [List.length_map, List.length_append, List.length_map, List.length_range, serves.slots] at all
  exact all

theorem Serves.full (serves : Serves width store service) : store.freeSlots = [] ↔ service.size = capacity := by
  have all := serves.shared
  have used := serves.consistent.counted
  rw [serves.counted, used, ← List.length_eq_zero_iff]
  omega

/-- While a slot is free, a position of the table is empty. -/
theorem Serves.vacant (serves : Serves width store service) (some_ : store.freeSlots ≠ []) :
    ∃ index < 2 ^ width, (live store.hashTable).cell index = none := by
  have size : (live store.hashTable).size = 2 ^ width := serves.consistent.table
  have free : 0 < store.freeSlots.length := List.length_pos_of_ne_nil some_
  have all := serves.shared
  have roomy := serves.roomy
  rw [serves.slots] at roomy
  have fewer : (live store.hashTable).values.length < (live store.hashTable).size := by omega
  rw [← size]
  exact values_length_lt.mp fewer

/-- No value is longer than the protocol allows. -/
theorem Serves.short (serves : Serves width store service) {key : UInt64} {value : List UInt8}
    (found : service.find key = some value) : value.length ≤ MAX_VALUE_SIZE.toNat := by
  rw [serves.finds] at found
  obtain ⟨index, inside, entry, filled, -, rfl⟩ := (serves.represents key value).mp found
  have listed : entry ∈ (live store.hashTable).values :=
    mem_values.mpr ⟨index, serves.consistent.table ▸ inside, filled⟩
  exact (window_length ..).trans_le (serves.consistent.bounded entry listed)

theorem get_serves (serves : Serves width store service) (key : UInt64) :
    (store.get hashKey key MAX_VALUE_SIZE).map (fun result =>
      match result with
      | .error status => (Response.mk (.setGetResponse key status 0) [], store)
      | .ok (bytes, valueSize) => (⟨.setGetResponse key .ok valueSize, bytes⟩, store)) =
        some (service.get key, store) := by
  rw [get_represents serves.consistent.sound serves.represents, Contents.get, ← serves.finds, Service.get]
  cases found : service.find key with
  | none => rfl
  | some value =>
    have fits : ¬MAX_VALUE_SIZE.toNat < value.length := Nat.not_lt.mpr (serves.short found)
    simp only [if_neg fits]
    rfl

/-- What the map is after a value was stored under the key. -/
theorem Serves.stored (serves : Serves width store service) {next : KVStore} {stored : Service capacity} {key : UInt64}
    {value : List UInt8} (kept : Consistent hashKey width next) (config : next.numSlots = store.numSlots)
    (after : Represents width next (Function.update (contentsOf hashKey store) key (some value)))
    (stores : service.store key value = some stored)
    (counted : next.usedSlots.toNat = store.usedSlots.toNat + if (service.find key).isNone then 1 else 0) :
    Serves width next stored := by
  refine ⟨kept, config ▸ serves.roomy, config ▸ serves.slots, fun other => ?_, ?_⟩
  · rw [find_stored stores, ← represents_unique after (represents_contentsOf kept.sound), Function.update_apply,
      serves.finds]
  · rw [size_stored stores, serves.counted, counted]

/-- A PUT is answered as the map answers it. -/
theorem put_serves (serves : Serves width store service) (key : UInt64) (valueData : Nat → UInt8) (valueSize : UInt32) :
    ∃ next, store.put hashKey key valueData valueSize =
        some ((service.put key valueSize ((List.range valueSize.toNat).map valueData)).1, next) ∧
      Serves width next (service.put key valueSize ((List.range valueSize.toNat).map valueData)).2 := by
  rw [Service.put]
  by_cases valid : isValidValueSize valueSize = true
  swap
  · rw [if_neg valid]
    exact ⟨store, put_invalid hashKey store key valueData (Bool.not_eq_true _ ▸ valid), serves⟩
  rw [if_pos valid]
  cases stores : service.store key ((List.range valueSize.toNat).map valueData) with
  | none => exact ⟨store, put_noSlot hashKey key valueData valid (serves.full.mpr (store_none.mp stores)), serves⟩
  | some stored =>
    have some_ : store.freeSlots ≠ [] := by
      intro none_
      rw [store_none.mpr (serves.full.mp none_)] at stores
      cases stores
    have consistent := serves.consistent
    have represents := serves.represents
    cases put_search consistent.tabled key valid some_ with
    | update index entry inside filled same found puts =>
      have did : PutCase hashKey width store key valueData valueSize .ok _ :=
        .update index entry valid inside filled same
      have known : contentsOf hashKey store key = some (valueOf store entry) :=
        (represents key _).mpr ⟨_, inside, entry, filled, same, rfl⟩
      refine ⟨_, (puts valueData).trans (update_eq consistent inside filled valueData valid), ?_⟩
      refine serves.stored (put_consistent consistent did) rfl (put_represents consistent represents did) stores ?_
      rw [serves.finds, known]
      rfl
    | insert index slotIndex inside absent last vacant missing probed puts =>
      have did : PutCase hashKey width store key valueData valueSize .ok _ :=
        .insert index slotIndex valid absent last vacant
      have unknown : contentsOf hashKey store key = none := by simp only [contentsOf, missing]
      refine ⟨_, (puts valueData).trans (insert_eq consistent inside last key valueData valid), ?_⟩
      refine serves.stored (put_consistent consistent did) rfl (put_represents consistent represents did) stores ?_
      have few := consistent.few
      have all := serves.shared
      rw [consistent.counted.symm, ← serves.slots] at all
      have added : (store.inserted index key slotIndex valueData valueSize).usedSlots.toNat =
          (store.usedSlots.toNat + 1) % 2 ^ 64 := UInt64.toNat_add ..
      rw [serves.finds, unknown, added]
      exact Nat.mod_eq_of_lt (by omega)
    | full absent taken missing probed puts =>
      obtain ⟨index, inside, empty⟩ := serves.vacant some_
      exact absurd empty (taken index inside)

/-- A request is answered as the map answers it. -/
theorem reply_serves (serves : Serves width store service) (data : Nat → UInt8) (requestLen : Nat) :
    ∃ next, reply store data requestLen = some ((service.serve data requestLen).1, next) ∧
      Serves width next (service.serve data requestLen).2 := by
  unfold reply Service.serve
  dsimp only
  by_cases get : (RequestHeader.read data).opType = OpType.get.value
  · rw [if_pos get, if_pos get]
    exact ⟨store, get_serves serves _, serves⟩
  rw [if_neg get, if_neg get]
  by_cases put : (RequestHeader.read data).opType = OpType.put.value
  · rw [if_pos put, if_pos put]
    by_cases short : requestLen < valueStart (.read data) + (RequestHeader.read data).valueSize.toNat
    · rw [if_pos short, if_pos short]
      exact ⟨store, rfl, serves⟩
    · rw [if_neg short, if_neg short]
      obtain ⟨next, puts, kept⟩ := put_serves serves (RequestHeader.read data).key
        (fun i => data (valueStart (.read data) + i)) (RequestHeader.read data).valueSize
      rw [puts]
      exact ⟨next, rfl, kept⟩
  · rw [if_neg put, if_neg put]
    exact ⟨store, rfl, serves⟩

/-- The value is as long as the header says, and no longer than the protocol allows. -/
theorem serve_sized (serves : Serves width store service) (data : Nat → UInt8) (requestLen : Nat) :
    (service.serve data requestLen).1.header.valueSize.toNat = (service.serve data requestLen).1.value.length ∧
      (service.serve data requestLen).1.value.length ≤ MAX_VALUE_SIZE.toNat := by
  unfold Service.serve
  dsimp only
  by_cases get : (RequestHeader.read data).opType = OpType.get.value
  · rw [if_pos get, Service.get]
    cases found : service.find (RequestHeader.read data).key with
    | none => exact ⟨rfl, Nat.zero_le _⟩
    | some value =>
      have short := serves.short found
      exact ⟨UInt32.toNat_ofNat_of_lt' (short.trans_lt (by decide)), short⟩
  rw [if_neg get]
  split
  · split
    · exact ⟨rfl, Nat.zero_le _⟩
    · exact ⟨rfl, Nat.zero_le _⟩
  · exact ⟨rfl, Nat.zero_le _⟩

end Store

/-- The slots of the store that `KVServer::Initialize` makes. -/
def serverSlots : Nat := 16384

theorem initialize_serves {storage : Nat → UInt8} {store : KVStore}
    (initialized : KVStore.new.initializeWith {} (some storage) = some (true, store)) :
    ∃ width, Serves width store (.empty UInt64 (List UInt8) serverSlots) := by
  obtain ⟨width, made, makes, consistent, empty⟩ :=
    initialize_consistent hashKey {} (by decide) (by decide) (by decide) (by decide) storage
  obtain ⟨-, rfl⟩ := Prod.mk.inj (Option.some.inj (initialized.symm.trans makes))
  have fresh := initialize_fresh initialized
  have slots : store.numSlots.toNat = serverSlots := by
    rw [fresh.slots]
    decide
  have positions : 2 ^ width = 32768 := by
    rw [← consistent.power, fresh.positions, fresh.slots]
    decide
  have nothing : Represents width store fun _ => none := by
    intro key value
    refine iff_of_false (fun known => by cases known) ?_
    rintro ⟨index, -, entry, filled, -⟩
    rw [empty] at filled
    cases filled
  refine ⟨width, consistent, ?_, slots, fun key => ?_, ?_⟩
  · rw [slots, positions]
    decide
  · rw [find_empty, ← represents_unique nothing (represents_contentsOf consistent.sound)]
  · rw [size_empty, fresh.noSlots]
    rfl

/-! ### What a request does to the server -/

/-- The counters of a connection. -/
def counts (ctx : ConnectionContext) : UInt64 × UInt64 × UInt64 :=
  (ctx.requestsProcessed, ctx.getsProcessed, ctx.putsProcessed)

/-- The store and the responses written afterwards, the connection, what its device was handed and what it took. -/
structure Handled (sys next : System) (connId : UInt16) (ctx after : ConnectionContext) (data : Nat → UInt8)
    (store : KVStore) (written : UInt64 → Option Response) (sends : List (SendWr × Bool)) : Prop where
  store : next.server.store = store
  written : next.server.written = written
  contexts : next.server.connContexts = Function.update sys.server.connContexts connId (some after)
  sent : after.conn.qp.device.sends = ctx.conn.qp.device.sends ++ sends
  config : after.conn.qp.config = ctx.conn.qp.config
  unsignaled : after.conn.qp.unsignaledCount =
    if sends = [] then ctx.conn.qp.unsignaledCount else ctx.conn.qp.shouldSignal.2.unsignaledCount
  sends : next.sends =
    sys.sends ++ ((sends.filter (·.2)).map (·.1)).map fun wr => ⟨connId, wr, requestOf ctx data⟩

/-- A request without a header is thrown away; another one changes the store, and is answered if there is a free
buffer. -/
inductive RequestView (sys next : System) (connId : UInt16) (ctx : ConnectionContext) (data : Nat → UInt8)
    (byteLen : UInt32) : Prop
  | short (few : byteLen.toNat < HEADER_SIZE) (after : ConnectionContext)
    (handled : Handled sys next connId ctx after data sys.server.store sys.server.written [])
    (same : counts after = counts ctx)
  | dropped (long : HEADER_SIZE ≤ byteLen.toNat) (free : sys.server.freeBuffers = []) (response : Response)
    (store : KVStore) (replies : reply sys.server.store data byteLen.toNat = some (response, store))
    (after : ConnectionContext) (handled : Handled sys next connId ctx after data store sys.server.written [])
    (counted : counts after = counts { ctx with requestsProcessed := ctx.requestsProcessed + 1 })
  | answered (long : HEADER_SIZE ≤ byteLen.toNat) (buf : Buffer) (rest : List Buffer)
    (free : sys.server.freeBuffers = buf :: rest) (response : Response) (store : KVStore)
    (replies : reply sys.server.store data byteLen.toNat = some (response, store)) (after : ConnectionContext)
    (handled : Handled sys next connId ctx after data store (Function.update sys.server.written buf.addr (some response))
      [(responseWr ctx (requestOf ctx data) buf response, ctx.conn.qp.device.nextAnswer.isNone)])
    (counted : counts after = counts { counted ctx data with requestsProcessed := ctx.requestsProcessed + 1 })

section Steps
variable {all : List Buffer} {sys next : System} {posted : List (UInt16 × Buffer)} {entries : List (UInt64 × Buffer)}
  {lost : List Buffer} {connId : UInt16} {ctx : ConnectionContext} {data : Nat → UInt8} {byteLen : UInt32}

/-- Posting receives changes the pool, the tracked receives and the connection's device. -/
theorem postRecvBuffers_frame (server : KVServer) (ctx : ConnectionContext) (count : Nat) :
    ∃ (free : List Buffer) (tracked : UInt64 → Option PostedBuffer) (recvs : List (RecvWr × Bool)),
      server.postRecvBuffers ctx count =
        ({ server with freeBuffers := free, postedRecvBuffers := tracked }, received ctx recvs) := by
  induction count generalizing server ctx with
  | zero => exact ⟨server.freeBuffers, server.postedRecvBuffers, [], by rw [received_nil]; rfl⟩
  | succ count ih =>
    cases free : server.freeBuffers with
    | nil =>
      rw [postRecvBuffers_empty free]
      exact ih server ctx
    | cons buf rest =>
      by_cases valid : buf.isValid = true
      · rw [postRecvBuffers_next free valid]
        obtain ⟨left, tracked, recvs, posts⟩ := ih { server with
          freeBuffers := rest
          postedRecvBuffers := Function.update server.postedRecvBuffers (recvId ctx.conn.connId buf)
            (some ⟨buf, ctx.conn.connId⟩) } (received ctx [(recvWr ctx.conn.connId buf, recvAccepted ctx)])
        rw [posts, received_received]
        exact ⟨left, tracked, _, rfl⟩
      · have filled : server.allocate = (buf, { server with freeBuffers := rest }) := by rw [KVServer.allocate, free]
        obtain ⟨left, tracked, recvs, posts⟩ := ih { server with freeBuffers := rest } ctx
        refine ⟨left, tracked, recvs, ?_⟩
        rw [KVServer.postRecvBuffers, filled]
        dsimp only
        rw [if_neg valid, posts]

/-- The end of `HandleRequest`, seen from the connection. -/
theorem served_handled (data : Nat → UInt8) (buf : Buffer) (middle : KVServer) (after : ConnectionContext)
    {sends : List (SendWr × Bool)} (contexts : middle.connContexts = sys.server.connContexts)
    (sent : after.conn.qp.device.sends = ctx.conn.qp.device.sends ++ sends)
    (config : after.conn.qp.config = ctx.conn.qp.config) (unsignaled : after.conn.qp.unsignaledCount =
      if sends = [] then ctx.conn.qp.unsignaledCount else ctx.conn.qp.shouldSignal.2.unsignaledCount)
    (bump : ConnectionContext → ConnectionContext) (keeps : ∀ c, (bump c).conn = c.conn) :
    ∃ recvs, Handled sys (sys.served connId buf ctx data ((middle.free buf).postRecvBuffers after 1).1
      (bump ((middle.free buf).postRecvBuffers after 1).2)) connId ctx (bump (received after recvs)) data middle.store
        middle.written sends := by
  obtain ⟨free, tracked, recvs, posts⟩ := postRecvBuffers_frame (middle.free buf) after 1
  have hands : (bump (received after recvs)).conn.qp.device.sends = ctx.conn.qp.device.sends ++ sends := by
    rw [keeps]
    exact sent
  rw [posts]
  refine ⟨recvs, rfl, rfl, ?_, hands, ?_, ?_, ?_⟩
  · rw [System.served, KVServer.withContext]
    dsimp only
    rw [← contexts]
    rfl
  · rw [keeps]
    exact config
  · rw [keeps]
    exact unsignaled
  · rw [System.served, newSends, handed_append hands]

theorem request_some {now : List Unit} (taken : step sys (.request connId data byteLen) = some (next, now)) :
    sys.request connId data byteLen = some next ∧ ∃ ctx receive, sys.server.connContexts connId = some ctx ∧
      sys.receives.find? (·.1 = connId) = some receive := by
  obtain ⟨other, done, same⟩ := Option.map_eq_some_iff.mp taken
  obtain ⟨rfl, -⟩ := Prod.mk.inj same
  have unfolded := done
  rw [System.request, Option.bind_eq_bind, Option.bind_eq_some_iff] at unfolded
  obtain ⟨ctx, known, rest⟩ := unfolded
  rw [Option.bind_eq_bind, Option.bind_eq_some_iff] at rest
  obtain ⟨receive, found, -⟩ := rest
  exact ⟨done, ctx, receive, known, found⟩

theorem request_view (pool : Pool all) (inv : Inv all sys posted entries lost) {response : Response} {store : KVStore}
    (replies : reply sys.server.store data byteLen.toNat = some (response, store)) {now : List Unit}
    (stepped : step sys (.request connId data byteLen) = some (next, now)) :
    ∃ ctx, sys.server.connContexts connId = some ctx ∧ RequestView sys next connId ctx data byteLen := by
  obtain ⟨done, ctx, receive, known, found⟩ := request_some stepped
  obtain ⟨buf, listed, rfl⟩ := inv.receive found
  obtain ⟨same, connected⟩ := inv.contexts connId ctx known
  refine ⟨ctx, known, ?_⟩
  rw [request_eq inv known listed found] at done
  have bumps : ∀ c : ConnectionContext, { c with requestsProcessed := c.requestsProcessed + 1 }.conn = c.conn :=
    fun _ => rfl
  by_cases short : byteLen.toNat < HEADER_SIZE
  · rw [if_pos short] at done
    obtain rfl := Option.some.inj done
    obtain ⟨recvs, handled⟩ :=
      served_handled data buf (taken sys.server connId buf) ctx rfl (List.append_nil _).symm rfl rfl id fun _ => rfl
    exact .short short _ handled rfl
  rw [if_neg short] at done
  have long : HEADER_SIZE ≤ byteLen.toNat := Nat.le_of_not_lt short
  cases free : sys.server.freeBuffers with
  | nil =>
    have none_ : (taken sys.server connId buf).freeBuffers = [] := free
    rw [processRequest_dropped none_ long replies, Option.bind_some] at done
    obtain rfl := Option.some.inj done
    obtain ⟨recvs, handled⟩ := served_handled data buf { taken sys.server connId buf with store := store } ctx rfl
      (List.append_nil _).symm rfl rfl _ bumps
    exact .dropped long free response store replies _ handled rfl
  | cons first rest =>
    have some_ : (taken sys.server connId buf).freeBuffers = first :: rest := free
    obtain ⟨valid, sized⟩ := inv.whole pool first (by simp [free])
    rw [processRequest_answered connected some_ valid long replies, Option.bind_some] at done
    obtain rfl := Option.some.inj done
    have conn : (counted (responded { taken sys.server connId buf with store := store, freeBuffers := rest } ctx
        (requestOf ctx data) first response).2 data).conn =
          sendConn ctx.conn (responseWr ctx (requestOf ctx data) first response) := by
      unfold counted
      split
      · rfl
      · split <;> rfl
    have sent : (counted (responded { taken sys.server connId buf with store := store, freeBuffers := rest } ctx
        (requestOf ctx data) first response).2 data).conn.qp.device.sends = ctx.conn.qp.device.sends ++
          [(responseWr ctx (requestOf ctx data) first response, ctx.conn.qp.device.nextAnswer.isNone)] := by
      rw [conn]
      rfl
    obtain ⟨recvs, handled⟩ := served_handled data buf (responded { taken sys.server connId buf with
      store := store, freeBuffers := rest } ctx (requestOf ctx data) first response).1 _ rfl sent (by rw [conn]; exact (shouldSignal_frame ctx.conn.qp).1)
      (by rw [conn, if_neg (List.cons_ne_nil _ _)]; rfl) _ bumps
    refine .answered long first rest free response store replies _ handled ?_
    unfold counted
    split
    · rfl
    · split <;> rfl

/-- A new connection and a completed send leave the store, what is written, and the other connections alone. -/
structure Quiet (sys next : System) : Prop where
  store : next.server.store = sys.server.store
  written : next.server.written = sys.server.written

theorem accept_quiet (sys : System) (ctx : ConnectionContext) : Quiet sys (sys.accept ctx) := by
  obtain ⟨free, tracked, recvs, posts⟩ := postRecvBuffers_frame sys.server ctx 32
  unfold System.accept
  rw [posts]
  exact ⟨rfl, rfl⟩

theorem sent_handled (inv : Inv all sys posted entries lost) {index : Nat} (completed : sys.sent index = some next) :
    Quiet sys next ∧ next.server.connContexts = sys.server.connContexts := by
  unfold System.sent at completed
  cases found : sys.sends[index]? with
  | none => simp [found] at completed
  | some send =>
    have id := inv.numbered send (List.mem_of_getElem? found)
    have opcode : getOpcode send.wr.wrId = RpcOpcode.requestSend.value := by rw [id, sendId, getOpcode_encode]
    simp only [found, Option.bind_eq_bind, Option.bind_some] at completed
    cases signaled : send.wr.signaled with
    | false =>
      simp only [signaled, Bool.false_eq_true, if_false, Option.some.injEq] at completed
      subst completed
      exact ⟨⟨rfl, rfl⟩, rfl⟩
    | true =>
      unfold KVServer.handleCompletion at completed
      cases held : sys.server.postedSendBuffers send.wr.wrId with
      | none =>
        simp only [signaled, opcode, held] at completed
        obtain rfl := Option.some.inj completed
        exact ⟨⟨rfl, rfl⟩, rfl⟩
      | some buf =>
        simp only [signaled, opcode, held] at completed
        obtain rfl := Option.some.inj completed
        exact ⟨⟨rfl, rfl⟩, rfl⟩

end Steps

/-! ### Runs -/

/-- A response that was handed to the device, with what is written in its buffer. -/
structure Post where
  connId : UInt16
  wr : SendWr
  content : Option Response
  deriving DecidableEq, Repr

/-- What is written where a work request reads. -/
def contentOf (server : KVServer) (wr : SendWr) : Option Response := wr.sgList.head?.bind fun sge => server.written sge.addr

/-- What is seen of a request with a header: how many buffers are free when it comes, and what is posted for it. -/
structure Reply where
  connId : UInt16
  free : Nat
  posts : List Post
  deriving DecidableEq, Repr

def posts (sys next : System) (connId : UInt16) : List Post :=
  match sys.server.connContexts connId, next.server.connContexts connId with
  | some ctx, some after =>
    (handed ctx.conn.qp after.conn.qp).map fun sent => ⟨connId, sent.1, contentOf next.server sent.1⟩
  | _, _ => []

def replies (sys : System) (event : Event) (next : System) : List Reply :=
  match event with
  | .request connId _ byteLen =>
    if byteLen.toNat < HEADER_SIZE then [] else [⟨connId, sys.server.freeBuffers.length, posts sys next connId⟩]
  | _ => []

/-- The service takes the requests one by one, from whichever connection. -/
def serveEvent {capacity : Nat} (service : Service capacity) : Event → Service capacity × List (UInt16 × Response)
  | .request connId data byteLen =>
    if byteLen.toNat < HEADER_SIZE then (service, [])
    else ((service.serve data byteLen.toNat).2, [(connId, (service.serve data byteLen.toNat).1)])
  | _ => (service, [])

/-- The response that is posted is the service's, with header and value whole; without a free buffer there is none. -/
def Agrees (reply : Reply) (answer : UInt16 × Response) : Prop :=
  reply.connId = answer.1 ∧
    if reply.free = 0 then reply.posts = []
    else ∃ wr : SendWr, reply.posts = [⟨answer.1, wr, some answer.2⟩] ∧
      wr.sgList.map (fun sge => sge.length.toNat) = [HEADER_SIZE + answer.2.value.length]

section Service
variable {all : List Buffer} {sys next : System} {posted : List (UInt16 × Buffer)} {entries : List (UInt64 × Buffer)}
  {lost : List Buffer} {capacity width : Nat} {service : Service capacity}

/-- The work request reads the whole response from the start of its buffer. -/
theorem responseWr_sgList (pool : Pool all) {buf : Buffer} (member : buf ∈ all) (ctx : ConnectionContext)
    (request : Request) {response : Response} (sized : response.header.valueSize.toNat = response.value.length)
    (short : response.value.length ≤ MAX_VALUE_SIZE.toNat) :
    ∃ sge : Sge, (responseWr ctx request buf response).sgList = [sge] ∧ sge.addr = buf.addr ∧
      sge.length.toNat = HEADER_SIZE + response.value.length := by
  have small : response.value.length ≤ 65536 := short
  have total : (HEADER_SIZE.toUInt64 + response.header.valueSize.toUInt64).toNat = HEADER_SIZE + response.value.length := by
    rw [UInt64.toNat_add, UInt32.toNat_toUInt64, sized]
    exact Nat.mod_eq_of_lt (show 16 + response.value.length < 2 ^ 64 by omega)
  have whole : buf.length.toNat = 65680 := by
    rw [pool.sized buf member]
    decide
  refine ⟨_, rfl, ?_⟩
  rw [Buffer.slice, if_neg, UInt64.add_zero]
  · refine ⟨rfl, ?_⟩
    rw [sgeOf, UInt64.toNat_toUInt32, total]
    exact Nat.mod_eq_of_lt (show 16 + response.value.length < 2 ^ 32 by omega)
  · rw [UInt64.zero_add]
    rintro (none_ | long)
    · have nothing := UInt64.le_iff_toNat_le.mp none_
      rw [whole] at nothing
      exact absurd nothing (by decide)
    · have beyond := UInt64.lt_iff_toNat_lt.mp long
      rw [whole, total] at beyond
      exact absurd beyond (Nat.not_lt.mpr (show 16 + response.value.length ≤ 65680 by omega))

/-- The work request reads the response that was written. -/
theorem answered_content (pool : Pool all) {buf : Buffer} (member : buf ∈ all) {connId : UInt16}
    {ctx after : ConnectionContext} {data : Nat → UInt8} {store : KVStore} {sends : List (SendWr × Bool)}
    {response : Response} (handled : Handled sys next connId ctx after data store
      (Function.update sys.server.written buf.addr (some response)) sends) (request : Request)
    (sized : response.header.valueSize.toNat = response.value.length)
    (short : response.value.length ≤ MAX_VALUE_SIZE.toNat) :
    contentOf next.server (responseWr ctx request buf response) = some response := by
  obtain ⟨sge, reads, address, -⟩ := responseWr_sgList pool member ctx request sized short
  rw [contentOf, reads, handled.written]
  simp [address]

theorem posts_handled {connId : UInt16} {ctx after : ConnectionContext} {data : Nat → UInt8} {store : KVStore}
    {written : UInt64 → Option Response} {sends : List (SendWr × Bool)}
    (known : sys.server.connContexts connId = some ctx)
    (handled : Handled sys next connId ctx after data store written sends) :
    posts sys next connId = sends.map fun sent => ⟨connId, sent.1, contentOf next.server sent.1⟩ := by
  rw [posts, known, handled.contexts, Function.update_self]
  dsimp only
  rw [handed_append handled.sent]

/-- A step is one of the service. -/
theorem step_serves (pool : Pool all) (inv : Inv all sys posted entries lost)
    (serves : Serves width sys.server.store service) {event : Event} {now : List Unit}
    (taken : step sys event = some (next, now)) :
    List.Forall₂ Agrees (replies sys event next) (serveEvent service event).2 ∧
      ∃ width, Serves width next.server.store (serveEvent service event).1 := by
  cases event with
  | accept connId config sendAnswer recvAnswer =>
    rw [step] at taken
    split at taken
    · cases taken
    · obtain ⟨rfl, -⟩ := Prod.mk.inj (Option.some.inj taken)
      rw [(accept_quiet sys _).store]
      exact ⟨.nil, width, serves⟩
  | sent index =>
    obtain ⟨other, done, same⟩ := Option.map_eq_some_iff.mp taken
    obtain ⟨rfl, -⟩ := Prod.mk.inj same
    rw [(sent_handled inv done).1.store]
    exact ⟨.nil, width, serves⟩
  | request connId data byteLen =>
    obtain ⟨store, replied, kept⟩ := reply_serves serves data byteLen.toNat
    obtain ⟨sized, short⟩ := serve_sized serves data byteLen.toNat
    obtain ⟨ctx, known, view⟩ := request_view pool inv replied taken
    rw [replies, serveEvent]
    cases view with
    | short few after handled same =>
      rw [if_pos few, if_pos few, handled.store]
      exact ⟨.nil, width, serves⟩
    | dropped long free response other again after handled counted =>
      obtain ⟨-, rfl⟩ := Prod.mk.inj (Option.some.inj (replied.symm.trans again))
      rw [if_neg (Nat.not_lt.mpr long), if_neg (Nat.not_lt.mpr long), handled.store, posts_handled known handled, free]
      exact ⟨.cons ⟨rfl, rfl⟩ .nil, width, kept⟩
    | answered long buf rest free response other again after handled counted =>
      obtain ⟨rfl, rfl⟩ := Prod.mk.inj (Option.some.inj (replied.symm.trans again))
      have member : buf ∈ all := inv.sound.shared.mem_iff.mp (by simp [free])
      obtain ⟨sge, reads, -, length⟩ := responseWr_sgList pool member ctx (requestOf ctx data) sized short
      rw [if_neg (Nat.not_lt.mpr long), if_neg (Nat.not_lt.mpr long), handled.store, posts_handled known handled, free]
      refine ⟨.cons ⟨rfl, ?_⟩ .nil, width, kept⟩
      rw [if_neg (by simp)]
      refine ⟨responseWr ctx (requestOf ctx data) buf (service.serve data byteLen.toNat).1, ?_, ?_⟩
      · rw [List.map_singleton, answered_content pool member handled _ sized short]
      · rw [reads, List.map_singleton, length]

end Service

/-- The states of the server in which the map stands for its store. -/
def Serving (all : List Buffer) {capacity : Nat} (sys : System) (service : Service capacity) : Prop :=
  (∃ posted entries lost, Inv all sys posted entries lost) ∧ ∃ width, Serves width sys.server.store service

theorem step_serving {all : List Buffer} (pool : Pool all) {capacity : Nat} {sys next : System}
    {service : Service capacity} {event : Event} {seen : List Reply} (serving : Serving all sys service)
    (stepped : observe step replies sys event = some (next, seen)) :
    List.Forall₂ Agrees seen (serveEvent service event).2 ∧ Serving all next (serveEvent service event).1 := by
  obtain ⟨⟨posted, entries, lost, inv⟩, width, serves⟩ := serving
  obtain ⟨⟨now, taken⟩, rfl⟩ := observe_some.mp stepped
  obtain ⟨agrees, kept⟩ := step_serves pool inv serves taken
  obtain ⟨posted', entries', lost', still, -⟩ := step_cases pool inv taken
  exact ⟨agrees, ⟨posted', entries', lost', still⟩, kept⟩

/-- In every run of the server, from a pool of 512 buffers in one block of memory, each request with a header is
    answered as a map with room for 16384 keys answers the requests so far, whichever connections they came from, with
    the response whole; only requests that find no free buffer are not answered, and they change the map too. -/
theorem serves_as_map {base : UInt64} {lkey : UInt32} (null : base ≠ 0)
    (fits : base.toNat + 512 * MAX_REQUEST_SIZE ≤ 2 ^ 64) {storage : Nat → UInt8} {store : KVStore}
    (initialized : KVStore.new.initializeWith {} (some storage) = some (true, store)) {events : List Event}
    {last : System} {seen : List Reply}
    (ran : run (observe step replies) (.new store (poolBuffers base lkey)) events = some (last, seen)) :
    ∃ final answers, run (fun service event => some (serveEvent service event))
        (.empty UInt64 (List UInt8) serverSlots) events = some (final, answers) ∧
      List.Forall₂ Agrees seen answers ∧ ∀ key, final.find key = contentsOf hashKey last.server.store key := by
  have pool := poolBuffers_pool lkey null fits
  obtain ⟨width, serves⟩ := initialize_serves initialized
  have start : Serving (poolBuffers base lkey) (.new store (poolBuffers base lkey))
      (.empty UInt64 (List UInt8) serverSlots) :=
    ⟨⟨[], [], [], new_inv serves.consistent _⟩, width, serves⟩
  obtain ⟨final, answers, followed, agree, -, _, ends⟩ :=
    matched_run (observe step replies) (fun _ _ _ _ _ serving taken => step_serving pool serving taken) start ran
  exact ⟨final, answers, followed, agree, ends.finds⟩

/-- A PUT of 4096 bytes under key 5, and a GET of the key. -/
def storesFive (i : Nat) : UInt8 := if i < HEADER_SIZE then (RequestHeader.setPut 5 4096 0).bytes i else 7
def getsFive (i : Nat) : UInt8 := (RequestHeader.mk OpType.get.value 0 0 0 5).bytes i

theorem put_then_get_served : ∃ store last seen,
    run (observe step replies) (.new store (poolBuffers 65536 7)) [oneConnection, .request 7 storesFive 4112,
      .request 7 getsFive 16] = some (last, seen) ∧
    ∃ final answers, run (fun service event => some (serveEvent service event))
        (.empty UInt64 (List UInt8) serverSlots) [oneConnection, .request 7 storesFive 4112, .request 7 getsFive 16] =
          some (final, answers) ∧
      List.Forall₂ Agrees seen answers ∧ ∀ key, final.find key = contentsOf hashKey last.server.store key := by
  have defined : (serverRun [oneConnection, .request 7 storesFive 4112, .request 7 getsFive 16]).isSome = true := by
    decide +kernel
  obtain ⟨⟨store, last, outputs⟩, served⟩ := Option.isSome_iff_exists.mp defined
  obtain ⟨initialized, ran⟩ := serverRun_some served
  obtain ⟨seen, ran⟩ := (run_observe replies).mpr ⟨outputs, ran⟩
  exact ⟨store, last, seen, ran, serves_as_map (by decide) (by decide) initialized ran⟩

end Rdma.KvServices
