import Mathlib.Data.List.AList
import Rdma.KvClients
import Rdma.KvExhaustions

/-!
The benchmark of the key-value client (`RunBenchmark` in `kv_client.cpp`). A
`World` is the client in a phase of its loop, with its device and its completion
queues; the server behind the device may answer each request once, in any order
and with anything, and the connection may fail. The client's pool is a correct
one, as the server's.
-/
namespace Rdma.KvBenchmarks
open Rdma.Types Rdma.Arrays Rdma.Verbs Rdma.WrIds Rdma.Runs Rdma.QueuePairs Rdma.Connections Rdma.Receives Rdma.Spacings
open Rdma.KvProtocols Rdma.KvClients Rdma.KvExhaustions
open Rdma.KvBuffers (recvId sendConn)
open Rdma.BufferPools (Fifo)

/-! ### The client -/

/-- Buffers by the ids they are posted under. -/
abbrev Posted := AList fun _ : UInt64 => Buffer

/-- The client. `freeBuffers` stands for its pool, which is taken to be a correct free list, as the server's is.
    `memory` holds the bytes of the buffer at an address. -/
structure KVClient where
  freeBuffers : List Buffer
  memory : UInt64 → Nat → UInt8
  conn : Connection
  postedRecvBuffers : Posted
  postedSendBuffers : Posted

/-- `Allocate` of a correct pool: the buffer free longest, or the empty one. -/
def KVClient.allocate (client : KVClient) : Buffer × KVClient :=
  match client.freeBuffers with
  | [] => (.empty, client)
  | buf :: rest => (buf, { client with freeBuffers := rest })

/-- `Free` of a correct pool. -/
def KVClient.free (client : KVClient) (buf : Buffer) : KVClient :=
  { client with freeBuffers := client.freeBuffers ++ [buf] }

/-- The client's pool is the queue that `queue_run` is about. -/
theorem KVClient.allocate_queue (client : KVClient) (outstanding : List Buffer) :
    ∃ taken, Fifo.step ⟨client.freeBuffers, outstanding⟩ .allocate =
      (⟨client.allocate.2.freeBuffers, taken⟩, [client.allocate.1]) := by
  unfold Fifo.step KVClient.allocate
  cases empty : client.freeBuffers with
  | nil => exact ⟨outstanding, by simp only [empty]⟩
  | cons buf rest => exact ⟨buf :: outstanding, rfl⟩

theorem KVClient.free_queue (client : KVClient) (outstanding : List Buffer) (buf : Buffer) :
    Fifo.step ⟨client.freeBuffers, outstanding⟩ (.free buf) =
      (⟨(client.free buf).freeBuffers, outstanding.erase buf⟩, []) := rfl

def KVClient.postRecvBuffers (client : KVClient) : Nat → KVClient
  | 0 => client
  | count + 1 =>
    let (buf, client) := client.allocate
    if buf.isValid then
      let wrId := recvId client.conn.connId buf
      KVClient.postRecvBuffers { client with
        postedRecvBuffers := client.postedRecvBuffers.insert wrId buf
        conn := (client.conn.postRecv buf wrId).2 } count
    else KVClient.postRecvBuffers client count

def requestId (connId : UInt16) (seq : UInt32) : UInt64 := encode connId .requestSend 0 seq

/-- Fill a buffer, track it and send its front; without a free buffer nothing is sent. The status of `Send` is dropped. -/
def KVClient.sendRequest (client : KVClient) (fill : Cells UInt8 → Option (Cells UInt8 × UInt64)) (seq : UInt32) :
    Option KVClient :=
  let (sendBuf, client) := client.allocate
  if !sendBuf.isValid then some client
  else do
    let (filled, totalSize) ← fill ⟨sendBuf.length.toNat, client.memory sendBuf.addr⟩
    let wrId := requestId client.conn.connId seq
    some { client with
      memory := Function.update client.memory sendBuf.addr filled.cell
      postedSendBuffers := client.postedSendBuffers.insert wrId sendBuf
      conn := (client.conn.send (sendBuf.slice 0 totalSize) wrId).2 }

def fillGet (memory : Cells UInt8) (key : UInt64) : Option (Cells UInt8 × UInt64) := do
  let memory ← memory.store 0 HEADER_SIZE (RequestHeader.setGet key).bytes
  some (memory, HEADER_SIZE.toUInt64)

def KVClient.sendGet (client : KVClient) (key : UInt64) (seq : UInt32) : Option KVClient :=
  client.sendRequest (fillGet · key) seq

def KVClient.sendPut (client : KVClient) (key : UInt64) (valueSize seq : UInt32) : Option KVClient :=
  client.sendRequest (fillPut · key valueSize) seq

def KVClient.sendPutSGL (client : KVClient) (key : UInt64) (valueSize : UInt32) (numSegments : Int32) (seq : UInt32) :
    Option KVClient :=
  client.sendRequest (fillPutSGL · key valueSize numSegments) seq

/-! ### The loop -/

structure Flags where
  numOperations : Int32 := 10000
  valueSize : UInt32 := 4096
  useSgl : Bool := false
  numSegments : Int32 := 4

/-- What the random number generators give for a request. -/
structure Draw where
  doPut : Bool
  key : UInt64

/-- The client with the counters of `RunBenchmark`; none gets past the number of operations. -/
structure Benchmark where
  client : KVClient
  sent : Nat := 0
  completed : Nat := 0
  getsSent : Nat := 0
  putsSent : Nat := 0
  getsSuccess : Nat := 0
  putsSuccess : Nat := 0
  getsNotFound : Nat := 0

def MAX_OUTSTANDING : Int := 64
def WC_BUFFER : Nat := 64

/-- A PUT as the flags say. -/
def KVClient.sendPutBy (client : KVClient) (flags : Flags) (key : UInt64) (seq : UInt32) : Option KVClient :=
  if flags.useSgl ∧ 1 < flags.numSegments.toInt then client.sendPutSGL key flags.valueSize flags.numSegments seq
  else client.sendPut key flags.valueSize seq

def Benchmark.sendOne (bench : Benchmark) (flags : Flags) (draw : Draw) : Option Benchmark := do
  let seq := bench.sent.toUInt32
  if draw.doPut then
    let client ← bench.client.sendPutBy flags draw.key seq
    some { bench with client, putsSent := bench.putsSent + 1, sent := bench.sent + 1 }
  else
    let client ← bench.client.sendGet draw.key seq
    some { bench with client, getsSent := bench.getsSent + 1, sent := bench.sent + 1 }

/-- The condition of the loop that sends. -/
def Benchmark.hasRoom (bench : Benchmark) (flags : Flags) : Prop :=
  bench.sent < flags.numOperations.toInt ∧ (bench.sent : Int) - bench.completed < MAX_OUTSTANDING

instance (bench : Benchmark) (flags : Flags) : Decidable (bench.hasRoom flags) := inferInstanceAs (Decidable (_ ∧ _))

/-- The condition of the loop. -/
def Benchmark.goesOn (bench : Benchmark) (flags : Flags) : Prop := (bench.completed : Int) < flags.numOperations.toInt

instance (bench : Benchmark) (flags : Flags) : Decidable (bench.goesOn flags) := inferInstanceAs (Decidable (_ < _))

/-- `draws` gives each request its draw; `fuel` bounds the rounds. -/
def Benchmark.sendRequests (bench : Benchmark) (flags : Flags) (draws : Nat → Draw) : Nat → Option Benchmark
  | 0 => some bench
  | fuel + 1 =>
    if bench.hasRoom flags then do
      let bench ← bench.sendOne flags (draws bench.sent)
      bench.sendRequests flags draws fuel
    else some bench

/-- A completion of the send queue, whatever its status. -/
def KVClient.sendCompleted (client : KVClient) (wc : Wc) : KVClient :=
  match client.postedSendBuffers.lookup wc.wrId with
  | none => client
  | some buf => { client.free buf with postedSendBuffers := client.postedSendBuffers.erase wc.wrId }

/-- The counters after a response. -/
def Benchmark.count (bench : Benchmark) (response : ResponseHeader) : Benchmark :=
  if response.opType = OpType.getResponse.value then
    if response.status = Status.ok.value then { bench with getsSuccess := bench.getsSuccess + 1 }
    else if response.status = Status.notFound.value then { bench with getsNotFound := bench.getsNotFound + 1 }
    else bench
  else if response.opType = OpType.putResponse.value ∧ response.status = Status.ok.value then
    { bench with putsSuccess := bench.putsSuccess + 1 }
  else bench

/-- A completion of the receive queue. -/
def Benchmark.recvCompleted (bench : Benchmark) (wc : Wc) : Benchmark :=
  if wc.status = 0 then
    let processed :=
      match bench.client.postedRecvBuffers.lookup wc.wrId with
      | none => bench
      | some buf =>
        { bench.count (.read (bench.client.memory buf.addr)) with
          client := { bench.client.free buf with postedRecvBuffers := bench.client.postedRecvBuffers.erase wc.wrId } }
    { processed with completed := processed.completed + 1 }
  else bench

/-- The end of a round. -/
def KVClient.replenish (client : KVClient) : KVClient :=
  if client.postedRecvBuffers.entries.length < 32 then
    client.postRecvBuffers (32 - client.postedRecvBuffers.entries.length)
  else client

/-! ### The client with its device -/

/-- Where the client is in a round of its loop. -/
inductive Phase
  | sending
  | pollingSends
  | pollingRecvs
  | replenishing
  deriving DecidableEq, Repr

/-- `sends` and `receives` are the work requests that the device accepted and has not completed, and `answered` is the
    number of responses that came. -/
structure World where
  bench : Benchmark
  phase : Phase
  sends : List SendWr
  receives : List RecvWr
  sendCq : List Wc
  recvCq : List Wc
  answered : Nat
  broken : Bool

inductive Event
  | sends (draws : Nat → Draw)
  | pollsSends (count : Nat)
  | pollsRecvs (count : Nat)
  | replenishes
  | transmits
  | answers (bytes : Nat → UInt8)
  | breaks
  | flushes

/-- `IBV_WC_WR_FLUSH_ERR`. -/
def FLUSH_ERR : UInt32 := 5

/-- The requests that the device accepted. -/
def World.asked (world : World) : Nat := world.bench.client.conn.qp.device.sends.countP (·.2)

/-- What the device accepted between two states of the client. -/
def newSends (before after : KVClient) : List SendWr := ((handed before.conn.qp after.conn.qp).filter (·.2)).map (·.1)

def newReceives (before after : KVClient) : List RecvWr :=
  (accepted after.conn.qp.device).drop (accepted before.conn.qp.device).length

/-- The sends of a round, if the loop goes on. -/
def World.sending (world : World) (flags : Flags) (draws : Nat → Draw) : Option World :=
  if world.phase = .sending ∧ world.bench.goesOn flags then do
    let bench ← world.bench.sendRequests flags draws flags.numOperations.toNatClampNeg
    some { world with
      bench, phase := .pollingSends, sends := world.sends ++ newSends world.bench.client bench.client }
  else none

def World.pollingSends (world : World) (count : Nat) : Option World :=
  if world.phase = .pollingSends then
    let polled := min count WC_BUFFER
    some { world with
      bench := { world.bench with client := (world.sendCq.take polled).foldl KVClient.sendCompleted world.bench.client }
      phase := .pollingRecvs
      sendCq := world.sendCq.drop polled }
  else none

def World.pollingRecvs (world : World) (count : Nat) : Option World :=
  if world.phase = .pollingRecvs then
    let polled := min count WC_BUFFER
    some { world with
      bench := (world.recvCq.take polled).foldl Benchmark.recvCompleted world.bench
      phase := .replenishing
      recvCq := world.recvCq.drop polled }
  else none

def World.replenishing (world : World) : Option World :=
  if world.phase = .replenishing then
    let client := world.bench.client.replenish
    some { world with
      bench := { world.bench with client }
      phase := .sending
      receives := world.receives ++ newReceives world.bench.client client }
  else none

/-- The first send in flight completes; without an error only a signaled one has a completion. -/
def World.transmits (world : World) : Option World :=
  match world.sends with
  | [] => none
  | wr :: rest =>
    let wcs : List Wc :=
      if world.broken then [⟨wr.wrId, FLUSH_ERR, 0⟩] else if wr.signaled then [⟨wr.wrId, 0, 0⟩] else []
    some { world with sends := rest, sendCq := world.sendCq ++ wcs }

/-- A response comes for a request that has none, and takes the first posted receive. -/
def World.answers (world : World) (bytes : Nat → UInt8) : Option World :=
  match world.receives with
  | [] => none
  | wr :: rest =>
    if !world.broken ∧ world.answered < world.asked then
      let memory := (wr.sgList.head?.map fun sge => Function.update world.bench.client.memory sge.addr bytes).getD
        world.bench.client.memory
      some { world with
        bench := { world.bench with client := { world.bench.client with memory } }
        receives := rest
        recvCq := world.recvCq ++ [⟨wr.wrId, 0, 0⟩]
        answered := world.answered + 1 }
    else none

/-- A receive of a connection that has failed. -/
def World.flushes (world : World) : Option World :=
  match world.receives with
  | [] => none
  | wr :: rest =>
    if world.broken then some { world with receives := rest, recvCq := world.recvCq ++ [⟨wr.wrId, FLUSH_ERR, 0⟩] }
    else none

def step (flags : Flags) (world : World) : Event → Option (World × List Unit)
  | .sends draws => (world.sending flags draws).map (·, [])
  | .pollsSends count => (world.pollingSends count).map (·, [])
  | .pollsRecvs count => (world.pollingRecvs count).map (·, [])
  | .replenishes => world.replenishing.map (·, [])
  | .transmits => world.transmits.map (·, [])
  | .answers bytes => (world.answers bytes).map (·, [])
  | .breaks => some ({ world with broken := true }, [])
  | .flushes => world.flushes.map (·, [])

/-- The client over a pool, connected. -/
def KVClient.new (all : List Buffer) (connId : UInt16) (config : QueuePairConfig)
    (sendAnswer recvAnswer : Nat → Option Int) : KVClient :=
  ⟨all, fun _ _ => 0, { connId, state := .connected, qp := { config, device := ⟨sendAnswer, recvAnswer, [], []⟩ } }, ∅, ∅⟩

/-- The end of `Connect`. -/
def World.start (client : KVClient) : World :=
  let connected := client.postRecvBuffers 64
  ⟨{ client := connected }, .sending, [], newReceives client connected, [], [], 0, false⟩

/-! ### Where the buffers are -/

def values (posted : Posted) : List Buffer := posted.entries.map (·.2)

theorem values_insert {posted : Posted} {wrId : UInt64} (fresh : wrId ∉ posted) (buf : Buffer) :
    values (posted.insert wrId buf) = buf :: values posted := by
  rw [values, AList.entries_insert_of_notMem fresh]
  rfl

theorem listed_of_lookup {posted : Posted} {wrId : UInt64} {buf : Buffer} (found : posted.lookup wrId = some buf) :
    ⟨wrId, buf⟩ ∈ posted.entries := List.of_mem_dlookup found

theorem values_erase {posted : Posted} {wrId : UInt64} {buf : Buffer} (found : posted.lookup wrId = some buf) :
    (values posted).Perm (buf :: values (posted.erase wrId)) := by
  have known : wrId ∈ posted.entries.keys := AList.lookup_isSome.mp (by rw [found]; rfl)
  obtain ⟨other, front, back, -, all, rest⟩ := List.exists_of_kerase known
  have here : (⟨wrId, other⟩ : Sigma fun _ : UInt64 => Buffer) ∈ posted.entries := by simp [all]
  obtain rfl : other = buf := Option.some.inj ((List.mem_dlookup posted.nodupKeys here).symm.trans found)
  have left : values (posted.erase wrId) = (front ++ back).map (·.2) := by
    rw [← rest]
    rfl
  rw [left, values, all, List.map_append, List.map_cons, List.map_append]
  exact List.perm_middle

theorem mem_erase_entries {posted : Posted} {wrId : UInt64} {entry : Sigma fun _ : UInt64 => Buffer}
    (left : entry ∈ (posted.erase wrId).entries) : entry ∈ posted.entries := (List.kerase_sublist _ _).subset left

/-- What the pool hands out, told apart by the low half of the addresses. -/
structure Pool (all : List Buffer) : Prop where
  valid : ∀ buf ∈ all, buf.isValid = true
  apart : (all.map fun buf => (buf.addr &&& 0xFFFFFFFF).toUInt32).Nodup

/-- Every buffer is free, posted as a receive or posted as a send, and no two entries have one id. -/
structure Kept (all : List Buffer) (sent : Nat) (client : KVClient) : Prop where
  shared : (client.freeBuffers ++ (values client.postedRecvBuffers ++ values client.postedSendBuffers)).Perm all
  recvs : ∀ entry ∈ client.postedRecvBuffers.entries, entry.1 = recvId client.conn.connId entry.2
  sends : ∀ entry ∈ client.postedSendBuffers.entries, ∃ seq < sent,
    entry.1 = requestId client.conn.connId (Nat.toUInt32 seq)
  connected : client.conn.state = .connected

section Moves
variable {all : List Buffer} {sent : Nat} {client : KVClient} {buf : Buffer} {rest : List Buffer}

theorem Kept.free_mem (kept : Kept all sent client) (free : client.freeBuffers = buf :: rest) : buf ∈ all :=
  kept.shared.mem_iff.mp (by simp [free])

/-- A buffer that is free is not posted as a receive. -/
theorem Kept.unposted (pool : Pool all) (kept : Kept all sent client) (free : client.freeBuffers = buf :: rest) :
    recvId client.conn.connId buf ∉ client.postedRecvBuffers := by
  intro known
  obtain ⟨other, listed⟩ : ∃ other, client.postedRecvBuffers.lookup (recvId client.conn.connId buf) = some other :=
    Option.isSome_iff_exists.mp (AList.lookup_isSome.mpr known)
  have entry := listed_of_lookup listed
  have posted : other ∈ values client.postedRecvBuffers := List.mem_map.mpr ⟨_, entry, rfl⟩
  have member : other ∈ all := kept.shared.mem_iff.mp (by simp [posted])
  obtain ⟨-, low⟩ := KvBuffers.recvId_inj (kept.recvs _ entry)
  have same : buf = other := List.inj_on_of_nodup_map pool.apart (kept.free_mem free) member low
  have once := kept.shared.nodup_iff.mpr pool.apart.of_map
  rw [free] at once
  exact (List.nodup_cons.mp once).1 (by simp [same, posted])

theorem allocate_next (free : client.freeBuffers = buf :: rest) :
    client.allocate = (buf, { client with freeBuffers := rest }) := by rw [KVClient.allocate, free]

theorem allocate_none (free : client.freeBuffers = []) : client.allocate = (.empty, client) := by
  rw [KVClient.allocate, free]

/-- Receives are posted: the sends and the signaling counters stay. -/
structure Receiving (before after : KVClient) : Prop where
  sends : after.postedSendBuffers = before.postedSendBuffers
  conn : ∃ recvs, after.conn = { before.conn with qp := { before.conn.qp with
    device := { before.conn.qp.device with recvs := recvs } } }

theorem Receiving.refl (client : KVClient) : Receiving client client := ⟨rfl, _, rfl⟩

theorem Receiving.trans {first second third : KVClient} (front : Receiving first second)
    (back : Receiving second third) : Receiving first third := by
  obtain ⟨recvs, conn⟩ := front.conn
  obtain ⟨more, later⟩ := back.conn
  exact ⟨back.sends.trans front.sends, more, by rw [later, conn]⟩

/-- The receives are posted until the pool is empty. -/
theorem postRecvBuffers_kept (pool : Pool all) (kept : Kept all sent client) (count : Nat) :
    Kept all sent (client.postRecvBuffers count) ∧ Receiving client (client.postRecvBuffers count) ∧
      (client.postRecvBuffers count).postedRecvBuffers.entries.length =
        client.postedRecvBuffers.entries.length + min count client.freeBuffers.length := by
  induction count generalizing client with
  | zero => exact ⟨kept, .refl client, by rw [Nat.zero_min]; rfl⟩
  | succ count ih =>
    cases free : client.freeBuffers with
    | nil =>
      have same : client.postRecvBuffers (count + 1) = client.postRecvBuffers count := by
        rw [KVClient.postRecvBuffers, allocate_none free]
        rfl
      obtain ⟨kept', receiving, size⟩ := ih kept
      rw [free] at size
      rw [same]
      exact ⟨kept', receiving, by simpa using size⟩
    | cons buf rest =>
      let next : KVClient := { client with
        freeBuffers := rest
        postedRecvBuffers := client.postedRecvBuffers.insert (recvId client.conn.connId buf) buf
        conn := (client.conn.postRecv buf (recvId client.conn.connId buf)).2 }
      have same : client.postRecvBuffers (count + 1) = next.postRecvBuffers count := by
        rw [KVClient.postRecvBuffers, allocate_next free]
        dsimp only
        rw [if_pos (pool.valid buf (kept.free_mem free))]
      have fresh := kept.unposted pool free
      have conn := postRecv_conn client.conn buf (recvId client.conn.connId buf)
      have moved : Kept all sent next := by
        refine ⟨?_, ?_, ?_, ?_⟩
        · have shared := kept.shared
          rw [free] at shared
          refine List.Perm.trans ?_ shared
          change (rest ++ (values (client.postedRecvBuffers.insert _ buf) ++ _)).Perm _
          rw [values_insert fresh]
          exact List.perm_middle
        · intro entry member
          have listed : entry ∈ (client.postedRecvBuffers.insert (recvId client.conn.connId buf) buf).entries := member
          rw [AList.entries_insert_of_notMem fresh] at listed
          change entry.1 = recvId (client.conn.postRecv _ _).2.connId entry.2
          rw [conn]
          rcases List.mem_cons.mp listed with rfl | old
          · rfl
          · exact kept.recvs entry old
        · intro entry member
          obtain ⟨seq, few, id⟩ := kept.sends entry member
          refine ⟨seq, few, ?_⟩
          change entry.1 = requestId (client.conn.postRecv _ _).2.connId _
          rw [conn]
          exact id
        · change (client.conn.postRecv _ _).2.state = _
          rw [conn]
          exact kept.connected
      obtain ⟨kept', receiving, size⟩ := ih moved
      rw [same]
      have posts : Receiving client next := ⟨rfl, client.conn.qp.device.recvs ++ [_], conn⟩
      refine ⟨kept', posts.trans receiving, ?_⟩
      have more : next.postedRecvBuffers.entries.length = client.postedRecvBuffers.entries.length + 1 := by
        change (client.postedRecvBuffers.insert _ buf).entries.length = _
        rw [AList.entries_insert_of_notMem fresh, List.length_cons]
      have left : next.freeBuffers.length = rest.length := rfl
      rw [size, more, left, List.length_cons]
      omega

/-- Without a free buffer a request is left out; otherwise its buffer is tracked and handed to the device. -/
inductive SendCase (client : KVClient) (seq : UInt32) : KVClient → Prop
  | left (empty : client.freeBuffers = []) : SendCase client seq client
  | posted (buf : Buffer) (rest : List Buffer) (free : client.freeBuffers = buf :: rest) (wr : SendWr)
    (signaled : wr.signaled = client.conn.qp.shouldSignal.1) (memory : UInt64 → Nat → UInt8) :
    SendCase client seq { client with
      freeBuffers := rest
      memory := memory
      postedSendBuffers := client.postedSendBuffers.insert (requestId client.conn.connId seq) buf
      conn := sendConn client.conn wr }

theorem sendRequest_cases (pool : Pool all) (kept : Kept all sent client)
    {fill : Cells UInt8 → Option (Cells UInt8 × UInt64)} {seq : UInt32} {next : KVClient}
    (sends : client.sendRequest fill seq = some next) : SendCase client seq next := by
  unfold KVClient.sendRequest at sends
  cases free : client.freeBuffers with
  | nil =>
    rw [allocate_none free] at sends
    obtain rfl := Option.some.inj sends
    exact .left free
  | cons buf rest =>
    rw [allocate_next free] at sends
    dsimp only at sends
    rw [pool.valid buf (kept.free_mem free), if_neg (by simp), Option.bind_eq_bind, Option.bind_eq_some_iff] at sends
    obtain ⟨⟨filled, totalSize⟩, -, same⟩ := sends
    rw [send_conn kept.connected] at same
    obtain rfl := Option.some.inj same
    exact .posted buf rest free _ rfl _

/-- The ids of the requests so far are told apart. -/
theorem Kept.unsent (kept : Kept all sent client) (few : sent < 2 ^ 32) :
    requestId client.conn.connId (Nat.toUInt32 sent) ∉ client.postedSendBuffers := by
  intro known
  obtain ⟨other, listed⟩ : ∃ other, client.postedSendBuffers.lookup (requestId client.conn.connId (Nat.toUInt32 sent)) =
      some other := Option.isSome_iff_exists.mp (AList.lookup_isSome.mpr known)
  obtain ⟨seq, before, id⟩ := kept.sends _ (listed_of_lookup listed)
  have slots := congrArg getSlotIndex id
  rw [requestId, requestId, getSlotIndex_encode, getSlotIndex_encode] at slots
  have numbers := congrArg UInt32.toNat slots
  rw [Nat.toUInt32_eq, Nat.toUInt32_eq, UInt32.toNat_ofNat_of_lt' few, UInt32.toNat_ofNat_of_lt' (before.trans few)] at numbers
  omega

/-- Requests are posted, each with a buffer. -/
structure Sending (before after : KVClient) : Prop where
  recvs : after.conn.qp.device.recvs = before.conn.qp.device.recvs
  sends : ∃ new, after.conn.qp.device.sends = before.conn.qp.device.sends ++ new ∧
    (values after.postedSendBuffers).length = (values before.postedSendBuffers).length + new.length

theorem Sending.refl (client : KVClient) : Sending client client := ⟨rfl, [], (List.append_nil _).symm, rfl⟩

theorem Sending.trans {first second third : KVClient} (front : Sending first second) (back : Sending second third) :
    Sending first third := by
  obtain ⟨new, sends, size⟩ := front.sends
  obtain ⟨more, later, grown⟩ := back.sends
  refine ⟨back.recvs.trans front.recvs, new ++ more, by rw [later, sends, List.append_assoc], ?_⟩
  rw [grown, size, List.length_append, Nat.add_assoc]

theorem SendCase.kept {interval : Nat} {next : KVClient} (kept : Kept all sent client) (few : sent < 2 ^ 32)
    (sparse : Sparse interval client.conn.qp) (did : SendCase client (Nat.toUInt32 sent) next) :
    Kept all (sent + 1) next ∧ Sparse interval next.conn.qp ∧ Sending client next ∧
      next.conn.qp.device.sends.length ≤ client.conn.qp.device.sends.length + 1 := by
  cases did with
  | left empty =>
    refine ⟨⟨kept.shared, kept.recvs, fun entry member => ?_, kept.connected⟩, sparse, .refl _, Nat.le_succ _⟩
    obtain ⟨seq, before, id⟩ := kept.sends entry member
    exact ⟨seq, Nat.lt_succ_of_lt before, id⟩
  | posted buf rest free wr signaled memory =>
    have fresh := kept.unsent few
    refine ⟨⟨?_, kept.recvs, fun entry member => ?_, kept.connected⟩, @Sparse.sent _ _ _ sparse (wr, _) signaled
      rfl (shouldSignal_frame _).1 rfl, ⟨rfl, [(wr, _)], rfl, ?_⟩, ?_⟩
    · have shared := kept.shared
      rw [free] at shared
      refine List.Perm.trans ?_ shared
      change (rest ++ (_ ++ values (client.postedSendBuffers.insert _ buf))).Perm _
      rw [values_insert fresh]
      refine List.Perm.trans (List.Perm.append_left rest List.perm_middle) ?_
      exact List.perm_middle
    · have listed : entry ∈ (client.postedSendBuffers.insert (requestId client.conn.connId (Nat.toUInt32 sent)) buf).entries :=
        member
      rw [AList.entries_insert_of_notMem fresh] at listed
      rcases List.mem_cons.mp listed with rfl | old
      · exact ⟨sent, Nat.lt_succ_self _, rfl⟩
      · obtain ⟨seq, before, id⟩ := kept.sends entry old
        exact ⟨seq, Nat.lt_succ_of_lt before, id⟩
    · change (values (client.postedSendBuffers.insert _ buf)).length = _
      rw [values_insert fresh]
      rfl
    · exact (List.length_append ..).le

/-- A completion gives at most one buffer back. -/
theorem sendCompleted_kept (kept : Kept all sent client) (wc : Wc) :
    Kept all sent (client.sendCompleted wc) ∧ (client.sendCompleted wc).conn = client.conn ∧
      (client.sendCompleted wc).postedRecvBuffers = client.postedRecvBuffers ∧
      (values client.postedSendBuffers).length ≤ (values (client.sendCompleted wc).postedSendBuffers).length + 1 := by
  unfold KVClient.sendCompleted
  cases found : client.postedSendBuffers.lookup wc.wrId with
  | none => exact ⟨kept, rfl, rfl, Nat.le_succ _⟩
  | some buf =>
    have split := values_erase found
    refine ⟨⟨?_, kept.recvs, fun entry left => kept.sends entry (mem_erase_entries left), kept.connected⟩, rfl, rfl,
      split.length_eq.le⟩
    refine List.Perm.trans ?_ kept.shared
    change ((client.freeBuffers ++ [buf]) ++ (values client.postedRecvBuffers ++
      values (client.postedSendBuffers.erase wc.wrId))).Perm _
    rw [List.append_assoc]
    have back : (buf :: (values client.postedRecvBuffers ++ values (client.postedSendBuffers.erase wc.wrId))).Perm
        (values client.postedRecvBuffers ++ buf :: values (client.postedSendBuffers.erase wc.wrId)) :=
      List.perm_middle.symm
    exact (back.trans (split.symm.append_left _)).append_left _

theorem sendsCompleted_kept (kept : Kept all sent client) (wcs : List Wc) :
    Kept all sent (wcs.foldl KVClient.sendCompleted client) ∧
      (wcs.foldl KVClient.sendCompleted client).conn = client.conn ∧
      (wcs.foldl KVClient.sendCompleted client).postedRecvBuffers = client.postedRecvBuffers ∧
      (values client.postedSendBuffers).length ≤
        (values (wcs.foldl KVClient.sendCompleted client).postedSendBuffers).length + wcs.length := by
  induction wcs generalizing client with
  | nil => exact ⟨kept, rfl, rfl, Nat.le_refl _⟩
  | cons wc rest ih =>
    obtain ⟨now, conn, recvs, fewer⟩ := sendCompleted_kept kept wc
    obtain ⟨later, conn', recvs', fewer'⟩ := ih now
    refine ⟨later, conn'.trans conn, recvs'.trans recvs, ?_⟩
    rw [List.foldl_cons, List.length_cons]
    omega

end Moves

/-! ### A round of the loop -/

/-- What the counters say of each other. -/
structure Counted (flags : Flags) (bench : Benchmark) : Prop where
  kinds : bench.getsSent + bench.putsSent = bench.sent
  results : bench.getsSuccess + bench.getsNotFound + bench.putsSuccess ≤ bench.completed
  few : bench.sent ≤ flags.numOperations.toNatClampNeg
  window : bench.sent ≤ bench.completed + 64

structure Going (all : List Buffer) (interval : Nat) (flags : Flags) (bench : Benchmark) : Prop where
  kept : Kept all bench.sent bench.client
  sparse : Sparse interval bench.client.conn.qp
  counted : Counted flags bench
  posted : bench.client.conn.qp.device.sends.length ≤ bench.sent

section Rounds
variable {all : List Buffer} {interval : Nat} {flags : Flags} {bench next : Benchmark}

theorem clamp_lt (number : Int32) : number.toNatClampNeg < 2 ^ 31 := by
  have most := number.toInt_lt
  rw [Int32.toNatClampNeg]
  omega

/-- A request, with what is counted of it. -/
theorem sendOne_cases (pool : Pool all) (kept : Kept all bench.sent bench.client) {draw : Draw}
    (sends : bench.sendOne flags draw = some next) : SendCase bench.client bench.sent.toUInt32 next.client ∧
      next.sent = bench.sent + 1 ∧ next.getsSent + next.putsSent = bench.getsSent + bench.putsSent + 1 ∧
      next.completed = bench.completed ∧ next.getsSuccess = bench.getsSuccess ∧ next.putsSuccess = bench.putsSuccess ∧
      next.getsNotFound = bench.getsNotFound := by
  unfold Benchmark.sendOne at sends
  dsimp only at sends
  split at sends
  · obtain ⟨client, did, same⟩ := Option.bind_eq_some_iff.mp sends
    obtain rfl := Option.some.inj same
    have case : SendCase bench.client bench.sent.toUInt32 client := by
      unfold KVClient.sendPutBy at did
      split at did
      · exact sendRequest_cases pool kept did
      · exact sendRequest_cases pool kept did
    exact ⟨case, rfl, Nat.add_assoc .. |>.symm, rfl, rfl, rfl, rfl⟩
  · obtain ⟨client, did, same⟩ := Option.bind_eq_some_iff.mp sends
    obtain rfl := Option.some.inj same
    exact ⟨sendRequest_cases pool kept did, rfl, Nat.add_right_comm .., rfl, rfl, rfl, rfl⟩

theorem sendOne_going (pool : Pool all) (going : Going all interval flags bench) (room : bench.hasRoom flags) {draw : Draw}
    (sends : bench.sendOne flags draw = some next) :
    Going all interval flags next ∧ Sending bench.client next.client ∧ next.completed = bench.completed := by
  obtain ⟨did, sent, kinds, completed, gets, puts, missed⟩ := sendOne_cases pool going.kept sends
  obtain ⟨below, outstanding⟩ := room
  have counted := going.counted
  have most := clamp_lt flags.numOperations
  have few : bench.sent < 2 ^ 32 := by
    have := counted.few
    omega
  obtain ⟨kept, sparse, sending, more⟩ := did.kept going.kept few going.sparse
  refine ⟨⟨sent ▸ kept, sparse, ⟨?_, ?_, ?_, ?_⟩, ?_⟩, sending, completed⟩
  · rw [kinds, sent, counted.kinds]
  · rw [gets, puts, missed, completed]
    exact counted.results
  · rw [sent, Int32.toNatClampNeg]
    omega
  · rw [sent, completed]
    have window : (bench.sent : Int) - bench.completed < 64 := outstanding
    omega
  · rw [sent]
    exact more.trans (Nat.succ_le_succ going.posted)

theorem sendRequests_going (pool : Pool all) (going : Going all interval flags bench) {draws : Nat → Draw} {fuel : Nat}
    (sends : bench.sendRequests flags draws fuel = some next) :
    Going all interval flags next ∧ Sending bench.client next.client ∧ next.completed = bench.completed := by
  induction fuel generalizing bench with
  | zero =>
    obtain rfl := Option.some.inj sends
    exact ⟨going, .refl _, rfl⟩
  | succ fuel ih =>
    rw [Benchmark.sendRequests] at sends
    split at sends
    · rename_i room
      obtain ⟨middle, first, rest⟩ := Option.bind_eq_some_iff.mp sends
      obtain ⟨now, sending, same⟩ := sendOne_going pool going room first
      obtain ⟨later, more, same'⟩ := ih now rest
      exact ⟨later, sending.trans more, same'.trans same⟩
    · obtain rfl := Option.some.inj sends
      exact ⟨going, .refl _, rfl⟩

/-- The fuel is enough: no request is left that the loop would send. -/
theorem sendRequests_full {draws : Nat → Draw} {fuel : Nat} (enough : flags.numOperations.toNatClampNeg ≤ bench.sent + fuel)
    (pool : Pool all) (going : Going all interval flags bench)
    (sends : bench.sendRequests flags draws fuel = some next) : ¬next.hasRoom flags := by
  induction fuel generalizing bench with
  | zero =>
    obtain rfl := Option.some.inj sends
    rintro ⟨below, -⟩
    rw [Int32.toNatClampNeg] at enough
    omega
  | succ fuel ih =>
    rw [Benchmark.sendRequests] at sends
    split at sends
    · rename_i room
      obtain ⟨middle, first, rest⟩ := Option.bind_eq_some_iff.mp sends
      have sent := (sendOne_cases pool going.kept first).2.1
      exact ih (by omega) (sendOne_going pool going room first).1 rest
    · rename_i full
      obtain rfl := Option.some.inj sends
      exact full

/-- A response changes the counters of its kind only. -/
theorem count_frame (bench : Benchmark) (response : ResponseHeader) : (bench.count response).client = bench.client ∧
    (bench.count response).sent = bench.sent ∧ (bench.count response).completed = bench.completed ∧
    (bench.count response).getsSent = bench.getsSent ∧ (bench.count response).putsSent = bench.putsSent ∧
    (bench.count response).getsSuccess + (bench.count response).getsNotFound + (bench.count response).putsSuccess ≤
      bench.getsSuccess + bench.getsNotFound + bench.putsSuccess + 1 := by
  unfold Benchmark.count
  split
  · split
    · exact ⟨rfl, rfl, rfl, rfl, rfl, by dsimp only; omega⟩
    · split
      · exact ⟨rfl, rfl, rfl, rfl, rfl, by dsimp only; omega⟩
      · exact ⟨rfl, rfl, rfl, rfl, rfl, Nat.le_succ _⟩
  · split
    · exact ⟨rfl, rfl, rfl, rfl, rfl, by dsimp only; omega⟩
    · exact ⟨rfl, rfl, rfl, rfl, rfl, Nat.le_succ _⟩

theorem recvCompleted_going (going : Going all interval flags bench) (wc : Wc) :
    Going all interval flags (bench.recvCompleted wc) ∧ (bench.recvCompleted wc).client.conn = bench.client.conn ∧
      (bench.recvCompleted wc).client.postedSendBuffers = bench.client.postedSendBuffers ∧
      (bench.recvCompleted wc).completed = bench.completed + if wc.status = 0 then 1 else 0 := by
  obtain ⟨kept, sparse, ⟨kinds, results, few, window⟩, posted⟩ := going
  unfold Benchmark.recvCompleted
  by_cases success : wc.status = 0
  · rw [if_pos success, if_pos success]
    cases found : bench.client.postedRecvBuffers.lookup wc.wrId with
    | none =>
      exact ⟨⟨kept, sparse, ⟨kinds, Nat.le_succ_of_le results, few, window.trans (by dsimp only; omega)⟩, posted⟩, rfl, rfl, rfl⟩
    | some buf =>
      dsimp only
      obtain ⟨-, sent, completed, gets, puts, more⟩ := count_frame bench (.read (bench.client.memory buf.addr))
      have split := values_erase found
      refine ⟨⟨⟨?_, fun entry left => kept.recvs entry (mem_erase_entries left), ?_, kept.connected⟩, sparse,
        ⟨?_, ?_, ?_, ?_⟩, ?_⟩, rfl, rfl, ?_⟩
      · refine List.Perm.trans ?_ kept.shared
        change ((bench.client.freeBuffers ++ [buf]) ++ (values (bench.client.postedRecvBuffers.erase wc.wrId) ++
          values bench.client.postedSendBuffers)).Perm _
        rw [List.append_assoc]
        exact (split.symm.append_right _).append_left _
      · dsimp only
        rw [sent]
        exact kept.sends
      · dsimp only
        rw [gets, puts, sent, kinds]
      · dsimp only
        rw [completed]
        omega
      · dsimp only
        rw [sent]
        exact few
      · dsimp only
        rw [sent, completed]
        omega
      · dsimp only
        rw [sent]
        exact posted
      · rw [completed]
  · rw [if_neg success, if_neg success]
    exact ⟨⟨kept, sparse, ⟨kinds, results, few, window⟩, posted⟩, rfl, rfl, rfl⟩

theorem recvsCompleted_going (going : Going all interval flags bench) (wcs : List Wc) :
    Going all interval flags (wcs.foldl Benchmark.recvCompleted bench) ∧
      (wcs.foldl Benchmark.recvCompleted bench).client.conn = bench.client.conn ∧
      (wcs.foldl Benchmark.recvCompleted bench).client.postedSendBuffers = bench.client.postedSendBuffers ∧
      (wcs.foldl Benchmark.recvCompleted bench).completed = bench.completed + wcs.countP (·.status = 0) := by
  induction wcs generalizing bench with
  | nil => exact ⟨going, rfl, rfl, rfl⟩
  | cons wc rest ih =>
    obtain ⟨now, conn, sends, completed⟩ := recvCompleted_going going wc
    obtain ⟨later, conn', sends', completed'⟩ := ih now
    refine ⟨later, conn'.trans conn, sends'.trans sends, ?_⟩
    rw [List.foldl_cons, completed', completed, List.countP_cons]
    simp only [decide_eq_true_eq]
    omega

end Rounds

/-! ### Runs -/

/-- While the connection works every posted request keeps its buffer, unless it was signaled. -/
def Spent (world : World) : Prop :=
  ∃ back, back + world.sends.countP (·.signaled) + world.sendCq.length ≤
      world.bench.client.conn.qp.device.sends.countP (·.1.signaled) ∧
    world.bench.client.conn.qp.device.sends.length ≤ (values world.bench.client.postedSendBuffers).length + back

/-- Enough receives are posted, as far as there are buffers. -/
def Ready (client : KVClient) : Prop := 32 ≤ client.postedRecvBuffers.entries.length ∨ client.freeBuffers = []

structure Inv (all : List Buffer) (interval : Nat) (flags : Flags) (world : World) : Prop where
  going : Going all interval flags world.bench
  ready : world.phase = .sending → Ready world.bench.client
  spent : world.broken = false → Spent world
  answers : world.bench.completed + world.recvCq.countP (·.status = 0) ≤ world.answered
  asked : world.answered ≤ world.asked
  bounded : (interval - 1) * world.answered ≤ interval * all.length

section Steps
variable {all : List Buffer} {interval : Nat} {flags : Flags} {world next : World}

/-- A working connection has taken few requests. -/
theorem Inv.posted (inv : Inv all interval flags world) (works : world.broken = false) :
    (interval - 1) * world.bench.client.conn.qp.device.sends.length ≤ interval * all.length := by
  obtain ⟨back, due, taken⟩ := inv.spent works
  have shared := inv.going.kept.shared.length_eq
  simp only [List.length_append] at shared
  exact spaced_bound inv.going.sparse.2 (Nat.le_trans taken (Nat.add_le_add_left (by omega) _)) (by omega)

theorem asked_le (world : World) : world.asked ≤ world.bench.client.conn.qp.device.sends.length := List.countP_le_length

theorem sending_inv (pool : Pool all) (inv : Inv all interval flags world) {draws : Nat → Draw}
    (stepped : world.sending flags draws = some next) : Inv all interval flags next := by
  unfold World.sending at stepped
  split at stepped
  swap
  · cases stepped
  obtain ⟨bench, sends, same⟩ := Option.bind_eq_some_iff.mp stepped
  obtain rfl := Option.some.inj same
  obtain ⟨going, ⟨-, new, handed, size⟩, completed⟩ := sendRequests_going pool inv.going sends
  refine ⟨going, nofun, fun works => ?_, ?_, ?_, inv.bounded⟩
  · obtain ⟨back, due, taken⟩ := inv.spent works
    have accepted : (newSends world.bench.client bench.client).countP (·.signaled) ≤ new.countP (·.1.signaled) := by
      rw [newSends, handed_append handed, List.countP_map, List.countP_filter]
      exact List.countP_mono_left fun sent _ => by simpa using fun signaled _ => signaled
    refine ⟨back, ?_, ?_⟩
    · dsimp only
      rw [handed, List.countP_append, List.countP_append]
      omega
    · dsimp only
      rw [handed, List.length_append, size]
      omega
  · dsimp only
    rw [completed]
    exact inv.answers
  · refine inv.asked.trans ?_
    rw [World.asked, World.asked]
    dsimp only
    rw [handed, List.countP_append]
    exact Nat.le_add_right ..

theorem pollingSends_inv (inv : Inv all interval flags world) {count : Nat}
    (stepped : world.pollingSends count = some next) : Inv all interval flags next := by
  unfold World.pollingSends at stepped
  split at stepped
  swap
  · cases stepped
  obtain rfl := Option.some.inj stepped
  obtain ⟨kept, sparse, counted, posted⟩ := inv.going
  obtain ⟨kept', conn, recvs, fewer⟩ := sendsCompleted_kept kept (world.sendCq.take (min count WC_BUFFER))
  refine ⟨⟨kept', conn ▸ sparse, ⟨counted.kinds, counted.results, counted.few, counted.window⟩, conn ▸ posted⟩,
    nofun, fun works => ?_, inv.answers, ?_, inv.bounded⟩
  · obtain ⟨back, due, taken⟩ := inv.spent works
    have split := congrArg List.length (List.take_append_drop (min count WC_BUFFER) world.sendCq)
    rw [List.length_append] at split
    refine ⟨back + (world.sendCq.take (min count WC_BUFFER)).length, ?_, ?_⟩
    · dsimp only
      rw [conn]
      omega
    · dsimp only
      rw [conn]
      omega
  · rw [World.asked]
    dsimp only
    rw [conn]
    exact inv.asked

theorem pollingRecvs_inv (inv : Inv all interval flags world) {count : Nat}
    (stepped : world.pollingRecvs count = some next) : Inv all interval flags next := by
  unfold World.pollingRecvs at stepped
  split at stepped
  swap
  · cases stepped
  obtain rfl := Option.some.inj stepped
  obtain ⟨going, conn, sends, completed⟩ := recvsCompleted_going inv.going (world.recvCq.take (min count WC_BUFFER))
  refine ⟨going, nofun, fun works => ?_, ?_, ?_, inv.bounded⟩
  · obtain ⟨back, due, taken⟩ := inv.spent works
    refine ⟨back, ?_, ?_⟩
    · dsimp only
      rw [conn]
      exact due
    · dsimp only
      rw [conn, sends]
      exact taken
  · have split := congrArg (List.countP (·.status = 0)) (List.take_append_drop (min count WC_BUFFER) world.recvCq)
    have answers := inv.answers
    rw [List.countP_append] at split
    dsimp only
    rw [completed]
    omega
  · rw [World.asked]
    dsimp only
    rw [conn]
    exact inv.asked

theorem replenish_kept {client : KVClient} {sent : Nat} (pool : Pool all) (kept : Kept all sent client) :
    Kept all sent client.replenish ∧ Receiving client client.replenish ∧
      Ready client.replenish := by
  unfold KVClient.replenish
  split
  · rename_i few
    obtain ⟨kept', receiving, size⟩ :=
      postRecvBuffers_kept pool kept (32 - client.postedRecvBuffers.entries.length)
    refine ⟨kept', receiving, ?_⟩
    by_cases enough : 32 - client.postedRecvBuffers.entries.length ≤ client.freeBuffers.length
    · exact .inl (by omega)
    · refine .inr (List.length_eq_zero_iff.mp ?_)
      have before := kept.shared.length_eq
      have after := kept'.shared.length_eq
      rw [receiving.sends] at after
      simp only [List.length_append, values, List.length_map] at before after
      omega
  · rename_i many
    exact ⟨kept, .refl client, .inl (Nat.le_of_not_lt many)⟩

theorem replenishing_inv (pool : Pool all) (inv : Inv all interval flags world)
    (stepped : world.replenishing = some next) : Inv all interval flags next := by
  unfold World.replenishing at stepped
  split at stepped
  swap
  · cases stepped
  obtain rfl := Option.some.inj stepped
  obtain ⟨kept, sparse, counted, posted⟩ := inv.going
  obtain ⟨kept', ⟨sends, recvs, conn⟩, ready⟩ := replenish_kept pool kept
  refine ⟨⟨kept', ?_, ⟨counted.kinds, counted.results, counted.few, counted.window⟩, ?_⟩, fun _ => ready, fun works => ?_,
    inv.answers, ?_, inv.bounded⟩
  · dsimp only
    rw [conn]
    exact sparse
  · dsimp only
    rw [conn]
    exact posted
  · obtain ⟨back, due, taken⟩ := inv.spent works
    refine ⟨back, ?_, ?_⟩
    · dsimp only
      rw [conn]
      exact due
    · dsimp only
      rw [conn, sends]
      exact taken
  · rw [World.asked]
    dsimp only
    rw [conn]
    exact inv.asked

theorem transmits_inv (inv : Inv all interval flags world) (stepped : world.transmits = some next) :
    Inv all interval flags next := by
  unfold World.transmits at stepped
  cases flying : world.sends with
  | nil => simp [flying] at stepped
  | cons wr rest =>
    rw [flying] at stepped
    obtain rfl := Option.some.inj stepped
    refine ⟨inv.going, inv.ready, fun works => ?_, inv.answers, inv.asked, inv.bounded⟩
    obtain ⟨back, due, taken⟩ := inv.spent works
    refine ⟨back, ?_, taken⟩
    have working : world.broken = false := works
    rw [flying, List.countP_cons] at due
    dsimp only
    rw [working]
    cases signaled : wr.signaled with
    | false =>
      simp only [signaled] at due ⊢
      simpa using due
    | true =>
      simp only [signaled, if_true] at due
      simp only [Bool.false_eq_true, if_false, if_true, List.length_append, List.length_singleton]
      omega

theorem answers_inv (inv : Inv all interval flags world) {bytes : Nat → UInt8}
    (stepped : world.answers bytes = some next) : Inv all interval flags next := by
  unfold World.answers at stepped
  cases waiting : world.receives with
  | nil => simp [waiting] at stepped
  | cons wr rest =>
    rw [waiting] at stepped
    dsimp only at stepped
    split at stepped
    swap
    · cases stepped
    rename_i allowed
    obtain rfl := Option.some.inj stepped
    obtain ⟨works, fewer⟩ := allowed
    obtain ⟨⟨shared, recvs, sends, connected⟩, sparse, ⟨kinds, results, few, window⟩, posted⟩ := inv.going
    have answers := inv.answers
    refine ⟨⟨⟨shared, recvs, sends, connected⟩, sparse, ⟨kinds, results, few, window⟩, posted⟩, inv.ready, inv.spent, ?_,
      fewer, ?_⟩
    · dsimp only
      rw [List.countP_append, List.countP_singleton]
      simp only [decide_true, if_true]
      omega
    · have most : world.answered + 1 ≤ world.bench.client.conn.qp.device.sends.length :=
        Nat.le_trans fewer (asked_le world)
      exact (Nat.mul_le_mul_left _ most).trans (inv.posted (by simpa using works))

theorem flushes_inv (inv : Inv all interval flags world) (stepped : world.flushes = some next) :
    Inv all interval flags next := by
  unfold World.flushes at stepped
  cases waiting : world.receives with
  | nil => simp [waiting] at stepped
  | cons wr rest =>
    rw [waiting] at stepped
    dsimp only at stepped
    split at stepped
    swap
    · cases stepped
    obtain rfl := Option.some.inj stepped
    refine ⟨inv.going, inv.ready, inv.spent, ?_, inv.asked, inv.bounded⟩
    have failed : (FLUSH_ERR = 0) = False := by decide
    dsimp only
    rw [List.countP_append, List.countP_singleton]
    simp only [failed, decide_false, Bool.false_eq_true, if_false]
    exact inv.answers

theorem step_inv (pool : Pool all) (inv : Inv all interval flags world) {event : Event} {now : List Unit}
    (taken : step flags world event = some (next, now)) : Inv all interval flags next := by
  cases event with
  | sends draws =>
    obtain ⟨other, stepped, same⟩ := Option.map_eq_some_iff.mp taken
    obtain ⟨rfl, -⟩ := Prod.mk.inj same
    exact sending_inv pool inv stepped
  | pollsSends count =>
    obtain ⟨other, stepped, same⟩ := Option.map_eq_some_iff.mp taken
    obtain ⟨rfl, -⟩ := Prod.mk.inj same
    exact pollingSends_inv inv stepped
  | pollsRecvs count =>
    obtain ⟨other, stepped, same⟩ := Option.map_eq_some_iff.mp taken
    obtain ⟨rfl, -⟩ := Prod.mk.inj same
    exact pollingRecvs_inv inv stepped
  | replenishes =>
    obtain ⟨other, stepped, same⟩ := Option.map_eq_some_iff.mp taken
    obtain ⟨rfl, -⟩ := Prod.mk.inj same
    exact replenishing_inv pool inv stepped
  | transmits =>
    obtain ⟨other, stepped, same⟩ := Option.map_eq_some_iff.mp taken
    obtain ⟨rfl, -⟩ := Prod.mk.inj same
    exact transmits_inv inv stepped
  | answers bytes =>
    obtain ⟨other, stepped, same⟩ := Option.map_eq_some_iff.mp taken
    obtain ⟨rfl, -⟩ := Prod.mk.inj same
    exact answers_inv inv stepped
  | breaks =>
    obtain ⟨rfl, -⟩ := Prod.mk.inj (Option.some.inj taken)
    exact ⟨inv.going, inv.ready, nofun, inv.answers, inv.asked, inv.bounded⟩
  | flushes =>
    obtain ⟨other, stepped, same⟩ := Option.map_eq_some_iff.mp taken
    obtain ⟨rfl, -⟩ := Prod.mk.inj same
    exact flushes_inv inv stepped

end Steps

/-- The pool of the client's configuration: 256 buffers of the largest response in one block of memory. -/
def clientBuffers (base : UInt64) (lkey : UInt32) : List Buffer :=
  (List.range 256).map fun i => ⟨base + (i * MAX_RESPONSE_SIZE).toUInt64, MAX_RESPONSE_SIZE.toUInt64, lkey⟩

theorem clientBuffers_pool {base : UInt64} (lkey : UInt32) (null : base ≠ 0)
    (fits : base.toNat + 256 * MAX_RESPONSE_SIZE ≤ 2 ^ 64) : Pool (clientBuffers base lkey) := by
  have size : MAX_RESPONSE_SIZE = 65552 := rfl
  have address : ∀ i < 256, (base + (i * MAX_RESPONSE_SIZE).toUInt64).toNat = base.toNat + i * 65552 := by
    intro i below
    have offset : (i * MAX_RESPONSE_SIZE).toUInt64.toNat = i * 65552 :=
      UInt64.toNat_ofNat_of_lt' (show i * 65552 < 2 ^ 64 by omega)
    rw [UInt64.toNat_add, offset]
    exact Nat.mod_eq_of_lt (by omega)
  have positive : 0 < base.toNat := Nat.pos_of_ne_zero fun zero => null (UInt64.toNat_inj.mp zero)
  constructor
  · intro buf member
    obtain ⟨i, below, rfl⟩ := List.mem_map.mp member
    have nonzero : base + (i * MAX_RESPONSE_SIZE).toUInt64 ≠ 0 := by
      intro zero
      have sum := address i (List.mem_range.mp below)
      rw [zero, UInt64.toNat_zero] at sum
      omega
    rw [Buffer.isValid, decide_eq_true_iff]
    exact ⟨nonzero, show (0 : UInt64) < MAX_RESPONSE_SIZE.toUInt64 by decide⟩
  · rw [clientBuffers, List.map_map]
    refine List.Nodup.map_on ?_ List.nodup_range
    intro i first j second same
    have inI := List.mem_range.mp first
    have inJ := List.mem_range.mp second
    have low : ∀ k < 256, ((base + (k * MAX_RESPONSE_SIZE).toUInt64) &&& 0xFFFFFFFF).toUInt32.toNat =
        (base.toNat + k * 65552) % 2 ^ 32 := by
      intro k below
      rw [UInt64.toNat_toUInt32, UInt64.toNat_and, address k below]
      rw [show (0xFFFFFFFF : UInt64).toNat = 2 ^ 32 - 1 from rfl, Nat.and_two_pow_sub_one_eq_mod, Nat.mod_mod]
    have equal := congrArg UInt32.toNat same
    rw [Function.comp_apply, Function.comp_apply, low i inI, low j inJ] at equal
    have offsets : i * 65552 ≡ j * 65552 [MOD 2 ^ 32] := Nat.ModEq.add_left_cancel' base.toNat equal
    exact Nat.eq_of_mul_eq_mul_right (by decide) (offsets.eq_of_lt_of_lt (by omega) (by omega))

theorem start_inv {all : List Buffer} (pool : Pool all) {interval : Nat} (flags : Flags) (connId : UInt16)
    {config : QueuePairConfig} (sparing : interval ≤ config.signalInterval.toNat) (sendAnswer recvAnswer : Nat → Option Int) :
    Inv all interval flags (.start (.new all connId config sendAnswer recvAnswer)) := by
  have kept : Kept all 0 (.new all connId config sendAnswer recvAnswer) :=
    ⟨by simp [KVClient.new, values], by simp [KVClient.new], by simp [KVClient.new], rfl⟩
  obtain ⟨kept', ⟨sends, recvs, conn⟩, size⟩ := postRecvBuffers_kept pool kept 64
  have nothing : (KVClient.postRecvBuffers (.new all connId config sendAnswer recvAnswer) 64).conn.qp.device.sends = [] := by
    rw [conn]
    rfl
  refine ⟨⟨kept', ?_, ⟨rfl, Nat.le_refl _, Nat.zero_le _, Nat.zero_le _⟩, ?_⟩, fun _ => ?_, fun _ => ⟨0, ?_, ?_⟩,
    Nat.le_refl _, Nat.zero_le _, Nat.zero_le _⟩
  · dsimp only [World.start]
    rw [conn]
    exact ⟨sparing, spaced_nil⟩
  · dsimp only [World.start]
    rw [nothing]
    exact Nat.zero_le _
  · by_cases enough : 64 ≤ all.length
    · left
      have posted : (KVClient.postRecvBuffers (.new all connId config sendAnswer recvAnswer)
          64).postedRecvBuffers.entries.length = 0 + min 64 all.length := size
      dsimp only [World.start]
      omega
    · right
      have after := kept'.shared.length_eq
      have posted : (KVClient.postRecvBuffers (.new all connId config sendAnswer recvAnswer)
          64).postedRecvBuffers.entries.length = 0 + min 64 all.length := size
      simp only [List.length_append, values, List.length_map] at after
      refine List.length_eq_zero_iff.mp ?_
      dsimp only [World.start]
      omega
  · exact Nat.zero_le _
  · dsimp only [World.start]
    rw [nothing]
    exact Nat.zero_le _

section Main
variable {base : UInt64} {lkey : UInt32} {flags : Flags} {connId : UInt16} {config : QueuePairConfig}
  {sendAnswer recvAnswer : Nat → Option Int} {events : List Event} {last : World} {outputs : List Unit}

/-- The client of a run, over its pool. -/
def firstWorld (base : UInt64) (lkey : UInt32) (connId : UInt16) (config : QueuePairConfig)
    (sendAnswer recvAnswer : Nat → Option Int) : World :=
  .start (.new (clientBuffers base lkey) connId config sendAnswer recvAnswer)

theorem run_inv (null : base ≠ 0) (fits : base.toNat + 256 * MAX_RESPONSE_SIZE ≤ 2 ^ 64)
    (ran : run (step flags) (firstWorld base lkey connId config sendAnswer recvAnswer) events = some (last, outputs)) :
    Inv (clientBuffers base lkey) config.signalInterval.toNat flags last := by
  have pool := clientBuffers_pool lkey null fits
  have any : Meets (step flags) (fun _ _ => True) (firstWorld base lkey connId config sendAnswer recvAnswer) events :=
    meets_of_forall fun _ _ => trivial
  have start := start_inv pool flags connId (Nat.le_refl config.signalInterval.toNat) sendAnswer recvAnswer
  exact invariant_of_run (fun _ _ _ _ inv _ taken => step_inv pool inv taken) start any ran

/-- In every run of the benchmark at most 64 requests are outstanding, none is sent beyond the number of operations, and
    no more are completed than were answered, nor more answered than the device took. -/
theorem benchmark_counts (null : base ≠ 0) (fits : base.toNat + 256 * MAX_RESPONSE_SIZE ≤ 2 ^ 64)
    (ran : run (step flags) (firstWorld base lkey connId config sendAnswer recvAnswer) events = some (last, outputs)) :
    Counted flags last.bench ∧ last.bench.completed ≤ last.answered ∧ last.answered ≤ last.asked ∧
      last.asked ≤ last.bench.sent := by
  have inv := run_inv null fits ran
  exact ⟨inv.going.counted, Nat.le_trans (Nat.le_add_right ..) inv.answers, inv.asked,
    Nat.le_trans (asked_le last) inv.going.posted⟩

/-- With a queue pair that signals one send in `signalInterval`, the benchmark runs out of buffers: it completes a
    bounded number of operations, and if it is to do more it never leaves its loop by itself. -/
theorem benchmark_starves (null : base ≠ 0) (fits : base.toNat + 256 * MAX_RESPONSE_SIZE ≤ 2 ^ 64)
    (ran : run (step flags) (firstWorld base lkey connId config sendAnswer recvAnswer) events = some (last, outputs)) :
    (config.signalInterval.toNat - 1) * last.bench.completed ≤ config.signalInterval.toNat * 256 ∧
      (config.signalInterval.toNat * 256 < (config.signalInterval.toNat - 1) * flags.numOperations.toNatClampNeg →
        last.bench.goesOn flags) := by
  have inv := run_inv null fits ran
  have size : (clientBuffers base lkey).length = 256 := by simp [clientBuffers]
  have few : last.bench.completed ≤ last.answered := Nat.le_trans (Nat.le_add_right ..) inv.answers
  have bounded := Nat.le_trans (Nat.mul_le_mul_left _ few) inv.bounded
  rw [size] at bounded
  refine ⟨bounded, fun many => ?_⟩
  have less := Nat.lt_of_mul_lt_mul_left (Nat.lt_of_le_of_lt bounded many)
  rw [Int32.toNatClampNeg] at less
  rw [Benchmark.goesOn]
  omega

end Main

/-- A round in which the first request, a PUT, is answered. -/
def firstRound : List Event :=
  [.sends fun seq => ⟨seq % 2 = 0, seq.toUInt64⟩, .transmits,
    .answers fun i => if i = 0 then OpType.putResponse.value else 0, .pollsSends 64, .pollsRecvs 64, .replenishes]

theorem firstRound_runs : ∃ last outputs,
    run (step {}) (firstWorld 65536 7 0 {} (fun _ => none) (fun _ => none)) firstRound = some (last, outputs) := by
  have defined : (run (step {}) (firstWorld 65536 7 0 {} (fun _ => none) (fun _ => none)) firstRound).isSome = true := by
    decide +kernel
  obtain ⟨⟨last, outputs⟩, ran⟩ := Option.isSome_iff_exists.mp defined
  exact ⟨last, outputs, ran⟩

theorem firstRound_counts : ∃ last outputs,
    run (step {}) (firstWorld 65536 7 0 {} (fun _ => none) (fun _ => none)) firstRound = some (last, outputs) ∧
      Counted {} last.bench ∧ last.bench.completed ≤ last.answered ∧ last.answered ≤ last.asked ∧
        last.asked ≤ last.bench.sent := by
  obtain ⟨last, outputs, ran⟩ := firstRound_runs
  exact ⟨last, outputs, ran, benchmark_counts (by decide) (by decide) ran⟩

/-- The default benchmark does not get to its 10000 operations. -/
theorem firstRound_goesOn : ∃ last outputs,
    run (step {}) (firstWorld 65536 7 0 {} (fun _ => none) (fun _ => none)) firstRound = some (last, outputs) ∧
      15 * last.bench.completed ≤ 16 * 256 ∧ last.bench.goesOn {} := by
  obtain ⟨last, outputs, ran⟩ := firstRound_runs
  obtain ⟨bounded, goes⟩ := benchmark_starves (by decide) (by decide) ran
  exact ⟨last, outputs, ran, bounded, goes (by decide)⟩

end Rdma.KvBenchmarks
