import Rdma.KvAcceptances
import Rdma.KvServices

/-!
The key-value server with its connection manager (`AcceptConnections`,
`OnError`). An attempt to connect can fail at any point of the handshake, and a
connection that was established can fail at any time. Neither costs an id
(`ids_recovered`) nor, over a correct pool, disturbs the map
(`served_through_failures`). But the
receive buffers of a connection never come back: what is not free and not taken
by responses was given to connections once and for all, so the server can equip
16 connections in its life, dead ones included (`receives_never_return`).
-/
namespace Rdma.KvFailures
open Rdma.Arrays Rdma.Types Rdma.Runs Rdma.Connections Rdma.ConnectionManagers
open Rdma.ConnectionIds (Kept live getConnection_some create_kept live_full)
open Rdma.HandshakeMessages (Greeting)
open Rdma.KvAcceptances
open Rdma.KvProtocols Rdma.KvStores Rdma.KvServers Rdma.KvBuffers Rdma.Observations Rdma.KvServices
open Rdma.KvMaps (contentsOf)

/-! ### Accepting and losing connections -/

/-- The server and its connection manager. A connection that is in use is that of its context; the manager's is as it
    was when it was established. -/
structure Node where
  manager : ConnectionManager
  sys : System

/-- `AcceptConnections`, when a peer has connected to the port. -/
def Node.acceptConnections (node : Node) (attempt : Attempt) (received : Option Greeting) : Option Node := do
  let (manager, offered) ← offer node.manager attempt
  match offered with
  | none => some { node with manager }
  | some offered =>
    match conclude manager offered received with
    | (manager, none) => some { node with manager }
    | (manager, some host) => some ⟨manager, node.sys.accept { conn := host.link.connection }⟩

/-- The receives of a queue pair go with it; completions of its sends may still be in the queue. -/
def System.destroyed (sys : System) (connId : UInt16) : System :=
  { sys with receives := sys.receives.filter (·.1 ≠ connId) }

/-- `OnError`, for a completion with an error: the context is deleted and the connection removed. -/
def Node.onError (node : Node) (connId : UInt16) : Node :=
  let server := { node.sys.server with connContexts := Function.update node.sys.server.connContexts connId none }
  if (node.manager.getConnection connId).isNone then { node with sys := { node.sys with server } }
  else ⟨node.manager.removeConnection connId, System.destroyed { node.sys with server } connId⟩

inductive Event
  | accept (attempt : Attempt) (received : Option Greeting)
  | request (connId : UInt16) (data : Nat → UInt8) (byteLen : UInt32)
  | sent (index : Nat)
  | failed (connId : UInt16)

def step (node : Node) : Event → Option (Node × List Unit)
  | .accept attempt received => (node.acceptConnections attempt received).map (·, [])
  | .request connId data byteLen => (node.sys.request connId data byteLen).map fun sys => ({ node with sys }, [])
  | .sent index => (node.sys.sent index).map fun sys => ({ node with sys }, [])
  | .failed connId => some (node.onError connId, [])

/-- The server after `Initialize`, over a pool of buffers. -/
def Node.new (store : KVStore) (all : List Buffer) : Node := ⟨.create { maxConnections := 256 }, .new store all⟩

/-! ### The ids -/

/-- The manager has the connections that the server has contexts of. -/
structure Agreed (node : Node) : Prop where
  kept : Kept node.manager
  config : node.manager.config = { maxConnections := 256 }
  same : ∀ connId, node.manager.getConnection connId = none ↔ node.sys.server.connContexts connId = none

/-- An attempt leaves the server alone, or establishes a connection under an id that is not in use. -/
inductive Accepted (node : Node) (attempt : Attempt) (next : Node) : Prop
  | refused (same : next.sys = node.sys)
  | established (connId : UInt16) (fresh : node.sys.server.connContexts connId = none)
    (accepts : next.sys = node.sys.accept (established connId {} attempt.sendAnswer attempt.recvAnswer))

section Accepting
variable {node next : Node} {manager : ConnectionManager}

/-- The connection gets its context. -/
theorem accept_contexts (sys : System) (ctx : ConnectionContext) : ∃ after, (sys.accept ctx).server.connContexts =
    Function.update sys.server.connContexts ctx.conn.connId (some after) := by
  obtain ⟨free, tracked, recvs, posts⟩ := postRecvBuffers_frame sys.server ctx 32
  unfold System.accept
  rw [posts]
  exact ⟨_, rfl⟩

theorem Agreed.unchanged (agreed : Agreed node) (same : SameIds node.manager manager) :
    Agreed { node with manager } :=
  ⟨same.1, same.2.1.trans agreed.config, fun connId => (same.2.2 connId).trans (agreed.same connId)⟩

theorem Agreed.accepted (agreed : Agreed node) {connId : UInt16} (adds : AddsId connId node.manager manager)
    {ctx : ConnectionContext} (named : ctx.conn.connId = connId) : Agreed ⟨manager, node.sys.accept ctx⟩ := by
  obtain ⟨kept, config, fresh, added⟩ := adds
  obtain ⟨after, contexts⟩ := accept_contexts node.sys ctx
  refine ⟨kept, config.trans agreed.config, fun other => (added other).trans ?_⟩
  rw [agreed.same other, contexts, named]
  by_cases mine : other = connId
  · simp [mine]
  · rw [Function.update_of_ne mine]
    simp [mine]

/-- What an attempt to connect does. -/
theorem accept_cases (agreed : Agreed node) (attempt : Attempt) (received : Option Greeting) :
    ∃ next, node.acceptConnections attempt received = some next ∧ Agreed next ∧ Accepted node attempt next := by
  obtain ⟨result, offers, case⟩ := offer_cases agreed.kept attempt
  unfold Node.acceptConnections
  rw [offers]
  cases case with
  | declined same => exact ⟨_, rfl, agreed.unchanged same, .refused rfl⟩
  | @offered middle connId qpParams adds params =>
    have live : middle.getConnection connId ≠ none := fun none_ => ((adds.2.2.2 connId).mp none_).1 rfl
    let offered : Offered := ⟨connId, attempt.host (attempt.fresh connId), { qpParams, connId, version := 1 }⟩
    have concludes : Concludes middle offered received (conclude middle offered received) :=
      conclude_cases adds.1 live rfl received
    simp only [Option.bind_eq_bind, Option.bind_some]
    generalize conclude middle offered received = concluded at concludes
    cases concludes with
    | refused drops => exact ⟨_, rfl, agreed.unchanged (adds.dropped drops), .refused rfl⟩
    | @established after remote came ok same =>
      have conn := (connect_programmed ok).2
      dsimp only at conn ⊢
      rw [conn]
      have fresh := (agreed.same connId).mp adds.2.2.1
      have both : AddsId connId node.manager after :=
        ⟨same.1, same.2.1.trans adds.2.1, adds.2.2.1, fun other => (same.2.2 other).trans (adds.2.2.2 other)⟩
      exact ⟨_, rfl, agreed.accepted both rfl, .established connId fresh rfl⟩

end Accepting

/-! ### What a step does -/

/-- What is seen of the requests. -/
def replies (node : Node) (event : Event) (next : Node) : List Reply :=
  match event with
  | .request connId data byteLen => KvServices.replies node.sys (.request connId data byteLen) next.sys
  | _ => []

/-- The service does not see connections come and go. -/
def serveEvent {capacity : Nat} (service : Service capacity) : Event → Service capacity × List (UInt16 × Response)
  | .request connId data byteLen => KvServices.serveEvent service (.request connId data byteLen)
  | _ => (service, [])

/-- The buffers that a new connection takes for its receives. -/
def takes (node : Node) (event : Event) (next : Node) : List Nat :=
  match event with
  | .accept .. => [node.sys.server.freeBuffers.length - next.sys.server.freeBuffers.length]
  | .request .. => []
  | .sent _ => []
  | .failed _ => []

/-- What holds of the server between two steps. -/
structure Running (all : List Buffer) {capacity : Nat} (node : Node) (service : Service capacity)
    (posted : List (UInt16 × Buffer)) (entries : List (UInt64 × Buffer)) (lost : List Buffer) : Prop where
  agreed : Agreed node
  inv : Inv all node.sys posted entries lost
  serves : ∃ width, Serves width node.sys.server.store service

section Pool
variable {all : List Buffer} {sys next : System} {posted : List (UInt16 × Buffer)} {entries : List (UInt64 × Buffer)}
  {lost : List Buffer}

/-- Receives are posted from the front of the free list, as far as it goes. -/
theorem postRecvBuffers_free {server : KVServer} (valid : ∀ buf ∈ server.freeBuffers, buf.isValid = true)
    (ctx : ConnectionContext) (count : Nat) :
    (server.postRecvBuffers ctx count).1.freeBuffers = server.freeBuffers.drop count := by
  induction count generalizing server ctx with
  | zero => rfl
  | succ count ih =>
    cases free : server.freeBuffers with
    | nil =>
      rw [postRecvBuffers_empty free, ih valid, free, List.drop_nil, List.drop_nil]
    | cons buf rest =>
      rw [free] at valid
      rw [postRecvBuffers_next free (valid buf List.mem_cons_self), List.drop_succ_cons]
      exact ih (fun one listed => valid one (List.mem_cons_of_mem _ listed)) _

/-- The buffer of a request is freed and one is posted. -/
theorem recycled_free (server : KVServer) {buf : Buffer}
    (valid : ∀ one ∈ buf :: server.freeBuffers, one.isValid = true) (ctx : ConnectionContext) :
    ((server.free buf).postRecvBuffers ctx 1).1.freeBuffers.length = server.freeBuffers.length := by
  rw [postRecvBuffers_free, KVServer.free, List.length_drop, List.length_append, List.length_singleton,
    Nat.add_sub_cancel]
  intro one listed
  rw [KVServer.free] at listed
  refine valid one (List.mem_cons.mpr ((List.mem_append.mp listed).elim .inr fun last => .inl ?_))
  exact List.mem_singleton.mp last

/-- A request costs a free buffer where it is answered. -/
theorem request_free (pool : Pool all) (inv : Inv all sys posted entries lost) {connId : UInt16} {data : Nat → UInt8}
    {byteLen : UInt32} {now : List Unit}
    (taken : KvBuffers.step sys (.request connId data byteLen) = some (next, now)) :
    (¬IsAnswered sys byteLen → next.server.freeBuffers.length = sys.server.freeBuffers.length) ∧
      (IsAnswered sys byteLen → next.server.freeBuffers.length + 1 = sys.server.freeBuffers.length) := by
  obtain ⟨done, ctx, receive, known, found⟩ := request_some taken
  obtain ⟨buf, listed, rfl⟩ := inv.receive found
  obtain ⟨same, connected⟩ := inv.contexts connId ctx known
  obtain ⟨width, consistent⟩ := inv.store
  have whole : ∀ one ∈ (KvBuffers.taken sys.server connId buf).freeBuffers, one.isValid = true ∧
    one.length = MAX_REQUEST_SIZE.toUInt64 := inv.whole pool
  have own : buf.isValid = true := pool.valid buf (inv.sound.posted_mem listed)
  have valid : ∀ one ∈ buf :: sys.server.freeBuffers, one.isValid = true :=
    List.forall_mem_cons.mpr ⟨own, fun one free => (whole one free).1⟩
  rw [request_eq inv known listed found] at done
  by_cases short : byteLen.toNat < HEADER_SIZE
  · rw [if_pos short] at done
    obtain rfl := Option.some.inj done
    exact ⟨fun _ => recycled_free (KvBuffers.taken sys.server connId buf) valid ctx,
      fun answered => absurd answered.1 (Nat.not_le_of_lt short)⟩
  rw [if_neg short] at done
  have stored : Consistent hashKey width (KvBuffers.taken sys.server connId buf).store := consistent
  obtain ⟨middle, after, processed, answered, -⟩ :=
    processRequest_cases connected whole stored data (Nat.le_of_not_lt short)
  rw [processed, Option.bind_some] at done
  obtain rfl := Option.some.inj done
  cases answered with
  | @dropped store _ empty conn =>
    exact ⟨fun _ => recycled_free { KvBuffers.taken sys.server connId buf with store := store } valid after,
      fun answered => absurd empty answered.2⟩
  | @sent store first rest written wr _ free id address signaled conn =>
    have some_ : sys.server.freeBuffers = first :: rest := free
    rw [some_] at valid
    refine ⟨fun silent => absurd ⟨Nat.le_of_not_lt short, by simp [some_]⟩ silent, fun _ => ?_⟩
    rw [some_, List.length_cons]
    refine congrArg (· + 1) (recycled_free { KvBuffers.taken sys.server connId buf with
      store := store, freeBuffers := rest, written := written
      postedSendBuffers := Function.update sys.server.postedSendBuffers _ _ } ?_ after)
    refine List.forall_mem_cons.mpr ⟨own, fun one left => valid one ?_⟩
    exact List.mem_cons_of_mem _ (List.mem_cons_of_mem _ left)

end Pool

section Steps
variable {all : List Buffer} {node next : Node} {posted : List (UInt16 × Buffer)} {entries : List (UInt64 × Buffer)}
  {lost : List Buffer} {capacity : Nat} {service : Service capacity}

/-- A connection that failed leaves its receive buffers behind. -/
theorem failed_running (running : Running all node service posted entries lost) (connId : UInt16) :
    ∃ posted' lost', Running all (node.onError connId) service posted' entries lost' ∧
      (node.onError connId).sys.server.freeBuffers = node.sys.server.freeBuffers := by
  obtain ⟨⟨kept, config, same⟩, inv, serves⟩ := running
  unfold Node.onError
  dsimp only
  cases found : node.manager.getConnection connId with
  | none =>
    have unchanged : Function.update node.sys.server.connContexts connId none = node.sys.server.connContexts :=
      Function.update_eq_self_iff.mpr ((same connId).mp found).symm
    rw [Option.isNone_none, if_pos rfl, unchanged]
    exact ⟨posted, lost, ⟨⟨kept, config, same⟩, inv, serves⟩, rfl⟩
  | some conn =>
    rw [Option.isNone_some, if_neg Bool.false_ne_true]
    let here := posted.filter (·.1 = connId)
    let others := posted.filter (·.1 ≠ connId)
    have split : (others ++ here).Perm posted := by
      have parts := List.filter_append_perm (fun item : UInt16 × Buffer => decide (item.1 ≠ connId)) posted
      simpa [here, others] using parts
    refine ⟨others, here.map (·.2) ++ lost, ⟨⟨(removeConnection_drops kept connId).1,
      (removeConnection_drops kept connId).2.1.trans config, fun other => ?_⟩,
      ⟨⟨?_, inv.sound.tracked, ?_⟩, ?_, inv.store, ?_, ?_⟩, serves⟩, rfl⟩
    · rw [(removeConnection_drops kept connId).2.2 other]
      change _ ↔ Function.update node.sys.server.connContexts connId none other = none
      by_cases mine : other = connId
      · simp [mine]
      · rw [Function.update_of_ne mine, ← same other]
        simp [mine]
    · refine List.Perm.trans ?_ inv.sound.shared
      have counts := (split.map (·.2)).count_eq
      refine List.perm_iff_count.mpr fun one => ?_
      have parts := counts one
      simp only [System.destroyed, List.map_append, List.count_append] at parts ⊢
      omega
    · exact fun item listed => inv.sound.received item (List.mem_of_mem_filter listed)
    · have left := inv.receives.filter (fun receive => decide (receive.1 ≠ connId))
      rw [List.filter_map] at left
      exact left
    · intro other ctx known
      change Function.update node.sys.server.connContexts connId none other = some ctx at known
      by_cases mine : other = connId
      · rw [mine, Function.update_self] at known
        cases known
      · rw [Function.update_of_ne mine] at known
        exact inv.contexts other ctx known
    · exact inv.numbered

/-- A buffer that leaves the free list is tracked for a response, overwritten, or taken by a new connection. -/
def Moved (node : Node) (entries : List (UInt64 × Buffer)) (event : Event) (next : Node)
    (entries' : List (UInt64 × Buffer)) : Prop :=
  ∃ extra, next.sys.server.freeBuffers.length + entries'.length + extra + (takes node event next).sum =
    node.sys.server.freeBuffers.length + entries.length

/-- An attempt to connect takes buffers only where it succeeds. -/
theorem accept_running (pool : Pool all) (running : Running all node service posted entries lost) {attempt : Attempt}
    {received : Option Greeting} (done : node.acceptConnections attempt received = some next) :
    ∃ posted' lost', Running all next service posted' entries lost' ∧
      Moved node entries (.accept attempt received) next entries := by
  obtain ⟨agreed, inv, serves⟩ := running
  obtain ⟨other, accepts, agreed', accepted⟩ := accept_cases agreed attempt received
  obtain rfl := Option.some.inj (done.symm.trans accepts)
  cases accepted with
  | refused same =>
    refine ⟨posted, lost, ⟨agreed', by rw [same]; exact inv, by rw [same]; exact serves⟩, 0, ?_⟩
    rw [takes, same, List.sum_singleton]
    omega
  | established connId fresh accepts =>
    let ctx := established connId {} attempt.sendAnswer attempt.recvAnswer
    obtain ⟨posted', gone, inv', -⟩ := KvBuffers.accept_cases pool inv ctx rfl
    have free : next.sys.server.freeBuffers = node.sys.server.freeBuffers.drop 32 := by
      rw [accepts]
      exact postRecvBuffers_free (fun buf listed => (inv.whole pool buf listed).1) ctx 32
    refine ⟨posted', gone ++ lost, ⟨agreed', by rw [accepts]; exact inv', ?_⟩, 0, ?_⟩
    · rw [accepts, (accept_quiet node.sys ctx).store]
      exact serves
    · rw [takes, List.sum_singleton, free, List.length_drop]
      omega

/-- A request takes a buffer for its response. -/
theorem request_running (pool : Pool all) (running : Running all node service posted entries lost) {sys : System}
    {connId : UInt16} {data : Nat → UInt8} {byteLen : UInt32} {now : List Unit}
    (taken : KvBuffers.step node.sys (.request connId data byteLen) = some (sys, now)) :
    ∃ posted' entries' lost', Running all { node with sys }
        (KvServices.serveEvent service (.request connId data byteLen)).1 posted' entries' lost' ∧
      List.Forall₂ Agrees (KvServices.replies node.sys (.request connId data byteLen) sys)
        (KvServices.serveEvent service (.request connId data byteLen)).2 ∧
      Moved node entries (.request connId data byteLen) { node with sys } entries' := by
  obtain ⟨agreed, inv, width, serves⟩ := running
  obtain ⟨agrees, kept⟩ := step_serves pool inv serves taken
  obtain ⟨silent, answers⟩ := request_free pool inv taken
  obtain ⟨store, replied, -⟩ := reply_serves serves data byteLen.toNat
  obtain ⟨ctx, known, view⟩ := request_view pool inv replied taken
  have contexts : ∃ after,
      sys.server.connContexts = Function.update node.sys.server.connContexts connId (some after) := by
    cases view with
    | short few after handled => exact ⟨after, handled.contexts⟩
    | dropped long free response store replies after handled => exact ⟨after, handled.contexts⟩
    | answered long buf rest free response store replies after handled => exact ⟨after, handled.contexts⟩
  have agreed' : Agreed { node with sys } := by
    obtain ⟨after, contexts⟩ := contexts
    refine ⟨agreed.kept, agreed.config, fun other => (agreed.same other).trans ?_⟩
    rw [contexts]
    by_cases mine : other = connId
    · simp [mine, known]
    · rw [Function.update_of_ne mine]
  obtain ⟨posted', entries', lost', inv', did⟩ := step_cases pool inv taken
  refine ⟨posted', entries', lost', ⟨agreed', inv', kept⟩, agrees, ?_⟩
  cases did with
  | request same case =>
    cases case with
    | unanswered none_ sends tracked same gone grown kept =>
      refine ⟨0, ?_⟩
      rw [takes, List.sum_nil, same]
      exact congrArg (· + entries.length) (silent none_)
    | answered buf wr answered responded added gone grown kept =>
      have tracked := inv'.sound.tracked
      rw [responded.tracked] at tracked
      have counted := inv.sound.tracked.length_update tracked
      have fewer := answers answered
      refine ⟨(node.sys.server.postedSendBuffers (sendId connId (requestOf ctx data))).toList.length, ?_⟩
      obtain rfl := Option.some.inj (known.symm.trans same)
      rw [takes, List.sum_nil, Nat.add_zero, Nat.add_assoc, counted, ← fewer, Option.toList_some, List.length_singleton]
      dsimp only
      omega

/-- The completion of a response brings its buffer back. -/
theorem sent_running (running : Running all node service posted entries lost) {sys : System}
    {index : Nat} (done : node.sys.sent index = some sys) :
    ∃ entries', Running all { node with sys } service posted entries' lost ∧
      Moved node entries (.sent index) { node with sys } entries' := by
  obtain ⟨agreed, inv, serves⟩ := running
  obtain ⟨quiet, contexts⟩ := sent_handled inv done
  have found : ∃ send, node.sys.sends[index]? = some send := by
    rw [System.sent, Option.bind_eq_bind, Option.bind_eq_some_iff] at done
    exact done.imp fun _ found => found.1
  obtain ⟨send, found⟩ := found
  obtain ⟨other, entries', did, inv', -, case⟩ := sent_cases inv found
  obtain rfl := Option.some.inj (done.symm.trans did)
  refine ⟨entries', ⟨⟨agreed.kept, agreed.config, fun connId => ?_⟩, inv', by rw [quiet.store]; exact serves⟩, 0, ?_⟩
  · rw [contexts]
    exact agreed.same connId
  rw [takes, List.sum_nil, Nat.add_zero, Nat.add_zero]
  cases case with
  | silent unsignaled server same => rw [server, same]
  | untracked signaled missing server same => rw [server, same]
  | freed buf signaled held free erased same =>
    have listed := inv.sound.tracked.entry.mp held
    have some_ := List.length_pos_of_mem listed
    rw [free, same, List.length_erase_of_mem listed, List.length_append, List.length_singleton]
    omega

/-- What a step does: the requests are those of the service, and no buffer goes astray. -/
theorem step_running (pool : Pool all) (running : Running all node service posted entries lost) {event : Event}
    {now : List Unit} (taken : step node event = some (next, now)) :
    ∃ posted' entries' lost', Running all next (serveEvent service event).1 posted' entries' lost' ∧
      List.Forall₂ Agrees (replies node event next) (serveEvent service event).2 ∧
      Moved node entries event next entries' := by
  cases event with
  | accept attempt received =>
    obtain ⟨other, done, same⟩ := Option.map_eq_some_iff.mp taken
    obtain ⟨rfl, -⟩ := Prod.mk.inj same
    obtain ⟨posted', lost', running', moved⟩ := accept_running pool running done
    exact ⟨posted', entries, lost', running', .nil, moved⟩
  | request connId data byteLen =>
    obtain ⟨sys, done, same⟩ := Option.map_eq_some_iff.mp taken
    obtain ⟨rfl, -⟩ := Prod.mk.inj same
    have stepped : KvBuffers.step node.sys (.request connId data byteLen) = some (sys, []) := by
      rw [KvBuffers.step, done]
      rfl
    exact request_running pool running stepped
  | sent index =>
    obtain ⟨sys, done, same⟩ := Option.map_eq_some_iff.mp taken
    obtain ⟨rfl, -⟩ := Prod.mk.inj same
    obtain ⟨entries', running', moved⟩ := sent_running running done
    exact ⟨posted, entries', lost, running', .nil, moved⟩
  | failed connId =>
    obtain ⟨rfl, -⟩ := Prod.mk.inj (Option.some.inj taken)
    obtain ⟨posted', lost', running', free⟩ := failed_running running connId
    refine ⟨posted', entries, lost', running', .nil, 0, ?_⟩
    rw [takes, List.sum_nil, free]
    rfl

/-- The server runs, whatever map it serves. -/
def Serving (all : List Buffer) (node : Node) : Prop :=
  ∃ service : Service serverSlots, ∃ posted entries lost, Running all node service posted entries lost

theorem Serving.step (pool : Pool all) (serving : Serving all node) {event : Event} {now : List Unit}
    (taken : step node event = some (next, now)) : Serving all next := by
  obtain ⟨service, posted, entries, lost, running⟩ := serving
  obtain ⟨posted', entries', lost', running', -⟩ := step_running pool running taken
  exact ⟨_, posted', entries', lost', running'⟩

/-- The pool is empty and no response holds a buffer. -/
def Drained (all : List Buffer) {capacity : Nat} (node : Node) (service : Service capacity) : Prop :=
  (∃ posted lost, Running all node service posted [] lost) ∧ node.sys.server.freeBuffers = []

theorem step_drained (pool : Pool all) (drained : Drained all node service) {event : Event} {now : List Unit}
    (taken : step node event = some (next, now)) :
    Drained all next (serveEvent service event).1 ∧ (replies node event next).flatMap Reply.posts = [] := by
  obtain ⟨⟨posted, lost, running⟩, empty⟩ := drained
  obtain ⟨posted', entries', lost', running', agrees, extra, moved⟩ := step_running pool running taken
  rw [empty, List.length_nil, List.length_nil] at moved
  have none_ : entries' = [] := List.length_eq_zero_iff.mp (by omega)
  subst none_
  refine ⟨⟨⟨posted', lost', running'⟩, List.length_eq_zero_iff.mp (by omega)⟩, ?_⟩
  cases event with
  | accept attempt received => rfl
  | sent index => rfl
  | failed connId => rfl
  | request connId data byteLen =>
    simp only [replies, KvServices.replies, serveEvent, KvServices.serveEvent] at agrees ⊢
    by_cases short : byteLen.toNat < HEADER_SIZE
    · rw [if_pos short]
      rfl
    · rw [if_neg short, if_neg short] at agrees
      obtain ⟨⟨-, silent⟩, -⟩ := List.forall₂_cons.mp agrees
      rw [if_pos (List.length_eq_zero_iff.mpr empty)] at silent
      rw [if_neg short, List.flatMap_singleton]
      exact silent

end Steps

/-! ### Runs -/

theorem count_mul_le_sum (numbers : List Nat) (n : Nat) : numbers.count n * n ≤ numbers.sum := by
  induction numbers with
  | nil => simp
  | cons first rest ih =>
    rw [List.count_cons, List.sum_cons, Nat.add_mul]
    by_cases same : first = n
    · simp only [same, beq_self_eq_true, if_true, Nat.one_mul]
      omega
    · simp only [beq_eq_false_iff_ne.mpr same, Bool.false_eq_true, if_false, Nat.zero_mul]
      omega

/-- A device with which nothing fails. -/
def goodAttempt : Attempt where
  createAnswer := none
  qpNum := 17
  sendAnswer := fun _ => none
  recvAnswer := fun _ => none
  modifyAnswer := fun _ => none
  device := ⟨fun _ => .ok ⟨1, 4⟩, fun _ _ => .ok (Vector.replicate 16 0)⟩

/-- A peer that hangs up is followed by one that stores a value, whose connection fails, and one that reads it. -/
def failingEvents : List Event :=
  [.accept goodAttempt none, .accept goodAttempt (some {}), .request 0 storesFive 4112, .failed 0,
    .accept goodAttempt (some {}), .request 0 getsFive 16]

def nodeRun (events : List Event) : Option (KVStore × Node × List Unit) :=
  match KVStore.new.initializeWith {} (some fun _ => 0) with
  | some (true, store) => (run step (.new store (poolBuffers 65536 7)) events).map (store, ·)
  | _ => none

theorem nodeRun_some {events : List Event} (defined : (nodeRun events).isSome = true) :
    ∃ store last outputs, KVStore.new.initializeWith {} (some fun _ => 0) = some (true, store) ∧
      run step (.new store (poolBuffers 65536 7)) events = some (last, outputs) := by
  obtain ⟨⟨store, last, outputs⟩, ran⟩ := Option.isSome_iff_exists.mp defined
  unfold nodeRun at ran
  split at ran
  · rename_i made initialized
    obtain ⟨result, ran, same⟩ := Option.map_eq_some_iff.mp ran
    obtain ⟨rfl, rfl⟩ := Prod.mk.inj same
    exact ⟨_, _, _, initialized, ran⟩
  · cases ran

theorem failingEvents_run : (nodeRun failingEvents).isSome = true := by decide +kernel

section Runs
variable {base : UInt64} {lkey : UInt32} {storage : Nat → UInt8} {store : KVStore} {events : List Event} {last : Node}

theorem new_running (all : List Buffer) {width capacity : Nat} {service : Service capacity}
    (serves : Serves width store service) :
    Running all (.new store all) service [] [] [] :=
  ⟨⟨create_kept _, rfl, fun _ => iff_of_true (ite_self _) rfl⟩, new_inv serves.consistent all, width, serves⟩

/-- In every run in which attempts to connect fail at any point and connections at any time, the requests are answered
    as those of one map. -/
theorem served_through_failures (null : base ≠ 0) (fits : base.toNat + 512 * MAX_REQUEST_SIZE ≤ 2 ^ 64)
    (initialized : KVStore.new.initializeWith {} (some storage) = some (true, store)) {seen : List Reply}
    (ran : run (observe step replies) (.new store (poolBuffers base lkey)) events = some (last, seen)) :
    ∃ final answers, run (fun service event => some (serveEvent service event))
        (.empty UInt64 (List UInt8) serverSlots) events = some (final, answers) ∧
      List.Forall₂ Agrees seen answers ∧ ∀ key, final.find key = contentsOf hashKey last.sys.server.store key := by
  have pool := poolBuffers_pool lkey null fits
  obtain ⟨width, serves⟩ := initialize_serves initialized
  have follows : ∀ node (service : Service serverSlots) event next now,
      (∃ posted entries lost, Running (poolBuffers base lkey) node service posted entries lost) →
      observe step replies node event = some (next, now) →
        List.Forall₂ Agrees now (serveEvent service event).2 ∧
          ∃ posted entries lost,
            Running (poolBuffers base lkey) next (serveEvent service event).1 posted entries lost := by
    rintro node service event next now ⟨posted, entries, lost, running⟩ stepped
    obtain ⟨⟨now, taken⟩, rfl⟩ := observe_some.mp stepped
    obtain ⟨posted', entries', lost', running', agrees, -⟩ := step_running pool running taken
    exact ⟨agrees, posted', entries', lost', running'⟩
  obtain ⟨final, answers, followed, agree, _, _, _, running⟩ :=
    matched_run (observe step replies) follows ⟨_, _, _, new_running (poolBuffers base lkey) serves⟩ ran
  obtain ⟨_, ends⟩ := running.serves
  exact ⟨final, answers, followed, agree, ends.finds⟩

theorem failed_connection_served : ∃ store last seen,
    run (observe step replies) (.new store (poolBuffers 65536 7)) failingEvents = some (last, seen) ∧
    ∃ final answers, run (fun service event => some (serveEvent service event))
        (.empty UInt64 (List UInt8) serverSlots) failingEvents = some (final, answers) ∧
      List.Forall₂ Agrees seen answers ∧ ∀ key, final.find key = contentsOf hashKey last.sys.server.store key := by
  obtain ⟨store, last, outputs, initialized, ran⟩ := nodeRun_some failingEvents_run
  obtain ⟨seen, ran⟩ := (run_observe replies).mpr ⟨outputs, ran⟩
  exact ⟨store, last, seen, ran, served_through_failures (by decide) (by decide) initialized ran⟩

/-- In every run the buffers that accepted connections took, also those that have failed since, are at most the 512 of
    the pool, so at most 16 connections ever got their 32; and once all are taken no request is answered any more. -/
theorem receives_never_return (null : base ≠ 0) (fits : base.toNat + 512 * MAX_REQUEST_SIZE ≤ 2 ^ 64)
    (initialized : KVStore.new.initializeWith {} (some storage) = some (true, store)) {taken : List Nat}
    (ran : run (observe step takes) (.new store (poolBuffers base lkey)) events = some (last, taken)) :
    taken.sum ≤ 512 ∧ taken.count 32 ≤ 16 ∧
      (taken.sum = 512 → ∀ later final seen, run (observe step replies) last later = some (final, seen) →
        seen.flatMap Reply.posts = []) := by
  have pool := poolBuffers_pool lkey null fits
  obtain ⟨width, serves⟩ := initialize_serves initialized
  let invariant (node : Node) (taken : List Nat) : Prop := ∃ service : Service serverSlots, ∃ posted entries lost extra,
    Running (poolBuffers base lkey) node service posted entries lost ∧
      node.sys.server.freeBuffers.length + entries.length + extra + taken.sum = 512
  have preserves : ∀ node before event next now, invariant node before → True →
      observe step takes node event = some (next, now) → invariant next (before ++ now) := by
    rintro node before event next _ ⟨service, posted, entries, lost, extra, running, counted⟩ - stepped
    obtain ⟨⟨now, taken⟩, rfl⟩ := observe_some.mp stepped
    obtain ⟨posted', entries', lost', running', -, more, moved⟩ := step_running pool running taken
    refine ⟨_, posted', entries', lost', extra + more, running', ?_⟩
    rw [List.sum_append]
    omega
  have start : invariant (.new store (poolBuffers base lkey)) [] :=
    ⟨_, [], [], [], 0, new_running _ serves, by simp [Node.new, System.new, poolBuffers]⟩
  obtain ⟨service, posted, entries, lost, extra, running, counted⟩ :=
    history_of_run preserves start (meets_of_forall fun _ _ => trivial) ran
  rw [List.nil_append] at counted
  have few : taken.sum ≤ 512 := by omega
  refine ⟨few, ?_, fun all later final seen goes => ?_⟩
  · have some_ := count_mul_le_sum taken 32
    omega
  · have none_ : entries = [] := List.length_eq_zero_iff.mp (by omega)
    subst none_
    have silent : ∀ node before event next now,
        (∃ service : Service serverSlots, Drained (poolBuffers base lkey) node service) ∧
          before.flatMap Reply.posts = [] → True → observe step replies node event = some (next, now) →
        (∃ service : Service serverSlots, Drained (poolBuffers base lkey) next service) ∧
          (before ++ now).flatMap Reply.posts = [] := by
      rintro node before event next _ ⟨⟨service, drained⟩, none_⟩ - stepped
      obtain ⟨⟨now, taken⟩, rfl⟩ := observe_some.mp stepped
      obtain ⟨drained', nothing⟩ := step_drained pool drained taken
      exact ⟨⟨_, drained'⟩, by rw [List.flatMap_append, none_, nothing, List.nil_append]⟩
    have drained : Drained (poolBuffers base lkey) last service :=
      ⟨⟨posted, lost, running⟩, List.length_eq_zero_iff.mp (by omega)⟩
    have nothing : ([] : List Reply).flatMap Reply.posts = [] := rfl
    have quiet := history_of_run silent ⟨⟨service, drained⟩, nothing⟩ (meets_of_forall fun _ _ => trivial) goes
    exact quiet.2

theorem failed_receives_lost : ∃ store last taken,
    run (observe step takes) (.new store (poolBuffers 65536 7)) failingEvents = some (last, taken) ∧
    taken.sum ≤ 512 ∧ taken.count 32 ≤ 16 ∧
      (taken.sum = 512 → ∀ later final seen, run (observe step replies) last later = some (final, seen) →
        seen.flatMap Reply.posts = []) := by
  obtain ⟨store, last, outputs, initialized, ran⟩ := nodeRun_some failingEvents_run
  obtain ⟨taken, ran⟩ := (run_observe takes).mpr ⟨outputs, ran⟩
  exact ⟨store, last, taken, ran, receives_never_return (by decide) (by decide) initialized ran⟩

/-- Sixteen connections that fail one after the other, all under id 0, take all the buffers. -/
example : (run (observe step takes) (.new .new (poolBuffers 65536 7))
    (List.replicate 16 [.accept goodAttempt (some {}), .failed 0]).flatten).map (·.2) =
    some (List.replicate 16 32) := by
  decide +kernel

/-- The attempt gives an id that was not in use to a connection. -/
def Establishes (node : Node) (attempt : Attempt) (received : Option Greeting) : Prop :=
  ∃ next connId ctx, node.acceptConnections attempt received = some next ∧
    node.sys.server.connContexts connId = none ∧ next.sys.server.connContexts connId = some ctx

/-- With an id left, an attempt with which nothing fails goes through. -/
theorem cooperates_establishes {node : Node} (agreed : Agreed node) {attempt : Attempt}
    (cooperates : attempt.Cooperates) (some_ : node.manager.freeConnIds ≠ []) (remote : Greeting) : Establishes node attempt (some remote) := by
  obtain ⟨rest, connId, stack⟩ := (List.eq_nil_or_concat node.manager.freeConnIds).resolve_left some_
  rw [List.concat_eq_append] at stack
  obtain ⟨middle, offered, offers, host⟩ := cooperates.offers agreed.kept stack
  obtain ⟨result, offers', case⟩ := offer_cases agreed.kept attempt
  obtain rfl := Option.some.inj (offers.symm.trans offers')
  cases case with
  | @offered _ connId qpParams adds params =>
    have ok := cooperates.connects (attempt.fresh connId) remote.qpParams
    let conn := ((attempt.host (attempt.fresh connId)).connect remote.qpParams).2.link.connection
    have named : conn.connId = connId := congrArg Connection.connId (connect_programmed ok).2
    obtain ⟨after, contexts⟩ := accept_contexts node.sys { conn }
    refine ⟨⟨middle.update connId conn, node.sys.accept { conn }⟩, connId, after, ?_,
      (agreed.same connId).mp adds.2.2.1, ?_⟩
    · unfold Node.acceptConnections
      rw [offers]
      simp only [Option.bind_eq_bind, Option.bind_some, conclude, ok, Bool.not_true, Bool.false_eq_true, if_false]
      rfl
    · rw [contexts]
      dsimp only
      rw [named, Function.update_self]

/-- In every run the ids of the connections that the server has contexts of are those of the manager's connections, and
    an attempt that meets with no failure goes through exactly while fewer than 256 are in use, however many attempts
    and connections have failed before. -/
theorem ids_recovered {outputs : List Unit} (null : base ≠ 0) (fits : base.toNat + 512 * MAX_REQUEST_SIZE ≤ 2 ^ 64)
    (initialized : KVStore.new.initializeWith {} (some storage) = some (true, store))
    (ran : run step (.new store (poolBuffers base lkey)) events = some (last, outputs)) :
    (∀ connId, last.sys.server.connContexts connId ≠ none ↔ connId ∈ (live last.manager).map Connection.connId) ∧
      ∀ attempt remote, attempt.Cooperates →
        (Establishes last attempt (some remote) ↔ (live last.manager).length < 256) := by
  have pool := poolBuffers_pool lkey null fits
  obtain ⟨width, serves⟩ := initialize_serves initialized
  have preserves : ∀ node event next now, Serving (poolBuffers base lkey) node → True →
      step node event = some (next, now) → Serving (poolBuffers base lkey) next :=
    fun _ _ _ _ serving _ taken => serving.step pool taken
  obtain ⟨service, posted, entries, lost, running⟩ :=
    invariant_of_run preserves ⟨_, _, _, _, new_running _ serves⟩ (meets_of_forall fun _ _ => trivial) ran
  obtain ⟨kept, config, same⟩ := running.agreed
  have size : last.manager.connections.size = 256 := by
    rw [kept.size, config]
    rfl
  refine ⟨fun connId => ?_, fun attempt remote cooperates => ?_⟩
  · rw [ne_eq, ← same connId, ← ne_eq, Option.ne_none_iff_exists', List.mem_map]
    constructor
    · rintro ⟨conn, found⟩
      obtain ⟨inside, stored⟩ := getConnection_some.mp found
      exact ⟨conn, mem_values.mpr ⟨_, inside, stored⟩, UInt16.toNat_inj.mp (kept.named _ _ inside stored)⟩
    · rintro ⟨conn, listed, rfl⟩
      obtain ⟨index, inside, stored⟩ := mem_values.mp listed
      have named := kept.named index conn inside stored
      exact ⟨conn, getConnection_some.mpr (by rw [named]; exact ⟨inside, stored⟩)⟩
  · have full := live_full kept
    have within : (live last.manager).length ≤ last.manager.connections.size := by
      have whole := kept.partition.length_eq
      rw [List.length_map, List.length_append, List.length_map, List.length_range] at whole
      omega
    rw [size] at full within
    constructor
    · rintro ⟨next, connId, ctx, accepts, fresh, known⟩
      by_contra none_
      have empty := full.mp (Nat.le_antisymm within (Nat.le_of_not_lt none_))
      unfold Node.acceptConnections offer at accepts
      rw [createConnection_exhausted empty] at accepts
      obtain rfl := Option.some.inj accepts
      rw [fresh] at known
      cases known
    · intro some_
      exact cooperates_establishes running.agreed cooperates (fun empty => Nat.ne_of_lt some_ (full.mpr empty)) remote

theorem failed_id_recovered : ∃ store last outputs,
    run step (.new store (poolBuffers 65536 7)) failingEvents = some (last, outputs) ∧
    (∀ connId, last.sys.server.connContexts connId ≠ none ↔ connId ∈ (live last.manager).map Connection.connId) ∧
      ∀ attempt remote, attempt.Cooperates →
        (Establishes last attempt (some remote) ↔ (live last.manager).length < 256) := by
  obtain ⟨store, last, outputs, initialized, ran⟩ := nodeRun_some failingEvents_run
  exact ⟨store, last, outputs, ran, ids_recovered (by decide) (by decide) initialized ran⟩

end Runs

end Rdma.KvFailures
