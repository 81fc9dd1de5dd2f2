import Rdma.Dispatchers
import Rdma.KvFailures

/-!
The event loop of the key-value server (`Run`): `Reactor::Poll` takes a batch of
each completion queue in turn and hands it to the dispatcher, which looks up the
connection in its caches and calls `HandleCompletion`, or `OnError` for an error.
Between the arrival of a message and its turn in a batch anything may happen. Yet
dispatching a completion does what the server does that handles each completion
at once (`dispatch_matched`).
-/
namespace Rdma.KvLoops
open Rdma.Types Rdma.Verbs Rdma.WrIds Rdma.Runs Rdma.ConnectionManagers
open Rdma.Dispatchers (CompletionDispatcher Registry Refines Invocation passive)
open Rdma.HandshakeMessages (Greeting)
open Rdma.KvAcceptances
open Rdma.KvStores Rdma.KvServers Rdma.Observations Rdma.KvServices
open Rdma.KvBuffers hiding step Event
open Rdma.KvFailures (Node Agreed Serving)

/-! ### Completions -/

/-- A message has come into a posted buffer, a signaled send is done, or a work request has failed. -/
inductive Cqe
  | received (connId : UInt16) (receive : RecvWr) (data : Nat → UInt8) (byteLen : UInt32)
  | sent (send : InFlight)
  | failed (wc : Wc) (error : wc.status ≠ 0)

def Cqe.wc : Cqe → Wc
  | .received _ receive _ _ => { wrId := receive.wrId }
  | .sent send => { wrId := send.wr.wrId }
  | .failed wc _ => wc

def Cqe.byteLen : Cqe → UInt32
  | .received _ _ _ byteLen => byteLen
  | _ => 0

def Cqe.data : Cqe → Nat → UInt8
  | .received _ _ data _ => data
  | _ => fun _ => 0

/-! ### The loop -/

/-- What the server gives the dispatcher: its own address, `HandleCompletion` and `OnError`. -/
def self : Nat := 1
def completionHandler : Nat := 1
def errorHandler : Nat := 2

/-- The server, the dispatcher and the two completion queues. -/
structure Loop where
  node : Node
  dispatcher : CompletionDispatcher
  sendCq : List Cqe
  recvCq : List Cqe

/-- `AcceptConnections`, with the registration of a connection that is established. -/
def Loop.accept (loop : Loop) (attempt : Attempt) (received : Option Greeting) : Option Loop := do
  let (manager, offered) ← offer loop.node.manager attempt
  match offered with
  | none => some { loop with node := { loop.node with manager } }
  | some offered =>
    match conclude manager offered received with
    | (manager, none) => some { loop with node := { loop.node with manager } }
    | (manager, some host) =>
      some { loop with
        node := ⟨manager, loop.node.sys.accept { conn := host.link.connection }⟩
        dispatcher := loop.dispatcher.registerConnection offered.connId self (some completionHandler) }

/-- What the devices accept while a completion of the connection is handled. -/
def posting (sys : System) (connId : UInt16) (data : Nat → UInt8) (server : KVServer) : System :=
  match sys.server.connContexts connId, server.connContexts connId with
  | some ctx, some after => {
    server
    sends := sys.sends ++ (newSends ctx after).map fun wr => ⟨connId, wr, requestOf ctx data⟩
    receives := sys.receives ++ (newReceives ctx after).map (connId, ·) }
  | _, _ => { sys with server }

/-- The call of a handler; there are no others than the server's. -/
def Loop.invoke (loop : Loop) (cqe : Cqe) : Invocation → Option Loop
  | .completion handler ctx wc =>
    if handler = completionHandler ∧ ctx = self then do
      let completion : Completion := { wrId := wc.wrId, status := wc.status, byteLen := cqe.byteLen }
      let server ← loop.node.sys.server.handleCompletion completion cqe.data
      some { loop with node := { loop.node with sys := posting loop.node.sys (getConnId wc.wrId) cqe.data server } }
    else none
  | .error handler ctx connId _ =>
    if handler = errorHandler ∧ ctx = self then some { loop with node := loop.node.onError connId } else none

def Loop.dispatch (loop : Loop) (cqe : Cqe) : Option Loop := do
  let (dispatcher, invocations) ← loop.dispatcher.dispatch passive cqe.wc
  invocations.foldlM (fun loop => loop.invoke cqe) { loop with dispatcher }

/-- What is seen of a request; one to a connection that has failed is dropped. -/
def Loop.seen (loop : Loop) (cqe : Cqe) (next : Loop) : List Reply :=
  match cqe with
  | .received connId _ data byteLen =>
    if (loop.node.sys.server.connContexts connId).isSome then
      KvServices.replies loop.node.sys (.request connId data byteLen) next.node.sys
    else []
  | _ => []

/-- `DispatchBatchSimple` -/
def Loop.dispatchBatch (loop : Loop) : List Cqe → Option (Loop × List Reply)
  | [] => some (loop, [])
  | cqe :: rest => do
    let next ← loop.dispatch cqe
    let (last, later) ← next.dispatchBatch rest
    some (last, loop.seen cqe next ++ later)

/-- `Reactor::Poll`, over the two queues of the server. -/
def Loop.poll (loop : Loop) (batchSize : Nat) : Option (Loop × List Reply) := do
  let (loop, sends) ←
    { loop with sendCq := loop.sendCq.drop batchSize }.dispatchBatch (loop.sendCq.take batchSize)
  let (loop, requests) ←
    { loop with recvCq := loop.recvCq.drop batchSize }.dispatchBatch (loop.recvCq.take batchSize)
  some (loop, sends ++ requests)

/-- What comes from outside, and the polls. A message arrives in the connection's first posted buffer. The completions
    of a connection that is gone may be removed from the queues. -/
inductive Event
  | accept (attempt : Attempt) (received : Option Greeting)
  | arrive (connId : UInt16) (data : Nat → UInt8) (byteLen : UInt32)
  | complete (index : Nat)
  | fail (onSendCq : Bool) (wc : Wc) (error : wc.status ≠ 0)
  | purge (connId : UInt16)
  | poll (batchSize : Nat)

def Loop.arrive (loop : Loop) (connId : UInt16) (data : Nat → UInt8) (byteLen : UInt32) : Option Loop := do
  let receive ← loop.node.sys.receives.find? (·.1 = connId)
  some { loop with
    node := { loop.node with sys := { loop.node.sys with receives := loop.node.sys.receives.erase receive } }
    recvCq := loop.recvCq ++ [.received connId receive.2 data byteLen] }

def Loop.complete (loop : Loop) (index : Nat) : Option Loop := do
  let send ← loop.node.sys.sends[index]?
  some { loop with
    node := { loop.node with sys := { loop.node.sys with sends := loop.node.sys.sends.eraseIdx index } }
    sendCq := if send.wr.signaled then loop.sendCq ++ [.sent send] else loop.sendCq }

def Loop.fail (loop : Loop) (onSendCq : Bool) (cqe : Cqe) : Loop :=
  if onSendCq then { loop with sendCq := loop.sendCq ++ [cqe] } else { loop with recvCq := loop.recvCq ++ [cqe] }

def Loop.purge (loop : Loop) (connId : UInt16) : Option Loop :=
  if (loop.node.sys.server.connContexts connId).isSome then none
  else some { loop with
    sendCq := loop.sendCq.filter (getConnId ·.wc.wrId ≠ connId)
    recvCq := loop.recvCq.filter (getConnId ·.wc.wrId ≠ connId) }

def step (loop : Loop) : Event → Option (Loop × List Reply)
  | .accept attempt received => (loop.accept attempt received).map (·, [])
  | .arrive connId data byteLen => (loop.arrive connId data byteLen).map (·, [])
  | .complete index => (loop.complete index).map (·, [])
  | .fail onSendCq wc error => some (loop.fail onSendCq (.failed wc error), [])
  | .purge connId => (loop.purge connId).map (·, [])
  | .poll batchSize => loop.poll batchSize

/-- The server after `Initialize`. -/
def Loop.new (store : KVStore) (all : List Buffer) : Loop :=
  ⟨.new store all, CompletionDispatcher.create.setErrorHandler self (some errorHandler), [], []⟩

/-- No connection is established under the id of one whose completions are still queued. -/
def Clean (loop : Loop) (event : Event) : Prop :=
  ∀ next now, step loop event = some (next, now) → ∀ cqe ∈ loop.recvCq,
    loop.node.sys.server.connContexts (getConnId cqe.wc.wrId) = none →
      next.node.sys.server.connContexts (getConnId cqe.wc.wrId) = none

/-! ### The dispatcher -/

/-- The connections that were ever registered, all with the same handler. -/
def registry (registered : List UInt16) : Registry where
  handlers connId := if connId ∈ registered then some (self, completionHandler) else none
  errorHandler := some (self, errorHandler)

section Dispatching
variable {dispatcher : CompletionDispatcher} {registered : List UInt16} {connId : UInt16}

theorem registry_cons (registered : List UInt16) (connId : UInt16) :
    Function.update (registry registered).handlers connId (some (self, completionHandler)) =
      (registry (connId :: registered)).handlers := by
  funext other
  by_cases same : other = connId
  · simp [registry, same]
  · simp [registry, same]

/-- Registering a connection once more leaves no copy with another handler. -/
theorem register_refines (refines : Refines dispatcher (registry registered)) (named : connId ≠ 0xFFFF) :
    Refines (dispatcher.registerConnection connId self (some completionHandler)) (registry (connId :: registered)) := by
  by_cases known : connId ∈ registered
  · have holds : (registry registered).handlers connId = some (self, completionHandler) := by simp [registry, known]
    have same : registry (connId :: registered) = registry registered := by
      unfold registry
      simp only [List.mem_cons, Registry.mk.injEq, and_true]
      funext other
      by_cases mine : other = connId
      · simp [mine, known]
      · simp [mine]
    rw [same]
    have index := Dispatchers.index_update refines connId ⟨self, some completionHandler⟩
    have unchanged : Function.update (registry registered).handlers connId (some (self, completionHandler)) =
        (registry registered).handlers := Function.update_eq_self_iff.mpr holds.symm
    have placed : Refines (dispatcher.putIndex connId ⟨self, some completionHandler⟩) (registry registered) :=
      ⟨fun other => (index other).trans (congrFun unchanged other), refines.l0, refines.hot, refines.error⟩
    exact Dispatchers.insertHotCache_refines (Dispatchers.fillL0_refines placed _ holds) holds
  · have missing : (registry registered).handlers connId = none := by simp [registry, known]
    have absent {Cell : Type} {Place : Type} {key : Cell → UInt16} {value : Cell → Option (Nat × Nat)}
        {cells : Place → Cell} {window : UInt16 → List Place}
        (agrees : Caches.Agrees 0xFFFF window key value cells (registry registered).handlers) :
        ∀ place ∈ window connId, key (cells place) ≠ connId := by
      intro place member holds
      have some_ := (agrees connId named place member holds).1
      rw [missing] at some_
      cases some_
    have clear : Dispatchers.Shadowless dispatcher (.register connId self completionHandler) := by
      constructor
      · exact List.pairwise_of_forall_mem_list fun _ _ second there _ => absent refines.l0 second there
      · exact List.pairwise_of_forall_mem_list fun _ _ second there _ => absent refines.hot second there
    have same : ((registry registered).step (.register connId self completionHandler)).1 =
        registry (connId :: registered) := congrArg (Registry.mk · _) (registry_cons registered connId)
    rw [← same]
    exact Dispatchers.register_refines refines clear

/-- A completion with an error goes to `OnError`. -/
theorem dispatch_failed (refines : Refines dispatcher (registry registered)) {wc : Wc} (failed : wc.status ≠ 0) :
    ∃ next, dispatcher.dispatch passive wc = some (next, [.error errorHandler self (getConnId wc.wrId) wc.status]) ∧
      Refines next (registry registered) := by
  have answer : (registry registered).answer wc = [.error errorHandler self (getConnId wc.wrId) wc.status] := by
    unfold Registry.answer
    rw [if_pos failed]
    rfl
  rw [← answer]
  refine Dispatchers.error_refines refines failed ?_ ?_
  · intro invocation _
    exact refines
  · intro _
    rfl

/-- A successful completion of a connection that was registered goes to `HandleCompletion`, wherever the dispatcher
    finds the connection. -/
theorem dispatch_known (refines : Refines dispatcher (registry registered)) (named : 0xFFFF ∉ registered) {wc : Wc}
    (success : wc.status = 0) (known : getConnId wc.wrId ∈ registered) :
    ∃ next, dispatcher.dispatch passive wc = some (next, [.completion completionHandler self wc]) ∧
      Refines next (registry registered) := by
  have issued : getConnId wc.wrId ≠ 0xFFFF := by
    intro hole
    rw [hole] at known
    exact named known
  have answer : (registry registered).answer wc = [.completion completionHandler self wc] := by
    unfold Registry.answer
    rw [if_neg (not_not_intro success)]
    exact Dispatchers.invoke_known (if_pos known) wc
  rw [← answer]
  exact Dispatchers.dispatch_refines refines issued

end Dispatching

/-! ### What is queued -/

/-- The sends whose completions are queued. -/
def queuedSends (queued : List Cqe) : List InFlight :=
  queued.filterMap fun
    | .sent send => some send
    | _ => none

/-- The buffers in which messages of the connection are queued, in their order. -/
def arrivals (connId : UInt16) (queued : List Cqe) : List (UInt16 × RecvWr) :=
  queued.filterMap fun
    | .received one receive _ _ => if one = connId then some (one, receive) else none
    | _ => none

abbrev Message := (Nat → UInt8) × UInt32

/-- The messages of the connection that are queued, in their order. -/
def messages (connId : UInt16) (queued : List Cqe) : List Message :=
  queued.filterMap fun
    | .received one _ data byteLen => if one = connId then some (data, byteLen) else none
    | _ => none

/-- The messages of the connection that came. -/
def arrived (connId : UInt16) (events : List Event) : List Message :=
  events.filterMap fun
    | .arrive one data byteLen => if one = connId then some (data, byteLen) else none
    | _ => none

/-- The requests of the connection to the server that handles each completion at once. -/
def asked (connId : UInt16) (requests : List KvFailures.Event) : List Message :=
  requests.filterMap fun
    | .request one data byteLen => if one = connId then some (data, byteLen) else none
    | _ => none

/-- A work request of the connection fails. -/
def Fails (connId : UInt16) : Event → Prop
  | .fail _ wc _ => getConnId wc.wrId = connId
  | _ => False

/-- A completion of a connection that was registered, under the id that the server gave to the work request. -/
def Named (registered : List UInt16) : Cqe → Prop
  | .received connId receive _ _ => connId ∈ registered ∧ ∃ buf, receive = recvWr connId buf
  | .sent send => send.connId ∈ registered ∧ send.wr.wrId = sendId send.connId send.request ∧ send.wr.signaled = true
  | .failed _ _ => True

section Queued
variable {connId : UInt16} {queued rest : List Cqe} {cqe : Cqe}

theorem queuedSends_append (queued rest : List Cqe) :
    queuedSends (queued ++ rest) = queuedSends queued ++ queuedSends rest := List.filterMap_append ..

theorem arrivals_append (connId : UInt16) (queued rest : List Cqe) :
    arrivals connId (queued ++ rest) = arrivals connId queued ++ arrivals connId rest := List.filterMap_append ..

theorem arrivals_received (connId one : UInt16) (receive : RecvWr) (data : Nat → UInt8) (byteLen : UInt32) :
    arrivals connId [.received one receive data byteLen] = if one = connId then [(one, receive)] else [] := by
  by_cases mine : one = connId
  · simp [arrivals, mine]
  · simp [arrivals, mine]

theorem messages_append (connId : UInt16) (queued rest : List Cqe) :
    messages connId (queued ++ rest) = messages connId queued ++ messages connId rest := List.filterMap_append ..

theorem messages_received (connId one : UInt16) (receive : RecvWr) (data : Nat → UInt8) (byteLen : UInt32) :
    messages connId [.received one receive data byteLen] = if one = connId then [(data, byteLen)] else [] := by
  by_cases mine : one = connId
  · simp [messages, mine]
  · simp [messages, mine]

theorem messages_none (none_ : arrivals connId queued = []) : messages connId queued = [] := by
  refine List.filterMap_eq_nil_iff.mpr fun cqe listed => ?_
  have nothing := List.filterMap_eq_nil_iff.mp none_ cqe listed
  cases cqe with
  | received one receive data byteLen =>
    by_cases mine : one = connId
    · simp [mine] at nothing
    · exact if_neg mine
  | sent send => rfl
  | failed wc error => rfl

theorem queuedSends_sublist (sub : rest.Sublist queued) : (queuedSends rest).Sublist (queuedSends queued) :=
  sub.filterMap _

/-- Messages of a connection are completed under its id. -/
theorem named_received {registered : List UInt16} {one : UInt16} {receive : RecvWr} {data : Nat → UInt8}
    {byteLen : UInt32} (named : Named registered (.received one receive data byteLen)) :
    getConnId receive.wrId = one := by
  obtain ⟨-, buf, rfl⟩ := named
  rw [show (recvWr one buf).wrId = recvId one buf from rfl, recvId, getConnId_encode]

/-- Only other connections' completions are removed. -/
theorem filterMap_purge {Item : Type} {item : Cqe → Option Item} {gone : UInt16}
    (ours : ∀ cqe ∈ queued, item cqe ≠ none → getConnId cqe.wc.wrId ≠ gone) :
    (queued.filter (getConnId ·.wc.wrId ≠ gone)).filterMap item = queued.filterMap item := by
  rw [List.filterMap_filter]
  refine List.filterMap_congr fun cqe listed => ?_
  by_cases stays : getConnId cqe.wc.wrId ≠ gone
  · simp [stays]
  · have none_ : item cqe = none := by
      by_contra some_
      exact stays (ours cqe listed some_)
    simp [none_]

/-- Those of another connection stay. -/
theorem queued_purge {registered : List UInt16} (named : ∀ cqe ∈ queued, Named registered cqe) {gone : UInt16}
    (apart : connId ≠ gone) :
    arrivals connId (queued.filter (getConnId ·.wc.wrId ≠ gone)) = arrivals connId queued ∧
      messages connId (queued.filter (getConnId ·.wc.wrId ≠ gone)) = messages connId queued := by
  have ours : ∀ one receive data byteLen, Cqe.received one receive data byteLen ∈ queued → one = connId →
      getConnId receive.wrId ≠ gone := by
    rintro one receive data byteLen listed rfl
    rwa [named_received (named _ listed)]
  constructor
  · refine filterMap_purge fun cqe listed some_ => ?_
    cases cqe with
    | received one receive data byteLen => exact ours _ _ _ _ listed (by simpa using some_)
    | sent send => exact absurd rfl some_
    | failed wc error => exact absurd rfl some_
  · refine filterMap_purge fun cqe listed some_ => ?_
    cases cqe with
    | received one receive data byteLen => exact ours _ _ _ _ listed (by simpa using some_)
    | sent send => exact absurd rfl some_
    | failed wc error => exact absurd rfl some_

end Queued

/-! ### The simulation -/

/-- The loop with the completions in `batch` still to be dispatched, and the server that has handled the same ones. The
    server's buffers of a connection are those with queued messages and then those without; a send that is done without
    a completion stays with the server. -/
structure Follows (registered : List UInt16) (loop : Loop) (batch : List Cqe) (node : Node) : Prop where
  refines : Refines loop.dispatcher (registry registered)
  issued : 0xFFFF ∉ registered
  manager : node.manager = loop.node.manager
  server : node.sys.server = loop.node.sys.server
  sends : ∃ gone, node.sys.sends.Perm
    (queuedSends (batch ++ (loop.sendCq ++ loop.recvCq)) ++ (loop.node.sys.sends ++ gone))
  receives : ∀ connId, node.sys.server.connContexts connId ≠ none → node.sys.receives.filter (·.1 = connId) =
    arrivals connId (batch ++ (loop.sendCq ++ loop.recvCq)) ++ loop.node.sys.receives.filter (·.1 = connId)
  dead : ∀ connId, node.sys.server.connContexts connId = none →
    node.sys.receives.filter (·.1 = connId) = [] ∧ loop.node.sys.receives.filter (·.1 = connId) = []
  sendOnly : ∀ connId, arrivals connId loop.sendCq = []
  named : ∀ cqe ∈ batch ++ (loop.sendCq ++ loop.recvCq), Named registered cqe
  live : ∀ connId, node.sys.server.connContexts connId ≠ none → connId ∈ registered
  posted : ∀ send ∈ loop.node.sys.sends, send.connId ∈ registered

/-- The loop follows some run of the server that handles each completion at once. -/
structure Inv (all : List Buffer) (loop : Loop) (batch : List Cqe) (node : Node) : Prop where
  follows : ∃ registered, Follows registered loop batch node
  serving : Serving all node

/-- The connection's queued messages. -/
def pending (connId : UInt16) (loop : Loop) (batch : List Cqe) : List Message :=
  messages connId (batch ++ (loop.sendCq ++ loop.recvCq))

/-- No failure of the connection is queued, and while messages of it are it is there. -/
structure Steady (connId : UInt16) (loop : Loop) (batch : List Cqe) : Prop where
  unfailed : ∀ wc error, .failed wc error ∈ batch ++ (loop.sendCq ++ loop.recvCq) → getConnId wc.wrId ≠ connId
  alive : pending connId loop batch ≠ [] → loop.node.sys.server.connContexts connId ≠ none

/-- Of the messages that came some are requests by now and some are queued, in their order; none is dropped of a
    connection that is steady. -/
structure Conserves (connId : UInt16) (came : List Message) (steady : Prop) (requests : List KvFailures.Event)
    (loop : Loop) (batch : List Cqe) : Prop where
  ordered : (asked connId requests ++ pending connId loop batch).Sublist came
  whole : steady → Steady connId loop batch ∧ asked connId requests ++ pending connId loop batch = came

/-- What was done has been done by the server with the same responses. -/
def Matched (all : List Buffer) (node : Node) (seen : List Reply) (loop : Loop) (batch : List Cqe)
    (came : UInt16 → List Message) (steady : UInt16 → Prop) : Prop :=
  ∃ requests final, run (observe KvFailures.step KvFailures.replies) node requests = some (final, seen) ∧
    Inv all loop batch final ∧ ∀ connId, Conserves connId (came connId) (steady connId) requests loop batch

/-- A completion is dispatched. -/
def Dispatched (all : List Buffer) (node : Node) (loop : Loop) (cqe : Cqe) (batch : List Cqe) : Prop :=
  ∃ next, loop.dispatch cqe = some next ∧ Matched all node (loop.seen cqe next) next batch
    (pending · loop (cqe :: batch)) (Steady · loop (cqe :: batch))

section Handling
variable {all : List Buffer} {loop next : Loop} {batch : List Cqe} {node final : Node} {registered : List UInt16}
  {cqe : Cqe} {connId : UInt16}

theorem replies_same {sys other sys' other' : System} (before : sys.server = other.server)
    (after : sys'.server = other'.server) (event : KvBuffers.Event) :
    KvServices.replies sys event sys' = KvServices.replies other event other' := by
  cases event with
  | accept connId config sendAnswer recvAnswer => rfl
  | sent index => rfl
  | request connId data byteLen => simp only [KvServices.replies, posts, before, after]

theorem filter_apart {receives : List (UInt16 × RecvWr)} {other : UInt16} (apart : other ≠ connId) :
    (receives.filter (·.1 ≠ connId)).filter (·.1 = other) = receives.filter (·.1 = other) := by
  rw [List.filter_filter]
  refine List.filter_congr fun receive _ => ?_
  by_cases mine : receive.1 = other
  · simp [mine, apart]
  · simp [mine]

/-- What `OnError` leaves of the server. -/
structure Failed (node : Node) (connId : UInt16) (next : Node) : Prop where
  manager : next.manager = node.manager.removeConnection connId
  server : next.sys.server =
    { node.sys.server with connContexts := Function.update node.sys.server.connContexts connId none }
  sends : next.sys.sends = node.sys.sends
  receives : ∀ other, other ≠ connId → next.sys.receives.filter (·.1 = other) = node.sys.receives.filter (·.1 = other)
  none_left : node.manager.getConnection connId ≠ none ∨ node.sys.receives.filter (·.1 = connId) = [] →
    next.sys.receives.filter (·.1 = connId) = []

theorem onError_failed (node : Node) (connId : UInt16) : Failed node connId (node.onError connId) := by
  unfold Node.onError
  cases found : node.manager.getConnection connId with
  | none =>
    refine ⟨?_, rfl, rfl, fun _ _ => rfl, ?_⟩
    · rw [ConnectionManager.removeConnection, found]
      rfl
    · rintro (live | empty)
      · exact absurd found live
      · exact empty
  | some conn =>
    refine ⟨rfl, rfl, rfl, fun other apart => filter_apart apart, fun _ => ?_⟩
    change (node.sys.receives.filter (·.1 ≠ connId)).filter _ = []
    rw [List.filter_filter]
    simp

/-- The connection is gone on both sides. -/
theorem onError_follows (agreed : Agreed node) {error : Cqe} (follows : Follows registered loop (error :: batch) node)
    (silent : ∀ connId, arrivals connId (error :: batch) = arrivals connId batch)
    (unsent : queuedSends (error :: batch) = queuedSends batch) {dispatcher : CompletionDispatcher}
    (refines : Refines dispatcher (registry registered)) (connId : UInt16) :
    Follows registered { loop with dispatcher, node := loop.node.onError connId } batch (node.onError connId) := by
  obtain ⟨-, issued, manager, server, sends, receives, dead, sendOnly, named, live, posted⟩ := follows
  have here := onError_failed node connId
  have there := onError_failed loop.node connId
  have apart : ∀ other, (node.onError connId).sys.server.connContexts other ≠ none →
      other ≠ connId ∧ node.sys.server.connContexts other ≠ none := by
    intro other known
    rw [here.server] at known
    by_cases mine : other = connId
    · simp [mine] at known
    · exact ⟨mine, by simpa [mine] using known⟩
  rw [queuedSends_append, unsent, ← queuedSends_append] at sends
  refine ⟨refines, issued, ?_, ?_, ?_, ?_, ?_, sendOnly, ?_, ?_, ?_⟩
  · rw [here.manager, there.manager, manager]
  · rw [here.server, there.server, server]
  · rw [here.sends, there.sends]
    exact sends
  · intro other known
    obtain ⟨distinct, known⟩ := apart other known
    rw [here.receives other distinct, there.receives other distinct, receives other known, arrivals_append, silent,
      ← arrivals_append]
  · intro other gone
    rw [here.server] at gone
    by_cases mine : other = connId
    · rw [mine]
      by_cases found : node.manager.getConnection connId = none
      · obtain ⟨idle, empty⟩ := dead connId ((agreed.same connId).mp found)
        exact ⟨here.none_left (.inr idle), there.none_left (.inr empty)⟩
      · exact ⟨here.none_left (.inl found), there.none_left (.inl (manager ▸ found))⟩
    · rw [here.receives other mine, there.receives other mine]
      exact dead other (by simpa [mine] using gone)
  · intro cqe listed
    exact named cqe (List.mem_cons_of_mem _ listed)
  · intro other known
    exact live other (apart other known).2
  · rw [there.sends]
    exact posted

theorem pending_cons (connId : UInt16) (loop : Loop) (cqe : Cqe) (batch : List Cqe) :
    pending connId loop (cqe :: batch) = messages connId [cqe] ++ pending connId loop batch := by
  rw [pending, List.cons_append, ← List.singleton_append, messages_append]
  rfl

/-- What is queued was queued, and the connection is there as before. -/
theorem Steady.requeue {rest : List Cqe} (steady : Steady connId loop batch)
    (listed : ∀ cqe ∈ rest ++ (next.sendCq ++ next.recvCq), cqe ∈ batch ++ (loop.sendCq ++ loop.recvCq))
    (queued : pending connId next rest ≠ [] → pending connId loop batch ≠ [])
    (alive : loop.node.sys.server.connContexts connId ≠ none → next.node.sys.server.connContexts connId ≠ none) :
    Steady connId next rest :=
  ⟨fun wc error there => steady.unfailed wc error (listed _ there), fun some_ => alive (steady.alive (queued some_))⟩

/-- The queues stay as they are, and so do the connections. -/
theorem conserves_kept {requests : List KvFailures.Event} (unasked : asked connId requests = [])
    (same : next.sendCq ++ next.recvCq = loop.sendCq ++ loop.recvCq)
    (alive : Steady connId loop batch → loop.node.sys.server.connContexts connId ≠ none →
      next.node.sys.server.connContexts connId ≠ none) :
    Conserves connId (pending connId loop batch) (Steady connId loop batch) requests next batch := by
  have left : asked connId requests ++ pending connId next batch = pending connId loop batch := by
    rw [unasked, pending, pending, same]
    rfl
  refine ⟨left ▸ .refl _, fun steady => ⟨steady.requeue (fun one listed => ?_) (fun some_ => ?_) (alive steady), left⟩⟩
  · rwa [same] at listed
  · rw [← left]
    exact List.append_ne_nil_of_right_ne_nil _ some_

/-- A completion leaves the messages, or the request that it is, as they were. -/
theorem conserves_dispatched {requests : List KvFailures.Event} (same : asked connId requests = messages connId [cqe])
    (sendCq : next.sendCq = loop.sendCq) (recvCq : next.recvCq = loop.recvCq)
    (alive : Steady connId loop (cqe :: batch) → loop.node.sys.server.connContexts connId ≠ none →
      next.node.sys.server.connContexts connId ≠ none) :
    Conserves connId (pending connId loop (cqe :: batch)) (Steady connId loop (cqe :: batch)) requests next batch := by
  have left : asked connId requests ++ pending connId next batch = pending connId loop (cqe :: batch) := by
    rw [pending_cons, same, pending, pending, sendCq, recvCq]
  refine ⟨left ▸ .refl _, fun steady => ⟨steady.requeue (fun one listed => ?_) (fun some_ => ?_) (alive steady), left⟩⟩
  · rw [sendCq, recvCq] at listed
    exact List.mem_cons_of_mem _ listed
  · rw [← left]
    exact List.append_ne_nil_of_right_ne_nil _ some_

/-- A message of a connection that is gone is no request. -/
theorem conserves_dropped {receive : RecvWr} {data : Nat → UInt8} {byteLen : UInt32}
    (dead : loop.node.sys.server.connContexts connId = none) (sendCq : next.sendCq = loop.sendCq)
    (recvCq : next.recvCq = loop.recvCq) (server : next.node.sys.server = loop.node.sys.server) (other : UInt16) :
    Conserves other (pending other loop (.received connId receive data byteLen :: batch))
      (Steady other loop (.received connId receive data byteLen :: batch)) [] next batch := by
  by_cases mine : connId = other
  · subst mine
    have longer : pending connId loop (.received connId receive data byteLen :: batch) =
        (data, byteLen) :: pending connId next batch := by
      rw [pending_cons, messages_received, if_pos rfl, pending, pending, sendCq, recvCq]
      rfl
    refine ⟨?_, fun steady => absurd dead (steady.alive ?_)⟩
    · rw [longer]
      exact List.sublist_cons_self ..
    · rw [longer]
      exact List.cons_ne_nil _ _
  · have same : asked other [] = messages other [.received connId receive data byteLen] := by
      rw [messages_received, if_neg mine]
      rfl
    exact conserves_dispatched same sendCq recvCq fun _ alive => server ▸ alive

theorem failed_matched {wc : Wc} {error : wc.status ≠ 0} (pool : Pool all)
    (inv : Inv all loop (.failed wc error :: batch) node) : Dispatched all node loop (.failed wc error) batch := by
  obtain ⟨⟨registered, follows⟩, serving⟩ := inv
  obtain ⟨service, posted, entries, lost, running⟩ := id serving
  obtain ⟨dispatcher, dispatched, refines⟩ := dispatch_failed follows.refines error
  have taken : KvFailures.step node (.failed (getConnId wc.wrId)) = some (node.onError (getConnId wc.wrId), []) := rfl
  refine ⟨{ loop with dispatcher, node := loop.node.onError (getConnId wc.wrId) }, ?_, _, _, run_single taken,
    ⟨⟨registered, ?_⟩, serving.step pool taken⟩, fun connId => ?_⟩
  · simp [Loop.dispatch, Cqe.wc, dispatched, Loop.invoke]
  · exact onError_follows running.agreed follows (fun _ => rfl) rfl refines _
  · refine conserves_dispatched rfl rfl rfl fun steady alive => ?_
    have apart := steady.unfailed wc error List.mem_cons_self
    rw [(onError_failed loop.node _).server]
    exact ne_of_eq_of_ne (Function.update_of_ne apart.symm ..) alive

/-- Where the contexts stay as they are nothing was posted. -/
theorem posting_same (sys : System) (connId : UInt16) (data : Nat → UInt8) {server : KVServer}
    (same : server.connContexts = sys.server.connContexts) : posting sys connId data server = { sys with server } := by
  unfold posting
  rw [same]
  cases known : sys.server.connContexts connId with
  | none => rfl
  | some ctx => simp [newSends, newReceives]

/-- A successful completion of a registered connection is handled at once. -/
theorem dispatch_handled (follows : Follows registered loop (cqe :: batch) node) (success : cqe.wc.status = 0)
    (known : getConnId cqe.wc.wrId ∈ registered) {server : KVServer}
    (handled : loop.node.sys.server.handleCompletion { wrId := cqe.wc.wrId, byteLen := cqe.byteLen } cqe.data =
      some server) :
    ∃ dispatcher, Refines dispatcher (registry registered) ∧ loop.dispatch cqe = some { loop with
      dispatcher
      node := { loop.node with sys := posting loop.node.sys (getConnId cqe.wc.wrId) cqe.data server } } := by
  obtain ⟨dispatcher, dispatched, refines⟩ := dispatch_known follows.refines follows.issued success known
  refine ⟨dispatcher, refines, ?_⟩
  simp only [Loop.dispatch, dispatched, Option.bind_eq_bind, Option.bind_some, List.foldlM_cons, List.foldlM_nil,
    Loop.invoke, and_self, if_true, success, handled, Option.pure_def]

/-- A send is completed that was signaled. -/
theorem sent_matched {send : InFlight} (pool : Pool all) (inv : Inv all loop (.sent send :: batch) node) :
    Dispatched all node loop (.sent send) batch := by
  obtain ⟨⟨registered, follows⟩, serving⟩ := inv
  obtain ⟨service, posted, entries, lost, running⟩ := id serving
  obtain ⟨known, id_, signaled⟩ := follows.named _ List.mem_cons_self
  obtain ⟨gone, sends⟩ := follows.sends
  change node.sys.sends.Perm
    (send :: (queuedSends (batch ++ (loop.sendCq ++ loop.recvCq)) ++ (loop.node.sys.sends ++ gone))) at sends
  obtain ⟨index, found⟩ := List.getElem?_of_mem (sends.mem_iff.mpr List.mem_cons_self)
  obtain ⟨sys, entries', completes, inv', -⟩ := sent_cases running.inv found
  have taken : KvFailures.step node (.sent index) = some ({ node with sys }, []) := by
    rw [KvFailures.step, completes]
    rfl
  have contexts := (sent_handled running.inv completes).2
  rw [System.sent, found, Option.bind_eq_bind, Option.bind_some, if_pos signaled] at completes
  obtain ⟨server, handled, same⟩ := Option.bind_eq_some_iff.mp completes
  obtain rfl := Option.some.inj same
  have own : getConnId (Cqe.sent send).wc.wrId = send.connId := by
    rw [Cqe.wc, id_, sendId, getConnId_encode]
  rw [follows.server] at handled
  obtain ⟨dispatcher, refines, dispatched⟩ := dispatch_handled follows rfl (by rwa [own]) handled
  rw [posting_same _ _ _ (contexts.trans (congrArg KVServer.connContexts follows.server))] at dispatched
  refine ⟨_, dispatched, _, _, run_single taken, ⟨⟨registered, ?_⟩, serving.step pool taken⟩, fun connId => ?_⟩
  swap
  · refine conserves_dispatched rfl rfl rfl fun _ alive => ?_
    change server.connContexts connId ≠ none
    rwa [contexts, follows.server]
  obtain ⟨inside, same⟩ := List.getElem?_eq_some_iff.mp found
  have left := List.getElem_cons_eraseIdx_perm inside
  rw [same] at left
  exact {
    refines
    issued := follows.issued
    manager := follows.manager
    server := rfl
    sends := ⟨gone, (left.trans sends).cons_inv⟩
    receives := fun connId live => follows.receives connId (by rwa [← contexts])
    dead := fun connId none_ => follows.dead connId (by rwa [← contexts])
    sendOnly := follows.sendOnly
    named := fun cqe listed => follows.named cqe (List.mem_cons_of_mem _ listed)
    live := fun connId live => follows.live connId (by rwa [← contexts])
    posted := follows.posted }

/-- The first receive of a connection is taken from the posted ones. -/
theorem filter_taken {receives rest : List (UInt16 × RecvWr)} {receive : UInt16 × RecvWr}
    (queue : receives.filter (·.1 = connId) = receive :: rest) :
    receives.find? (·.1 = connId) = some receive ∧ ∀ other, (receives.erase receive).filter (·.1 = other) =
      if other = connId then rest else receives.filter (·.1 = other) := by
  have listed : receive ∈ receives.filter (·.1 = connId) := by simp [queue]
  have mine : receive.1 = connId := by simpa using (List.mem_filter.mp listed).2
  refine ⟨by rw [← List.head?_filter, queue, List.head?_cons], fun other => ?_⟩
  rw [← List.erase_filter]
  by_cases same : other = connId
  · rw [if_pos same, same, queue, List.erase_cons_head]
  · rw [if_neg same]
    refine List.erase_of_not_mem fun there => same ?_
    have theirs : receive.1 = other := by simpa using (List.mem_filter.mp there).2
    exact theirs.symm.trans mine

theorem filter_new (connId other : UInt16) (recvs : List RecvWr) :
    (recvs.map (connId, ·)).filter (·.1 = other) = if other = connId then recvs.map (connId, ·) else [] := by
  by_cases same : other = connId
  · rw [if_pos same, same]
    exact List.filter_eq_self.mpr (by simp)
  · rw [if_neg same]
    exact List.filter_eq_nil_iff.mpr (by simp [Ne.symm same])

/-- A message to a connection that is gone is dropped. -/
theorem received_dead {receive : RecvWr} {data : Nat → UInt8} {byteLen : UInt32}
    (inv : Inv all loop (.received connId receive data byteLen :: batch) node)
    (dead : node.sys.server.connContexts connId = none) :
    Dispatched all node loop (.received connId receive data byteLen) batch := by
  obtain ⟨⟨registered, follows⟩, serving⟩ := inv
  obtain ⟨known, buf, rfl⟩ := follows.named _ List.mem_cons_self
  have own : getConnId (recvId connId buf) = connId := by rw [recvId, getConnId_encode]
  have handled : loop.node.sys.server.handleCompletion { wrId := recvId connId buf, byteLen } data =
      some loop.node.sys.server := by
    unfold KVServer.handleCompletion
    dsimp only
    rw [if_neg (by simp), own, recvId, getOpcode_encode, if_pos rfl, KVServer.handleRequest, ← follows.server, dead]
  obtain ⟨dispatcher, refines, dispatched⟩ := dispatch_handled follows rfl (own.symm ▸ known) handled
  rw [posting_same _ _ _ rfl] at dispatched
  refine ⟨_, dispatched, [], node, ?_, ⟨⟨registered, ?_⟩, serving⟩,
    conserves_dropped (follows.server ▸ dead) rfl rfl rfl⟩
  · rw [Loop.seen, ← follows.server, dead]
    rfl
  · exact {
      refines
      issued := follows.issued
      manager := follows.manager
      server := follows.server
      sends := follows.sends
      receives := fun other live => by
        have apart : connId ≠ other := by
          rintro rfl
          exact live dead
        have queue := follows.receives other live
        rwa [List.cons_append, arrivals, List.filterMap_cons_none (by simp [apart])] at queue
      dead := follows.dead
      sendOnly := follows.sendOnly
      named := fun cqe listed => follows.named cqe (List.mem_cons_of_mem _ listed)
      live := follows.live
      posted := follows.posted }

/-- A message to a live connection is a request to the server that handles each completion at once, and both respond
    and post alike. -/
theorem received_live (pool : Pool all) {receive : RecvWr} {data : Nat → UInt8} {byteLen : UInt32}
    (inv : Inv all loop (.received connId receive data byteLen :: batch) node)
    (live : node.sys.server.connContexts connId ≠ none) :
    Dispatched all node loop (.received connId receive data byteLen) batch := by
  obtain ⟨⟨registered, follows⟩, serving⟩ := inv
  obtain ⟨service, posted, entries, lost, running⟩ := id serving
  obtain ⟨registers, buf, rfl⟩ := follows.named _ List.mem_cons_self
  have queue := follows.receives connId live
  rw [List.cons_append, arrivals, List.filterMap_cons_some (by simp; rfl), List.cons_append] at queue
  obtain ⟨found, left⟩ := filter_taken queue
  have possible : Possible node.sys (.request connId data byteLen) :=
    ⟨live, _, List.mem_of_find?_eq_some found, rfl⟩
  obtain ⟨sys, now, stepped⟩ := (step_possible pool running.inv _).mpr possible
  obtain ⟨done, ctx, -, known, -⟩ := request_some stepped
  have taken : KvFailures.step node (.request connId data byteLen) = some ({ node with sys }, []) := by
    rw [KvFailures.step, done]
    rfl
  have serves := serving.step pool taken
  obtain ⟨service', posted', entries', lost', running'⟩ := id serves
  simp only [System.request, known, found, Option.bind_eq_bind, Option.bind_some] at done
  obtain ⟨server, handled, rest⟩ := Option.bind_eq_some_iff.mp done
  obtain ⟨after, knows, whole⟩ := Option.bind_eq_some_iff.mp rest
  obtain rfl := Option.some.inj whole
  have same : ∀ other, server.connContexts other = none ↔ node.sys.server.connContexts other = none :=
    fun other => (running'.agreed.same other).symm.trans (running.agreed.same other)
  have own : getConnId (recvId connId buf) = connId := by rw [recvId, getConnId_encode]
  have contexts := congrArg KVServer.connContexts follows.server
  rw [follows.server] at handled
  obtain ⟨dispatcher, refines, dispatched⟩ := dispatch_handled follows rfl (own.symm ▸ registers) handled
  have posts : posting loop.node.sys (getConnId (recvId connId buf)) data server = {
      server
      sends := loop.node.sys.sends ++ (newSends ctx after).map fun wr => ⟨connId, wr, requestOf ctx data⟩
      receives := loop.node.sys.receives ++ (newReceives ctx after).map (connId, ·) } := by
    unfold posting
    rw [own, ← contexts, known, knows]
  change loop.dispatch (.received connId (recvWr connId buf) data byteLen) = some { loop with
    dispatcher
    node := { loop.node with sys := posting loop.node.sys (getConnId (recvId connId buf)) data server } } at dispatched
  rw [posts] at dispatched
  refine ⟨_, dispatched, [.request connId data byteLen], _, ?_, ⟨⟨registered, ?_⟩, serves⟩, fun other => ?_⟩
  rotate_right
  · refine conserves_dispatched ?_ rfl rfl fun _ alive => mt (same other).mp (follows.server ▸ alive)
    rw [messages_received, asked, List.filterMap_cons, List.filterMap_nil]
    by_cases mine : connId = other
    · simp [mine]
    · simp [mine]
  · rw [run_single taken, Loop.seen, if_pos (by rw [← contexts, known]; rfl), KvFailures.replies]
    exact congrArg (fun seen => some (_, seen)) (replies_same follows.server rfl (.request connId data byteLen))
  obtain ⟨gone, sends⟩ := follows.sends
  let news : List InFlight := (newSends ctx after).map fun wr => ⟨connId, wr, requestOf ctx data⟩
  have grown : (node.sys.sends ++ news).Perm (queuedSends (batch ++ (loop.sendCq ++ loop.recvCq)) ++
      (loop.node.sys.sends ++ news ++ gone)) := by
    refine (sends.append_right news).trans ?_
    rw [List.append_assoc, List.append_assoc, List.append_assoc]
    exact .append_left _ (.append_left _ List.perm_append_comm)
  exact {
    refines
    issued := follows.issued
    manager := follows.manager
    server := rfl
    sends := ⟨gone, grown⟩
    receives := fun other alive => by
      rw [List.filter_append, List.filter_append, left, filter_new]
      by_cases mine : other = connId
      · rw [if_pos mine, if_pos mine, mine, List.append_assoc]
        rfl
      · have queue := follows.receives other (mt (same other).mpr alive)
        rw [List.cons_append, arrivals, List.filterMap_cons_none (by simp [Ne.symm mine])] at queue
        rw [if_neg mine, if_neg mine, List.append_nil, List.append_nil]
        exact queue
    dead := fun other none_ => by
      have idle := (same other).mp none_
      have apart : other ≠ connId := by
        rintro rfl
        exact live idle
      rw [List.filter_append, List.filter_append, left, filter_new, if_neg apart, if_neg apart, List.append_nil,
        List.append_nil]
      exact follows.dead other idle
    sendOnly := follows.sendOnly
    named := fun cqe listed => follows.named cqe (List.mem_cons_of_mem _ listed)
    live := fun other alive => follows.live other (mt (same other).mpr alive)
    posted := fun send listed => by
      rcases List.mem_append.mp listed with before | new
      · exact follows.posted send before
      · obtain ⟨wr, -, rfl⟩ := List.mem_map.mp new
        exact registers }

theorem dispatch_matched (pool : Pool all) (inv : Inv all loop (cqe :: batch) node) :
    Dispatched all node loop cqe batch := by
  cases cqe with
  | received connId receive data byteLen =>
    by_cases dead : node.sys.server.connContexts connId = none
    · exact received_dead inv dead
    · exact received_live pool inv dead
  | sent send => exact sent_matched pool inv
  | failed wc error => exact failed_matched pool inv

end Handling

end Rdma.KvLoops
