import Rdma.Histories
import Rdma.KvDeliveries

/-!
The clients of the server, whose requests and responses overlap. A request
travels to the server in the order of its connection, the server performs it,
and its response travels back in any order. Over a correct pool what the clients
see is linearizable as long as no number is in use twice
(`sessions_linearizable`).
-/
namespace Rdma.KvSessions
open Rdma.Types Rdma.Runs Rdma.QueuePairs Rdma.Histories Rdma.Observations
open Rdma.KvProtocols Rdma.KvStores Rdma.KvServers Rdma.KvTracking Rdma.KvServices Rdma.KvDeliveries
open Rdma.KvBuffers (System InFlight Inv Pool poolBuffers poolBuffers_pool new_inv step_cases requestOf sent_cases)

/-- The bytes of a request. -/
structure Operation where
  data : Nat → UInt8
  requestLen : Nat

/-- A request on its way to the server. -/
structure Call where
  id : Nat
  connId : UInt16
  data : Nat → UInt8
  byteLen : UInt32

def Call.operation (call : Call) : Operation := ⟨call.data, call.byteLen.toNat⟩

/-- `owners` says for each response in flight which request it answers, and `next` numbers the requests. -/
structure World where
  sys : System
  pending : List Call
  owners : List Nat
  next : Nat

inductive Event
  | accept (connId : UInt16) (config : QueuePairConfig) (sendAnswer recvAnswer : Nat → Option Int)
  | invoke (connId : UInt16) (data : Nat → UInt8) (byteLen : UInt32)
  | arrive (connId : UInt16)
  | deliver (index : Nat)

abbrev SessionAct := Act Nat Operation Response

/-- The first request of the connection reaches the server. -/
def World.arrive (world : World) (connId : UInt16) : Option (World × List SessionAct) := do
  let call ← world.pending.find? (·.connId = connId)
  let (sys, _) ← KvBuffers.step world.sys (.request connId call.data call.byteLen)
  let performed : List SessionAct :=
    if call.byteLen.toNat < HEADER_SIZE then []
    else (reply world.sys.server.store call.data call.byteLen.toNat).toList.map fun result =>
      .perform ⟨call.id, call.operation, result.1⟩
  some ({ world with
    sys
    pending := world.pending.eraseP (·.connId = connId)
    owners := world.owners ++ (sys.sends.drop world.sys.sends.length).map fun _ => call.id }, performed)

/-- A response reaches its client. -/
def World.deliver (world : World) (index : Nat) : Option (World × List SessionAct) := do
  let send ← world.sys.sends[index]?
  let id ← world.owners[index]?
  let (sys, _) ← KvBuffers.step world.sys (.sent index)
  let answered : List SessionAct :=
    (contentOf world.sys.server send.wr).toList.map fun response => .sees (.respond id response)
  some ({ world with sys, owners := world.owners.eraseIdx index }, answered)

def step (world : World) : Event → Option (World × List SessionAct)
  | .accept connId config sendAnswer recvAnswer =>
    (KvBuffers.step world.sys (.accept connId config sendAnswer recvAnswer)).map fun (sys, _) => ({ world with sys }, [])
  | .invoke connId data byteLen =>
    let call : Call := ⟨world.next, connId, data, byteLen⟩
    some ({ world with pending := world.pending ++ [call], next := world.next + 1 },
      [.sees (.invoke call.id call.operation)])
  | .arrive connId => world.arrive connId
  | .deliver index => world.deliver index

def World.new (store : KVStore) (all : List Buffer) : World := ⟨.new store all, [], [], 0⟩

/-- No request is answered while a response of its connection with the same number is in flight. -/
def Unmixed (world : World) : Event → Prop
  | .arrive connId => ∀ call, world.pending.find? (·.connId = connId) = some call →
      Numbered world.sys (.request connId call.data call.byteLen)
  | _ => True

/-- What a map answers. -/
def spec (service : Service serverSlots) (operation : Operation) : Response × Service serverSlots :=
  service.serve operation.data operation.requestLen

abbrev emptyService : Service serverSlots := .empty UInt64 (List UInt8) serverSlots

/-- What is written where the responses in flight read. -/
def contents (sys : System) : List (Option Response) := sys.sends.map fun send => contentOf sys.server send.wr

/-- The responses in flight are those of performed requests that have not been answered, and the requests on their way
have not been performed. -/
structure Linked (all : List Buffer) (world : World) (service : Service serverSlots) (trace : List SessionAct) :
    Prop where
  tracking : Tracking all world.sys
  serves : ∃ width, Serves width world.sys.server.store service
  orderly : Orderly spec emptyService service trace
  flying : List.Forall₂ (fun content id => ∃ entry ∈ performed trace, entry.id = id ∧ content = some entry.answer)
    (contents world.sys) world.owners
  owners : world.owners.Nodup
  unanswered : ∀ id ∈ world.owners, ∀ answer, .respond id answer ∉ history trace
  pending : ∀ call ∈ world.pending, .invoke call.id call.operation ∈ history trace ∧
    call.id ∉ (performed trace).map Entry.id
  once : (world.pending.map Call.id).Nodup
  below : ∀ id op, .invoke id op ∈ history trace → id < world.next

section Steps
variable {all : List Buffer} {world next : World} {service : Service serverSlots} {trace now : List SessionAct}

/-- Who answers a request has performed it. -/
theorem Linked.owner (linked : Linked all world service trace) {id : Nat} (member : id ∈ world.owners) :
    id ∈ (performed trace).map Entry.id := by
  obtain ⟨content, -, entry, done, same, -⟩ : ∃ content ∈ contents world.sys, ∃ entry ∈ performed trace,
      entry.id = id ∧ content = some entry.answer := by
    obtain ⟨index, inside, rfl⟩ := List.getElem_of_mem member
    have there : index < (contents world.sys).length := by rwa [linked.flying.length_eq]
    exact ⟨_, List.getElem_mem there, linked.flying.get there inside⟩
  exact List.mem_map.mpr ⟨entry, done, same⟩

theorem accept_linked (pool : Pool all) (linked : Linked all world service trace) {connId : UInt16}
    {config : QueuePairConfig} {sendAnswer recvAnswer : Nat → Option Int}
    (stepped : step world (.accept connId config sendAnswer recvAnswer) = some (next, now)) :
    Linked all next service (trace ++ now) := by
  obtain ⟨⟨sys, outputs⟩, taken, same⟩ := Option.map_eq_some_iff.mp stepped
  obtain ⟨rfl, rfl⟩ := Prod.mk.inj same
  obtain ⟨⟨posted, entries, lost, inv⟩, tracked⟩ := linked.tracking
  obtain ⟨posted', entries', lost', kept, did⟩ := step_cases pool inv taken
  obtain ⟨width, serves⟩ := linked.serves
  have quiet : sys.sends = world.sys.sends ∧ sys.server.store = world.sys.server.store ∧
      sys.server.written = world.sys.server.written := by
    rw [KvBuffers.step] at taken
    split at taken
    · cases taken
    · obtain ⟨rfl, -⟩ := Prod.mk.inj (Option.some.inj taken)
      obtain ⟨store, written⟩ := accept_quiet world.sys (KvBuffers.established connId config sendAnswer recvAnswer)
      cases did with
      | accept sends => exact ⟨sends, store, written⟩
  obtain ⟨sends, store, written⟩ := quiet
  have same : contents sys = contents world.sys := by
    rw [contents, contents, sends]
    exact List.map_congr_left fun send _ => by rw [contentOf, contentOf, written]
  rw [List.append_nil]
  exact ⟨⟨⟨posted', entries', lost', kept⟩, step_tracked inv tracked did trivial⟩, ⟨width, store ▸ serves⟩, linked.orderly,
    same ▸ linked.flying, linked.owners, linked.unanswered, linked.pending, linked.once, linked.below⟩

theorem invoke_linked (linked : Linked all world service trace) {connId : UInt16} {data : Nat → UInt8} {byteLen : UInt32}
    (stepped : step world (.invoke connId data byteLen) = some (next, now)) : Linked all next service (trace ++ now) := by
  obtain ⟨rfl, rfl⟩ := Prod.mk.inj (Option.some.inj stepped)
  have fresh : ∀ op, .invoke world.next op ∉ history trace := fun op member =>
    absurd (linked.below _ _ member) (Nat.lt_irrefl _)
  have unperformed : world.next ∉ (performed trace).map Entry.id := by
    intro member
    obtain ⟨entry, done, same⟩ := List.mem_map.mp member
    exact fresh entry.op (same ▸ linked.orderly.explains.invoked entry done)
  refine ⟨linked.tracking, linked.serves, linked.orderly.invoke _ _ fresh, ?_, linked.owners, ?_, ?_, ?_, ?_⟩
  · rw [performed_sees]
    exact linked.flying
  · intro id member answer
    rw [history_sees, List.mem_append]
    rintro (old | new)
    · exact linked.unanswered id member answer old
    · simp at new
  · intro call member
    rw [history_sees, performed_sees]
    rcases List.mem_append.mp member with old | new
    · exact ⟨List.mem_append_left _ (linked.pending call old).1, (linked.pending call old).2⟩
    · obtain rfl := List.mem_singleton.mp new
      exact ⟨List.mem_append_right _ (List.mem_singleton_self _), unperformed⟩
  · rw [List.map_append, List.map_singleton]
    refine List.nodup_append.mpr ⟨linked.once, List.nodup_singleton _, fun one member other last same => ?_⟩
    obtain ⟨call, listed, rfl⟩ := List.mem_map.mp member
    have mine : call.id = world.next := same.trans (List.mem_singleton.mp last)
    exact fresh call.operation (mine ▸ (linked.pending call listed).1)
  · intro id op member
    rw [history_sees, List.mem_append] at member
    rcases member with old | new
    · exact Nat.lt_succ_of_lt (linked.below id op old)
    · obtain ⟨rfl, -⟩ := Histories.Event.invoke.inj (List.mem_singleton.mp new)
      exact Nat.lt_succ_self _

theorem forall₂_eraseIdx {Left Right : Type*} {relation : Left → Right → Prop} {lefts : List Left} {rights : List Right}
    (related : List.Forall₂ relation lefts rights) (index : Nat) :
    List.Forall₂ relation (lefts.eraseIdx index) (rights.eraseIdx index) := by
  induction related generalizing index with
  | nil => exact .nil
  | cons first rest ih =>
    cases index with
    | zero => exact rest
    | succ index => exact .cons first (ih index)

theorem deliver_linked (pool : Pool all) (linked : Linked all world service trace) {index : Nat}
    (stepped : world.deliver index = some (next, now)) : Linked all next service (trace ++ now) := by
  unfold World.deliver at stepped
  obtain ⟨send, found, stepped⟩ := Option.bind_eq_some_iff.mp stepped
  obtain ⟨id, owned, stepped⟩ := Option.bind_eq_some_iff.mp stepped
  obtain ⟨⟨sys, outputs⟩, taken, stepped⟩ := Option.bind_eq_some_iff.mp stepped
  obtain ⟨rfl, rfl⟩ := Prod.mk.inj (Option.some.inj stepped)
  obtain ⟨⟨posted, entries, lost, inv⟩, tracked⟩ := linked.tracking
  obtain ⟨posted', entries', lost', kept, did⟩ := step_cases pool inv taken
  obtain ⟨width, serves⟩ := linked.serves
  obtain ⟨other, done, same⟩ := Option.map_eq_some_iff.mp taken
  obtain ⟨rfl, -⟩ := Prod.mk.inj same
  obtain ⟨store, written⟩ := (sent_handled inv done).1
  have sends : other.sends = world.sys.sends.eraseIdx index := by
    cases did with
    | sent found sends => exact sends
  have left : contents other = (contents world.sys).eraseIdx index := by
    rw [contents, contents, sends, List.eraseIdx_map]
    exact List.map_congr_left fun send _ => by rw [contentOf, contentOf, written]
  obtain ⟨inside, rfl⟩ := List.getElem?_eq_some_iff.mp owned
  have there : index < (contents world.sys).length := by rwa [linked.flying.length_eq]
  obtain ⟨entry, performs, same, answer⟩ := linked.flying.get there inside
  have content : contentOf world.sys.server send.wr = some entry.answer := by
    obtain ⟨within, rfl⟩ := List.getElem?_eq_some_iff.mp found
    rw [← answer]
    simp [contents]
  have split := (List.getElem_cons_eraseIdx_perm inside).symm
  obtain ⟨gone, once⟩ := List.nodup_cons.mp (split.nodup_iff.mp linked.owners)
  have unanswered := linked.unanswered _ (List.getElem_mem inside)
  have same : entry.id = world.owners[index] := same
  rw [content, Option.toList_some, List.map_singleton, ← same]
  refine ⟨⟨⟨posted', entries', lost', kept⟩, step_tracked inv tracked did trivial⟩, ⟨width, store ▸ serves⟩,
    linked.orderly.respond entry performs (same ▸ unanswered), ?_, once, ?_, ?_, linked.once, ?_⟩
  · rw [performed_sees, left]
    exact forall₂_eraseIdx linked.flying index
  · intro id member answer
    rw [history_sees, List.mem_append]
    rintro (old | new)
    · exact linked.unanswered id (List.mem_of_mem_eraseIdx member) answer old
    · obtain ⟨rfl, -⟩ := Histories.Event.respond.inj (List.mem_singleton.mp new)
      exact gone (same ▸ member)
  · intro call member
    rw [history_sees, performed_sees]
    exact ⟨List.mem_append_left _ (linked.pending call member).1, (linked.pending call member).2⟩
  · intro id op member
    rw [history_sees, List.mem_append] at member
    rcases member with old | new
    · exact linked.below id op old
    · simp at new

/-- The first request of a connection, between the others. -/
theorem first_split {pending : List Call} {connId : UInt16} {call : Call}
    (found : pending.find? (·.connId = connId) = some call) : ∃ front back, pending = front ++ call :: back ∧
      pending.eraseP (·.connId = connId) = front ++ back := by
  obtain ⟨mine, front, back, rfl, others⟩ := List.find?_eq_some_iff_append.mp found
  refine ⟨front, back, rfl, ?_⟩
  have here : (call :: back).eraseP (fun other => decide (other.connId = connId)) = back := List.eraseP_cons_of_pos mine
  rw [List.eraseP_append_right _ (by simpa using others), here]

/-- A request that the server does not perform. -/
theorem Linked.skipped (linked : Linked all world service trace) {sys : System} (tracking : Tracking all sys)
    {connId : UInt16} {call : Call} (found : world.pending.find? (·.connId = connId) = some call)
    (serves : ∃ width, Serves width sys.server.store service) (same : contents sys = contents world.sys) :
    Linked all { world with sys, pending := world.pending.eraseP (·.connId = connId) } service trace := by
  obtain ⟨front, back, all, left⟩ := first_split found
  refine ⟨tracking, serves, linked.orderly, same ▸ linked.flying, linked.owners, linked.unanswered, ?_, ?_, linked.below⟩
  · intro other member
    exact linked.pending other (List.mem_of_mem_eraseP member)
  · exact linked.once.sublist (List.eraseP_sublist.map _)

/-- A request that the server performs, with the response that is in flight then, if there is one. -/
theorem Linked.performs (linked : Linked all world service trace) {sys : System} (tracking : Tracking all sys)
    {connId : UInt16} {call : Call} (found : world.pending.find? (·.connId = connId) = some call)
    (serves : ∃ width, Serves width sys.server.store (spec service call.operation).2) {new : List (Option Response)}
    (flies : contents sys = contents world.sys ++ new)
    (answer : ∀ content ∈ new, content = some (spec service call.operation).1) (few : new.length ≤ 1) :
    Linked all { world with
      sys, pending := world.pending.eraseP (·.connId = connId), owners := world.owners ++ new.map fun _ => call.id }
      (spec service call.operation).2
      (trace ++ [.perform ⟨call.id, call.operation, (spec service call.operation).1⟩]) := by
  obtain ⟨front, back, all, left⟩ := first_split found
  obtain ⟨invoked, fresh⟩ := linked.pending call (by simp [all])
  have once := linked.once
  rw [all, List.map_append, List.map_cons] at once
  have others := List.nodup_middle.mp once
  obtain ⟨alone, once⟩ := List.nodup_cons.mp others
  refine ⟨tracking, serves, linked.orderly.perform _ _ invoked fresh, ?_, ?_, ?_, ?_, ?_, ?_⟩
  · rw [performed_perform, flies]
    refine List.rel_append (linked.flying.imp fun content id known => ?_) ?_
    · obtain ⟨entry, done, same, answers⟩ := known
      exact ⟨entry, List.mem_append_left _ done, same, answers⟩
    · rw [List.forall₂_map_right_iff, List.forall₂_same]
      exact fun content member => ⟨_, List.mem_append_right _ (List.mem_singleton_self _), rfl, answer content member⟩
  · refine List.nodup_append.mpr ⟨linked.owners, ?_, fun one member other last same => ?_⟩
    · cases new with
      | nil => exact List.nodup_nil
      | cons content rest =>
        obtain rfl : rest = [] := List.length_eq_zero_iff.mp (by simpa using few)
        exact List.nodup_singleton _
    · obtain ⟨-, -, rfl⟩ := List.mem_map.mp last
      exact fresh (same ▸ linked.owner member)
  · intro id member answer seen
    rw [history_perform] at seen
    rcases List.mem_append.mp member with old | new
    · exact linked.unanswered id old answer seen
    · obtain ⟨-, -, rfl⟩ := List.mem_map.mp new
      obtain ⟨entry, done, same, -⟩ := linked.orderly.explains.answered _ _ seen
      exact fresh (List.mem_map.mpr ⟨entry, done, same⟩)
  · intro other member
    rw [history_perform, performed_perform, List.map_append, List.map_singleton]
    have old := linked.pending other (List.mem_of_mem_eraseP member)
    refine ⟨old.1, fun known => ?_⟩
    rcases List.mem_append.mp known with before | now
    · exact old.2 before
    · have same : other.id = call.id := List.mem_singleton.mp now
      have listed : other ∈ front ++ back := left ▸ member
      exact alone (by rw [← List.map_append, ← same]; exact List.mem_map_of_mem listed)
  · rw [left, List.map_append]
    exact once
  · intro id op member
    rw [history_perform] at member
    exact linked.below id op member

theorem arrive_linked (pool : Pool all) (linked : Linked all world service trace) {connId : UInt16}
    (unmixed : Unmixed world (.arrive connId)) (stepped : world.arrive connId = some (next, now)) :
    ∃ after, Linked all next after (trace ++ now) := by
  unfold World.arrive at stepped
  obtain ⟨call, found, stepped⟩ := Option.bind_eq_some_iff.mp stepped
  obtain ⟨⟨sys, outputs⟩, taken, stepped⟩ := Option.bind_eq_some_iff.mp stepped
  obtain ⟨rfl, rfl⟩ := Prod.mk.inj (Option.some.inj stepped)
  obtain ⟨⟨posted, entries, lost, inv⟩, tracked⟩ := linked.tracking
  obtain ⟨posted', entries', lost', kept, did⟩ := step_cases pool inv taken
  obtain ⟨width, serves⟩ := linked.serves
  have tracking : Tracking all sys :=
    ⟨⟨posted', entries', lost', kept⟩, step_tracked inv tracked did (unmixed call found)⟩
  obtain ⟨store, replied, serving⟩ := reply_serves serves call.data call.byteLen.toNat
  obtain ⟨sized, small⟩ := serve_sized serves call.data call.byteLen.toNat
  obtain ⟨ctx, known, view⟩ := request_view pool inv replied taken
  have grown := congrArg (List.map Message.content) (request_balanced pool inv tracked view)
  have flies : contents sys = contents world.sys ++
      (sys.sends.drop world.sys.sends.length).map fun send => contentOf sys.server send.wr := by
    simpa [inFlight, contents, messageOf, Function.comp_def] using grown
  cases view with
  | short few after handled same =>
    have none_ : sys.sends.drop world.sys.sends.length = [] := by
      rw [handled.sends, List.drop_left]
      rfl
    rw [none_, List.map_nil, List.append_nil] at flies
    rw [none_, if_pos few, List.append_nil, List.map_nil, List.append_nil]
    exact ⟨service, linked.skipped tracking found ⟨width, handled.store ▸ serves⟩ flies⟩
  | dropped long free response other again after handled counted =>
    obtain ⟨-, rfl⟩ := Prod.mk.inj (Option.some.inj (replied.symm.trans again))
    have none_ : sys.sends.drop world.sys.sends.length = [] := by
      rw [handled.sends, List.drop_left]
      rfl
    rw [none_, List.map_nil] at flies
    have done := linked.performs tracking found ⟨width, by rw [handled.store]; exact serving⟩ flies
      (fun _ none_ => absurd none_ List.not_mem_nil) (Nat.zero_le _)
    rw [none_, if_neg (Nat.not_lt.mpr long), replied, Option.toList_some, List.map_singleton]
    exact ⟨_, done⟩
  | answered long buf rest free response other again after handled counted =>
    obtain ⟨rfl, rfl⟩ := Prod.mk.inj (Option.some.inj (replied.symm.trans again))
    have member : buf ∈ all := inv.sound.shared.mem_iff.mp (by simp [free])
    have content := answered_content pool member handled (requestOf ctx call.data) sized small
    have news : sys.sends.drop world.sys.sends.length =
        if ctx.conn.qp.device.nextAnswer.isNone then [⟨connId, responseWr ctx (requestOf ctx call.data) buf
          (service.serve call.data call.byteLen.toNat).1, requestOf ctx call.data⟩] else [] := by
      rw [handled.sends, List.drop_left]
      cases ctx.conn.qp.device.nextAnswer.isNone <;> rfl
    have answers : ∀ one ∈ (sys.sends.drop world.sys.sends.length).map fun send => contentOf sys.server send.wr,
        one = some (spec service call.operation).1 := by
      intro one listed
      obtain ⟨send, sending, rfl⟩ := List.mem_map.mp listed
      rw [news] at sending
      split at sending
      · obtain rfl := List.mem_singleton.mp sending
        exact content
      · cases sending
    have few : ((sys.sends.drop world.sys.sends.length).map fun send => contentOf sys.server send.wr).length ≤ 1 := by
      rw [List.length_map, news]
      split
      · exact Nat.le_refl _
      · exact Nat.zero_le _
    have done := linked.performs tracking found ⟨width, by rw [handled.store]; exact serving⟩ flies answers few
    rw [List.map_map] at done
    rw [if_neg (Nat.not_lt.mpr long), replied, Option.toList_some, List.map_singleton]
    exact ⟨_, done⟩

theorem step_linked (pool : Pool all) (linked : Linked all world service trace) {event : Event}
    (unmixed : Unmixed world event) (stepped : step world event = some (next, now)) :
    ∃ after, Linked all next after (trace ++ now) := by
  cases event with
  | accept connId config sendAnswer recvAnswer => exact ⟨service, accept_linked pool linked stepped⟩
  | invoke connId data byteLen => exact ⟨service, invoke_linked linked stepped⟩
  | arrive connId => exact arrive_linked pool linked unmixed stepped
  | deliver index => exact ⟨service, deliver_linked pool linked stepped⟩

end Steps

/-- In every run of the server and its clients, from a pool of 512 buffers in one block of memory, in which no request is
    answered while a response of its connection with the same number is in flight, what the clients see is what they
    would see of one map with room for 16384 keys that takes their requests one after the other. -/
theorem sessions_linearizable {base : UInt64} {lkey : UInt32} (null : base ≠ 0)
    (fits : base.toNat + 512 * MAX_REQUEST_SIZE ≤ 2 ^ 64) {storage : Nat → UInt8} {store : KVStore}
    (initialized : KVStore.new.initializeWith {} (some storage) = some (true, store)) {events : List Event}
    {last : World} {trace : List SessionAct}
    (ran : run step (.new store (poolBuffers base lkey)) events = some (last, trace))
    (unmixed : Meets step Unmixed (.new store (poolBuffers base lkey)) events) :
    Linearizable spec emptyService (history trace) := by
  have pool := poolBuffers_pool lkey null fits
  obtain ⟨width, serves⟩ := initialize_serves initialized
  have inv := new_inv serves.consistent (poolBuffers base lkey)
  have start : ∃ service, Linked (poolBuffers base lkey) (.new store (poolBuffers base lkey)) service [] :=
    ⟨emptyService, ⟨⟨[], [], [], inv⟩, List.nodup_nil, by simp [World.new, System.new]⟩, ⟨width, serves⟩, .start, .nil,
      List.nodup_nil, by simp [World.new], by simp [World.new], List.nodup_nil,
      fun _ _ none_ => absurd none_ List.not_mem_nil⟩
  have preserves : ∀ world before event next now, (∃ service, Linked (poolBuffers base lkey) world service before) →
      Unmixed world event → step world event = some (next, now) →
      ∃ service, Linked (poolBuffers base lkey) next service (before ++ now) := by
    rintro world before event next now ⟨service, linked⟩ unmixed stepped
    exact step_linked pool linked unmixed stepped
  obtain ⟨service, linked⟩ := history_of_run preserves start unmixed ran
  rw [List.nil_append] at linked
  exact linearizable_of_orderly linked.orderly

/-- A request reaches the server when no response of its connection is in flight. -/
def waits (world : World) : Event → Bool
  | .arrive connId => world.sys.sends.all fun send => send.connId != connId
  | _ => true

theorem waits_unmixed {world : World} {event : Event} (waits : waits world event = true) : Unmixed world event := by
  cases event with
  | arrive connId =>
    intro call _
    have alone : waiting world.sys (.request connId call.data call.byteLen) = true := waits
    exact waiting_numbered alone
  | _ => trivial

/-- A PUT and a GET of two clients that overlap, and another GET. -/
def twoClients : List Event :=
  [.accept 7 {} (fun _ => none) (fun _ => none), .accept 9 {} (fun _ => none) (fun _ => none),
    .invoke 7 storesFive 4112, .invoke 9 getsFive 16, .arrive 9, .arrive 7, .deliver 0, .invoke 9 getsFive 16,
    .arrive 9, .deliver 1, .deliver 0]

/-- The store that the server starts with. -/
def firstStore : Option KVStore :=
  match KVStore.new.initializeWith {} (some fun _ => 0) with
  | some (true, store) => some store
  | _ => none

theorem firstStore_some {store : KVStore} (made : firstStore = some store) :
    KVStore.new.initializeWith {} (some fun _ => 0) = some (true, store) := by
  unfold firstStore at made
  split at made
  · rename_i initialized
    obtain rfl := Option.some.inj made
    exact initialized
  · cases made

theorem twoClients_linearizable : ∃ store last trace,
    run step (.new store (poolBuffers 65536 7)) twoClients = some (last, trace) ∧
      Linearizable spec emptyService (history trace) := by
  have defined : (firstStore.map fun store => (run step (.new store (poolBuffers 65536 7)) twoClients).isSome &&
      checks step waits (.new store (poolBuffers 65536 7)) twoClients) = some true := by decide +kernel
  obtain ⟨store, made, both⟩ := Option.map_eq_some_iff.mp defined
  rw [Bool.and_eq_true] at both
  obtain ⟨⟨last, trace⟩, ran⟩ := Option.isSome_iff_exists.mp both.1
  have unmixed := meets_of_checks (fun _ _ => waits_unmixed) both.2
  exact ⟨store, last, trace, ran, sessions_linearizable (by decide) (by decide) (firstStore_some made) ran unmixed⟩

end Rdma.KvSessions
