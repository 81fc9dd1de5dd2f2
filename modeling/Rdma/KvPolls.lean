import Rdma.KvLoops

/-!
Runs of the event loop. A batch is dispatched to its end and `Poll` goes through
(`poll_matched`), and what comes from outside in between changes neither what is
answered nor the order (`step_matched`). So the loop does what the server does
that handles each completion at once (`loop_refines`), if the pool is a correct
one and no connection is established under the id of one whose completions are
still queued.
-/
namespace Rdma.KvPolls
open Rdma.Types Rdma.Verbs Rdma.WrIds Rdma.Runs Rdma.ConnectionManagers
open Rdma.HandshakeMessages (Greeting)
open Rdma.KvAcceptances
open Rdma.KvProtocols hiding Status
open Rdma.KvStores Rdma.KvServers Rdma.Observations Rdma.KvServices
open Rdma.KvBuffers hiding step Event Inv
open Rdma.KvFailures (Node Serving)
open Rdma.KvLoops

/-! ### Batches -/

section Batches
variable {all : List Buffer} {loop last : Loop} {batch rest : List Cqe} {node final : Node} {registered : List UInt16}
  {seen later : List Reply}

theorem matched_append {requests : List KvFailures.Event} {came between : UInt16 → List Message}
    {steady calm : UInt16 → Prop}
    (ran : run (observe KvFailures.step KvFailures.replies) node requests = some (final, seen))
    (before : ∀ connId, (asked connId requests ++ between connId).Sublist (came connId) ∧
      (steady connId → calm connId ∧ asked connId requests ++ between connId = came connId))
    (after : Matched all final later last rest between calm) :
    Matched all node (seen ++ later) last rest came steady := by
  obtain ⟨others, ends, goes, inv, conserves⟩ := after
  refine ⟨requests ++ others, ends, run_append_some.mpr ⟨_, _, _, ran, goes, rfl⟩, inv, fun connId => ?_⟩
  obtain ⟨ordered, whole⟩ := before connId
  obtain ⟨ordered', whole'⟩ := conserves connId
  have both : asked connId (requests ++ others) = asked connId requests ++ asked connId others :=
    List.filterMap_append ..
  refine ⟨?_, fun calm => ?_⟩
  · rw [both, List.append_assoc]
    exact (ordered'.append_left _).trans ordered
  · obtain ⟨here, same⟩ := whole calm
    obtain ⟨there, same'⟩ := whole' here
    exact ⟨there, by rw [both, List.append_assoc, same', same]⟩

/-- A batch is dispatched to its end. -/
theorem dispatchBatch_matched (pool : Pool all) (inv : Inv all loop batch node) :
    ∃ last seen, loop.dispatchBatch batch = some (last, seen) ∧
      Matched all node seen last [] (pending · loop batch) (Steady · loop batch) := by
  induction batch generalizing loop node with
  | nil => exact ⟨loop, [], rfl, [], node, rfl, inv, fun connId => ⟨.refl _, fun steady => ⟨steady, rfl⟩⟩⟩
  | cons cqe batch ih =>
    obtain ⟨next, dispatched, requests, middle, ran, inv', conserves⟩ := dispatch_matched pool inv
    obtain ⟨last, later, batched, matched⟩ := ih inv'
    refine ⟨last, loop.seen cqe next ++ later, ?_,
      matched_append ran (fun connId => ⟨(conserves connId).ordered, (conserves connId).whole⟩) matched⟩
    rw [Loop.dispatchBatch, dispatched, Option.bind_eq_bind, Option.bind_some, batched]
    rfl

/-- The same completions in another order, but for the messages of each connection. -/
theorem requeue_follows (follows : Follows registered loop batch node) {sendCq recvCq : List Cqe}
    (perm : (rest ++ (sendCq ++ recvCq)).Perm (batch ++ (loop.sendCq ++ loop.recvCq)))
    (ordered : ∀ connId, arrivals connId (rest ++ (sendCq ++ recvCq)) =
      arrivals connId (batch ++ (loop.sendCq ++ loop.recvCq)))
    (sendOnly : ∀ connId, arrivals connId sendCq = []) :
    Follows registered { loop with sendCq, recvCq } rest node := by
  obtain ⟨gone, sends⟩ := follows.sends
  have same : (queuedSends (rest ++ (sendCq ++ recvCq))).Perm (queuedSends (batch ++ (loop.sendCq ++ loop.recvCq))) :=
    perm.filterMap _
  exact { follows with
    sends := ⟨gone, sends.trans (same.symm.append_right _)⟩
    receives := fun connId live => (follows.receives connId live).trans (by rw [ordered])
    sendOnly
    named := fun cqe listed => follows.named cqe (perm.mem_iff.mp listed) }

theorem arrivals_sublist {connId : UInt16} (none_ : arrivals connId batch = []) (sub : rest.Sublist batch) :
    arrivals connId rest = [] := by
  have fewer : (arrivals connId rest).Sublist (arrivals connId batch) := sub.filterMap _
  rw [none_] at fewer
  exact List.sublist_nil.mp fewer

/-- `Poll` goes through, with both of its batches. -/
theorem poll_matched (pool : Pool all) (inv : Inv all loop [] node) (batchSize : Nat) :
    ∃ last seen, loop.poll batchSize = some (last, seen) ∧
      Matched all node seen last [] (pending · loop []) (Steady · loop []) := by
  obtain ⟨⟨registered, follows⟩, serving⟩ := inv
  have whole : loop.sendCq.take batchSize ++ (loop.sendCq.drop batchSize ++ loop.recvCq) =
      [] ++ (loop.sendCq ++ loop.recvCq) := by
    rw [← List.append_assoc, List.take_append_drop, List.nil_append]
  have first : Follows registered { loop with sendCq := loop.sendCq.drop batchSize } (loop.sendCq.take batchSize)
      node := by
    refine requeue_follows follows (whole ▸ .refl _) (fun connId => by rw [whole]) fun connId => ?_
    exact arrivals_sublist (follows.sendOnly connId) (List.drop_sublist ..)
  obtain ⟨middle, seen, sent, requests, between, ran, ⟨⟨registered', follows'⟩, serving'⟩, conserves⟩ :=
    dispatchBatch_matched pool ⟨⟨registered, first⟩, serving⟩
  have moved : (middle.recvCq.take batchSize ++ (middle.sendCq ++ middle.recvCq.drop batchSize)).Perm
      ([] ++ (middle.sendCq ++ middle.recvCq)) := by
    refine (List.perm_append_comm_assoc ..).trans ?_
    rw [List.take_append_drop, List.nil_append]
  have second : Follows registered' { middle with recvCq := middle.recvCq.drop batchSize }
      (middle.recvCq.take batchSize) between := by
    refine requeue_follows follows' moved (fun connId => ?_) follows'.sendOnly
    rw [arrivals_append, arrivals_append, follows'.sendOnly, List.nil_append, ← arrivals_append, List.take_append_drop,
      List.nil_append, arrivals_append, follows'.sendOnly, List.nil_append]
  obtain ⟨last, later, received, matched⟩ := dispatchBatch_matched pool ⟨⟨registered', second⟩, serving'⟩
  refine ⟨last, seen ++ later, ?_, matched_append ran (fun connId => ?_) matched⟩
  · simp only [Loop.poll, sent, received, Option.bind_eq_bind, Option.bind_some]
  have silent : messages connId middle.sendCq = [] := messages_none (follows'.sendOnly connId)
  have here : pending connId { loop with sendCq := loop.sendCq.drop batchSize } (loop.sendCq.take batchSize) =
      pending connId loop [] := congrArg (messages connId) whole
  have there : pending connId { middle with recvCq := middle.recvCq.drop batchSize } (middle.recvCq.take batchSize) =
      pending connId middle [] := by
    rw [pending, pending, messages_append, messages_append, silent, List.nil_append, ← messages_append,
      List.take_append_drop, List.nil_append, messages_append, silent, List.nil_append]
  obtain ⟨ordered, calm⟩ := conserves connId
  dsimp only at ordered calm
  rw [here] at ordered calm
  rw [there]
  refine ⟨ordered, fun steady => ?_⟩
  obtain ⟨kept, same⟩ := calm (steady.requeue (fun cqe listed => whole ▸ listed) (fun some_ => here ▸ some_) id)
  exact ⟨kept.requeue (fun cqe listed => moved.mem_iff.mp listed) (fun some_ => there ▸ some_) id, same⟩

end Batches

/-! ### What comes from outside -/

section Outside
variable {all : List Buffer} {loop next : Loop} {node : Node} {registered : List UInt16} {connId : UInt16}
  {queued : List Cqe}

theorem named_grow {cqe : Cqe} (named : Named registered cqe) (connId : UInt16) : Named (connId :: registered) cqe := by
  cases cqe with
  | received one receive data byteLen => exact named.imp_left (List.mem_cons_of_mem _)
  | sent send => exact named.imp_left (List.mem_cons_of_mem _)
  | failed wc error => trivial

/-- No message of the connection is queued. -/
theorem arrivals_none (named : ∀ cqe ∈ queued, Named registered cqe)
    (clean : ∀ cqe ∈ queued, getConnId cqe.wc.wrId ≠ connId) : arrivals connId queued = [] := by
  refine List.filterMap_eq_nil_iff.mpr fun cqe listed => ?_
  cases cqe with
  | received one receive data byteLen =>
    obtain ⟨-, buf, rfl⟩ := named _ listed
    have own : getConnId (recvId one buf) = one := by rw [recvId, getConnId_encode]
    exact if_neg fun same => clean _ listed (own.trans same)
  | sent send => rfl
  | failed wc error => rfl

/-- Of the same server the connection takes the same receives. -/
theorem accept_same {sys other : System} (same : sys.server = other.server) (ctx : ConnectionContext) :
    ∃ (server : KVServer) (recvs : List RecvWr),
      sys.accept ctx = ⟨server, sys.sends, sys.receives ++ recvs.map (ctx.conn.connId, ·)⟩ ∧
      other.accept ctx = ⟨server, other.sends, other.receives ++ recvs.map (ctx.conn.connId, ·)⟩ := by
  let posts := sys.server.postRecvBuffers ctx 32
  refine ⟨posts.1.withContext ctx.conn.connId posts.2, newReceives ctx posts.2, rfl, ?_⟩
  rw [System.accept, ← same]

/-- Both accept the connection, under an id that the dispatcher does not take for an empty place. -/
theorem established_follows (follows : Follows registered loop [] node) (manager : ConnectionManager)
    (ctx : ConnectionContext) (fresh : node.sys.server.connContexts ctx.conn.connId = none)
    (named : ctx.conn.connId ≠ 0xFFFF)
    (clean : ∀ cqe ∈ loop.recvCq, getConnId cqe.wc.wrId ≠ ctx.conn.connId) :
    Follows (ctx.conn.connId :: registered)
      { loop with
        node := ⟨manager, loop.node.sys.accept ctx⟩
        dispatcher := loop.dispatcher.registerConnection ctx.conn.connId self (some completionHandler) }
      [] ⟨manager, node.sys.accept ctx⟩ := by
  obtain ⟨after, contexts⟩ := KvFailures.accept_contexts node.sys ctx
  obtain ⟨idle, empty⟩ := follows.dead _ fresh
  have quiet : arrivals ctx.conn.connId ([] ++ (loop.sendCq ++ loop.recvCq)) = [] := by
    rw [List.nil_append, arrivals_append, follows.sendOnly, List.nil_append]
    refine arrivals_none (fun cqe listed => follows.named cqe ?_) clean
    exact List.mem_append_right _ (List.mem_append_right _ listed)
  obtain ⟨server, recvs, here, there⟩ := accept_same follows.server ctx
  rw [here] at contexts
  rw [here, there]
  have apart : ∀ other, other ≠ ctx.conn.connId → server.connContexts other = node.sys.server.connContexts other := by
    intro other mine
    exact (congrFun contexts other).trans (Function.update_of_ne mine ..)
  have lives : server.connContexts ctx.conn.connId ≠ none := by
    rw [show server.connContexts = _ from contexts, Function.update_self]
    exact Option.some_ne_none _
  exact {
    refines := register_refines follows.refines named
    issued := List.not_mem_cons_of_ne_of_not_mem named.symm follows.issued
    manager := rfl
    server := rfl
    sends := follows.sends
    receives := fun other live => by
      rw [List.filter_append, List.filter_append, filter_new]
      by_cases mine : other = ctx.conn.connId
      · rw [mine, idle, empty, quiet]
        rfl
      · rw [if_neg mine, List.append_nil, List.append_nil]
        exact follows.receives other (by rwa [← apart other mine])
    dead := fun other gone => by
      have mine : other ≠ ctx.conn.connId := by
        rintro rfl
        exact lives gone
      rw [List.filter_append, List.filter_append, filter_new, if_neg mine, List.append_nil, List.append_nil]
      exact follows.dead other (by rwa [← apart other mine])
    sendOnly := follows.sendOnly
    named := fun cqe listed => named_grow (follows.named cqe listed) _
    live := fun other live => by
      by_cases mine : other = ctx.conn.connId
      · exact mine ▸ List.mem_cons_self
      · exact List.mem_cons_of_mem _ (follows.live other (by rwa [← apart other mine]))
    posted := fun send listed => List.mem_cons_of_mem _ (follows.posted send listed) }

/-- The queues and what is posted are left alone where no connection is established. -/
theorem withManager_follows (follows : Follows registered loop [] node) (manager : ConnectionManager) :
    Follows registered { loop with node := { loop.node with manager } } [] { node with manager } :=
  { follows with manager := rfl }

theorem accept_matched (pool : Pool all) (inv : Inv all loop [] node) {attempt : Attempt} {received : Option Greeting}
    (done : loop.accept attempt received = some next)
    (clean : ∀ cqe ∈ loop.recvCq, loop.node.sys.server.connContexts (getConnId cqe.wc.wrId) = none →
      next.node.sys.server.connContexts (getConnId cqe.wc.wrId) = none) :
    Matched all node [] next [] (pending · loop []) (Steady · loop []) := by
  obtain ⟨⟨registered, follows⟩, serving⟩ := inv
  obtain ⟨service, posted, entries, lost, running⟩ := id serving
  obtain ⟨other, accepts, -, -⟩ := KvFailures.accept_cases running.agreed attempt received
  have taken : KvFailures.step node (.accept attempt received) = some (other, []) := by
    rw [KvFailures.step, accepts]
    rfl
  suffices follows' : (∃ registered, Follows registered next [] other) ∧ next.sendCq = loop.sendCq ∧
      next.recvCq = loop.recvCq ∧ ∀ connId, loop.node.sys.server.connContexts connId ≠ none →
        next.node.sys.server.connContexts connId ≠ none by
    obtain ⟨follows', sendCq, recvCq, alive⟩ := follows'
    refine ⟨[.accept attempt received], other, run_single taken, ⟨follows', serving.step pool taken⟩, fun connId => ?_⟩
    exact conserves_kept rfl (by rw [sendCq, recvCq]) fun steady known => alive connId known
  obtain ⟨result, offers, case⟩ := offer_cases running.agreed.kept attempt
  unfold Node.acceptConnections at accepts
  unfold Loop.accept at done
  rw [← follows.manager] at done
  rw [offers] at accepts done
  cases case with
  | declined same =>
    obtain rfl := Option.some.inj accepts
    obtain rfl := Option.some.inj done
    exact ⟨⟨registered, withManager_follows follows _⟩, rfl, rfl, fun _ => id⟩
  | @offered middle connId qpParams adds params =>
    let offered : Offered := ⟨connId, attempt.host (attempt.fresh connId), { qpParams, connId, version := 1 }⟩
    have alive : middle.getConnection connId ≠ none := fun none_ => ((adds.2.2.2 connId).mp none_).1 rfl
    have concludes : Concludes middle offered received (conclude middle offered received) :=
      conclude_cases adds.1 alive rfl received
    simp only [Option.bind_eq_bind, Option.bind_some] at accepts done
    generalize conclude middle offered received = concluded at accepts done concludes
    cases concludes with
    | refused drops =>
      obtain rfl := Option.some.inj accepts
      obtain rfl := Option.some.inj done
      exact ⟨⟨registered, withManager_follows follows _⟩, rfl, rfl, fun _ => id⟩
    | @established after remote came ok same =>
      have conn := (connect_programmed ok).2
      dsimp only at conn accepts done
      rw [conn] at accepts done
      obtain rfl := Option.some.inj accepts
      obtain rfl := Option.some.inj done
      have fresh := (running.agreed.same connId).mp adds.2.2.1
      obtain ⟨conn', found⟩ := Option.ne_none_iff_exists'.mp alive
      have inside := (ConnectionIds.getConnection_some.mp found).1
      rw [adds.1.size, adds.2.1, running.agreed.config] at inside
      have named : connId ≠ 0xFFFF := by
        rintro rfl
        exact absurd inside (by decide)
      let ctx := established connId {} attempt.sendAnswer attempt.recvAnswer
      obtain ⟨ctx', contexts⟩ := KvFailures.accept_contexts loop.node.sys ctx
      have alive : ∀ other, (loop.node.sys.accept ctx).server.connContexts other ≠ none ↔
          other = connId ∨ loop.node.sys.server.connContexts other ≠ none := by
        intro other
        rw [contexts, show ctx.conn.connId = connId from rfl]
        by_cases mine : other = connId
        · simp [mine]
        · simp [mine]
      refine ⟨⟨connId :: registered, established_follows follows after ctx fresh named ?_⟩, rfl, rfl,
        fun other known => (alive other).mpr (.inr known)⟩
      intro cqe listed same
      change getConnId cqe.wc.wrId = connId at same
      exact (alive _).mpr (.inl same) (clean cqe listed (same ▸ follows.server ▸ fresh))

/-- A message takes the first buffer of its connection from those without one. -/
theorem arrive_matched (inv : Inv all loop [] node) {data : Nat → UInt8} {byteLen : UInt32}
    (done : loop.arrive connId data byteLen = some next) :
    Matched all node [] next [] (fun other => pending other loop [] ++ arrived other [.arrive connId data byteLen])
      (Steady · loop []) := by
  obtain ⟨⟨registered, follows⟩, serving⟩ := inv
  obtain ⟨service, posted, entries, lost, running⟩ := id serving
  obtain ⟨⟨one, wr⟩, found, same⟩ := Option.bind_eq_some_iff.mp done
  obtain rfl := Option.some.inj same
  obtain rfl : one = connId := by simpa using List.find?_some found
  obtain ⟨rest, queue⟩ : ∃ rest, loop.node.sys.receives.filter (·.1 = one) = (one, wr) :: rest := by
    rw [← List.head?_filter] at found
    exact List.head?_eq_some_iff.mp found
  obtain ⟨-, left⟩ := filter_taken queue
  have alive : node.sys.server.connContexts one ≠ none := by
    intro dead
    rw [(follows.dead one dead).2] at queue
    cases queue
  have whole := follows.receives one alive
  rw [queue] at whole
  have listed : (one, wr) ∈ node.sys.receives.filter (·.1 = one) := by simp [whole]
  obtain ⟨item, -, made⟩ := List.mem_map.mp (running.inv.receives.mem_iff.mp (List.mem_of_mem_filter listed))
  obtain ⟨rfl, rfl⟩ := Prod.mk.inj made
  let message : Cqe := .received item.1 (recvWr item.1 item.2) data byteLen
  have longer : [] ++ (loop.sendCq ++ (loop.recvCq ++ [message])) =
      [] ++ (loop.sendCq ++ loop.recvCq) ++ [message] := by
    simp only [List.nil_append, List.append_assoc]
  refine ⟨[], node, rfl, ⟨⟨registered, ?_⟩, serving⟩, fun other => ?_⟩
  swap
  · have more : pending other
        { loop with
          node := { loop.node with sys := { loop.node.sys with
            receives := loop.node.sys.receives.erase (item.1, recvWr item.1 item.2) } }
          recvCq := loop.recvCq ++ [message] } [] =
          pending other loop [] ++ arrived other [.arrive item.1 data byteLen] := by
      rw [pending, longer, messages_append]
      rfl
    refine ⟨more ▸ .refl _, fun steady => ⟨⟨fun wc error listed => ?_, fun some_ => ?_⟩, more⟩⟩
    · rw [longer] at listed
      rcases List.mem_append.mp listed with before | new
      · exact steady.unfailed wc error before
      · exact absurd (List.mem_singleton.mp new) (by simp [message])
    · by_cases mine : item.1 = other
      · rw [← mine]
        exact follows.server ▸ alive
      · refine steady.alive ?_
        rwa [more, show arrived other [.arrive item.1 data byteLen] = [] by simp [arrived, mine],
          List.append_nil] at some_
  exact { follows with
    sends := by
      rw [longer, queuedSends_append, show queuedSends [message] = [] from rfl, List.append_nil]
      exact follows.sends
    receives := fun other live => by
      rw [longer, arrivals_append, arrivals_received, left, follows.receives other live, List.append_assoc]
      by_cases mine : other = item.1
      · rw [mine, queue, if_pos rfl, if_pos rfl]
        rfl
      · rw [if_neg (Ne.symm mine), if_neg mine]
        rfl
    dead := fun other gone => by
      have apart : other ≠ item.1 := by
        rintro rfl
        exact alive gone
      rw [left, if_neg apart]
      exact follows.dead other gone
    named := fun cqe listed => by
      rw [longer] at listed
      rcases List.mem_append.mp listed with before | new
      · exact follows.named cqe before
      · obtain rfl := List.mem_singleton.mp new
        exact ⟨follows.live _ alive, item.2, rfl⟩
    posted := follows.posted }

/-- A completion that is not a message's is queued. -/
theorem put_follows (follows : Follows registered loop [] node) {cqe : Cqe} {sendCq recvCq : List Cqe}
    {sends : List InFlight} (perm : (sendCq ++ recvCq).Perm (cqe :: (loop.sendCq ++ loop.recvCq)))
    (ordered : ∀ connId, arrivals connId (sendCq ++ recvCq) = arrivals connId (loop.sendCq ++ loop.recvCq))
    (sendOnly : ∀ connId, arrivals connId sendCq = []) (named : Named registered cqe)
    (moved : loop.node.sys.sends.Perm (queuedSends [cqe] ++ sends)) :
    Follows registered { loop with node := { loop.node with sys := { loop.node.sys with sends } }, sendCq, recvCq } []
      node := by
  obtain ⟨gone, all⟩ := follows.sends
  have queued : (queuedSends (sendCq ++ recvCq)).Perm
      (queuedSends [cqe] ++ queuedSends (loop.sendCq ++ loop.recvCq)) := by
    rw [← queuedSends_append]
    exact perm.filterMap _
  exact { follows with
    sends := by
      refine ⟨gone, all.trans ?_⟩
      have there := (moved.append_right gone).append_left (queuedSends (loop.sendCq ++ loop.recvCq))
      refine there.trans ?_
      rw [List.append_assoc, ← List.append_assoc]
      exact .append_right _ (List.perm_append_comm.trans queued.symm)
    receives := fun connId live => (follows.receives connId live).trans (congrArg (· ++ _) (ordered connId).symm)
    sendOnly
    named := fun one listed => by
      rcases List.mem_cons.mp (perm.mem_iff.mp listed) with rfl | before
      · exact named
      · exact follows.named one before
    posted := fun send listed => follows.posted send (moved.mem_iff.mpr (List.mem_append_right _ listed)) }

/-- A completion is put at the end of one of the queues. -/
theorem sent_follows (follows : Follows registered loop [] node) {cqe : Cqe} {sends : List InFlight}
    (silent : ∀ connId, arrivals connId [cqe] = []) (named : Named registered cqe)
    (moved : loop.node.sys.sends.Perm (queuedSends [cqe] ++ sends)) :
    Follows registered { loop with
      node := { loop.node with sys := { loop.node.sys with sends } }
      sendCq := loop.sendCq ++ [cqe] } [] node := by
  refine put_follows follows ?_ (fun connId => ?_) (fun connId => ?_) named moved
  · rw [List.append_assoc]
    exact List.perm_middle
  · rw [arrivals_append, arrivals_append, silent, List.append_nil, ← arrivals_append]
  · rw [arrivals_append, follows.sendOnly, silent, List.append_nil]

/-- Another completion is queued that is not a message's. -/
theorem conserves_put {cqe : Cqe} {steady : Prop} (same : pending connId next [] = pending connId loop [])
    (listed : ∀ one ∈ [] ++ (next.sendCq ++ next.recvCq), one = cqe ∨ one ∈ [] ++ (loop.sendCq ++ loop.recvCq))
    (calm : steady → Steady connId loop [] ∧ ∀ wc error, cqe = .failed wc error → getConnId wc.wrId ≠ connId)
    (server : next.node.sys.server = loop.node.sys.server) :
    Conserves connId (pending connId loop []) steady [] next [] := by
  refine ⟨same ▸ .refl _, fun now => ?_⟩
  obtain ⟨before, apart⟩ := calm now
  refine ⟨⟨fun wc error there => ?_, fun some_ => ?_⟩, same⟩
  · rcases listed _ there with new | old
    · exact apart wc error new.symm
    · exact before.unfailed wc error old
  · rw [server]
    exact before.alive (same ▸ some_)

theorem conserves_sent {cqe : Cqe} {sends : List InFlight} {steady : Prop} (silent : messages connId [cqe] = [])
    (calm : steady → Steady connId loop [] ∧ ∀ wc error, cqe = .failed wc error → getConnId wc.wrId ≠ connId) :
    Conserves connId (pending connId loop []) steady []
      { loop with
        node := { loop.node with sys := { loop.node.sys with sends } }
        sendCq := loop.sendCq ++ [cqe] } [] := by
  refine conserves_put ?_ (fun one listed => ?_) calm rfl
  · rw [pending, pending, messages_append, messages_append, messages_append, silent, List.append_nil, messages_append,
      messages_append]
  · simp only [List.nil_append, List.mem_append, List.mem_singleton] at listed ⊢
    rcases listed with (old | new) | old
    · exact .inr (.inl old)
    · exact .inl new
    · exact .inr (.inr old)

/-- A send that is done is queued if it was signaled. -/
theorem complete_matched (inv : Inv all loop [] node) {index : Nat} (done : loop.complete index = some next) :
    Matched all node [] next [] (pending · loop []) (Steady · loop []) := by
  obtain ⟨⟨registered, follows⟩, serving⟩ := inv
  obtain ⟨service, posted, entries, lost, running⟩ := id serving
  obtain ⟨send, found, same⟩ := Option.bind_eq_some_iff.mp done
  obtain rfl := Option.some.inj same
  obtain ⟨gone, sends⟩ := follows.sends
  obtain ⟨inside, same⟩ := List.getElem?_eq_some_iff.mp found
  have left := List.getElem_cons_eraseIdx_perm inside
  rw [same] at left
  have listed : send ∈ loop.node.sys.sends := List.mem_of_getElem? found
  refine ⟨[], node, rfl, ⟨⟨registered, ?_⟩, serving⟩, fun connId => ?_⟩
  swap
  · by_cases signaled : send.wr.signaled = true
    · rw [if_pos signaled]
      exact conserves_sent rfl (fun steady => ⟨steady, fun _ _ same => by cases same⟩)
    · rw [if_neg signaled]
      exact conserves_kept rfl rfl fun _ alive => alive
  by_cases signaled : send.wr.signaled = true
  · rw [if_pos signaled]
    have numbered := running.inv.numbered send (sends.mem_iff.mpr (by simp [listed]))
    exact sent_follows follows (fun _ => rfl) ⟨follows.posted send listed, numbered, signaled⟩ left.symm
  · rw [if_neg signaled]
    refine { follows with
      sends := ⟨send :: gone, sends.trans (.append_left _ ?_)⟩
      posted := fun other there => follows.posted other ((List.eraseIdx_sublist ..).subset there) }
    exact (left.symm.append_right gone).trans List.perm_middle.symm

theorem fail_matched (inv : Inv all loop [] node) (onSendCq : Bool) {wc : Wc} (error : wc.status ≠ 0) :
    Matched all node [] (loop.fail onSendCq (.failed wc error)) [] (pending · loop [])
      (fun connId => Steady connId loop [] ∧ getConnId wc.wrId ≠ connId) := by
  obtain ⟨⟨registered, follows⟩, serving⟩ := inv
  refine ⟨[], node, rfl, ⟨⟨registered, ?_⟩, serving⟩, fun connId => ?_⟩
  swap
  · have calm : Steady connId loop [] ∧ getConnId wc.wrId ≠ connId → Steady connId loop [] ∧
        ∀ other error', Cqe.failed wc error = .failed other error' → getConnId other.wrId ≠ connId := by
      rintro ⟨steady, apart⟩
      refine ⟨steady, fun other error' same => ?_⟩
      obtain ⟨rfl, -⟩ := Cqe.failed.inj same
      exact apart
    cases onSendCq with
    | true => exact conserves_sent rfl calm
    | false =>
      have longer : (loop.fail false (.failed wc error)).recvCq = loop.recvCq ++ [.failed wc error] := rfl
      refine conserves_put ?_ (fun one listed => ?_) calm rfl
      · rw [pending, longer, ← List.append_assoc, ← List.append_assoc, messages_append]
        exact List.append_nil _
      · rw [longer, ← List.append_assoc, ← List.append_assoc] at listed
        rcases List.mem_append.mp listed with old | new
        · exact .inr old
        · exact .inl (List.mem_singleton.mp new)
  have same : loop.node.sys.sends.Perm (queuedSends [.failed wc error] ++ loop.node.sys.sends) := .refl _
  cases onSendCq with
  | true => exact sent_follows follows (fun _ => rfl) trivial same
  | false =>
    have named : Named registered (.failed wc error) := trivial
    refine put_follows follows ?_ (fun connId => ?_) follows.sendOnly named same
    · rw [← List.append_assoc]
      exact List.perm_append_singleton ..
    · rw [← List.append_assoc, arrivals_append]
      exact List.append_nil _

/-- The messages of the other connections stay. -/
theorem purge_matched (inv : Inv all loop [] node) (done : loop.purge connId = some next) :
    Matched all node [] next [] (pending · loop []) (Steady · loop []) := by
  obtain ⟨⟨registered, follows⟩, serving⟩ := inv
  unfold Loop.purge at done
  split at done
  · cases done
  rename_i dead
  obtain rfl := Option.some.inj done
  rw [Option.not_isSome_iff_eq_none] at dead
  let kept (queue : List Cqe) : List Cqe := queue.filter fun cqe => getConnId cqe.wc.wrId ≠ connId
  have shorter : [] ++ (kept loop.sendCq ++ kept loop.recvCq) = kept ([] ++ (loop.sendCq ++ loop.recvCq)) :=
    (List.filter_append ..).symm
  have sub : (kept ([] ++ (loop.sendCq ++ loop.recvCq))).Sublist ([] ++ (loop.sendCq ++ loop.recvCq)) :=
    List.filter_sublist
  have stays : ∀ other, other ≠ connId →
      arrivals other (kept ([] ++ (loop.sendCq ++ loop.recvCq))) = arrivals other ([] ++ (loop.sendCq ++ loop.recvCq)) ∧
      messages other (kept ([] ++ (loop.sendCq ++ loop.recvCq))) = pending other loop [] :=
    fun other apart => queued_purge follows.named apart
  refine ⟨[], node, rfl, ⟨⟨registered, ?_⟩, serving⟩, fun other => ?_⟩
  · obtain ⟨gone, sends⟩ := follows.sends
    obtain ⟨purged, split⟩ := (queuedSends_sublist sub).exists_perm_append
    exact { follows with
      sends := by
        refine ⟨purged ++ gone, sends.trans ((split.append_right _).trans ?_)⟩
        rw [← shorter, List.append_assoc]
        exact .append_left _ (List.perm_append_comm_assoc ..)
      receives := fun other live => by
        have apart : other ≠ connId := by
          rintro rfl
          exact live (follows.server ▸ dead)
        refine (follows.receives other live).trans ?_
        rw [← (stays other apart).1, ← shorter]
      sendOnly := fun other => arrivals_sublist (follows.sendOnly other) List.filter_sublist
      named := fun cqe listed => follows.named cqe (sub.subset (shorter ▸ listed)) }
  · let after : Loop := { loop with sendCq := kept loop.sendCq, recvCq := kept loop.recvCq }
    have left : pending other after [] = messages other (kept ([] ++ (loop.sendCq ++ loop.recvCq))) :=
      congrArg (messages other) shorter
    have less : (pending other after []).Sublist (pending other loop []) := left ▸ sub.filterMap _
    refine ⟨less, fun steady => ?_⟩
    have same : pending other after [] = pending other loop [] := by
      by_cases mine : other = connId
      · have none_ : pending other loop [] = [] := by
          by_contra some_
          exact steady.alive some_ (mine ▸ dead)
        rw [none_] at less ⊢
        exact List.sublist_nil.mp less
      · exact left.trans (stays other mine).2
    exact ⟨steady.requeue (fun cqe listed => sub.subset (shorter ▸ listed)) (fun some_ => same ▸ some_) id, same⟩

theorem matched_of {seen : List Reply} {batch : List Cqe} {came came' : UInt16 → List Message}
    {steady steady' : UInt16 → Prop} (matched : Matched all node seen loop batch came steady)
    (same : ∀ connId, came' connId = came connId) (calm : ∀ connId, steady' connId → steady connId) :
    Matched all node seen loop batch came' steady' := by
  obtain ⟨requests, final, ran, inv, conserves⟩ := matched
  refine ⟨requests, final, ran, inv, fun connId => ?_⟩
  rw [same]
  exact ⟨(conserves connId).ordered, fun now => (conserves connId).whole (calm connId now)⟩

/-- Every event of the loop is matched by requests, sends, failures and attempts of the server that handles each
    completion at once. -/
theorem step_matched (pool : Pool all) (inv : Inv all loop [] node) {event : Event} {now : List Reply}
    (clean : Clean loop event) (taken : step loop event = some (next, now)) :
    Matched all node now next [] (fun connId => pending connId loop [] ++ arrived connId [event])
      (fun connId => Steady connId loop [] ∧ ¬Fails connId event) := by
  cases event with
  | accept attempt received =>
    obtain ⟨other, done, same⟩ := Option.map_eq_some_iff.mp taken
    obtain ⟨rfl, rfl⟩ := Prod.mk.inj same
    have matched := accept_matched pool inv done (clean _ _ taken)
    exact matched_of matched (fun _ => List.append_nil _) fun _ calm => calm.1
  | arrive connId data byteLen =>
    obtain ⟨other, done, same⟩ := Option.map_eq_some_iff.mp taken
    obtain ⟨rfl, rfl⟩ := Prod.mk.inj same
    exact matched_of (arrive_matched inv done) (fun _ => rfl) fun _ calm => calm.1
  | complete index =>
    obtain ⟨other, done, same⟩ := Option.map_eq_some_iff.mp taken
    obtain ⟨rfl, rfl⟩ := Prod.mk.inj same
    exact matched_of (complete_matched inv done) (fun _ => List.append_nil _) fun _ calm => calm.1
  | fail onSendCq wc error =>
    obtain ⟨rfl, rfl⟩ := Prod.mk.inj (Option.some.inj taken)
    exact matched_of (fail_matched inv onSendCq error) (fun _ => List.append_nil _) fun _ calm => calm
  | purge connId =>
    obtain ⟨other, done, same⟩ := Option.map_eq_some_iff.mp taken
    obtain ⟨rfl, rfl⟩ := Prod.mk.inj same
    exact matched_of (purge_matched inv done) (fun _ => List.append_nil _) fun _ calm => calm.1
  | poll batchSize =>
    obtain ⟨last, seen, polled, matched⟩ := poll_matched pool inv batchSize
    obtain ⟨rfl, rfl⟩ := Prod.mk.inj (Option.some.inj (polled.symm.trans taken))
    exact matched_of matched (fun _ => List.append_nil _) fun _ calm => calm.1

end Outside

/-! ### Runs -/

def clean (loop : Loop) (event : Event) : Bool :=
  match step loop event with
  | none => true
  | some (next, _) => loop.recvCq.all fun cqe =>
    (loop.node.sys.server.connContexts (getConnId cqe.wc.wrId)).isSome ||
      (next.node.sys.server.connContexts (getConnId cqe.wc.wrId)).isNone

theorem clean_sound {loop : Loop} {event : Event} (checked : clean loop event = true) : Clean loop event := by
  intro next now taken cqe listed gone
  unfold clean at checked
  rw [taken] at checked
  simpa [gone] using List.all_eq_true.mp checked cqe listed

/-- Two messages are queued when the connection fails: one is answered and the other dropped. The connection that comes
    after it has the same id. -/
def failingLoop : List Event :=
  [.accept KvFailures.goodAttempt (some {}), .arrive 0 storesFive 4112, .arrive 0 getsFive 16, .arrive 0 getsFive 16,
    .poll 1, .complete 0, .poll 1, .fail true { wrId := sendId 0 (.get 0), status := 12 } (by decide), .poll 32,
    .purge 0, .accept KvFailures.goodAttempt (some {}), .arrive 0 getsFive 16, .poll 32]

def loopRun (events : List Event) : Option (KVStore × Loop × List Reply) :=
  match KVStore.new.initializeWith {} (some fun _ => 0) with
  | some (true, store) =>
    if checks step clean (.new store (poolBuffers 65536 7)) events then
      (run step (.new store (poolBuffers 65536 7)) events).map (store, ·)
    else none
  | _ => none

theorem loopRun_some {events : List Event} (defined : (loopRun events).isSome = true) :
    ∃ store last seen, KVStore.new.initializeWith {} (some fun _ => 0) = some (true, store) ∧
      Meets step Clean (.new store (poolBuffers 65536 7)) events ∧
      run step (.new store (poolBuffers 65536 7)) events = some (last, seen) := by
  obtain ⟨⟨store, last, seen⟩, ran⟩ := Option.isSome_iff_exists.mp defined
  unfold loopRun at ran
  split at ran
  · rename_i made initialized
    split at ran
    · rename_i checked
      obtain ⟨result, ran, same⟩ := Option.map_eq_some_iff.mp ran
      obtain ⟨rfl, rfl⟩ := Prod.mk.inj same
      exact ⟨_, _, _, initialized, meets_of_checks (fun _ _ => clean_sound) checked, ran⟩
    · cases ran
  · cases ran

theorem failingLoop_run : (loopRun failingLoop).isSome = true := by decide +kernel

theorem new_inv (all : List Buffer) {width : Nat} {store : KVStore} {service : Service serverSlots}
    (serves : Serves width store service) : Inv all (.new store all) [] (.new store all) := by
  refine ⟨⟨[], ?_⟩, service, [], [], [], KvFailures.new_running all serves⟩
  exact {
    refines := ⟨fun _ => rfl, Caches.Agrees.empty fun _ => rfl, Caches.Agrees.empty fun _ => rfl, rfl⟩
    issued := List.not_mem_nil
    manager := rfl
    server := rfl
    sends := ⟨[], .refl _⟩
    receives := fun connId live => rfl
    dead := fun connId none_ => ⟨rfl, rfl⟩
    sendOnly := fun connId => rfl
    named := fun cqe listed => by cases listed
    live := fun connId live => absurd rfl live
    posted := fun send listed => by cases listed }

section Runs
variable {base : UInt64} {lkey : UInt32} {storage : Nat → UInt8} {store : KVStore} {events : List Event} {last : Loop}

/-- The loop after the events, and the server that was asked the requests. -/
def Related (all : List Buffer) (loop : Loop) (events : List Event) (node : Node) (requests : List KvFailures.Event) :
    Prop :=
  Inv all loop [] node ∧ ∀ connId,
    (asked connId requests ++ pending connId loop []).Sublist (arrived connId events) ∧
    ((∀ event ∈ events, ¬Fails connId event) →
      Steady connId loop [] ∧ asked connId requests ++ pending connId loop [] = arrived connId events)

theorem related_step {all : List Buffer} (pool : Pool all) {loop next : Loop} {before : List Event} {node : Node}
    {requests : List KvFailures.Event} {event : Event} {now : List Reply}
    (related : Related all loop before node requests) (clean : Clean loop event)
    (taken : step loop event = some (next, now)) :
    ∃ others final, run (observe KvFailures.step KvFailures.replies) node others = some (final, now) ∧
      Related all next (before ++ [event]) final (requests ++ others) := by
  obtain ⟨inv, conserved⟩ := related
  obtain ⟨others, final, ran, inv', conserves⟩ := step_matched pool inv clean taken
  refine ⟨others, final, ran, inv', fun connId => ?_⟩
  obtain ⟨ordered, whole⟩ := conserved connId
  obtain ⟨ordered', whole'⟩ := conserves connId
  have came : arrived connId (before ++ [event]) = arrived connId before ++ arrived connId [event] :=
    List.filterMap_append ..
  have both : asked connId (requests ++ others) = asked connId requests ++ asked connId others :=
    List.filterMap_append ..
  rw [came, both, List.append_assoc]
  refine ⟨?_, fun unfailed => ?_⟩
  · refine (ordered'.append_left _).trans ?_
    rw [← List.append_assoc]
    exact ordered.append_right _
  · obtain ⟨steady, same⟩ := whole fun one listed => unfailed one (List.mem_append_left _ listed)
    obtain ⟨steady', same'⟩ := whole' ⟨steady, unfailed event (by simp)⟩
    exact ⟨steady', by rw [same', ← List.append_assoc, same]⟩

theorem new_related (all : List Buffer) {width : Nat} {service : Service serverSlots}
    (serves : Serves width store service) : Related all (.new store all) [] (.new store all) [] := by
  refine ⟨new_inv all serves, fun connId => ⟨.refl _, fun _ => ⟨⟨fun wc error listed => ?_, fun some_ => ?_⟩, rfl⟩⟩⟩
  · cases listed
  · exact absurd rfl some_

/-- In every run of the event loop, whatever the sizes of its batches and whatever comes between them, the server does
    what it does when each completion is handled at once: it gives the same responses in the same order and has the
    same connections, store and buffers in the end. The messages of a connection are requests in the order in which they
    came, none twice, and none is left out but those still queued while no work request of the connection has failed.
    And every poll goes through. -/
theorem loop_refines (null : base ≠ 0) (fits : base.toNat + 512 * MAX_REQUEST_SIZE ≤ 2 ^ 64)
    (initialized : KVStore.new.initializeWith {} (some storage) = some (true, store)) {seen : List Reply}
    (clean : Meets step Clean (.new store (poolBuffers base lkey)) events)
    (ran : run step (.new store (poolBuffers base lkey)) events = some (last, seen)) :
    (∃ requests node, run (observe KvFailures.step KvFailures.replies) (.new store (poolBuffers base lkey)) requests =
        some (node, seen) ∧ node.manager = last.node.manager ∧ node.sys.server = last.node.sys.server ∧
      ∀ connId, (asked connId requests ++ messages connId last.recvCq).Sublist (arrived connId events) ∧
        ((∀ event ∈ events, ¬Fails connId event) →
          asked connId requests ++ messages connId last.recvCq = arrived connId events)) ∧
      ∀ batchSize, ∃ next later, last.poll batchSize = some (next, later) := by
  have pool := poolBuffers_pool lkey null fits
  obtain ⟨width, serves⟩ := initialize_serves initialized
  have follows : ∀ loop before node requests event next now, Related (poolBuffers base lkey) loop before node requests →
      Clean loop event → step loop event = some (next, now) →
      ∃ others final, run (observe KvFailures.step KvFailures.replies) node others = some (final, now) ∧
        Related (poolBuffers base lkey) next (before ++ [event]) final (requests ++ others) :=
    fun _ _ _ _ _ _ _ related clean taken => related_step pool related clean taken
  have start := new_related (poolBuffers base lkey) serves
  obtain ⟨requests, node, same, inv, conserved⟩ := refined_history step follows [] [] start clean ran
  obtain ⟨registered, follows⟩ := inv.follows
  refine ⟨⟨requests, node, same, follows.manager, follows.server, fun connId => ?_⟩, fun batchSize => ?_⟩
  · have queued : pending connId last [] = messages connId last.recvCq := by
      rw [pending, List.nil_append, messages_append, messages_none (follows.sendOnly connId), List.nil_append]
    obtain ⟨ordered, whole⟩ := conserved connId
    rw [queued] at ordered whole
    exact ⟨ordered, fun unfailed => (whole unfailed).2⟩
  · obtain ⟨next, later, polled, -⟩ := poll_matched pool inv batchSize
    exact ⟨next, later, polled⟩

theorem failing_loop_refined : ∃ store last seen,
    run step (.new store (poolBuffers 65536 7)) failingLoop = some (last, seen) ∧
    (∃ requests node, run (observe KvFailures.step KvFailures.replies) (.new store (poolBuffers 65536 7)) requests =
        some (node, seen) ∧ node.manager = last.node.manager ∧ node.sys.server = last.node.sys.server ∧
      ∀ connId, (asked connId requests ++ messages connId last.recvCq).Sublist (arrived connId failingLoop) ∧
        ((∀ event ∈ failingLoop, ¬Fails connId event) →
          asked connId requests ++ messages connId last.recvCq = arrived connId failingLoop)) ∧
      ∀ batchSize, ∃ next later, last.poll batchSize = some (next, later) := by
  obtain ⟨store, last, seen, initialized, meets, ran⟩ := loopRun_some failingLoop_run
  exact ⟨store, last, seen, ran, loop_refines (by decide) (by decide) initialized meets ran⟩

end Runs

end Rdma.KvPolls
