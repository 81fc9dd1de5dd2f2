import Rdma.StaleEvents

/-!
The tokens of pending requests. `allocate` returns the low 8 bits of the slot's
12-bit generation and `getHotChecked` compares them with all 12: while the
generation is below 256 a pending request can be finished by its own events
(`pending_finishable_iff`), and from 256 on, until the generation wraps, no
event carrying its token is accepted.
-/
namespace Rdma.Tokens
open Rdma.Types Rdma.Verbs Rdma.Runs Rdma.WrIds Rdma.QueuePairs Rdma.Connections Rdma.SlotPools Rdma.Endpoints
open Rdma.Ledgers Rdma.SlotLedgers Rdma.EndpointRuns Rdma.StaleEvents

variable {world : World} {request : Request}

/-- The token of a pending request passes the check while the slot's generation fits in 8 bits. -/
theorem names_own_iff (wf : Wf world) (pending : world.Pending request) :
    world.pool.Names request.slotIndex request.generation ↔
      (world.pool.hot request.slot).getGeneration.toNat < 256 := by
  obtain ⟨inside, token⟩ := wf.tokens request pending.1
  have generation := wf.pool.generation request.slot inside
  have held := pending.2
  have low := request.generation.toNat_lt
  change (world.pool.hot request.slot).getGeneration.toNat = request.generation.toNat ↔ _
  omega

/-! ### Events that carry the token -/

/-- The calls with which a timeout entry finishes the request. -/
def timeoutCalls (request : Request) : List Call :=
  match request.callbackFn with
  | none => []
  | some callbackFn => [⟨callbackFn, request.callbackCtx, request.slotIndex, 1, request.born⟩]

/-- The event was counted for the request, and perhaps its last one. -/
def Counted (world : World) (request : Request) (endpoint : RpcEndpoint) : Prop :=
  endpoint.slotPool.frees request.slot = request.born + 1 ∨
    endpoint.slotPool.frees request.slot = request.born ∧
      (endpoint.slotPool.hot request.slot).completedWrCount.toNat =
        (world.pool.hot request.slot).completedWrCount.toNat + 1

/-- The token is accepted, the request's timeout entry invokes its callback once with status 1 and frees the slot,
    and no completion or immediate that carries the token is discarded. -/
structure Finishable (world : World) (request : Request) : Prop where
  accepted : world.pool.getHotChecked request.slotIndex request.generation =
    some (some (world.pool.hot request.slot))
  timeout : ∃ endpoint, world.endpoint.checkTimeouts [(request.slotIndex, request.generation)] =
      some (endpoint, timeoutCalls request, 1) ∧
    endpoint.slotPool.frees request.slot = request.born + 1 ∧ request.slot ∈ endpoint.slotPool.freeSlots
  completion : ∀ wc : Wc, getSlotIndex wc.wrId = request.slotIndex → getGeneration wc.wrId = request.generation →
    ∃ endpoint calls, world.endpoint.onSendComplete wc = some (endpoint, calls) ∧ Counted world request endpoint
  response : ∀ wc : Wc, immSlotIndex wc = request.slotIndex → immGeneration wc = request.generation →
    ∃ endpoint calls, world.endpoint.onWriteWithImmRecv wc = some (endpoint, calls) ∧ Counted world request endpoint

/-- The holder of the slot of a pending request. -/
theorem pending_holder (wf : Wf world) (pending : world.Pending request) :
    world.ledger.holder request.slot =
        some (describe (world.pool.hot request.slot) (world.pool.context request.slot)) ∧
      (describe (world.pool.hot request.slot) (world.pool.context request.slot)).Of request := by
  have held : world.ledger.holder request.slot = _ := holderOf_inUse (pending_inUse wf pending)
  obtain ⟨holder, held', is_of⟩ := wf.ledger.holds request pending.1 pending.2.symm
  rw [held, Option.some.injEq] at held'
  exact ⟨held, by rw [held']; exact is_of⟩

/-- An action that advances the request's slot counts for the request. -/
theorem advance_counted (wf : Wf world) (pending : world.Pending request) {endpoint : RpcEndpoint}
    {calls : List Call}
    (acts : (ledgerOf endpoint.slotPool world.issued, calls) = world.ledger.act (.advance request.slotIndex)) :
    Counted world request endpoint := by
  obtain ⟨held, is_of⟩ := pending_holder wf pending
  by_cases more : (describe (world.pool.hot request.slot) (world.pool.context request.slot)).completed + 1 <
      (describe (world.pool.hot request.slot) (world.pool.context request.slot)).total
  · rw [act_advance_more held more] at acts
    obtain ⟨frees, holder, -⟩ := Ledger.mk.inj (Prod.mk.inj acts).1
    have kept : holderOf endpoint.slotPool request.slot = some _ := (congrFun holder request.slot).trans
      (Function.update_self ..)
    have inUse : endpoint.slotPool.InUse request.slot := holderOf_isSome.mp (by rw [kept]; rfl)
    rw [holderOf_inUse inUse, Option.some.injEq] at kept
    exact .inr ⟨(congrFun frees request.slot).trans pending.2, congrArg Holder.completed kept⟩
  · rw [act_advance_last held more] at acts
    obtain ⟨frees, -⟩ := Ledger.mk.inj (Prod.mk.inj acts).1
    have bumped : endpoint.slotPool.frees request.slot = world.ledger.epoch request.slot + 1 :=
      (congrFun frees request.slot).trans (nextEpoch_same ..)
    exact .inl (by rw [bumped]; exact congrArg (· + 1) pending.2)

theorem finish_calls (wf : Wf world) (pending : world.Pending request) :
    (world.ledger.act (.expire request.slotIndex)).2 = timeoutCalls request := by
  obtain ⟨held, is_of⟩ := pending_holder wf pending
  rw [act_expire held]
  change (match (world.pool.context request.slot).callbackFn with | none => [] | some _ => [_]) = _
  have callback : (world.pool.context request.slot).callbackFn = request.callbackFn := is_of.callback.1
  have callbackCtx : (world.pool.context request.slot).callbackCtx = request.callbackCtx := is_of.callback.2
  rw [callback, timeoutCalls, ← callbackCtx, ← pending.2]
  rfl

/-- A completion that carries the token of a pending request with an accepted token counts for it. -/
theorem completion_counted (wf : Wf world) (pending : world.Pending request) {event : Event} {next : World}
    {calls : List Call} (acts : Acts world event next calls) (same : next.issued = world.issued)
    (explains : ∀ actions, Explains world event actions → actions = [.advance request.slotIndex]) :
    Counted world request next.endpoint := by
  obtain ⟨-, -, actions, explained, -, ran⟩ := acts
  rw [explains actions explained] at ran
  have advanced := run_single ran
  rw [World.ledger, same] at advanced
  exact advance_counted wf pending advanced

theorem pending_finishable (wf : Wf world) (pending : world.Pending request)
    (names : world.pool.Names request.slotIndex request.generation) : Finishable world request := by
  have inUse := pending_inUse wf pending
  have sound : ¬NamesFree world.pool request.slotIndex request.generation := fun ⟨_, free⟩ => free inUse
  refine ⟨?_, ?_, ?_, ?_⟩
  · rw [getHotChecked_eq wf.pool inUse.1, if_pos names]
    rfl
  · obtain ⟨checked, -, -⟩ := checkTimeout_acts wf.pool inUse names (inUse_not_completed wf inUse) world.issued
    refine ⟨{ world.endpoint with slotPool := expired world.pool request.slotIndex }, ?_, ?_, ?_⟩
    · simp only [RpcEndpoint.checkTimeouts, checked, Option.bind_eq_bind, Option.bind_some, List.append_nil]
      rw [show ((ledgerOf world.endpoint.slotPool world.issued).act (.expire request.slotIndex)).2 = _ from
        finish_calls wf pending]
    · exact (released_frees _ _).trans (congrArg (· + 1) pending.2)
    · change request.slot ∈ (expired world.pool request.slotIndex).freeSlots
      rw [expired, released_freeSlots]
      exact List.mem_append_right _ (List.mem_singleton_self _)
  · intro wc slot generation
    rw [← slot, ← generation] at names sound
    rw [Request.slot, ← slot] at inUse
    obtain ⟨next, calls, acts⟩ := onSendComplete_acts wf wc ⟨inUse.1, sound⟩
    obtain ⟨⟨endpoint, called⟩, handled, same⟩ := Option.bind_eq_some_iff.mp acts.1
    obtain ⟨rfl, rfl⟩ := Prod.mk.inj (Option.some.inj same)
    refine ⟨endpoint, called, handled, completion_counted wf pending acts rfl fun actions explained => ?_⟩
    rw [← slot]
    exact explained.trans (if_pos names)
  · intro wc slot generation
    rw [← slot, ← generation] at names sound
    obtain ⟨next, calls, acts⟩ := onWriteWithImmRecv_acts wf wc sound
    obtain ⟨⟨endpoint, called⟩, handled, same⟩ := Option.bind_eq_some_iff.mp acts.1
    obtain ⟨rfl, rfl⟩ := Prod.mk.inj (Option.some.inj same)
    refine ⟨endpoint, called, handled, completion_counted wf pending acts rfl fun actions explained => ?_⟩
    rw [← slot]
    exact explained.trans (if_pos names)

theorem finishable_names (wf : Wf world) (pending : world.Pending request) (finishable : Finishable world request) :
    world.pool.Names request.slotIndex request.generation := by
  have checked := getHotChecked_eq wf.pool (pending_inUse wf pending).1 request.generation
  by_contra unnamed
  rw [if_neg unnamed] at checked
  have accepted := finishable.accepted.symm.trans checked
  cases accepted

/-- In every state of a sound run, a pending request can be finished by its own events if and only if the generation
    of its slot fits in the 8 bits of a token. -/
theorem pending_finishable_iff (reached : Reached world) (pending : world.Pending request) :
    Finishable world request ↔ (world.pool.hot request.slot).getGeneration.toNat < 256 := by
  have wf := reached_wf reached
  rw [← names_own_iff wf pending]
  exact ⟨finishable_names wf pending, pending_finishable wf pending⟩

theorem first_request_finishable : ∃ world request, Reached world ∧ world.Pending request ∧ Finishable world request := by
  obtain ⟨next, -, reached, -, pending⟩ := sample_request 7 16
  have generation := (reached_wf reached).pool.generation 0 (by decide)
  rw [show next.pool.frees 0 = 0 from pending.2] at generation
  refine ⟨next, _, reached, pending, (pending_finishable_iff reached pending).mpr ?_⟩
  rw [show Request.slot _ = 0 from rfl, generation]
  decide

/-! ### A slot that was reused 256 times -/

/-- A send call with a header that is too large for inlining frees the slot it was given, one generation later. -/
theorem oversized_step (wf : Wf world) {rest : List Nat} {slotIndex : UInt32}
    (stack : world.pool.freeSlots = rest ++ [slotIndex.toNat]) {headerLen : UInt64}
    (large : world.endpoint.conn.qp.config.maxInlineData.toNat < headerLen.toNat)
    (connected : world.endpoint.conn.state = .connected) :
    ∃ next, world.step (.sendRequest 0 headerLen none 0 none) = some (next, []) ∧ Wf next ∧
      next.pool.freeSlots = rest ++ [slotIndex.toNat] ∧ next.endpoint.conn = world.endpoint.conn ∧
      next.pool.frees slotIndex.toNat = world.pool.frees slotIndex.toNat + 1 := by
  have conn : (postHeader world.endpoint slotIndex 0 headerLen).2 = world.endpoint.conn := by
    simp [postHeader, RpcEndpoint.postHeader, Connection.sendInline, Connection.ifConnected, QueuePair.postSendInline,
      connected, large]
    rw [← connected]
  have failed : (postHeader world.endpoint slotIndex 0 headerLen).1.ok = false := by
    simp [postHeader, RpcEndpoint.postHeader, Connection.sendInline, Connection.ifConnected, QueuePair.postSendInline,
      connected, large]
  have sent := sendRequest_refused 0 headerLen none 0 none wf.pool stack failed
  rw [conn] at sent
  have stepped : world.step (.sendRequest 0 headerLen none 0 none) =
      some (⟨refused world.endpoint slotIndex 0 none world.endpoint.conn, world.issue 0 none false⟩, []) := by
    simp only [World.step, sent, Option.bind_eq_bind, Option.bind_some]
    rfl
  have sound : Sound world (.sendRequest 0 headerLen none 0 none) := trivial
  refine ⟨_, stepped, (step_wellFormed wf sound stepped).2.1, ?_, rfl, released_frees ..⟩
  change ((opened world.pool slotIndex world.endpoint.conn.connId 0 none 1).released slotIndex).freeSlots = _
  rw [released_freeSlots]
  exact congrArg (· ++ [slotIndex.toNat]) (taken_freeSlots stack)

theorem oversized_run (wf : Wf world) {rest : List Nat} {slotIndex : UInt32}
    (stack : world.pool.freeSlots = rest ++ [slotIndex.toNat]) {headerLen : UInt64}
    (large : world.endpoint.conn.qp.config.maxInlineData.toNat < headerLen.toNat)
    (connected : world.endpoint.conn.state = .connected) (count : Nat) :
    ∃ last, run World.step world (List.replicate count (.sendRequest 0 headerLen none 0 none)) = some (last, []) ∧
      Wf last ∧ last.pool.freeSlots = rest ++ [slotIndex.toNat] ∧ last.endpoint.conn = world.endpoint.conn ∧
      last.pool.frees slotIndex.toNat = world.pool.frees slotIndex.toNat + count := by
  induction count generalizing world with
  | zero => exact ⟨world, rfl, wf, stack, rfl, rfl⟩
  | succ count ih =>
    obtain ⟨next, stepped, kept, stack, conn, frees⟩ := oversized_step wf stack large connected
    obtain ⟨last, ran, ends, top, same, total⟩ := ih kept stack (by rw [conn]; exact large) (by rw [conn]; exact connected)
    refine ⟨last, run_cons_some.mpr ⟨next, [], [], stepped, ran, rfl⟩, ends, top, same.trans conn, ?_⟩
    rw [total, frees]
    omega

/-- After 256 send calls with headers of 300 bytes, the next request is given slot 0 in generation 256: no event that
    carries its token, 0, is accepted. -/
theorem reused_slot_unfinishable : ∃ world request, Reached world ∧ world.Pending request ∧ ¬Finishable world request := by
  obtain ⟨rest, stack⟩ := create_stack
  have fresh := sample_fresh 7 {}
  have large : (sampleEndpoint 7 {}).conn.qp.config.maxInlineData.toNat < (300 : UInt64).toNat := by decide
  obtain ⟨last, ran, wf, top, conn, frees⟩ := oversized_run (start_wf fresh) stack large rfl 256
  have posted : (postHeader last.endpoint 0 0 64).1.ok = true := by
    rw [postHeader, RpcEndpoint.postHeader, conn]
    rfl
  obtain ⟨next, sent, endpoint, -, pending⟩ := accepted_step wf top 0 64 none 0 none posted
  have sound : Sound last (.sendRequest 0 64 none 0 none) := trivial
  have kept := (step_wellFormed wf sound sent).2.1
  have whole := run_append_some.mpr ⟨last, [], [], ran, run_cons_some.mpr ⟨next, [], [], sent, run_nil next, rfl⟩, rfl⟩
  refine ⟨next, _, ⟨_, _, _, fresh, sends_sound fun event member => ?_, whole⟩, pending, fun finishable => ?_⟩
  · rcases List.mem_append.mp member with many | one
    · exact ⟨_, _, _, _, _, (List.mem_replicate.mp many).2⟩
    · exact ⟨_, _, _, _, _, List.mem_singleton.mp one⟩
  · have small := (names_own_iff kept pending).mp (finishable_names kept pending finishable)
    have born : next.pool.frees 0 = 256 := pending.2.trans (frees.trans (Nat.zero_add 256))
    have generation := kept.pool.generation 0 (by decide)
    rw [born] at generation
    rw [show Request.slot _ = 0 from rfl, generation] at small
    exact absurd small (by decide)

end Rdma.Tokens
