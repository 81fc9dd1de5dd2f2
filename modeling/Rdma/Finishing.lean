import Rdma.StaleEvents
import Rdma.WorkRequests

/-!
What finishes a request. A pending request counts every completion and every
immediate that carries its slot and generation (`requests_progress`), and is
finished by as many of them as it has posted work requests. A request whose
completions and response are all delivered is finished if and only if its
generation fits in a token and, when it has data, one of its two work requests
is signaled (`request_finishes_iff`).
-/
namespace Rdma.Finishing
open Rdma.Types Rdma.Verbs Rdma.Runs Rdma.WrIds Rdma.QueuePairs Rdma.Connections Rdma.SlotPools Rdma.Endpoints
open Rdma.Ledgers Rdma.SlotLedgers Rdma.EndpointRuns Rdma.StaleEvents Rdma.Tokens Rdma.WorkRequests

variable {world next last : World} {request : Request} {calls : List Call}

/-! ### Progress of a request -/

/-- The event carries the slot of the request and the generation in which the request holds it. -/
def hits (request : Request) : Event → Bool
  | .onSendComplete wc =>
    getSlotIndex wc.wrId = request.slotIndex ∧ (getGeneration wc.wrId).toNat = request.born % 4096
  | .onWriteWithImmRecv wc =>
    immSlotIndex wc = request.slotIndex ∧ (immGeneration wc).toNat = request.born % 4096
  | _ => false

def timesOut : Event → Bool
  | .checkTimeouts _ => true
  | _ => false

/-- What the slot of the request records. -/
def record (world : World) (request : Request) : Holder :=
  describe (world.pool.hot request.slot) (world.pool.context request.slot)

/-- While a request is pending, its slot is named by its own generation only. -/
theorem names_iff (wf : Wf world) (pending : world.Pending request) (slotIndex : UInt32) (generation : UInt8) :
    world.pool.Names slotIndex generation ∧ slotIndex.toNat = request.slot ↔
      slotIndex = request.slotIndex ∧ generation.toNat = request.born % 4096 := by
  have current := wf.pool.generation request.slot (wf.tokens request pending.1).1
  rw [show world.pool.frees request.slot = request.born from pending.2] at current
  constructor
  · rintro ⟨names, same⟩
    have names : (world.pool.hot slotIndex.toNat).getGeneration.toNat = generation.toNat := names
    rw [same, current] at names
    exact ⟨UInt32.toNat_inj.mp same, names.symm⟩
  · rintro ⟨rfl, same⟩
    exact ⟨current.trans same.symm, rfl⟩

/-- The advances of the request's slot that a token stands for. -/
theorem advances_token (wf : Wf world) (pending : world.Pending request) (slotIndex : UInt32) (generation : UInt8) :
    (if world.pool.Names slotIndex generation then [Action.advance slotIndex] else []).countP (advances request.slot) =
      if slotIndex = request.slotIndex ∧ generation.toNat = request.born % 4096 then 1 else 0 := by
  rw [if_congr (names_iff wf pending slotIndex generation).symm rfl rfl]
  by_cases names : world.pool.Names slotIndex generation
  · simp [names, advances]
  · simp [names]

/-- The actions of a send call start or refuse a request. -/
theorem explains_sends {event : Event} {actions : List Action} (sends : event.sends = true)
    (explains : Explains world event actions) :
    ∀ action ∈ actions, (∃ request total, action = .accept request total) ∨ ∃ request, action = .refuse request := by
  have start : actions = [] ∨ (∃ request total, actions = [.accept request total]) ∨ ∃ request, actions = [.refuse request] := by
    cases event with
    | sendRequest header headerLen dataBuf callbackCtx callback => exact explains
    | sendRequestSGL fuel header headerLen iov callbackCtx callback => exact explains
    | _ => cases sends
  intro action member
  rcases start with rfl | ⟨request, total, rfl⟩ | ⟨request, rfl⟩
  · cases member
  · exact .inl ⟨request, total, List.mem_singleton.mp member⟩
  · exact .inr ⟨request, List.mem_singleton.mp member⟩

theorem explains_advances (wf : Wf world) (pending : world.Pending request) {event : Event} {actions : List Action}
    (explains : Explains world event actions) :
    actions.countP (advances request.slot) = if hits request event then 1 else 0 := by
  have started : event.sends = true → actions.countP (advances request.slot) = 0 := by
    intro sends
    refine List.countP_eq_zero.mpr fun action member => ?_
    rcases explains_sends sends explains action member with ⟨accepted, total, rfl⟩ | ⟨refused, rfl⟩
    · exact Bool.false_ne_true
    · exact Bool.false_ne_true
  cases event with
  | sendRequest header headerLen dataBuf callbackCtx callback => exact started rfl
  | sendRequestSGL fuel header headerLen iov callbackCtx callback => exact started rfl
  | sendReadResponse clientSlotIndex clientGeneration dataBuf clientBuffer =>
    obtain rfl : actions = [] := explains
    rfl
  | onSendComplete wc =>
    rw [show actions = _ from explains, advances_token wf pending]
    simp only [hits, decide_eq_true_eq]
  | onWriteWithImmRecv wc =>
    rw [show actions = _ from explains, advances_token wf pending]
    simp only [hits, decide_eq_true_eq]
  | checkTimeouts expired =>
    refine List.countP_eq_zero.mpr fun action member => ?_
    obtain ⟨slotIndex, rfl⟩ := explains action member
    exact Bool.false_ne_true
  | environment conn bufferPool timingWheel =>
    obtain rfl : actions = [] := explains
    rfl

/-- Only timeouts expire a slot. -/
theorem explains_expires {event : Event} {actions : List Action} (explains : Explains world event actions) {slot : Nat}
    (early : actions.any (expires slot) = true) : timesOut event = true := by
  obtain ⟨action, member, expired⟩ := List.any_eq_true.mp early
  have started : event.sends = false := by
    by_contra sends
    rw [Bool.not_eq_false] at sends
    rcases explains_sends sends explains action member with ⟨accepted, total, rfl⟩ | ⟨refused, rfl⟩
    · cases expired
    · cases expired
  cases event with
  | sendRequest header headerLen dataBuf callbackCtx callback => cases started
  | sendRequestSGL fuel header headerLen iov callbackCtx callback => cases started
  | sendReadResponse clientSlotIndex clientGeneration dataBuf clientBuffer =>
    rw [show actions = [] from explains] at member
    cases member
  | onSendComplete wc =>
    rw [show actions = _ from explains] at member
    split at member
    · rw [List.mem_singleton.mp member] at expired
      cases expired
    · cases member
  | onWriteWithImmRecv wc =>
    rw [show actions = _ from explains] at member
    split at member
    · rw [List.mem_singleton.mp member] at expired
      cases expired
    · cases member
  | checkTimeouts expired => rfl
  | environment conn bufferPool timingWheel =>
    rw [show actions = [] from explains] at member
    cases member

theorem step_progress (wf : Wf world) (pending : world.Pending request) {event : Event} (sound : Sound world event)
    (stepped : world.step event = some (next, calls)) :
    Progress world.ledger next.ledger request.slot (record world request) (if hits request event then 1 else 0)
      (timesOut event) calls := by
  obtain ⟨-, -, actions, explains, allowed, ran⟩ := step_wellFormed wf sound stepped
  exact (run_progress (pending_holder wf pending).1 allowed ran).mono (explains_advances wf pending explains)
    (explains_expires explains)

theorem step_grows (wf : Wf world) {event : Event} (sound : Sound world event)
    (stepped : world.step event = some (next, calls)) : world.ledger.Grows next.ledger := by
  obtain ⟨-, -, actions, -, -, ran⟩ := step_wellFormed wf sound stepped
  exact run_grows ran

/-- A request that kept its holder is still pending, and its slot records what the holder does. -/
theorem kept_pending (wf : Wf next) (pending : world.Pending request) (grows : world.ledger.Grows next.ledger)
    (epoch : next.ledger.epoch request.slot = world.ledger.epoch request.slot) {holder : Holder}
    (kept : next.ledger.holder request.slot = some holder) : next.Pending request ∧ record next request = holder := by
  have still : next.Pending request := ⟨grows.2 request pending.1, epoch.trans pending.2⟩
  have held := (pending_holder wf still).1
  rw [kept, Option.some.injEq] at held
  exact ⟨still, held.symm⟩

/-- Along a sound run. -/
theorem requests_progress (wf : Wf world) (pending : world.Pending request) {events : List Event}
    (sound : Meets World.step Sound world events) (ran : run World.step world events = some (last, calls)) :
    Progress world.ledger last.ledger request.slot (record world request) (events.countP (hits request))
      (events.any timesOut) calls := by
  induction events generalizing world calls with
  | nil =>
    obtain ⟨rfl, rfl⟩ := by simpa using ran
    exact .inl ⟨rfl, (pending_holder wf pending).1⟩
  | cons event rest ih =>
    obtain ⟨next, now, later, stepped, after, rfl⟩ := run_cons_some.mp ran
    have kept := (step_wellFormed wf sound.1 stepped).2.1
    have grows := step_grows wf sound.1 stepped
    rw [List.countP_cons, Nat.add_comm, List.any_cons]
    obtain ⟨final, called, ran', ends, actions, allowed, acted⟩ := run_acts kept (sound.2 _ _ stepped)
    obtain ⟨rfl, rfl⟩ := Prod.mk.inj (Option.some.inj (after.symm.trans ran'))
    refine (step_progress wf pending sound.1 stepped).trans (fun epoch holds => ?_) ((run_grows acted).1 _)
    obtain ⟨still, recorded⟩ := kept_pending kept pending grows epoch holds
    rw [← recorded]
    exact ih kept still (sound.2 _ _ stepped) after

/-- The callback of the request has been invoked, if it is not null. -/
def Invoked (request : Request) (calls : List Call) : Prop :=
  request.callbackFn ≠ none → ∃ call ∈ calls, CallOf call request

theorem called_invoked (wf : Wf world) (pending : world.Pending request)
    (called : Called request.slot (world.ledger.epoch request.slot) (record world request) calls) :
    Invoked request calls := by
  have is_of := (pending_holder wf pending).2
  intro callback
  obtain ⟨callbackFn, callback⟩ := Option.ne_none_iff_exists'.mp callback
  obtain ⟨call, member, fn, ctx, slot, epoch⟩ := called callbackFn (is_of.callback.1.trans callback)
  exact ⟨call, member, slot, epoch.trans pending.2, ⟨by rw [callback, fn], by rw [ctx]; exact is_of.callback.2.symm⟩,
    is_of.accepted⟩

/-- As many hits as the request waits for finish it. -/
theorem hits_finish (wf : Wf world) (pending : world.Pending request) {events : List Event}
    (sound : Meets World.step Sound world events) (ran : run World.step world events = some (last, calls))
    (enough : (record world request).total ≤ (record world request).completed + events.countP (hits request)) :
    ¬last.Pending request ∧ Invoked request calls := by
  have ends := run_wellFormed wf sound ran
  rcases requests_progress wf pending sound ran with ⟨epoch, kept⟩ | ⟨bumped, -, called⟩
  · have still : last.Pending request → (record last request).completed < (record last request).total :=
      fun pending => (pending_holder ends pending).2.waiting
    obtain ⟨final, called, ran', -, actions, allowed, acted⟩ := run_acts wf sound
    obtain ⟨rfl, rfl⟩ := Prod.mk.inj (Option.some.inj (ran.symm.trans ran'))
    obtain ⟨pending', recorded⟩ := kept_pending ends pending (run_grows acted) epoch kept
    have waits := still pending'
    rw [recorded] at waits
    simp only [Holder.count] at waits
    omega
  · refine ⟨fun still => ?_, called_invoked wf pending called⟩
    have before : world.ledger.epoch request.slot = request.born := pending.2
    have after : last.ledger.epoch request.slot = request.born := still.2
    omega

/-- The event is a completion or an immediate that names the request's slot. -/
def Aimed (request : Request) : Event → Prop
  | .onSendComplete wc => getSlotIndex wc.wrId = request.slotIndex
  | .onWriteWithImmRecv wc => immSlotIndex wc = request.slotIndex
  | _ => False

theorem aimed_sound (wf : Wf world) (pending : world.Pending request) {event : Event} (aimed : Aimed request event) :
    Sound world event ∧ timesOut event = false := by
  have inUse := pending_inUse wf pending
  cases event with
  | onSendComplete wc =>
    have same : getSlotIndex wc.wrId = request.slotIndex := aimed
    refine ⟨?_, rfl⟩
    rw [Sound, same]
    exact ⟨inUse.1, fun named => named.2 inUse⟩
  | onWriteWithImmRecv wc =>
    have same : immSlotIndex wc = request.slotIndex := aimed
    refine ⟨?_, rfl⟩
    rw [Sound, same]
    exact fun named => named.2 inUse
  | _ => exact aimed.elim

/-- Fewer hits leave the request pending. -/
theorem hits_wait {events : List Event} (wf : Wf world) (pending : world.Pending request)
    (aimed : ∀ event ∈ events, Aimed request event)
    (few : (record world request).completed + events.countP (hits request) < (record world request).total) :
    ∃ last calls, Meets World.step Sound world events ∧ run World.step world events = some (last, calls) ∧
      last.Pending request := by
  induction events generalizing world with
  | nil => exact ⟨world, [], trivial, rfl, pending⟩
  | cons event rest ih =>
    obtain ⟨sound, untimed⟩ := aimed_sound wf pending (aimed event (List.mem_cons_self ..))
    obtain ⟨next, now, stepped, -⟩ := step_acts wf sound
    have kept := (step_wellFormed wf sound stepped).2.1
    rw [List.countP_cons] at few
    rcases step_progress wf pending sound stepped with ⟨epoch, holds⟩ | ⟨-, complete | early, -⟩
    · obtain ⟨still, recorded⟩ := kept_pending kept pending (step_grows wf sound stepped) epoch holds
      obtain ⟨last, later, meets, ran, ends⟩ := ih kept still
        (fun other member => aimed other (List.mem_cons_of_mem _ member))
        (by rw [recorded]; simp only [Holder.count]; omega)
      exact ⟨last, now ++ later, meets_cons stepped sound meets, run_cons_some.mpr ⟨next, now, later, stepped, ran, rfl⟩,
        ends⟩
    · omega
    · rw [untimed] at early
      cases early

/-! ### Completions and responses -/

theorem cqes_two (first second : SendWr) :
    (cqes [(first, true), (second, true)]).length = first.signaled.toNat + second.signaled.toNat := by
  cases one : first.signaled <;> cases two : second.signaled <;> simp [cqes, one, two]

/-- The ids of the completions delivered. -/
def completions : List Event → List UInt64
  | [] => []
  | .onSendComplete wc :: rest => wc.wrId :: completions rest
  | _ :: rest => completions rest

/-- However the run goes on, once all these completions and a response with the token have been delivered, the request
    is finished and its callback has been invoked. -/
def Finishes (world : World) (request : Request) (cqes : List UInt64) : Prop :=
  ∀ events last calls, Meets World.step Sound world events → run World.step world events = some (last, calls) →
    cqes.Subperm (completions events) →
    (∃ wc, .onWriteWithImmRecv wc ∈ events ∧ immSlotIndex wc = request.slotIndex ∧
      immGeneration wc = request.generation) →
    ¬last.Pending request ∧ Invoked request calls

/-- The generation of a token that is not truncated. -/
theorem token_generation (wf : Wf world) (pending : world.Pending request) :
    request.generation.toNat = request.born % 4096 ↔ (world.pool.hot request.slot).getGeneration.toNat < 256 := by
  rw [← names_own_iff wf pending]
  have same := names_iff wf pending request.slotIndex request.generation
  simpa only [Request.slot, and_true, true_and] using same.symm

/-- The id carries the token of the request. -/
def carries (request : Request) (wrId : UInt64) : Bool :=
  getSlotIndex wrId = request.slotIndex ∧ getGeneration wrId = request.generation

theorem cqes_carry {wrs : List (SendWr × Bool)} {wrId : UInt64} (carried : carries request wrId = true)
    (own : ∀ wr ∈ wrs, wr.1.wrId = wrId) : ∀ id ∈ cqes wrs, carries request id = true := by
  intro id listed
  obtain ⟨wr, member, rfl⟩ := List.mem_map.mp listed
  rw [own wr (List.mem_filter.mp member).1]
  exact carried

/-- The event is a response that carries the token of the request. -/
def answers (request : Request) : Event → Bool
  | .onWriteWithImmRecv wc => immSlotIndex wc = request.slotIndex ∧ immGeneration wc = request.generation
  | _ => false

/-- What hits a request whose token is not truncated. -/
theorem hits_count (whole : request.generation.toNat = request.born % 4096) (events : List Event) :
    events.countP (hits request) =
      (completions events).countP (carries request) + events.countP (answers request) := by
  have same : ∀ generation : UInt8, generation.toNat = request.born % 4096 ↔ generation = request.generation := by
    intro generation
    rw [← whole, UInt8.toNat_inj]
  have completion : ∀ wc, hits request (.onSendComplete wc) = carries request wc.wrId := fun wc =>
    decide_eq_decide.mpr (and_congr_right' (same _))
  have response : ∀ wc, hits request (.onWriteWithImmRecv wc) = answers request (.onWriteWithImmRecv wc) := fun wc =>
    decide_eq_decide.mpr (and_congr_right' (same _))
  induction events with
  | nil => rfl
  | cons event rest ih =>
    rw [List.countP_cons, List.countP_cons, ih]
    cases event with
    | onSendComplete wc =>
      rw [completion, completions, List.countP_cons, show answers request (.onSendComplete wc) = false from rfl]
      simp only [Bool.false_eq_true, if_false]
      omega
    | onWriteWithImmRecv wc =>
      rw [response, Nat.add_assoc]
      rfl
    | _ => rfl

theorem answered_iff {events : List Event} :
    0 < events.countP (answers request) ↔ ∃ wc, .onWriteWithImmRecv wc ∈ events ∧
      immSlotIndex wc = request.slotIndex ∧ immGeneration wc = request.generation := by
  rw [List.countP_pos_iff]
  constructor
  · rintro ⟨event, member, answered⟩
    cases event with
    | onWriteWithImmRecv wc => exact ⟨wc, member, of_decide_eq_true answered⟩
    | _ => cases answered
  · rintro ⟨wc, member, token⟩
    exact ⟨_, member, decide_eq_true token⟩

/-- A request with a whole token is finished by its completions and a response if these are enough. -/
theorem enough_finishes (wf : Wf world) (pending : world.Pending request)
    (whole : (world.pool.hot request.slot).getGeneration.toNat < 256) {ids : List UInt64}
    (own : ∀ wrId ∈ ids, carries request wrId = true)
    (enough : (record world request).total ≤ (record world request).completed + ids.length + 1) :
    Finishes world request ids := by
  intro events last calls sound ran delivered responded
  have counted := hits_count ((token_generation wf pending).mpr whole) events
  have many : ids.length ≤ (completions events).countP (carries request) := by
    rw [← List.countP_eq_length.mpr own]
    exact delivered.countP_le _
  have response := answered_iff.mpr responded
  exact hits_finish wf pending sound ran (by omega)

/-- The completions and one response, in this order. -/
def delivery (request : Request) (ids : List UInt64) : List Event :=
  ids.map (fun wrId => .onSendComplete { wrId }) ++
    [.onWriteWithImmRecv { wrId := 0, immData := htonl (immOf request.slotIndex request.generation) }]

theorem delivery_completions (request : Request) (ids : List UInt64) : completions (delivery request ids) = ids := by
  induction ids with
  | nil => rfl
  | cons wrId rest ih => exact congrArg (wrId :: ·) ih

theorem delivery_length (request : Request) (ids : List UInt64) : (delivery request ids).length = ids.length + 1 := by
  rw [delivery, List.length_append, List.length_map, List.length_singleton]

theorem delivery_tokens (inside : request.slotIndex.toNat < 65536) {ids : List UInt64}
    (own : ∀ wrId ∈ ids, carries request wrId = true) :
    ∀ event ∈ delivery request ids, Aimed request event ∧
      (hits request event = true ↔ request.generation.toNat = request.born % 4096) := by
  intro event member
  rcases List.mem_append.mp member with completion | response
  · obtain ⟨wrId, listed, rfl⟩ := List.mem_map.mp completion
    obtain ⟨slot, generation⟩ := of_decide_eq_true (own wrId listed)
    refine ⟨slot, ?_⟩
    simp only [hits, slot, generation, true_and, decide_eq_true_eq]
  · obtain ⟨slot, generation⟩ := imm_roundtrip inside request.generation 0
    rw [List.mem_singleton.mp response]
    refine ⟨slot, ?_⟩
    simp only [hits, slot, generation, true_and, decide_eq_true_eq]

/-- A request that the completions and one response do not finish. -/
theorem few_wait (wf : Wf world) (pending : world.Pending request) {ids : List UInt64}
    (own : ∀ wrId ∈ ids, carries request wrId = true)
    (few : (world.pool.hot request.slot).getGeneration.toNat < 256 →
      (record world request).completed + ids.length + 1 < (record world request).total) :
    ¬Finishes world request ids := by
  have inside : request.slotIndex.toNat < 65536 := (wf.tokens request pending.1).1
  have tokens := delivery_tokens inside own
  have waits : (record world request).completed + (delivery request ids).countP (hits request) <
      (record world request).total := by
    by_cases whole : (world.pool.hot request.slot).getGeneration.toNat < 256
    · have few := few whole
      have most : (delivery request ids).countP (hits request) ≤ (delivery request ids).length := List.countP_le_length
      rw [delivery_length] at most
      omega
    · have none_hits : (delivery request ids).countP (hits request) = 0 :=
        List.countP_eq_zero.mpr fun event member hit =>
          whole ((token_generation wf pending).mp ((tokens event member).2.mp hit))
      rw [none_hits]
      exact (pending_holder wf pending).2.waiting
  obtain ⟨last, calls, sound, ran, still⟩ := hits_wait wf pending (fun event member => (tokens event member).1) waits
  intro finishes
  obtain ⟨slot, generation⟩ := imm_roundtrip inside request.generation 0
  refine (finishes _ last calls sound ran ?_ ⟨_, List.mem_append_right _ (List.mem_singleton_self _), slot, generation⟩).1
    still
  rw [delivery_completions]

theorem finishes_iff (wf : Wf world) (pending : world.Pending request) {ids : List UInt64}
    (own : ∀ wrId ∈ ids, carries request wrId = true) :
    Finishes world request ids ↔ (world.pool.hot request.slot).getGeneration.toNat < 256 ∧
      (record world request).total ≤ (record world request).completed + ids.length + 1 := by
  constructor
  · intro finishes
    by_contra few
    exact few_wait wf pending own (fun whole => Nat.lt_of_not_le fun enough => few ⟨whole, enough⟩) finishes
  · rintro ⟨whole, enough⟩
    exact enough_finishes wf pending whole own enough

/-! ### The work requests of a request -/

/-- The id of the work requests of a request that is given `slotIndex`. -/
def ownId (endpoint : RpcEndpoint) (slotIndex : UInt32) : UInt64 :=
  encode endpoint.conn.connId .requestSend (endpoint.slotPool.hot slotIndex.toNat).getGeneration.toUInt8 slotIndex

/-- The header is one work request, and the next signaling decision is the second one of the queue pair. -/
theorem header_sends {endpoint : RpcEndpoint} {slotIndex : UInt32} {header headerLen : UInt64}
    (posted : (postHeader endpoint slotIndex header headerLen).1.ok = true) :
    (postHeader endpoint slotIndex header headerLen).2.state = .connected ∧
      (postHeader endpoint slotIndex header headerLen).2.qp.shouldSignal.1 =
        endpoint.conn.qp.shouldSignal.2.shouldSignal.1 ∧
      ∃ first : SendWr, first.signaled = endpoint.conn.qp.shouldSignal.1 ∧ first.wrId = ownId endpoint slotIndex ∧
        (postHeader endpoint slotIndex header headerLen).2.qp.device.sends =
          endpoint.conn.qp.device.sends ++ [(first, true)] := by
  obtain ⟨connected, fits, -⟩ := (sendInline_ok ..).mp posted
  have fits := Nat.not_lt.mpr fits
  have header_eq : postHeader endpoint slotIndex header headerLen = _ := sendInline_eq connected ..
  rw [header_eq] at posted ⊢
  have sends := postSendInline_sends endpoint.conn.qp header headerLen (ownId endpoint slotIndex)
  obtain ⟨config, unsignaledCount, outstanding⟩ :=
    postSendInline_counters endpoint.conn.qp header (ownId endpoint slotIndex) fits
  rw [if_neg fits, show (endpoint.conn.qp.postSendInline header headerLen (ownId endpoint slotIndex)).1.ok = true from
    posted] at sends
  exact ⟨connected, shouldSignal_congr (config.trans (shouldSignal_frame _).1.symm) unsignaledCount outstanding,
    { wrId := ownId endpoint slotIndex, opcode := .send, signaled := endpoint.conn.qp.shouldSignal.1, inlined := true,
      sgList := [⟨header, headerLen.toUInt32, 0⟩] }, rfl, rfl, sends⟩

/-- What an accepted call of `sendRequest` hands to the device: the header, and the data if there is valid data. -/
theorem accepted_handed (endpoint : RpcEndpoint) (slotIndex : UInt32) (header headerLen : UInt64)
    (dataBuf : Option Buffer) (callbackCtx : Nat) (callback : Option Nat)
    (posted : (postHeader endpoint slotIndex header headerLen).1.ok = true) :
    ∃ first : SendWr, first.signaled = endpoint.conn.qp.shouldSignal.1 ∧ first.wrId = ownId endpoint slotIndex ∧
      (dataBuf.filter Buffer.isValid = none → handed endpoint.conn.qp
        (accepted endpoint slotIndex header headerLen dataBuf callbackCtx callback).conn.qp = [(first, true)]) ∧
      (dataBuf.filter Buffer.isValid ≠ none → ∃ (second : SendWr) (answer : Bool), handed endpoint.conn.qp
          (accepted endpoint slotIndex header headerLen dataBuf callbackCtx callback).conn.qp =
            [(first, true), (second, answer)] ∧
        second.signaled = endpoint.conn.qp.shouldSignal.2.shouldSignal.1 ∧ second.wrId = ownId endpoint slotIndex) := by
  obtain ⟨connected, decision, first, signaled, firstId, sends⟩ := header_sends posted
  refine ⟨first, signaled, firstId, fun header_only => ?_, fun with_data => ?_⟩
  · rw [accepted, header_only]
    exact handed_append sends
  · obtain ⟨data, valid⟩ := Option.ne_none_iff_exists'.mp with_data
    have data_eq : postData endpoint slotIndex (postHeader endpoint slotIndex header headerLen).2 data = _ :=
      writeWithImm_eq connected ..
    have both := postWriteWithImm_sends (postHeader endpoint slotIndex header headerLen).2.qp data
      (postHeader endpoint slotIndex header headerLen).2.remoteRecvBuffer.addr
      (postHeader endpoint slotIndex header headerLen).2.remoteRecvBuffer.rkey
      (immOf slotIndex (endpoint.slotPool.hot slotIndex.toNat).getGeneration.toUInt8) (ownId endpoint slotIndex)
    rw [sends, List.append_assoc] at both
    rw [accepted, valid]
    dsimp only
    rw [data_eq]
    exact ⟨_, _, handed_append both, decision, rfl⟩

/-- What a step with an accepted call of `sendRequest` starts from and ends in. -/
theorem accepted_inv (wf : Wf world) {header headerLen : UInt64} {dataBuf : Option Buffer} {callbackCtx : Nat}
    {callback : Option Nat}
    (stepped : world.step (.sendRequest header headerLen dataBuf callbackCtx callback) = some (next, calls))
    (issued : next.issued = world.issued ++ [request]) (ok : request.accepted = true) :
    ∃ rest, world.pool.freeSlots = rest ++ [request.slotIndex.toNat] ∧
      (postHeader world.endpoint request.slotIndex header headerLen).1.ok = true ∧
      next.endpoint = accepted world.endpoint request.slotIndex header headerLen dataBuf callbackCtx callback ∧
      request = world.newRequest request.slotIndex callbackCtx callback true := by
  by_cases empty : world.pool.stackTop = 0
  · simp only [World.step, sendRequest_exhausted header headerLen dataBuf callbackCtx callback empty,
      Option.bind_eq_bind, Option.bind_some, issue_exhausted empty] at stepped
    obtain ⟨rfl, -⟩ := Prod.mk.inj (Option.some.inj stepped)
    have none_new : world.issued = world.issued ++ [request] := issued
    exact absurd (List.self_eq_append_right.mp none_new) (List.cons_ne_nil _ _)
  · obtain ⟨slotIndex, rest, stack, -⟩ := allocate_spec wf.pool empty
    cases posted : (postHeader world.endpoint slotIndex header headerLen).1.ok with
    | true =>
      obtain ⟨other, taken, endpoint, same, -⟩ := accepted_step wf stack header headerLen dataBuf callbackCtx callback posted
      obtain ⟨rfl, -⟩ := Prod.mk.inj (Option.some.inj (stepped.symm.trans taken))
      obtain rfl := List.singleton_inj.mp (List.append_cancel_left (issued.symm.trans same))
      exact ⟨rest, stack, posted, endpoint, rfl⟩
    | false =>
      simp only [World.step, sendRequest_refused header headerLen dataBuf callbackCtx callback wf.pool stack posted,
        Option.bind_eq_bind, Option.bind_some] at stepped
      obtain ⟨rfl, -⟩ := Prod.mk.inj (Option.some.inj stepped)
      have same := (issue_top wf stack callbackCtx callback false).symm.trans issued
      rw [← List.singleton_inj.mp (List.append_cancel_left same)] at ok
      cases ok

theorem accepted_record {header headerLen : UInt64} {dataBuf : Option Buffer} {callbackCtx : Nat} {callback : Option Nat}
    (endpoint : next.endpoint =
      accepted world.endpoint request.slotIndex header headerLen dataBuf callbackCtx callback) :
    (next.pool.hot request.slot).getGeneration = (world.pool.hot request.slot).getGeneration ∧
      (record next request).completed = 0 ∧
      (record next request).total = if (dataBuf.filter Buffer.isValid).isSome then 2 else 1 := by
  have pool := (accepted_frame world.endpoint request.slotIndex header headerLen dataBuf callbackCtx callback).1
  rw [record, World.pool, endpoint, pool, Request.slot, opened_hot]
  refine ⟨rfl, rfl, ?_⟩
  change UInt8.toNat (if _ then 2 else 1) = _
  split <;> rfl

/-- A request whose send call returned the slot, with all its work requests accepted by the device, is finished by
    their completions and a response if and only if its generation fits in a token and, when it has data, the
    queue pair signals one of the two work requests. -/
theorem request_finishes_iff (reached : Reached world) {header headerLen : UInt64} {dataBuf : Option Buffer}
    {callbackCtx : Nat} {callback : Option Nat}
    (stepped : world.step (.sendRequest header headerLen dataBuf callbackCtx callback) = some (next, calls))
    (issued : next.issued = world.issued ++ [request]) (ok : request.accepted = true)
    (executed : ∀ wr ∈ handed world.endpoint.conn.qp next.endpoint.conn.qp, wr.2 = true) :
    Finishes next request (cqes (handed world.endpoint.conn.qp next.endpoint.conn.qp)) ↔
      (world.pool.hot request.slot).getGeneration.toNat < 256 ∧
        (dataBuf.filter Buffer.isValid = none ∨ world.endpoint.conn.qp.canPostSignaled = true ∧
          (world.endpoint.conn.qp.config.signalInterval ≤ world.endpoint.conn.qp.unsignaledCount + 1 ∨
            world.endpoint.conn.qp.config.signalInterval ≤ world.endpoint.conn.qp.unsignaledCount + 1 + 1)) := by
  have wf := reached_wf reached
  obtain ⟨rest, stack, posted, endpoint, is_new⟩ := accepted_inv wf stepped issued ok
  have sound : Sound world (.sendRequest header headerLen dataBuf callbackCtx callback) := trivial
  have kept := (step_wellFormed wf sound stepped).2.1
  obtain ⟨generation, completed, total⟩ := accepted_record endpoint
  obtain ⟨first, signaled, firstId, header_only, with_data⟩ :=
    accepted_handed world.endpoint request.slotIndex header headerLen dataBuf callbackCtx callback posted
  rw [← endpoint] at header_only with_data
  have pending : next.Pending request := by
    refine ⟨by rw [issued]; exact List.mem_append_right _ (List.mem_singleton_self _), ?_⟩
    rw [World.pool, endpoint, (accepted_frame ..).1, is_new]
    rfl
  have carried : carries request (ownId world.endpoint request.slotIndex) = true := by
    have token : (world.pool.hot request.slotIndex.toNat).getGeneration.toUInt8 = request.generation := by
      rw [is_new]
      rfl
    exact decide_eq_true ⟨getSlotIndex_encode .., (getGeneration_encode ..).trans token⟩
  rw [finishes_iff kept pending, completed, total, generation]
  · refine and_congr_right' ?_
    by_cases valid : dataBuf.filter Buffer.isValid = none
    · rw [valid]
      exact iff_of_true (Nat.le_add_left ..) (.inl rfl)
    · obtain ⟨second, answer, both, signaledToo, -⟩ := with_data valid
      have accepted : answer = true := executed (second, answer) (by rw [both]; simp)
      have some_valid : (dataBuf.filter Buffer.isValid).isSome = true := Option.isSome_iff_ne_none.mpr valid
      rw [or_iff_right valid, ← two_posts_signaled (shouldSignal_frame world.endpoint.conn.qp).1 rfl rfl, ← signaled,
        ← signaledToo, both, accepted, some_valid, cqes_two, if_pos rfl]
      cases first.signaled <;> cases second.signaled <;> decide
  · refine cqes_carry carried ?_
    by_cases valid : dataBuf.filter Buffer.isValid = none
    · rw [header_only valid, List.forall_mem_singleton]
      exact firstId
    · obtain ⟨second, answer, both, -, secondId⟩ := with_data valid
      rw [both, List.forall_mem_cons, List.forall_mem_singleton]
      exact ⟨firstId, secondId⟩

/-- With a signal interval of 2 the data of the first request is signaled. -/
theorem due_request_finishes : ∃ next request,
    World.step (.start (sampleEndpoint 7 { signalInterval := 2 })) (.sendRequest 0 64 (some ⟨4096, 64, 1⟩) 5 (some 3)) =
        some (next, []) ∧
      Finishes next request (cqes (handed (sampleEndpoint 7 { signalInterval := 2 }).conn.qp next.endpoint.conn.qp)) := by
  have taken : ∃ next, World.step (.start (sampleEndpoint 7 { signalInterval := 2 }))
        (.sendRequest 0 64 (some ⟨4096, 64, 1⟩) 5 (some 3)) = some (next, []) ∧
      next.issued = [⟨0, 0, 0, some 3, 5, true⟩] ∧
      ∀ wr ∈ handed (sampleEndpoint 7 { signalInterval := 2 }).conn.qp next.endpoint.conn.qp, wr.2 = true :=
    ⟨_, rfl, rfl, by decide⟩
  obtain ⟨next, stepped, issued, executed⟩ := taken
  refine ⟨next, _, stepped,
    (request_finishes_iff (start_reached (sample_fresh 7 _)) stepped issued rfl executed).mpr ⟨?_, .inr ⟨?_, .inr ?_⟩⟩⟩
  · decide +kernel
  · rfl
  · decide

/-- With the default signal interval of 16, neither the header nor the data of the first request is signaled: no
    completion ever comes, and the response alone leaves the request pending. -/
theorem data_request_waits : ∃ next request,
    World.step (.start (sampleEndpoint 7 {})) (.sendRequest 0 64 (some ⟨4096, 64, 1⟩) 5 (some 3)) = some (next, []) ∧
      next.issued = [request] ∧ request.accepted = true ∧
      (∀ wr ∈ handed (sampleEndpoint 7 {}).conn.qp next.endpoint.conn.qp, wr.2 = true) ∧
      ¬Finishes next request (cqes (handed (sampleEndpoint 7 {}).conn.qp next.endpoint.conn.qp)) := by
  have taken : ∃ next, World.step (.start (sampleEndpoint 7 {})) (.sendRequest 0 64 (some ⟨4096, 64, 1⟩) 5 (some 3)) =
        some (next, []) ∧ next.issued = [⟨0, 0, 0, some 3, 5, true⟩] ∧
      (∀ wr ∈ handed (sampleEndpoint 7 {}).conn.qp next.endpoint.conn.qp, wr.2 = true) ∧
      cqes (handed (sampleEndpoint 7 {}).conn.qp next.endpoint.conn.qp) = [] ∧ next.pool.frees 0 = 0 ∧
      (record next ⟨0, 0, 0, some 3, 5, true⟩).completed = 0 ∧ (record next ⟨0, 0, 0, some 3, 5, true⟩).total = 2 :=
    ⟨_, rfl, rfl, by decide, by decide, rfl, by decide +kernel, by decide +kernel⟩
  obtain ⟨next, stepped, issued, executed, no_cqes, held, completed, total⟩ := taken
  have sound : Sound (.start (sampleEndpoint 7 {})) (.sendRequest 0 64 (some ⟨4096, 64, 1⟩) 5 (some 3)) := trivial
  have wf := (step_wellFormed (start_wf (sample_fresh 7 {})) sound stepped).2.1
  have pending : next.Pending ⟨0, 0, 0, some 3, 5, true⟩ := ⟨by rw [issued]; exact List.mem_singleton_self _, held⟩
  refine ⟨next, _, stepped, issued, rfl, executed, ?_⟩
  rw [no_cqes]
  refine few_wait wf pending (fun _ listed => by cases listed) fun _ => ?_
  rw [completed, total]
  decide

end Rdma.Finishing
