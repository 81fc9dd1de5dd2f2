import Rdma.EndpointRuns

/-!
Stale events. A token keeps 8 bits of a generation that counts modulo 4096, so
it tells its request from every later one in the same slot until the slot has
been freed 256 times since (`names_pending`). In a run in which every event
arrives within that window, an event whose request is finished changes nothing,
and each callback is invoked at most once, while its request holds the slot
(`stale_events_harmless`).
-/
namespace Rdma.StaleEvents
open Rdma.Types Rdma.Verbs Rdma.Runs Rdma.WrIds Rdma.SlotPools Rdma.Endpoints Rdma.Ledgers Rdma.SlotLedgers
open Rdma.EndpointRuns
open Rdma.BufferPools (InRange)

/-- The tokens an event carries. -/
def tokens : Event → List (UInt32 × UInt8)
  | .onSendComplete wc => [(getSlotIndex wc.wrId, getGeneration wc.wrId)]
  | .onWriteWithImmRecv wc => [(immSlotIndex wc, immGeneration wc)]
  | .checkTimeouts expired => expired
  | _ => []

/-- The token is that of a request whose slot has been freed less than 256 times since the request was given it. -/
def InWindow (world : World) (token : UInt32 × UInt8) (request : Request) : Prop :=
  request ∈ world.issued ∧ token = (request.slotIndex, request.generation) ∧
    world.pool.frees request.slot < request.born + 256

/-- Every token of the event belongs to an issued request and arrives in its window; a call of `sendRequestSGL`
    returns, and others keep the buffer pool inside its ring. -/
def Timely (world : World) (event : Event) : Prop :=
  (∀ token ∈ tokens event, ∃ request, InWindow world token request) ∧
    match event with
    | .sendRequestSGL fuel header headerLen iov callbackCtx callback =>
      ∀ endpoint, world.endpoint.sendRequestSGL fuel header headerLen iov callbackCtx callback ≠ some (none, endpoint)
    | .environment _ bufferPool _ => InRange bufferPool
    | _ => True

variable {world : World}

theorem pending_inUse (wf : Wf world) {request : Request} (pending : world.Pending request) :
    world.pool.InUse request.slot := by
  obtain ⟨holder, held, -⟩ := wf.ledger.holds request pending.1 pending.2.symm
  have held : holderOf world.pool request.slot = some holder := held
  exact holderOf_isSome.mp (by rw [held]; rfl)

/-- Inside its window a token names its slot only while its request holds it. -/
theorem names_pending (wf : Wf world) {token : UInt32 × UInt8} {request : Request}
    (inWindow : InWindow world token request) (names : world.pool.Names token.1 token.2) :
    world.Pending request := by
  obtain ⟨issued, rfl, late⟩ := inWindow
  obtain ⟨inside, kept⟩ := wf.tokens request issued
  have past : request.born ≤ world.pool.frees request.slot := wf.ledger.past request issued
  have generation := wf.pool.generation request.slot inside
  have same : (world.pool.hot request.slot).getGeneration.toNat = request.generation.toNat := names
  exact ⟨issued, by omega⟩

theorem timely_sound (wf : Wf world) {event : Event} (timely : Timely world event) : Sound world event := by
  have inside : ∀ token ∈ tokens event, token.1.toNat < kMaxSlots ∧ ¬NamesFree world.pool token.1 token.2 := by
    intro token carried
    obtain ⟨request, inWindow⟩ := timely.1 token carried
    refine ⟨?_, fun ⟨names, free⟩ => free ?_⟩
    · rw [inWindow.2.1]
      exact (wf.tokens request inWindow.1).1
    · have inUse := pending_inUse wf (names_pending wf inWindow names)
      rw [inWindow.2.1]
      exact inUse
  cases event with
  | sendRequest header headerLen dataBuf callbackCtx callback => trivial
  | sendRequestSGL fuel header headerLen iov callbackCtx callback => exact timely.2
  | sendReadResponse clientSlotIndex clientGeneration dataBuf clientBuffer => trivial
  | onSendComplete wc => exact inside _ (List.mem_singleton_self _)
  | onWriteWithImmRecv wc => exact (inside _ (List.mem_singleton_self _)).2
  | checkTimeouts expired => exact fun entry member => ⟨(inside entry member).1, fun free => absurd free (inside entry member).2⟩
  | environment conn bufferPool timingWheel => exact timely.2

/-! ### Finished requests -/

/-- An event whose request is finished changes nothing; of a list of timeout entries, this is asked of each entry in
    the state its turn comes in. -/
def Harmless (world : World) : Event → Prop
  | .onSendComplete wc =>
    ∀ request, InWindow world (getSlotIndex wc.wrId, getGeneration wc.wrId) request → ¬world.Pending request →
      world.endpoint.onSendComplete wc = some (world.endpoint, [])
  | .onWriteWithImmRecv wc =>
    ∀ request, InWindow world (immSlotIndex wc, immGeneration wc) request → ¬world.Pending request →
      world.endpoint.onWriteWithImmRecv wc = some (world.endpoint, [])
  | .checkTimeouts expired =>
    ∀ before entry after endpoint calls count, expired = before ++ entry :: after →
      world.endpoint.checkTimeouts before = some (endpoint, calls, count) →
      ∀ request, InWindow world entry request → ¬World.Pending ⟨endpoint, world.issued⟩ request →
        endpoint.checkTimeout entry = some (endpoint, [], 0)
  | _ => True

/-- A completion outside the slot's generation is dropped. -/
theorem dropped_completion (wf : Wf world) {wc : Wc} (inside : (getSlotIndex wc.wrId).toNat < kMaxSlots)
    (stale : ¬world.pool.Names (getSlotIndex wc.wrId) (getGeneration wc.wrId)) :
    world.endpoint.onSendComplete wc = some (world.endpoint, []) := by
  have checked := getHotChecked_eq wf.pool inside (getGeneration wc.wrId)
  rw [if_neg stale] at checked
  simp only [RpcEndpoint.onSendComplete, checked, Option.bind_eq_bind, Option.bind_some]

theorem dropped_immediate (wf : Wf world) {wc : Wc} (stale : ¬world.pool.Names (immSlotIndex wc) (immGeneration wc)) :
    world.endpoint.onWriteWithImmRecv wc = some (world.endpoint, []) := by
  have checked := getHotChecked_eq wf.pool (immSlotIndex_lt wc) (immGeneration wc)
  rw [if_neg stale] at checked
  simp only [RpcEndpoint.onWriteWithImmRecv, checked, Option.bind_eq_bind, Option.bind_some]

/-- A timely event is harmless to the requests that came after its own. -/
theorem timely_harmless (wf : Wf world) {event : Event} (timely : Timely world event) : Harmless world event := by
  have sound := timely_sound wf timely
  cases event with
  | sendRequest header headerLen dataBuf callbackCtx callback => trivial
  | sendRequestSGL fuel header headerLen iov callbackCtx callback => trivial
  | sendReadResponse clientSlotIndex clientGeneration dataBuf clientBuffer => trivial
  | environment conn bufferPool timingWheel => trivial
  | onSendComplete wc =>
    exact fun request inWindow finished => dropped_completion wf sound.1 fun names =>
      finished (names_pending wf inWindow names)
  | onWriteWithImmRecv wc =>
    exact fun request inWindow finished => dropped_immediate wf fun names =>
      finished (names_pending wf inWindow names)
  | checkTimeouts expired =>
    rintro before ⟨slotIndex, generation⟩ after endpoint calls count rfl checked request inWindow finished
    have inside := (sound (slotIndex, generation) (by simp)).1
    have earlier : ∀ entry ∈ before, Handled world.pool entry := fun entry member =>
      sound entry (List.mem_append_left _ member)
    obtain ⟨last, _, _, _, checked', ends, -, -, -, slots⟩ := checkTimeouts_acts wf earlier
    rw [checked] at checked'
    obtain ⟨rfl, -⟩ := Prod.mk.inj (Option.some.inj checked')
    refine checkTimeout_skips ends.pool inside fun names => ?_
    rcases slots slotIndex.toNat with ⟨hot, frees⟩ | completed
    · have before : world.pool.Names slotIndex generation := by
        rw [RpcSlotPool.Names, ← hot]
        exact names
      obtain ⟨issued, held⟩ := names_pending wf inWindow before
      refine absurd ⟨issued, ?_⟩ finished
      have slot : request.slot = slotIndex.toNat := congrArg UInt32.toNat (Prod.mk.inj inWindow.2.1).1.symm
      rw [slot] at held ⊢
      exact frees.trans held
    · exact completed

/-! ### Callbacks -/

/-- The callbacks that a sound step invokes are those of requests that hold their slots. -/
theorem step_calls (wf : Wf world) {event : Event} (sound : Sound world event) {next : World} {calls : List Call}
    (stepped : world.step event = some (next, calls)) :
    ∀ call ∈ calls, ∃ request, world.Pending request ∧ CallOf call request := by
  obtain ⟨-, kept, actions, -, allowed, ran⟩ := step_wellFormed wf sound stepped
  intro call called
  obtain ⟨⟨request, issued, is_of⟩, early, -⟩ := run_calls wf.ledger allowed ran call called
  have before : request ∈ world.issued := by
    cases sends : event.sends with
    | true =>
      rw [(step_sends sends stepped).1] at called
      cases called
    | false =>
      rw [← step_quiet sends stepped]
      exact issued
  have past : request.born ≤ world.pool.frees request.slot := wf.ledger.past request before
  have early : world.pool.frees call.slotIndex.toNat ≤ call.epoch := early
  rw [is_of.slot, is_of.epoch] at early
  exact ⟨request, ⟨before, by omega⟩, is_of⟩

/-- How often the callback of the request is among the calls. -/
def callsOf (calls : List Call) (request : Request) : Nat :=
  (calls.map fun call => (call.slotIndex.toNat, call.epoch)).count (request.slot, request.born)

theorem callsOf_le {calls : List Call} (sane : Sane world.ledger)
    (distinct : (calls.map fun call => (call.slotIndex.toNat, call.epoch)).Nodup)
    (owned : ∀ call ∈ calls, ∃ request ∈ world.issued, CallOf call request) {request : Request}
    (issued : request ∈ world.issued) : callsOf calls request ≤ if request.accepted then 1 else 0 := by
  split
  · exact List.nodup_iff_count_le_one.mp distinct _
  · rename_i refused
    refine Nat.le_of_eq (List.count_eq_zero.mpr fun member => refused ?_)
    obtain ⟨call, called, key⟩ := List.mem_map.mp member
    obtain ⟨slot, epoch⟩ := Prod.mk.inj key
    obtain ⟨owner, known, is_of⟩ := owned call called
    have same : owner = request := List.inj_on_of_nodup_map sane.distinct known issued
      (Prod.ext (is_of.slot.symm.trans slot) (is_of.epoch.symm.trans epoch))
    rw [← same]
    exact is_of.accepted

/-! ### Runs -/

theorem timely_run_sound (wf : Wf world) {events : List Event} (timely : Meets World.step Timely world events) :
    Meets World.step Sound world events := by
  induction events generalizing world with
  | nil => trivial
  | cons event rest ih =>
    have sound := timely_sound wf timely.1
    exact ⟨sound, fun next calls stepped => ih (step_wellFormed wf sound stepped).2.1 (timely.2 next calls stepped)⟩

/-- In a run in which every event arrives in the window of its token, events of finished requests are harmless, no
    slot is on the free stack twice, every callback is invoked while its request holds the slot, and no callback is
    invoked twice or for a request whose send call returned an error. The events of a run come one after the other: a
    callback that calls the endpoint while it is invoked is no run. -/
theorem stale_events_harmless {endpoint : RpcEndpoint} (fresh : Fresh endpoint) {events : List Event}
    (timely : Meets World.step Timely (.start endpoint) events) :
    (∀ front event rest, events = front ++ event :: rest →
      ∃ world before, run World.step (.start endpoint) front = some (world, before) ∧ Harmless world event ∧
        world.pool.freeSlots.Nodup ∧
        ∃ next calls, world.step event = some (next, calls) ∧
          ∀ call ∈ calls, ∃ request, world.Pending request ∧ CallOf call request) ∧
    ∃ last calls, run World.step (.start endpoint) events = some (last, calls) ∧ last.pool.freeSlots.Nodup ∧
      ∀ request ∈ last.issued, callsOf calls request ≤ if request.accepted then 1 else 0 := by
  have wf := start_wf fresh
  constructor
  · rintro front event rest rfl
    obtain ⟨first, later⟩ := meets_append.mp timely
    obtain ⟨world, before, ran, kept, -⟩ := run_acts wf (timely_run_sound wf first)
    have here := (later world before ran).1
    have sound := timely_sound kept here
    obtain ⟨next, calls, stepped, -⟩ := step_acts kept sound
    exact ⟨world, before, ran, timely_harmless kept here, kept.pool.distinct, next, calls, stepped,
      step_calls kept sound stepped⟩
  · obtain ⟨last, calls, ran, kept, actions, allowed, acted⟩ := run_acts wf (timely_run_sound wf timely)
    exact ⟨last, calls, ran, kept.pool.distinct, fun request issued => callsOf_le kept.ledger
      (run_calls_distinct wf.ledger allowed acted) (fun call called => (run_calls wf.ledger allowed acted call called).1)
      issued⟩

/-- A request times out, and its timeout entry comes a second time. -/
theorem second_timeout_harmless :
    ∃ last calls, run World.step (.start (sampleEndpoint 7 {}))
        [.sendRequest 0 64 none 5 (some 3), .checkTimeouts [(0, 0)], .checkTimeouts [(0, 0)]] = some (last, calls) ∧
      last.pool.freeSlots.Nodup ∧ ∀ request ∈ last.issued, callsOf calls request ≤ if request.accepted then 1 else 0 := by
  have known : ∀ world : World, ⟨0, 0, 0, some 3, 5, true⟩ ∈ world.issued → world.pool.frees 0 < 256 →
      Timely world (.checkTimeouts [(0, 0)]) := by
    intro world issued few
    refine ⟨fun token carried => ⟨⟨0, 0, 0, some 3, 5, true⟩, issued, List.mem_singleton.mp carried, few⟩, trivial⟩
  refine (stale_events_harmless (sample_fresh 7 {}) ?_).2
  refine meets_cons rfl ⟨fun _ carried => (List.not_mem_nil carried).elim, trivial⟩ ?_
  refine meets_cons rfl (known _ (by decide +kernel) (by decide +kernel)) ?_
  exact meets_cons rfl (known _ (by decide +kernel) (by decide +kernel)) (meets_nil _)

end Rdma.StaleEvents
