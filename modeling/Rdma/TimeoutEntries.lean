import Rdma.SharedWheels
import Rdma.Tokens

/-!
Timeout entries of requests. A send call does not look at what `Schedule`
returns, so a request is accepted without an entry when the wheel has none to
give. Where the wheel has a free entry, an accepted request has an entry under
its token, and the entry is reported after one turn of the wheel at the latest
(`timeout_entry_iff`).
-/
namespace Rdma.TimeoutEntries
open Rdma.Types Rdma.Runs Rdma.Chains Rdma.TimingWheels Rdma.SlotPools Rdma.Endpoints Rdma.SlotLedgers
open Rdma.Tokens Rdma.Connections
open Rdma.EndpointRuns hiding Event
open Rdma.SharedWheels

/-- No field of the slot pool has changed. -/
def Untouched (pool next : RpcSlotPool) : Prop :=
  next.slotsHot = pool.slotsHot ∧ next.slotsContext = pool.slotsContext ∧ next.freeStack = pool.freeStack ∧
    next.stackTop = pool.stackTop

/-- The token of the request in a slot. -/
def tokenAt (pool : RpcSlotPool) (slotIndex : UInt32) : Token :=
  (slotIndex, (pool.hot slotIndex.toNat).getGeneration.toUInt8)

/-- A request that is accepted has a timeout entry; where there is none to be had, the call returns an error and leaves
    the slot pool alone. -/
structure Backed (endpoint next : RpcEndpoint) (result : Except Status UInt32) : Prop where
  held : ∀ slotIndex, result = .ok slotIndex → Waiting next.timingWheel (tokenAt next.slotPool slotIndex)
  refused : endpoint.timingWheel.freeList = none →
    result.isOk = false ∧ Untouched endpoint.slotPool next.slotPool

/-- The wheel has a free entry, or no slot is free. -/
def CanBack (endpoint : RpcEndpoint) : Prop :=
  endpoint.timingWheel.freeList ≠ none ∨ endpoint.slotPool.stackTop = 0

/-! ### What a send call leaves -/

section Calls
variable {endpoint next started : RpcEndpoint} {slotIndex : UInt32} {generation : UInt8} {header headerLen : UInt64}
  {callbackCtx : Nat} {callback : Option Nat} {token : Option Token} {behind : Option Posting}
  {result : Except Status UInt32}

/-- A call that is given no slot finds no slot free, and changes nothing. -/
theorem started_none (sized : endpoint.slotPool.Sized) (starts : Started endpoint callbackCtx callback none started) :
    endpoint.slotPool.stackTop = 0 ∧ Untouched endpoint.slotPool started.slotPool := by
  cases starts with
  | exhausted allocated =>
    cases allocate_inv allocated with
    | empty none_free => exact ⟨none_free, rfl, rfl, rfl, rfl⟩
    | taken _ inside =>
      rw [sized.1] at inside
      exact absurd inside (by decide)

theorem started_some (starts : Started endpoint callbackCtx callback (some (slotIndex, generation)) started) :
    endpoint.slotPool.stackTop ≠ 0 := by
  cases starts with
  | given named allocated =>
    cases allocate_inv allocated with
    | empty => exact absurd rfl named
    | taken some_free => exact some_free

theorem setHot_token {pool written : RpcSlotPool} {hot updated : RpcSlotHot} (read : pool.getHot slotIndex = some hot)
    (writes : pool.setHot slotIndex updated = some written) (same : updated.slotGenPacked = hot.slotGenPacked) :
    tokenAt written slotIndex = tokenAt pool slotIndex := by
  unfold tokenAt RpcSlotHot.getGeneration
  rw [setHot_hot writes, same, ← (Arrays.read_some read).2]
  rfl

theorem free_generation {pool freed : RpcSlotPool} (freeing : pool.free slotIndex = some freed) :
    (freed.hot slotIndex.toNat).getGeneration.toNat =
      ((pool.hot slotIndex.toNat).getGeneration.toNat + 1) % 4096 := by
  obtain ⟨hot, read, freeing⟩ := Option.bind_eq_some_iff.mp freeing
  obtain ⟨marked, written, freeing⟩ := Option.bind_eq_some_iff.mp freeing
  obtain ⟨stack, -, freeing⟩ := Option.bind_eq_some_iff.mp freeing
  obtain rfl := Option.some.inj freeing
  have marks : marked.hot slotIndex.toNat = _ := setHot_hot written
  have before : pool.hot slotIndex.toNat = hot := (Arrays.read_some read).2
  change (marked.hot slotIndex.toNat).getGeneration.toNat = _
  rw [marks, before, getGeneration_incrementGeneration]
  rfl

/-- A request that is accepted is backed if and only if there was an entry to be had. -/
theorem accepted_backed {lists : Option Nat → List Nat} (represents : Represents endpoint.timingWheel lists)
    (starts : Started endpoint callbackCtx callback (some (slotIndex, generation)) started)
    (wheel : next.timingWheel = started.timingWheel)
    (same : tokenAt next.slotPool slotIndex = tokenAt started.slotPool slotIndex) :
    Backed endpoint next (.ok slotIndex) ↔ CanBack endpoint := by
  obtain ⟨given, kept, -⟩ := starts.hot
  rw [CanBack, or_iff_left (started_some starts)]
  constructor
  · intro backed full
    cases (backed.refused full).1
  · intro some_entry
    refine ⟨fun _ accepted => ?_, fun full => absurd full some_entry⟩
    obtain rfl := Except.ok.inj accepted
    have token : tokenAt next.slotPool slotIndex = (slotIndex, generation) := by
      rw [same, tokenAt, kept, given]
    obtain ⟨entry, rest, free⟩ : ∃ entry rest, lists none = entry :: rest := by
      refine List.exists_cons_of_ne_nil fun empty => some_entry ?_
      exact represents.filed.holds.empty layout.free_place empty
    obtain ⟨after, scheduled, kept, tokens, -⟩ :=
      schedule_spec represents free slotIndex generation endpoint.config.timeoutMs
    rw [token, wheel, starts.wheel, RpcEndpoint.wheelAfter, scheduled]
    refine (waiting_iff kept _).mpr ⟨_, target_lt endpoint.timingWheel endpoint.config.timeoutMs, entry, ?_, ?_⟩
    · rw [scheduledLists, Function.update_self]
      exact List.mem_cons_self
    · rw [tokens, Function.update_self]

/-- A request whose slot is freed again has changed the slot pool. -/
theorem refused_backed (starts : Started endpoint callbackCtx callback (some (slotIndex, generation)) started)
    {status : Status} (freed : started.slotPool.free slotIndex = some next.slotPool) :
    Backed endpoint next (.error status) ↔ CanBack endpoint := by
  obtain ⟨-, kept, -⟩ := starts.hot
  rw [CanBack, or_iff_left (started_some starts)]
  constructor
  · intro backed full
    have hot := (backed.refused full).2.1
    have later := free_generation freed
    rw [kept, RpcSlotPool.hot, hot] at later
    change (endpoint.slotPool.hot slotIndex.toNat).getGeneration.toNat = _ at later
    omega
  · intro some_entry
    refine ⟨fun slotIndex accepted => ?_, fun full => absurd full some_entry⟩
    cases accepted

/-- A send call is backed if and only if there is an entry to be had, or no slot is free. -/
theorem sending_backed (sized : endpoint.slotPool.Sized) {lists : Option Nat → List Nat}
    (represents : Represents endpoint.timingWheel lists) (starts : Started endpoint callbackCtx callback token started)
    (ends : Sending endpoint started header headerLen behind token (some result) next) :
    Backed endpoint next result ↔ CanBack endpoint := by
  cases ends with
  | exhausted =>
    obtain ⟨none_free, untouched⟩ := started_none sized starts
    refine iff_of_true ⟨fun slotIndex accepted => ?_, fun _ => ⟨rfl, untouched⟩⟩ (.inr none_free)
    cases accepted
  | refused _ freed => exact refused_backed starts freed
  | alone => exact accepted_backed represents starts rfl rfl
  | followed _ _ read written returns =>
    obtain ⟨status, -, same⟩ := Option.map_eq_some_iff.mp returns.symm
    rw [← same]
    exact accepted_backed represents starts rfl (setHot_token read written rfl)

end Calls

/-! ### Runs -/

/-- In every state of any run of endpoints over a new wheel: a send call is backed by a timeout entry if and only if the
    wheel has a free entry or no slot is free, and what the wheel holds is reported after one turn of the wheel at the
    latest. -/
theorem timeout_entry_iff {endpoints : Nat → RpcEndpoint} (fresh : ∀ index, Fresh (endpoints index)) {turns : List Turn}
    {shared : Shared} {outputs : List (Nat × Call)}
    (ran : run Shared.step (.start endpoints) turns = some (shared, outputs)) (index : Nat) :
    (∀ header headerLen dataBuf callbackCtx callback result next,
      (shared.world index).endpoint.sendRequest header headerLen dataBuf callbackCtx callback = some (result, next) →
      (Backed (shared.world index).endpoint next result ↔ CanBack (shared.world index).endpoint)) ∧
    (∀ fuel header headerLen iov callbackCtx callback result next,
      (shared.world index).endpoint.sendRequestSGL fuel header headerLen iov callbackCtx callback =
        some (some result, next) →
      (Backed (shared.world index).endpoint next result ↔ CanBack (shared.world index).endpoint)) ∧
    ∀ token, Waiting shared.wheel token → ∀ later last calls, run Shared.step shared later = some (last, calls) →
      kWheelSize ≤ later.countP Turn.ticks → ∃ more, last.vectors = shared.vectors ++ more ∧ token ∈ more.flatten := by
  have kept := run_kept (start_kept fresh) ran
  obtain ⟨lists, represents, -⟩ := kept.filed
  have represents : Represents (shared.world index).endpoint.timingWheel lists := represents
  have sized : (shared.world index).endpoint.slotPool.Sized := kept.sized index
  refine ⟨?_, ?_, fun token waiting later last calls ran enough => waiting_reported kept waiting ran enough⟩
  · intro header headerLen dataBuf callbackCtx callback result next sent
    obtain ⟨token, started, starts, ends⟩ := sendRequest_inv sent
    exact sending_backed sized represents starts ends
  · intro fuel header headerLen iov callbackCtx callback result next sent
    obtain ⟨token, started, starts, ends⟩ := sendRequestSGL_inv sent
    exact sending_backed sized represents starts ends

/-- The first request on a new wheel. -/
theorem first_request_backed : ∃ next, (sampleEndpoint 7 {}).sendRequest 4096 64 none 5 none = some (.ok 0, next) ∧
    Backed (Shared.world (.start fun _ => sampleEndpoint 7 {}) 0).endpoint next (.ok 0) := by
  have ran : run Shared.step (.start fun _ => sampleEndpoint 7 {}) [] = some (.start fun _ => sampleEndpoint 7 {}, []) := rfl
  obtain ⟨backed, -⟩ := timeout_entry_iff (fun _ => sample_fresh 7 {}) ran 0
  refine ⟨_, rfl, (backed 4096 64 none 5 none (.ok 0) _ rfl).mpr (.inl ?_)⟩
  exact Option.some_ne_none 0

/-! ### A wheel without free entries -/

section Filling
variable {shared : Shared} {lists : Option Nat → List Nat} {rest : List Nat} {headerLen : UInt64}

/-- A call in a shared state. -/
theorem call_step {index : Nat} {event : EndpointRuns.Event} {world : World} {calls : List Call}
    (stepped : (shared.world index).step (sharing shared.wheel event) = some (world, calls)) :
    ∃ next, shared.step (.call index event) = some (next, calls.map fun call => (index, call)) ∧
      next.world index = world ∧ next.worlds index = world ∧ next.wheel = world.endpoint.timingWheel := by
  refine ⟨_, Option.bind_eq_some_iff.mpr ⟨_, stepped, rfl⟩, ?_, ?_, rfl⟩
  · unfold Shared.world
    dsimp only
    rw [Function.update_self]
    rfl
  · dsimp only
    rw [Function.update_self]

/-- Send calls with headers that are too large leave an entry for slot 0 on the wheel each. -/
theorem oversized_turns (represents : Represents shared.wheel lists)
    (slots : ∀ entry, (shared.wheel.token entry).1 = 0) (wf : Wf (shared.world 0))
    (stack : (shared.world 0).pool.freeSlots = rest ++ [(0 : UInt32).toNat])
    (large : (shared.world 0).endpoint.conn.qp.config.maxInlineData.toNat < headerLen.toNat)
    (connected : (shared.world 0).endpoint.conn.state = .connected) {count : Nat} (room : (lists none).length = count) :
    ∃ last left, run Shared.step shared (List.replicate count (.call 0 (.sendRequest 0 headerLen none 0 none))) =
        some (last, []) ∧ Represents last.wheel left ∧ left none = [] ∧ (∀ entry, (last.wheel.token entry).1 = 0) ∧
      Wf (last.world 0) ∧ (last.world 0).pool.freeSlots = rest ++ [(0 : UInt32).toNat] ∧
      (last.world 0).endpoint.conn = (shared.world 0).endpoint.conn := by
  induction count generalizing shared lists with
  | zero => exact ⟨shared, lists, rfl, represents, List.length_eq_zero_iff.mp room, slots, wf, stack, rfl⟩
  | succ count ih =>
    obtain ⟨entry, others, free⟩ := List.exists_cons_of_ne_nil (List.ne_nil_of_length_eq_add_one room)
    obtain ⟨world, called, kept, top, conn, -⟩ := oversized_step wf stack large connected
    have shared_call : (shared.world 0).step (sharing shared.wheel (.sendRequest 0 headerLen none 0 none)) = _ := called
    obtain ⟨next, stepped, at_next, worlds, -⟩ := call_step shared_call
    obtain ⟨-, callbackCtx, callback, accepted, issued⟩ := step_sends rfl called
    rw [issue_top wf stack] at issued
    obtain ⟨target, claims⟩ := call_claims represents stepped (by rw [worlds]; exact issued) free
    rw [← at_next] at kept top conn
    have fewer : (scheduledLists lists entry others target none).length = count := by
      rw [scheduledLists, Function.update_of_ne (Option.some_ne_none target).symm, Function.update_self]
      rw [free, List.length_cons] at room
      exact Nat.succ.inj room
    have tokens : ∀ other, (next.wheel.token other).1 = 0 := by
      intro other
      rw [claims.token]
      by_cases same : other = entry
      · subst same
        rw [Function.update_self]
        rfl
      · rw [Function.update_of_ne same]
        exact slots other
    obtain ⟨last, left, ran, ends⟩ := ih claims.represents tokens kept top (by rw [conn]; exact large)
      (by rw [conn]; exact connected) fewer
    rw [conn] at ends
    exact ⟨last, left, run_cons_some.mpr ⟨next, [], [], stepped, ran, rfl⟩, ends⟩

end Filling

/-- After 65536 send calls with headers of 300 bytes and a first request there is no entry left for the second request,
    which is accepted. -/
theorem second_request_unbacked : ∃ shared outputs,
    run Shared.step (.start fun _ => sampleEndpoint 7 {}) (List.replicate kMaxEntries (.call 0 (.sendRequest 0 300 none 0 none)) ++
        [.call 0 (.sendRequest 0 64 none 0 none)]) = some (shared, outputs) ∧
      ∃ next, (shared.world 0).endpoint.sendRequest 0 64 none 0 none = some (.ok 1, next) ∧
        ∀ generation, ¬Waiting next.timingWheel (1, generation) := by
  obtain ⟨rest, stack⟩ := create_stack_two
  have large : (Shared.world (.start fun _ => sampleEndpoint 7 {}) 0).endpoint.conn.qp.config.maxInlineData.toNat <
    (300 : UInt64).toNat := by decide
  have wf : Wf (Shared.world (.start fun _ => sampleEndpoint 7 {}) 0) := start_wf (sample_fresh 7 {})
  have room : (firstLists kMaxEntries (none : Option Nat)).length = kMaxEntries := List.length_range
  obtain ⟨full, left, ran, represents, none_left, slots, wf, stack, conn⟩ :=
    oversized_turns create_represents (fun _ => rfl) wf stack large rfl room
  have posted : (postHeader (full.world 0).endpoint 0 0 64).1.ok = true := by
    rw [postHeader, RpcEndpoint.postHeader, conn]
    rfl
  obtain ⟨world, called, endpoint, -, -⟩ := accepted_step wf stack 0 64 none 0 none posted
  have shared_call : (full.world 0).step (sharing full.wheel (.sendRequest 0 64 none 0 none)) = _ := called
  obtain ⟨shared, stepped, at_shared, -, -⟩ := call_step shared_call
  have same : shared.wheel = full.wheel := by
    rcases call_lists represents stepped with ⟨wheel, -⟩ | ⟨entry, others, request, target, claims⟩
    · exact wheel
    · rw [claims.free] at none_left
      cases none_left
  refine ⟨shared, _, run_append_some.mpr ⟨full, _, _, ran, run_cons_some.mpr ⟨shared, _, _, stepped, rfl, rfl⟩, rfl⟩, ?_⟩
  have sound : Sound (full.world 0) (.sendRequest 0 64 none 0 none) := trivial
  have kept := (step_wellFormed wf sound called).2.1
  have left_stack : world.pool.freeSlots = rest ++ [(1 : UInt32).toNat] := by
    change world.endpoint.slotPool.freeSlots = _
    rw [endpoint, (accepted_frame ..).1]
    exact taken_freeSlots stack
  have posted : (postHeader world.endpoint 1 0 64).1.ok = true := by
    rw [endpoint]
    change ((postHeader (full.world 0).endpoint 0 0 64).2.sendInline 0 64 _).1.ok = true
    rw [postHeader, RpcEndpoint.postHeader, conn]
    rfl
  have sent := sendRequest_accepted 0 64 none 0 none kept.pool left_stack posted
  rw [at_shared]
  refine ⟨_, sent, fun generation waiting => ?_⟩
  have wheel : world.endpoint.timingWheel = full.wheel := by rw [← at_shared, ← same]; rfl
  have unchanged : (accepted world.endpoint 1 0 64 none 0 none).timingWheel = full.wheel := by
    change (world.endpoint.timingWheel.schedule 1 _ _).2 = _
    rw [wheel, schedule_full represents none_left]
  rw [unchanged] at waiting
  obtain ⟨bucket, -, entry, -, token⟩ := (waiting_iff represents _).mp waiting
  have slot := slots entry
  rw [token] at slot
  have apart : (1 : UInt32) ≠ 0 := by decide
  exact apart slot

end Rdma.TimeoutEntries
