import Rdma.EndpointRuns
import Rdma.WheelRuns

/-!
Endpoints that share a timing wheel, as the endpoints of one reactor do. Each
has a slot pool of its own; the wheel's entries hold a slot index and a
generation, and a history variable remembers for which request an entry was
scheduled. In every run the entries on the wheel stand for requests that the
endpoints have issued (`run_kept`), and an entry that the wheel holds is
reported after one turn of the wheel at the latest (`reported_in_time`).
-/
namespace Rdma.SharedWheels
open Rdma.Types Rdma.Runs Rdma.Chains Rdma.TimingWheels Rdma.SlotPools Rdma.Endpoints Rdma.Ledgers
open Rdma.EndpointRuns hiding Event
open Rdma.WheelRuns hiding Event

/-! ### The machine -/

/-- The endpoints over one wheel. The other fields are history variables, not in the source: for which endpoint's
    request an entry was scheduled last, the vectors that `Tick` has filled, the requests whose entries `Tick` has
    reported, and the requests that a call of `CheckTimeouts` has finished. -/
structure Shared where
  wheel : TimingWheel
  worlds : Nat → World
  owner : Nat → Option (Nat × Request)
  vectors : List (List Token)
  lapsed : List (Nat × Request)
  timedOut : List (Nat × Request)

/-- An endpoint is called, or the wheel ticks. -/
inductive Turn
  | call (index : Nat) (event : EndpointRuns.Event)
  | tick

def Turn.ticks : Turn → Bool
  | .tick => true
  | .call .. => false

/-- An endpoint points to the wheel as it is now. -/
def onWheel (world : World) (wheel : TimingWheel) : World :=
  { world with endpoint := { world.endpoint with timingWheel := wheel } }

def Shared.world (shared : Shared) (index : Nat) : World := onWheel (shared.worlds index) shared.wheel

/-- What others do to an endpoint's connection and buffer pool leaves the wheel alone. -/
def sharing (wheel : TimingWheel) : EndpointRuns.Event → EndpointRuns.Event
  | .environment conn bufferPool _ => .environment conn bufferPool wheel
  | event => event

/-- The entries from one on. -/
def walk (entryPool : Nat → TimeoutEntry) : Nat → Option Nat → List Nat
  | _, none => []
  | 0, some _ => []
  | fuel + 1, some entry => entry :: walk entryPool fuel (entryPool entry).next

/-- The requests whose entries the next tick reports. -/
def Shared.due (shared : Shared) : List (Nat × Request) :=
  (walk shared.wheel.entryPool kMaxEntries (shared.wheel.buckets shared.wheel.current.toNat).head).filterMap shared.owner

/-- The entry that a call has taken from the free list belongs to the request that it has issued. -/
def Shared.claimed (shared : Shared) (index : Nat) (before after : World) : Nat → Option (Nat × Request) :=
  match shared.wheel.freeList, after.issued.drop before.issued.length with
  | some entry, request :: _ => Function.update shared.owner entry (some (index, request))
  | _, _ => shared.owner

/-- The requests that the event has timed out. -/
def expiredBy (index : Nat) (before after : World) : EndpointRuns.Event → List (Nat × Request)
  | .checkTimeouts _ =>
    (before.issued.filter fun request => before.pool.frees request.slot = request.born ∧
      after.pool.frees request.slot ≠ request.born).map fun request => (index, request)
  | _ => []

def Shared.step (shared : Shared) : Turn → Option (Shared × List (Nat × Call))
  | .call index event => do
    let (next, calls) ← (shared.world index).step (sharing shared.wheel event)
    some ({ shared with
        wheel := next.endpoint.timingWheel
        worlds := Function.update shared.worlds index next
        owner := shared.claimed index (shared.world index) next
        timedOut := shared.timedOut ++ expiredBy index (shared.world index) next event },
      calls.map fun call => (index, call))
  | .tick => do
    let (expired, wheel) ← shared.wheel.tick
    some ({ shared with
        wheel
        vectors := shared.vectors ++ [expired]
        lapsed := shared.lapsed ++ shared.due }, [])

def Shared.start (endpoints : Nat → RpcEndpoint) : Shared where
  wheel := .create
  worlds index := .start (endpoints index)
  owner _ := none
  vectors := []
  lapsed := []
  timedOut := []

/-! ### What an event does to the wheel -/

section Events
variable {world next : World} {event : EndpointRuns.Event} {calls : List Call}

theorem quiet_wheel {wheel : TimingWheel} (quiet : event.sends = false)
    (stepped : (onWheel world wheel).step (sharing wheel event) = some (next, calls)) :
    next.endpoint.timingWheel = wheel := by
  cases event with
  | sendRequest header headerLen dataBuf callbackCtx callback => cases quiet
  | sendRequestSGL fuel header headerLen iov callbackCtx callback => cases quiet
  | sendReadResponse clientSlotIndex clientGeneration dataBuf clientBuffer =>
    rw [← (Prod.mk.inj (Option.some.inj stepped)).1]
    rfl
  | environment conn bufferPool timingWheel => rw [← (Prod.mk.inj (Option.some.inj stepped)).1]
  | onSendComplete wc =>
    obtain ⟨⟨endpoint, called⟩, handled, same⟩ := Option.bind_eq_some_iff.mp stepped
    rw [← (Prod.mk.inj (Option.some.inj same)).1, (onSendComplete_onPool handled).frame]
    rfl
  | onWriteWithImmRecv wc =>
    obtain ⟨⟨endpoint, called⟩, handled, same⟩ := Option.bind_eq_some_iff.mp stepped
    rw [← (Prod.mk.inj (Option.some.inj same)).1]
    rcases onWriteWithImmRecv_inv handled with rfl | ⟨counted, counts, reposted⟩
    · rfl
    · obtain ⟨buf, bufferPool, -, rfl⟩ := repostRecvBuffer_inv reposted
      rw [counts.frame]
      rfl
  | checkTimeouts expired =>
    obtain ⟨⟨endpoint, called, count⟩, checked, same⟩ := Option.bind_eq_some_iff.mp stepped
    rw [← (Prod.mk.inj (Option.some.inj same)).1, (checkTimeouts_onPool checked).frame]
    rfl

/-- What a send call does: it issues a request and schedules its token, or neither. -/
def Schedules (world next : World) : Prop :=
  (next.issued = world.issued ∧ next.endpoint.timingWheel = world.endpoint.timingWheel) ∨
    ∃ request, next.issued = world.issued ++ [request] ∧ next.endpoint.timingWheel =
      (world.endpoint.timingWheel.schedule request.slotIndex request.generation world.endpoint.config.timeoutMs).2

theorem issue_schedules {started : RpcEndpoint} {token : Option Token} {callbackCtx : Nat} {callback : Option Nat}
    (starts : Started world.endpoint callbackCtx callback token started) (accepted : Bool)
    {endpoint : RpcEndpoint} (wheel : endpoint.timingWheel = started.timingWheel) :
    Schedules world ⟨endpoint, world.issue callbackCtx callback accepted⟩ := by
  have scheduled := wheel.trans starts.wheel
  unfold World.issue
  cases starts with
  | exhausted allocated =>
    rw [allocated]
    exact .inl ⟨rfl, scheduled⟩
  | given named allocated =>
    rw [allocated]
    dsimp only
    rw [if_neg named]
    exact .inr ⟨_, rfl, scheduled⟩

theorem sends_schedules (sends : event.sends = true) (stepped : world.step event = some (next, calls)) :
    Schedules world next := by
  cases event with
  | sendRequest header headerLen dataBuf callbackCtx callback =>
    obtain ⟨⟨result, endpoint⟩, sent, same⟩ := Option.bind_eq_some_iff.mp stepped
    obtain ⟨rfl, -⟩ := Prod.mk.inj (Option.some.inj same)
    obtain ⟨token, started, starts, ends⟩ := sendRequest_inv sent
    exact issue_schedules starts _ ends.wheel
  | sendRequestSGL fuel header headerLen iov callbackCtx callback =>
    obtain ⟨⟨returned, endpoint⟩, sent, same⟩ := Option.bind_eq_some_iff.mp stepped
    obtain ⟨result, -, same⟩ := Option.bind_eq_some_iff.mp same
    obtain ⟨rfl, -⟩ := Prod.mk.inj (Option.some.inj same)
    obtain ⟨token, started, starts, ends⟩ := sendRequestSGL_inv sent
    exact issue_schedules starts _ ends.wheel
  | _ => cases sends

end Events

/-! ### What a turn does -/

section Turns
variable {shared next : Shared} {outputs : List (Nat × Call)} {lists : Option Nat → List Nat}

theorem call_inv {index : Nat} {event : EndpointRuns.Event}
    (stepped : shared.step (.call index event) = some (next, outputs)) :
    ∃ world calls, (shared.world index).step (sharing shared.wheel event) = some (world, calls) ∧
      outputs = calls.map (fun call => (index, call)) ∧
      next = { shared with
        wheel := world.endpoint.timingWheel
        worlds := Function.update shared.worlds index world
        owner := shared.claimed index (shared.world index) world
        timedOut := shared.timedOut ++ expiredBy index (shared.world index) world event } := by
  obtain ⟨⟨world, calls⟩, called, stepped⟩ := Option.bind_eq_some_iff.mp stepped
  obtain ⟨rfl, rfl⟩ := Prod.mk.inj (Option.some.inj stepped)
  exact ⟨world, calls, called, rfl, rfl⟩

theorem sharing_sends (wheel : TimingWheel) (event : EndpointRuns.Event) :
    (sharing wheel event).sends = event.sends := by cases event <;> rfl

/-- An entry of the wheel's free list has been scheduled for a request. -/
structure Claims (shared next : Shared) (lists : Option Nat → List Nat) (index entry : Nat) (rest : List Nat)
    (request : Request) (target : Nat) : Prop where
  free : lists none = entry :: rest
  inside : target < kWheelSize
  represents : Represents next.wheel (scheduledLists lists entry rest target)
  token : next.wheel.token = Function.update shared.wheel.token entry (request.slotIndex, request.generation)
  current : next.wheel.current = shared.wheel.current
  owner : next.owner = Function.update shared.owner entry (some (index, request))
  issued : (next.worlds index).issued = (shared.worlds index).issued ++ [request]

theorem grown_apart (issued : List Request) (request : Request) : issued ++ [request] ≠ issued := by
  intro same
  have length := congrArg List.length same
  rw [List.length_append, List.length_singleton] at length
  exact Nat.succ_ne_self _ length

theorem claimed_nothing {index : Nat} {before after : World} (same : after.issued = before.issued) :
    shared.claimed index before after = shared.owner := by
  unfold Shared.claimed
  rw [same, List.drop_length]
  cases shared.wheel.freeList <;> rfl

/-- What a call that issues a request does to the wheel. -/
theorem issue_inv {index : Nat} {event : EndpointRuns.Event}
    (stepped : shared.step (.call index event) = some (next, outputs)) {request : Request}
    (issued : (next.worlds index).issued = (shared.worlds index).issued ++ [request]) :
    ∃ timeout, next.wheel = (shared.wheel.schedule request.slotIndex request.generation timeout).2 ∧
      ∃ world, next.owner = shared.claimed index (shared.world index) world ∧
        world.issued.drop (shared.world index).issued.length = [request] := by
  obtain ⟨world, calls, called, -, rfl⟩ := call_inv stepped
  dsimp only at issued
  rw [Function.update_self] at issued
  have grown : world.issued ≠ (shared.world index).issued := by
    rw [issued]
    exact grown_apart (shared.worlds index).issued request
  have sends : event.sends = true := by
    by_contra quiet
    rw [Bool.not_eq_true] at quiet
    exact grown (step_quiet ((sharing_sends shared.wheel event).trans quiet) called)
  rcases sends_schedules ((sharing_sends shared.wheel event).trans sends) called with ⟨same, -⟩ | ⟨new, same, wheel⟩
  · exact absurd same grown
  · have given : world.issued.drop (shared.world index).issued.length = [request] := by
      rw [show world.issued = (shared.world index).issued ++ [request] from issued, List.drop_left]
    obtain rfl : new = request := List.singleton_injective (List.append_cancel_left (same.symm.trans issued))
    exact ⟨_, wheel, world, rfl, given⟩

/-- A call that issues a request schedules an entry for it, if one is free. -/
theorem call_claims (represents : Represents shared.wheel lists) {index : Nat} {event : EndpointRuns.Event}
    (stepped : shared.step (.call index event) = some (next, outputs)) {request : Request}
    (issued : (next.worlds index).issued = (shared.worlds index).issued ++ [request]) {entry : Nat} {rest : List Nat}
    (free : lists none = entry :: rest) : ∃ target, Claims shared next lists index entry rest request target := by
  obtain ⟨timeout, wheel, world, owner, given⟩ := issue_inv stepped issued
  obtain ⟨after, scheduled, kept, token, current⟩ :=
    schedule_spec represents free request.slotIndex request.generation timeout
  rw [scheduled] at wheel
  have first : shared.wheel.freeList = some entry := (represents.filed.holds.front layout.free_place free).1
  refine ⟨_, free, target_lt shared.wheel timeout, ?_, ?_, ?_, ?_, issued⟩
  · rw [wheel]
    exact kept
  · rw [wheel]
    exact token
  · rw [wheel]
    exact current
  · rw [owner, Shared.claimed, first, given]

/-- A call leaves the wheel alone or schedules an entry for the request that it issues. -/
theorem call_lists (represents : Represents shared.wheel lists) {index : Nat} {event : EndpointRuns.Event}
    (stepped : shared.step (.call index event) = some (next, outputs)) :
    (next.wheel = shared.wheel ∧ next.owner = shared.owner) ∨
      ∃ entry rest request target, Claims shared next lists index entry rest request target := by
  obtain ⟨world, calls, called, -, same⟩ := call_inv stepped
  have after : next.worlds index = world := by
    rw [same]
    exact Function.update_self ..
  rcases step_issues called with issued | ⟨request, issued⟩
  · have owner : next.owner = shared.owner := by
      rw [same]
      exact claimed_nothing issued
    refine .inl ⟨?_, owner⟩
    rw [same]
    cases sends : event.sends with
    | false => exact quiet_wheel sends called
    | true =>
      rcases sends_schedules ((sharing_sends shared.wheel event).trans sends) called with ⟨-, wheel⟩ | ⟨request, grown, -⟩
      · exact wheel
      · rw [issued] at grown
        exact absurd grown.symm (grown_apart (shared.world index).issued request)
  · have issued : (next.worlds index).issued = (shared.worlds index).issued ++ [request] := by
      rw [after]
      exact issued
    cases free : lists none with
    | nil =>
      obtain ⟨timeout, wheel, world, owner, given⟩ := issue_inv stepped issued
      have empty : shared.wheel.freeList = none := represents.filed.holds.empty layout.free_place free
      rw [schedule_full represents free] at wheel
      refine .inl ⟨wheel, ?_⟩
      rw [owner, Shared.claimed, empty]
    | cons entry rest =>
      obtain ⟨target, claims⟩ := call_claims represents stepped issued free
      exact .inr ⟨entry, rest, request, target, claims⟩

theorem walk_chain {entryPool : Nat → TimeoutEntry} {fuel : Nat} {first : Option Nat} {list : List Nat}
    (chain : Chain (nextOf entryPool) first list) (enough : list.length ≤ fuel) : walk entryPool fuel first = list := by
  induction chain generalizing fuel with
  | nil => cases fuel <;> rfl
  | cons later ih =>
    cases fuel with
    | zero => cases enough
    | succ fuel =>
      rw [walk]
      exact congrArg _ (ih (Nat.le_of_succ_le_succ enough))

/-- The entries that the next tick reports are those of the current bucket. -/
theorem walk_current {wheel : TimingWheel} (represents : Represents wheel lists) :
    walk wheel.entryPool kMaxEntries (wheel.buckets wheel.current.toNat).head = lists (some wheel.current.toNat) := by
  have chain : Chain (nextOf wheel.entryPool) (wheel.buckets wheel.current.toNat).head
      (lists (some wheel.current.toNat)) :=
    represents.filed.holds.chains _ (layout.bucket_place.mpr (mem_buckets.mpr represents.current))
  refine walk_chain chain ?_
  have length := represents.filed.holds.length
  have inside := (pending_cut lists (mem_buckets.mpr represents.current)).length_eq
  rw [List.length_append] at inside
  change _ = kMaxEntries at length
  omega

theorem due_eq (represents : Represents shared.wheel lists) :
    shared.due = (lists (some shared.wheel.current.toNat)).filterMap shared.owner := by
  rw [Shared.due, walk_current represents]

/-- A tick empties the current bucket, reports its entries and goes on to the next. -/
structure Ticks (shared next : Shared) (outputs : List (Nat × Call)) (lists : Option Nat → List Nat) (freed : List Nat) :
    Prop where
  represents : Represents next.wheel
    (Function.update (Function.update lists (some shared.wheel.current.toNat) []) none freed)
  token : next.wheel.token = shared.wheel.token
  current : next.wheel.current.toNat = (shared.wheel.current.toNat + 1) % kWheelSize
  vectors : next.vectors = shared.vectors ++ [(lists (some shared.wheel.current.toNat)).map shared.wheel.token]
  lapsed : next.lapsed = shared.lapsed ++ (lists (some shared.wheel.current.toNat)).filterMap shared.owner
  others : next.worlds = shared.worlds ∧ next.owner = shared.owner ∧ next.timedOut = shared.timedOut ∧ outputs = []

theorem tick_lists (represents : Represents shared.wheel lists) (stepped : shared.step .tick = some (next, outputs)) :
    ∃ freed, Ticks shared next outputs lists freed := by
  obtain ⟨⟨expired, wheel⟩, ticked, stepped⟩ := Option.bind_eq_some_iff.mp stepped
  obtain ⟨rfl, rfl⟩ := Prod.mk.inj (Option.some.inj stepped)
  obtain ⟨after, freed, expected, kept, token, current⟩ := tick_spec represents
  obtain ⟨rfl, rfl⟩ := Prod.mk.inj (Option.some.inj (ticked.symm.trans expected))
  exact ⟨freed, kept, token, current, rfl, by rw [← due_eq represents], rfl, rfl, rfl, rfl⟩

end Turns

/-! ### The invariant -/

/-- The entries on the wheel stand for requests that the endpoints have issued, under their tokens. -/
def Owned (shared : Shared) (lists : Option Nat → List Nat) : Prop :=
  ∀ entry ∈ layout.pending lists, ∃ index, ∃ request ∈ (shared.worlds index).issued,
    shared.owner entry = some (index, request) ∧ shared.wheel.token entry = (request.slotIndex, request.generation)

structure Kept (shared : Shared) : Prop where
  sized : ∀ index, (shared.worlds index).pool.Sized
  filed : ∃ lists, Represents shared.wheel lists ∧ Owned shared lists

theorem mem_pending {lists : Option Nat → List Nat} {entry : Nat} :
    entry ∈ layout.pending lists ↔ ∃ bucket < kWheelSize, entry ∈ lists (some bucket) := by
  rw [Layout.pending, List.mem_flatMap]
  exact exists_congr fun bucket => and_congr_left' mem_buckets

theorem start_kept {endpoints : Nat → RpcEndpoint} (fresh : ∀ index, Fresh (endpoints index)) :
    Kept (.start endpoints) := by
  refine ⟨fun index => visited_sized (start_visited (fresh index)), firstLists kMaxEntries, create_represents, ?_⟩
  intro entry listed
  obtain ⟨bucket, -, impossible⟩ := mem_pending.mp listed
  cases impossible

section Invariant
variable {shared next : Shared} {turn : Turn} {outputs : List (Nat × Call)}

theorem issued_kept {index : Nat} {event : EndpointRuns.Event}
    (stepped : shared.step (.call index event) = some (next, outputs)) (other : Nat) {request : Request}
    (issued : request ∈ (shared.worlds other).issued) : request ∈ (next.worlds other).issued := by
  obtain ⟨world, calls, called, -, rfl⟩ := call_inv stepped
  by_cases same : other = index
  · subst same
    dsimp only
    rw [Function.update_self]
    rcases step_issues called with kept | ⟨new, kept⟩
    · rw [kept]
      exact issued
    · rw [kept]
      exact List.mem_append_left _ issued
  · dsimp only
    rw [Function.update_of_ne same]
    exact issued

theorem call_sized (sized : ∀ index, (shared.worlds index).pool.Sized) {index : Nat} {event : EndpointRuns.Event}
    (stepped : shared.step (.call index event) = some (next, outputs)) (other : Nat) :
    (next.worlds other).pool.Sized := by
  obtain ⟨world, calls, called, -, rfl⟩ := call_inv stepped
  by_cases same : other = index
  · subst same
    dsimp only
    rw [Function.update_self]
    have before : (shared.world other).pool.Sized := sized other
    exact step_sized before called
  · dsimp only
    rw [Function.update_of_ne same]
    exact sized other

theorem step_kept (kept : Kept shared) (stepped : shared.step turn = some (next, outputs)) : Kept next := by
  obtain ⟨lists, represents, owned⟩ := kept.filed
  cases turn with
  | call index event =>
    refine ⟨call_sized kept.sized stepped, ?_⟩
    rcases call_lists represents stepped with ⟨wheel, owner⟩ | ⟨entry, rest, request, target, claims⟩
    · refine ⟨lists, by rw [wheel]; exact represents, fun other listed => ?_⟩
      obtain ⟨owning, request, issued, owns, token⟩ := owned other listed
      exact ⟨owning, request, issued_kept stepped owning issued, by rw [owner]; exact owns, by rw [wheel]; exact token⟩
    · refine ⟨_, claims.represents, fun other listed => ?_⟩
      by_cases same : other = entry
      · subst same
        refine ⟨index, request, ?_, ?_, ?_⟩
        · rw [claims.issued]
          exact List.mem_append_right _ (List.mem_singleton_self _)
        · rw [claims.owner, Function.update_self]
        · rw [claims.token, Function.update_self]
      · have before : other ∈ layout.pending lists := by
          obtain ⟨bucket, inside, listed⟩ := mem_pending.mp listed
          unfold scheduledLists at listed
          by_cases here : bucket = target
          · subst here
            rw [Function.update_self] at listed
            exact mem_pending.mpr ⟨bucket, inside, (List.mem_cons.mp listed).resolve_left same⟩
          · rw [Function.update_of_ne (by simpa using here), Function.update_of_ne (Option.some_ne_none bucket)] at listed
            exact mem_pending.mpr ⟨bucket, inside, listed⟩
        obtain ⟨owning, known, issued, owns, token⟩ := owned other before
        refine ⟨owning, known, issued_kept stepped owning issued, ?_, ?_⟩
        · rw [claims.owner, Function.update_of_ne same]
          exact owns
        · rw [claims.token, Function.update_of_ne same]
          exact token
  | tick =>
    obtain ⟨freed, ticks⟩ := tick_lists represents stepped
    obtain ⟨worlds, owner, -⟩ := ticks.others
    refine ⟨by rw [worlds]; exact kept.sized, _, ticks.represents, fun entry listed => ?_⟩
    have before : entry ∈ layout.pending lists := by
      rw [pending_free] at listed
      exact (pending_cut lists (mem_buckets.mpr represents.current)).mem_iff.mpr (List.mem_append_right _ listed)
    rw [worlds, owner, ticks.token]
    exact owned entry before

theorem run_kept {turns : List Turn} (kept : Kept shared) (ran : run Shared.step shared turns = some (next, outputs)) :
    Kept next := by
  have always : Meets Shared.step (fun _ _ => True) shared turns := meets_of_forall fun _ _ => trivial
  exact invariant_of_run (fun _ _ _ _ kept _ stepped => step_kept kept stepped) kept always ran

end Invariant

/-! ### What the wheel holds -/

/-- The wheel holds an entry with the token. -/
def Waiting (wheel : TimingWheel) (token : Token) : Prop :=
  ∃ bucket < kWheelSize, ∃ list, Chain (nextOf wheel.entryPool) (wheel.buckets bucket).head list ∧
    ∃ entry ∈ list, wheel.token entry = token

theorem waiting_iff {wheel : TimingWheel} {lists : Option Nat → List Nat} (represents : Represents wheel lists)
    (token : Token) :
    Waiting wheel token ↔ ∃ bucket < kWheelSize, ∃ entry ∈ lists (some bucket), wheel.token entry = token := by
  refine exists_congr fun bucket => and_congr_right fun inside => ?_
  have chain : Chain (nextOf wheel.entryPool) (wheel.buckets bucket).head (lists (some bucket)) :=
    represents.filed.holds.chains _ (layout.bucket_place.mpr (mem_buckets.mpr inside))
  constructor
  · rintro ⟨list, other, found⟩
    rwa [chain_unique chain other]
  · intro found
    exact ⟨_, chain, found⟩

/-- How many ticks come before the one that reports the bucket. -/
def ticksBefore (wheel : TimingWheel) (bucket : Nat) : Nat :=
  (bucket + kWheelSize - wheel.current.toNat) % kWheelSize

theorem ticksBefore_next {wheel after : TimingWheel} {bucket : Nat} (inside : bucket < kWheelSize)
    (current : wheel.current.toNat < kWheelSize) (apart : bucket ≠ wheel.current.toNat)
    (advanced : after.current.toNat = (wheel.current.toNat + 1) % kWheelSize) :
    ticksBefore wheel bucket = ticksBefore after bucket + 1 := by
  unfold ticksBefore
  rw [advanced]
  unfold kWheelSize at *
  omega

section InTime
variable {shared last : Shared} {turns : List Turn} {outputs : List (Nat × Call)}

theorem vectors_grow (ran : run Shared.step shared turns = some (last, outputs)) :
    ∃ more, last.vectors = shared.vectors ++ more := by
  induction turns generalizing shared outputs with
  | nil =>
    obtain ⟨rfl, -⟩ := Prod.mk.inj (Option.some.inj ran)
    exact ⟨[], (List.append_nil _).symm⟩
  | cons turn rest ih =>
    obtain ⟨next, now, later, stepped, after, -⟩ := run_cons_some.mp ran
    obtain ⟨more, grown⟩ := ih after
    cases turn with
    | call index event =>
      obtain ⟨world, calls, -, -, rfl⟩ := call_inv stepped
      exact ⟨more, grown⟩
    | tick =>
      obtain ⟨⟨expired, wheel⟩, -, stepped⟩ := Option.bind_eq_some_iff.mp stepped
      obtain ⟨rfl, -⟩ := Prod.mk.inj (Option.some.inj stepped)
      exact ⟨expired :: more, by rw [grown, List.append_assoc]; rfl⟩

/-- An entry in a bucket is reported by the tick that comes to the bucket. -/
theorem reported_in_time {lists : Option Nat → List Nat} (represents : Represents shared.wheel lists) {bucket entry : Nat}
    (inside : bucket < kWheelSize) (listed : entry ∈ lists (some bucket))
    (ran : run Shared.step shared turns = some (last, outputs))
    (enough : ticksBefore shared.wheel bucket < turns.countP Turn.ticks) :
    ∃ more, last.vectors = shared.vectors ++ more ∧ shared.wheel.token entry ∈ more.flatten := by
  induction turns generalizing shared lists outputs with
  | nil => cases enough
  | cons turn rest ih =>
    obtain ⟨next, now, later, stepped, after, -⟩ := run_cons_some.mp ran
    cases turn with
    | call index event =>
      obtain ⟨world, calls, -, -, same⟩ := call_inv stepped
      have vectors : next.vectors = shared.vectors := by rw [same]
      rw [List.countP_cons_of_neg Bool.false_ne_true] at enough
      rw [← vectors]
      rcases call_lists represents stepped with ⟨wheel, -⟩ | ⟨taken, others, request, target, claims⟩
      · rw [← wheel] at represents enough ⊢
        exact ih represents listed after enough
      · -- the entry that is scheduled comes from the free list, so it is another one
        have free := single_files.free_unlisted represents claims.free
        have apart : entry ≠ taken := by
          rintro rfl
          exact free (mem_pending.mpr ⟨bucket, inside, listed⟩)
        have token : next.wheel.token entry = shared.wheel.token entry := by
          rw [claims.token, Function.update_of_ne apart]
        rw [← token]
        refine ih claims.represents (scheduled_keeps listed) after ?_
        rwa [ticksBefore, claims.current]
    | tick =>
      obtain ⟨freed, ticks⟩ := tick_lists represents stepped
      rw [List.countP_cons_of_pos rfl] at enough
      by_cases here : bucket = shared.wheel.current.toNat
      · obtain ⟨more, vectors⟩ := vectors_grow after
        refine ⟨_, by rw [vectors, ticks.vectors, List.append_assoc], ?_⟩
        rw [List.flatten_append, List.flatten_singleton, ← here]
        exact List.mem_append_left _ (List.mem_map_of_mem listed)
      · have still : entry ∈ Function.update (Function.update lists (some shared.wheel.current.toNat) []) none freed
            (some bucket) := by
          rwa [Function.update_of_ne (Option.some_ne_none bucket), Function.update_of_ne (by simpa using here)]
        rw [ticksBefore_next inside represents.current here ticks.current] at enough
        obtain ⟨more, vectors, reported⟩ := ih ticks.represents still after (Nat.lt_of_succ_lt_succ enough)
        refine ⟨_, by rw [vectors, ticks.vectors, List.append_assoc], ?_⟩
        rw [ticks.token] at reported
        rw [List.flatten_append]
        exact List.mem_append_right _ reported

/-- What the wheel holds is reported after one turn of the wheel at the latest. -/
theorem waiting_reported (kept : Kept shared) {token : Token} (waiting : Waiting shared.wheel token)
    (ran : run Shared.step shared turns = some (last, outputs)) (enough : kWheelSize ≤ turns.countP Turn.ticks) :
    ∃ more, last.vectors = shared.vectors ++ more ∧ token ∈ more.flatten := by
  obtain ⟨lists, represents, -⟩ := kept.filed
  obtain ⟨bucket, inside, entry, listed, rfl⟩ := (waiting_iff represents token).mp waiting
  refine reported_in_time represents inside listed ran (Nat.lt_of_lt_of_le ?_ enough)
  exact Nat.mod_lt _ (by decide)

end InTime

end Rdma.SharedWheels
