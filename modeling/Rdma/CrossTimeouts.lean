import Rdma.SharedWheels
import Rdma.Responses

/-!
Timeouts of endpoints that share a wheel. A timeout entry holds a slot index and
a generation, but not the endpoint that has scheduled it, and every endpoint is
given every vector that `Tick` fills. What `CheckTimeouts` times out are the
pending requests whose slot and generation the vector carries
(`checkTimeouts_timesOut`), so the calls with the timeout status are those of
requests whose own entries have expired if and only if the vectors carry no
other request of the endpoint (`timeout_status_iff`).
-/
namespace Rdma.CrossTimeouts
open Rdma.Types Rdma.Runs Rdma.TimingWheels Rdma.SlotPools Rdma.Endpoints Rdma.Ledgers Rdma.SlotLedgers
open Rdma.StaleEvents Rdma.Finishing Rdma.Tokens Rdma.Responses
open Rdma.EndpointRuns hiding Event Sound
open Rdma.SharedWheels

/-! ### What a vector times out -/

/-- The vector carries the slot of the request and the generation in which the request holds it. -/
def Carried (expired : List Token) (request : Request) : Prop :=
  ∃ entry ∈ expired, entry.1 = request.slotIndex ∧ entry.2.toNat = request.born % 4096

/-- The pending requests that the vector carries are timed out, and the others are left alone. -/
structure TimesOut (issued : List Request) (endpoint last : RpcEndpoint) (expired : List Token) (calls : List Call) :
    Prop where
  owned : ∀ call ∈ calls, ∃ request, World.Pending ⟨endpoint, issued⟩ request ∧ Carried expired request ∧
    CallOf call request
  carried : ∀ request, World.Pending ⟨endpoint, issued⟩ request → Carried expired request →
    ¬World.Pending ⟨last, issued⟩ request ∧ Invoked request calls
  others : ∀ request, World.Pending ⟨endpoint, issued⟩ request → ¬Carried expired request →
    World.Pending ⟨last, issued⟩ request
  older : ∀ request, World.Pending ⟨last, issued⟩ request → World.Pending ⟨endpoint, issued⟩ request

section Vectors
variable {issued : List Request} {endpoint middle last : RpcEndpoint} {entry : Token} {expired : List Token}
  {now later : List Call}

theorem carried_cons {request : Request} :
    Carried (entry :: expired) request ↔ Carried [entry] request ∨ Carried expired request := by
  simp only [Carried, List.mem_cons, List.not_mem_nil, or_false, or_and_right, exists_or, exists_eq_left]

theorem invoked_append {request : Request} (invoked : Invoked request now ∨ Invoked request later) :
    Invoked request (now ++ later) := by
  intro callback
  rcases invoked with early | late
  · obtain ⟨call, called, is_of⟩ := early callback
    exact ⟨call, List.mem_append_left _ called, is_of⟩
  · obtain ⟨call, called, is_of⟩ := late callback
    exact ⟨call, List.mem_append_right _ called, is_of⟩

theorem TimesOut.trans (first : TimesOut issued endpoint middle [entry] now)
    (rest : TimesOut issued middle last expired later) :
    TimesOut issued endpoint last (entry :: expired) (now ++ later) := by
  constructor
  · intro call called
    rcases List.mem_append.mp called with early | late
    · obtain ⟨request, pending, carried, is_of⟩ := first.owned call early
      exact ⟨request, pending, carried_cons.mpr (.inl carried), is_of⟩
    · obtain ⟨request, pending, carried, is_of⟩ := rest.owned call late
      exact ⟨request, first.older request pending, carried_cons.mpr (.inr carried), is_of⟩
  · intro request pending carried
    by_cases here : Carried [entry] request
    · obtain ⟨finished, invoked⟩ := first.carried request pending here
      exact ⟨fun still => finished (rest.older request still), invoked_append (.inl invoked)⟩
    · have still := first.others request pending here
      obtain ⟨finished, invoked⟩ := rest.carried request still ((carried_cons.mp carried).resolve_left here)
      exact ⟨finished, invoked_append (.inr invoked)⟩
  · intro request pending uncarried
    obtain ⟨here, there⟩ := not_or.mp (mt carried_cons.mpr uncarried)
    exact rest.others request (first.others request pending here) there
  · exact fun request pending => first.older request (rest.older request pending)

/-- The entry names the slot of a pending request if and only if it carries the request. -/
theorem carried_single (wf : Wf ⟨endpoint, issued⟩) {request : Request}
    (pending : World.Pending ⟨endpoint, issued⟩ request) :
    Carried [entry] request ↔ endpoint.slotPool.Names entry.1 entry.2 ∧ entry.1.toNat = request.slot := by
  rw [Carried, ← Iff.symm (names_iff wf pending entry.1 entry.2)]
  simp only [List.mem_singleton, exists_eq_left]

/-- An entry that names a slot in use expires the slot. -/
theorem expire_timesOut (wf : Wf ⟨endpoint, issued⟩) {slotIndex : UInt32} {generation : UInt8}
    (names : endpoint.slotPool.Names slotIndex generation) (inUse : endpoint.slotPool.InUse slotIndex.toNat) :
    ∃ next calls count, endpoint.checkTimeout (slotIndex, generation) = some (next, calls, count) ∧ Wf ⟨next, issued⟩ ∧
      (∀ other, Handled endpoint.slotPool other → Handled next.slotPool other) ∧
      TimesOut issued endpoint next [(slotIndex, generation)] calls := by
  have pool : WellFormed endpoint.slotPool := wf.pool
  have held : (ledgerOf endpoint.slotPool issued).holder slotIndex.toNat = _ := holderOf_inUse inUse
  have sane : Sane (ledgerOf endpoint.slotPool issued) := wf.ledger
  obtain ⟨checked, kept, acts⟩ := checkTimeout_acts pool inUse names (inUse_not_completed wf inUse) issued
  have after : Sane ((ledgerOf endpoint.slotPool issued).act (.expire slotIndex)).1 :=
    act_sane sane (holderOf_isSome.mpr inUse)
  rw [act_expire held] at checked acts after
  refine ⟨_, _, _, checked, ⟨kept, wf.buffers, by rw [← acts] at after; exact after, wf.tokens⟩,
    fun other => expired_handled slotIndex, ?_⟩
  have bumped : (expired endpoint.slotPool slotIndex).frees slotIndex.toNat =
      endpoint.slotPool.frees slotIndex.toNat + 1 :=
    (congrArg (fun ledger => Ledger.epoch ledger slotIndex.toNat) acts).trans (finish_epoch ..)
  -- the slot has been freed, so its epoch is past every request's
  have finished : ∀ request, request ∈ issued → request.slot = slotIndex.toNat →
      (expired endpoint.slotPool slotIndex).frees request.slot ≠ request.born := by
    intro request known same
    have past : request.born ≤ endpoint.slotPool.frees request.slot := sane.past request known
    rw [same] at past ⊢
    omega
  constructor
  · intro call called
    obtain ⟨-, slot, -, request, pending, is_of⟩ := finish_call sane held called
    have same : slotIndex.toNat = request.slot := by rw [← is_of.slot, slot]
    exact ⟨request, pending, (carried_single wf pending).mpr ⟨names, same⟩, is_of⟩
  · intro request pending carried
    obtain ⟨-, same⟩ := (carried_single wf pending).mp carried
    refine ⟨fun still => finished request pending.1 same.symm still.2, ?_⟩
    obtain rfl : slotIndex = request.slotIndex := UInt32.toNat_inj.mp same
    exact called_invoked wf pending (finish_called (ledgerOf endpoint.slotPool issued) request.slotIndex _ 1)
  · intro request pending uncarried
    have apart : request.slot ≠ slotIndex.toNat := fun same =>
      uncarried ((carried_single wf pending).mpr ⟨names, same.symm⟩)
    exact ⟨pending.1, (expired_other endpoint.slotPool apart).2.trans pending.2⟩
  · rintro request ⟨known, still⟩
    have apart : request.slot ≠ slotIndex.toNat := fun same => finished request known same still
    exact ⟨known, (expired_other endpoint.slotPool apart).2.symm.trans still⟩

/-- An entry that names no slot in use carries no pending request. -/
theorem uncarried (wf : Wf ⟨endpoint, issued⟩)
    (misses : ¬(endpoint.slotPool.Names entry.1 entry.2 ∧ endpoint.slotPool.InUse entry.1.toNat)) {request : Request}
    (pending : World.Pending ⟨endpoint, issued⟩ request) : ¬Carried [entry] request := by
  intro carried
  obtain ⟨names, same⟩ := (carried_single wf pending).mp carried
  refine misses ⟨names, ?_⟩
  have inUse := pending_inUse wf pending
  rw [← same] at inUse
  exact inUse

theorem entry_timesOut (wf : Wf ⟨endpoint, issued⟩) (handled : Handled endpoint.slotPool entry) :
    ∃ next calls count, endpoint.checkTimeout entry = some (next, calls, count) ∧ Wf ⟨next, issued⟩ ∧
      (∀ other, Handled endpoint.slotPool other → Handled next.slotPool other) ∧
      TimesOut issued endpoint next [entry] calls := by
  by_cases hits : endpoint.slotPool.Names entry.1 entry.2 ∧ endpoint.slotPool.InUse entry.1.toNat
  · exact expire_timesOut wf hits.1 hits.2
  · have skips : endpoint.slotPool.Names entry.1 entry.2 →
        (endpoint.slotPool.hot entry.1.toNat).isCompleted = true := fun names =>
      handled.2 ⟨names, fun inUse => hits ⟨names, inUse⟩⟩
    refine ⟨_, _, _, checkTimeout_skips wf.pool handled.1 skips, wf, fun _ handled => handled, ?_⟩
    exact ⟨fun _ called => (List.not_mem_nil called).elim,
      fun request pending carried => (uncarried wf hits pending carried).elim, fun _ pending _ => pending,
      fun _ pending => pending⟩

/-- The loop of `CheckTimeouts` over a vector. -/
theorem checkTimeouts_timesOut (wf : Wf ⟨endpoint, issued⟩) (handled : ∀ entry ∈ expired, Handled endpoint.slotPool entry) :
    ∃ last calls count, endpoint.checkTimeouts expired = some (last, calls, count) ∧
      TimesOut issued endpoint last expired calls := by
  induction expired generalizing endpoint with
  | nil =>
    refine ⟨endpoint, [], 0, rfl, ?_⟩
    exact ⟨fun _ called => (List.not_mem_nil called).elim, fun _ _ ⟨_, member, _⟩ => (List.not_mem_nil member).elim,
      fun _ pending _ => pending, fun _ pending => pending⟩
  | cons entry expired ih =>
    obtain ⟨next, now, one, checked, kept, others, first⟩ := entry_timesOut wf (handled entry (List.mem_cons_self ..))
    obtain ⟨last, later, count, after, rest⟩ := ih kept fun other member =>
      others other (handled other (List.mem_cons_of_mem _ member))
    refine ⟨last, now ++ later, one + count, ?_, first.trans rest⟩
    simp only [RpcEndpoint.checkTimeouts, checked, Option.bind_eq_bind, Option.bind_some, after]

end Vectors

/-! ### Endpoints over one wheel -/

/-- The calls are sound for the endpoints that are called. -/
def Sound (shared : Shared) : Turn → Prop
  | .call index event => EndpointRuns.Sound (shared.world index) (sharing shared.wheel event)
  | .tick => True

/-- The calls with the timeout status are those of requests whose own entries have expired. -/
def Justified (shared : Shared) (turn : Turn) : Prop :=
  ∀ next outputs, shared.step turn = some (next, outputs) → ∀ index call, (index, call) ∈ outputs → call.status = 1 →
    ∃ request, (index, request) ∈ shared.lapsed ∧ CallOf call request

/-- The vector carries no pending request with a callback whose own entry has not expired. -/
def Own (shared : Shared) : Turn → Prop
  | .call index (.checkTimeouts expired) => ∀ request, (shared.world index).Pending request →
      request.callbackFn ≠ none → Carried expired request → (index, request) ∈ shared.lapsed
  | _ => True

structure Traced (shared : Shared) : Prop where
  kept : Kept shared
  wf : ∀ index, Wf (shared.world index)
  lapsed : ∀ owner ∈ shared.lapsed, owner.2 ∈ (shared.worlds owner.1).issued

theorem start_traced {endpoints : Nat → RpcEndpoint} (fresh : ∀ index, Fresh (endpoints index)) :
    Traced (.start endpoints) := by
  refine ⟨start_kept fresh, fun index => ?_, fun owner lapsed => (List.not_mem_nil lapsed).elim⟩
  have wf := start_wf (fresh index)
  exact ⟨wf.pool, wf.buffers, wf.ledger, wf.tokens⟩

section Turns
variable {shared next : Shared} {turn : Turn} {outputs : List (Nat × Call)}

theorem call_wf (wf : ∀ index, Wf (shared.world index)) {index : Nat} {event : EndpointRuns.Event}
    (sound : Sound shared (.call index event)) (stepped : shared.step (.call index event) = some (next, outputs))
    (other : Nat) : Wf (next.world other) := by
  obtain ⟨world, calls, called, -, rfl⟩ := call_inv stepped
  unfold Shared.world
  dsimp only
  by_cases same : other = index
  · subst same
    rw [Function.update_self]
    have kept := (step_wellFormed (wf other) sound called).2.1
    exact ⟨kept.pool, kept.buffers, kept.ledger, kept.tokens⟩
  · rw [Function.update_of_ne same]
    exact ⟨(wf other).pool, (wf other).buffers, (wf other).ledger, (wf other).tokens⟩

theorem step_traced (traced : Traced shared) (sound : Sound shared turn)
    (stepped : shared.step turn = some (next, outputs)) : Traced next := by
  have kept := step_kept traced.kept stepped
  cases turn with
  | call index event =>
    refine ⟨kept, call_wf traced.wf sound stepped, fun owner lapsed => ?_⟩
    obtain ⟨world, calls, -, -, same⟩ := call_inv stepped
    rw [same] at lapsed
    exact issued_kept stepped owner.1 (traced.lapsed owner lapsed)
  | tick =>
    obtain ⟨lists, represents, owned⟩ := traced.kept.filed
    obtain ⟨freed, ticks⟩ := tick_lists represents stepped
    obtain ⟨worlds, -, -, -⟩ := ticks.others
    refine ⟨kept, fun index => ?_, fun owner lapsed => ?_⟩
    · have wf := traced.wf index
      rw [Shared.world, worlds]
      exact ⟨wf.pool, wf.buffers, wf.ledger, wf.tokens⟩
    · rw [worlds]
      rw [ticks.lapsed] at lapsed
      rcases List.mem_append.mp lapsed with before | now
      · exact traced.lapsed owner before
      · obtain ⟨entry, listed, owns⟩ := List.mem_filterMap.mp now
        obtain ⟨index, request, issued, same, -⟩ := owned entry (mem_pending.mpr ⟨_, represents.current, listed⟩)
        obtain rfl := Option.some.inj (owns.symm.trans same)
        exact issued

/-- Sound turns are defined. -/
theorem step_defined (traced : Traced shared) (sound : Sound shared turn) :
    ∃ next outputs, shared.step turn = some (next, outputs) ∧ Traced next := by
  obtain ⟨next, outputs, stepped⟩ : ∃ next outputs, shared.step turn = some (next, outputs) := by
    cases turn with
    | call index event =>
      obtain ⟨world, calls, called, -⟩ := step_acts (traced.wf index) sound
      exact ⟨_, _, Option.bind_eq_some_iff.mpr ⟨_, called, rfl⟩⟩
    | tick =>
      obtain ⟨lists, represents, -⟩ := traced.kept.filed
      obtain ⟨after, freed, ticked, -⟩ := tick_spec represents
      exact ⟨_, _, Option.bind_eq_some_iff.mpr ⟨_, ticked, rfl⟩⟩
  exact ⟨next, outputs, stepped, step_traced traced sound stepped⟩

/-- A vector times out the requests it carries, so they have to be those whose entries have expired. -/
theorem vector_justified (traced : Traced shared) {index : Nat} {expired : List Token}
    (sound : EndpointRuns.Sound (shared.world index) (.checkTimeouts expired)) :
    Justified shared (.call index (.checkTimeouts expired)) ↔ Own shared (.call index (.checkTimeouts expired)) := by
  have wf := traced.wf index
  obtain ⟨last, calls, count, checked, timesOut⟩ := checkTimeouts_timesOut wf sound
  have called : (shared.world index).step (.checkTimeouts expired) = some (⟨last, (shared.world index).issued⟩, calls) :=
    Option.bind_eq_some_iff.mpr ⟨_, checked, rfl⟩
  have stepped : shared.step (.call index (.checkTimeouts expired)) = some (_, calls.map fun call => (index, call)) :=
    Option.bind_eq_some_iff.mpr ⟨_, called, rfl⟩
  constructor
  · intro justified request pending callback carried
    obtain ⟨call, member, is_of⟩ := (timesOut.carried request pending carried).2 callback
    have timeout := timeout_status wf sound called rfl member
    obtain ⟨owner, lapsed, owns⟩ := justified _ _ stepped index call (List.mem_map_of_mem member) timeout
    -- the slot and the epoch of the call tell whose it is
    have same : owner = request := List.inj_on_of_nodup_map wf.ledger.distinct (traced.lapsed _ lapsed) pending.1
      (Prod.ext (owns.slot.symm.trans is_of.slot) (owns.epoch.symm.trans is_of.epoch))
    rwa [same] at lapsed
  · intro own next outputs stepped' other call member timeout
    obtain ⟨rfl, rfl⟩ := Prod.mk.inj (Option.some.inj (stepped.symm.trans stepped'))
    obtain ⟨called, listed, same⟩ := List.mem_map.mp member
    obtain ⟨rfl, rfl⟩ := Prod.mk.inj same
    obtain ⟨request, pending, carried, is_of⟩ := timesOut.owned called listed
    have callback : request.callbackFn ≠ none := Option.ne_none_iff_exists'.mpr ⟨_, is_of.callback.1⟩
    exact ⟨request, own request pending callback carried, is_of⟩

theorem justified_iff (traced : Traced shared) (sound : Sound shared turn) :
    Justified shared turn ↔ Own shared turn := by
  have untimed : ∀ index event, turn = .call index event → timesOut (sharing shared.wheel event) = false →
      Justified shared turn := by
    rintro index event rfl untimed next outputs stepped other call member timeout
    obtain ⟨world, calls, called, rfl, -⟩ := call_inv stepped
    obtain ⟨called', listed, same⟩ := List.mem_map.mp member
    obtain ⟨rfl, rfl⟩ := Prod.mk.inj same
    rw [untimed_status (traced.wf index) sound called untimed listed] at timeout
    cases timeout
  cases turn with
  | call index event =>
    cases event with
    | checkTimeouts expired => exact vector_justified traced sound
    | _ => exact iff_of_true (untimed _ _ rfl rfl) trivial
  | tick =>
    obtain ⟨lists, represents, -⟩ := traced.kept.filed
    refine iff_of_true (fun next outputs stepped index call member => ?_) trivial
    obtain ⟨freed, ticks⟩ := tick_lists represents stepped
    rw [ticks.others.2.2.2] at member
    cases member

end Turns

/-- In a sound run of any number of endpoints over one wheel, the callbacks that receive the timeout status are those of
    requests whose own entries have expired, if and only if no vector carries a pending request, by its slot and
    generation, whose own entry has not expired. -/
theorem timeout_status_iff {endpoints : Nat → RpcEndpoint} (fresh : ∀ index, Fresh (endpoints index))
    {turns : List Turn} (sound : Meets Shared.step Sound (.start endpoints) turns) :
    (∃ last outputs, run Shared.step (.start endpoints) turns = some (last, outputs)) ∧
      (Meets Shared.step Justified (.start endpoints) turns ↔ Meets Shared.step Own (.start endpoints) turns) := by
  have traced := start_traced fresh
  obtain ⟨last, outputs, ran, -⟩ := defined_run (fun _ _ traced sound => step_defined traced sound) traced sound
  refine ⟨⟨last, outputs, ran⟩, ?_⟩
  refine meets_congr_under ?_ ?_ traced sound
  · exact fun _ _ traced sound => justified_iff traced sound
  · exact fun _ _ _ _ traced sound stepped => step_traced traced sound stepped

/-! ### Requests with the same token -/

/-- An endpoint whose requests time out after one tick. -/
def hurriedEndpoint : RpcEndpoint := { sampleEndpoint 7 {} with config := { timeoutMs := 1 } }

theorem hurried_fresh : Fresh hurriedEndpoint := by
  have inRange : BufferPools.InRange BufferPools.twoPool := ⟨rfl, by decide⟩
  exact ⟨⟨some _, some _, some _, { timeoutMs := 1 }, rfl⟩, inRange⟩

theorem hurried_lapses : ((run Shared.step (.start fun _ => hurriedEndpoint)
    [.call 0 (.sendRequest 0 64 none 5 (some 3)), .tick, .tick]).any fun result =>
      result.1.lapsed = [(0, ⟨0, 0, 0, some 3, 5, true⟩)] ∧ (result.1.world 0).pool.InUse 0 ∧
        (result.1.world 0).issued = [⟨0, 0, 0, some 3, 5, true⟩]) = true := by
  decide +kernel

/-- The entry of the only request expires, and the vector is passed to its endpoint. -/
theorem own_timeout_justified : Meets Shared.step Justified (.start fun _ => hurriedEndpoint)
    ([.call 0 (.sendRequest 0 64 none 5 (some 3)), .tick, .tick] ++ [.call 0 (.checkTimeouts [(0, 0)])]) := by
  obtain ⟨⟨shared, outputs⟩, ran, holds⟩ := (Option.any_eq_true _ _).mp hurried_lapses
  obtain ⟨lapsed, inUse, issued⟩ := of_decide_eq_true holds
  have first : ∀ {next now}, run Shared.step (.start fun _ => hurriedEndpoint)
      [.call 0 (.sendRequest 0 64 none 5 (some 3)), .tick, .tick] = some (next, now) → next = shared := fun same =>
    (Prod.mk.inj (Option.some.inj (same.symm.trans ran))).1
  have sound : Meets Shared.step Sound (.start fun _ => hurriedEndpoint)
      ([.call 0 (.sendRequest 0 64 none 5 (some 3)), .tick, .tick] ++ [.call 0 (.checkTimeouts [(0, 0)])]) := by
    refine meets_append.mpr ⟨⟨trivial, fun _ _ _ => ⟨trivial, fun _ _ _ => ⟨trivial, fun _ _ _ => trivial⟩⟩⟩, ?_⟩
    intro middle now same
    obtain rfl := first same
    refine ⟨fun entry member => ?_, fun _ _ _ => trivial⟩
    obtain rfl := List.mem_singleton.mp member
    exact ⟨by decide, fun free => absurd inUse free.2⟩
  refine (timeout_status_iff (fun _ => hurried_fresh) sound).2.mpr (meets_append.mpr ⟨?_, ?_⟩)
  · exact ⟨trivial, fun _ _ _ => ⟨trivial, fun _ _ _ => ⟨trivial, fun _ _ _ => trivial⟩⟩⟩
  · intro middle now same
    obtain rfl := first same
    refine ⟨fun request pending callback carried => ?_, fun _ _ _ => trivial⟩
    have known := pending.1
    rw [issued] at known
    rw [lapsed, List.mem_singleton.mp known]
    exact List.mem_singleton_self _

/-- The first request of a hurried endpoint and the first request of another have the same slot and generation. Every
    vector is passed to both, and the one with the former's entry times out the latter, whose own entry waits in
    bucket 30000. -/
theorem foreign_entry_times_out : ∃ shared outputs,
    run Shared.step (.start fun index => if index = 0 then hurriedEndpoint else sampleEndpoint 8 {})
        [.call 0 (.sendRequest 0 64 none 5 (some 3)), .call 1 (.sendRequest 0 64 none 6 (some 4)),
          .tick, .call 0 (.checkTimeouts []), .call 1 (.checkTimeouts []), .tick, .call 0 (.checkTimeouts [(0, 0)])] =
      some (shared, outputs) ∧ shared.vectors = [[], [(0, 0)]] ∧
    (shared.worlds 1).issued = [⟨0, 0, 0, some 4, 6, true⟩] ∧ shared.lapsed = [(0, ⟨0, 0, 0, some 3, 5, true⟩)] ∧
    ∃ next, shared.step (.call 1 (.checkTimeouts [(0, 0)])) = some (next, [(1, ⟨4, 6, 0, 1, 0⟩)]) ∧
      ¬Justified shared (.call 1 (.checkTimeouts [(0, 0)])) := by
  have taken : ((run Shared.step (.start fun index => if index = 0 then hurriedEndpoint else sampleEndpoint 8 {})
      [.call 0 (.sendRequest 0 64 none 5 (some 3)), .call 1 (.sendRequest 0 64 none 6 (some 4)),
        .tick, .call 0 (.checkTimeouts []), .call 1 (.checkTimeouts []), .tick, .call 0 (.checkTimeouts [(0, 0)])]).any
      fun result => result.1.vectors = [[], [(0, 0)]] ∧ (result.1.worlds 1).issued = [⟨0, 0, 0, some 4, 6, true⟩] ∧
        result.1.lapsed = [(0, ⟨0, 0, 0, some 3, 5, true⟩)] ∧
        (result.1.step (.call 1 (.checkTimeouts [(0, 0)]))).any (fun after => after.2 = [(1, ⟨4, 6, 0, 1, 0⟩)])) =
      true := by
    decide +kernel
  obtain ⟨⟨shared, outputs⟩, ran, holds⟩ := (Option.any_eq_true _ _).mp taken
  obtain ⟨vectors, issued, lapsed, stepped⟩ := of_decide_eq_true holds
  obtain ⟨⟨next, now⟩, stepped, same⟩ := (Option.any_eq_true _ _).mp stepped
  obtain rfl : now = [(1, ⟨4, 6, 0, 1, 0⟩)] := of_decide_eq_true same
  refine ⟨shared, outputs, ran, vectors, issued, lapsed, next, stepped, fun justified => ?_⟩
  obtain ⟨request, expired, -⟩ := justified next _ stepped 1 _ (List.mem_singleton_self _) rfl
  rw [lapsed, List.mem_singleton] at expired
  cases (Prod.mk.inj expired).1

end Rdma.CrossTimeouts
