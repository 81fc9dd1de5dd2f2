import Rdma.CrossTimeouts

/-!
The event loop of a reactor. `Poll` runs the handlers of the completions that it
polls, the tasks and the custom pollers; in between `ProcessTimeouts` ticks the
wheel into a vector that nothing reads. So a request whose entry leaves the
wheel while it is pending is timed out in the same call of `Poll` if and only
if the code that `Poll` runs passes a vector with its token to `CheckTimeouts`
(`timeouts_kept_iff`).
-/
namespace Rdma.Reactors
open Rdma.Runs Rdma.WrIds Rdma.TimingWheels Rdma.Endpoints Rdma.Ledgers Rdma.Tokens Rdma.Finishing
open Rdma.EndpointRuns hiding Sound
open Rdma.SharedWheels Rdma.CrossTimeouts

/-! ### The event loop -/

/-- What the code that a call of `Poll` runs does to the endpoints and the wheel. -/
structure Work where
  handlers : List Turn
  tasks : List Turn
  pollers : List Turn

/-- `ProcessTimeouts` comes between the tasks and the custom pollers. -/
def Work.turns (work : Work) : List Turn := work.handlers ++ work.tasks ++ .tick :: work.pollers

def poll (shared : Shared) (work : Work) : Option (Shared × List (Nat × Call)) := run Shared.step shared work.turns

/-- Asked of every request that is pending when a tick of the call of `Poll` takes its entry from the wheel: `middle` is
    the state before the tick, `back` the turns after it and `last` the state after the call. -/
def Asked (asks : Shared → Shared → List Turn → Nat × Request → Prop) (shared : Shared) (work : Work) : Prop :=
  ∀ last outputs front back middle early, poll shared work = some (last, outputs) → work.turns = front ++ .tick :: back →
    run Shared.step shared front = some (middle, early) →
    ∀ owner ∈ middle.due, (middle.world owner.1).Pending owner.2 → asks middle last back owner

/-- The request is timed out by the end of the call of `Poll`. -/
def Kept : Shared → Work → Prop := Asked fun _ last _ owner => owner ∈ last.timedOut

/-- The turn passes a vector that carries the request, which is pending, to its endpoint. -/
def Takes (shared : Shared) (turn : Turn) (owner : Nat × Request) : Prop :=
  ∃ expired, turn = .call owner.1 (.checkTimeouts expired) ∧ (shared.world owner.1).Pending owner.2 ∧
    Carried expired owner.2

/-- One of the turns does. -/
def Passed : Shared → List Turn → Nat × Request → Prop
  | _, [], _ => False
  | shared, turn :: rest, owner =>
    Takes shared turn owner ∨ ∃ next now, shared.step turn = some (next, now) ∧ Passed next rest owner

/-- Later in the call of `Poll`, the request is passed to `CheckTimeouts`. -/
def PassedOn : Shared → Work → Prop := Asked fun middle _ back owner => Passed middle (.tick :: back) owner

/-- There is no such request. -/
def NonePending : Shared → Work → Prop := Asked fun _ _ _ _ => False

/-- The turns of the call are sound. -/
def Careful (shared : Shared) (work : Work) : Prop := Meets Shared.step Sound shared work.turns

/-- The turn is no call of `CheckTimeouts`. -/
def Turn.checks : Turn → Bool
  | .call _ (.checkTimeouts _) => true
  | _ => false

/-! ### What is timed out -/

section TimedOut
variable {shared next last : Shared} {turn : Turn} {turns : List Turn} {outputs : List (Nat × Call)}
  {owner : Nat × Request}

/-- Only `CheckTimeouts` times requests out. -/
theorem unchecked_timedOut (unchecked : Turn.checks turn = false) (stepped : shared.step turn = some (next, outputs)) :
    next.timedOut = shared.timedOut := by
  cases turn with
  | call index event =>
    obtain ⟨world, calls, -, -, rfl⟩ := call_inv stepped
    cases event with
    | checkTimeouts expired => cases unchecked
    | _ => exact List.append_nil _
  | tick =>
    obtain ⟨⟨expired, wheel⟩, -, stepped⟩ := Option.bind_eq_some_iff.mp stepped
    obtain ⟨rfl, -⟩ := Prod.mk.inj (Option.some.inj stepped)
    rfl

/-- What a call of `CheckTimeouts` does. -/
theorem vector_inv (traced : Traced shared) {index : Nat} {expired : List Token}
    (sound : EndpointRuns.Sound (shared.world index) (.checkTimeouts expired))
    (stepped : shared.step (.call index (.checkTimeouts expired)) = some (next, outputs)) :
    ∃ last calls, TimesOut (shared.world index).issued (shared.world index).endpoint last expired calls ∧
      next.worlds = Function.update shared.worlds index ⟨last, (shared.world index).issued⟩ ∧
      next.timedOut = shared.timedOut ++
        expiredBy index (shared.world index) ⟨last, (shared.world index).issued⟩ (.checkTimeouts expired) := by
  obtain ⟨last, calls, count, checked, timesOut⟩ := checkTimeouts_timesOut (traced.wf index) sound
  obtain ⟨world, called, taken, -, rfl⟩ := call_inv stepped
  have same : some (world, called) = some (⟨last, (shared.world index).issued⟩, calls) :=
    taken.symm.trans (Option.bind_eq_some_iff.mpr ⟨_, checked, rfl⟩)
  obtain ⟨rfl, rfl⟩ := Prod.mk.inj (Option.some.inj same)
  exact ⟨last, called, timesOut, rfl, rfl⟩

/-- A call of `CheckTimeouts` times out the requests that it takes. -/
theorem vector_timedOut (traced : Traced shared) {index : Nat} {expired : List Token}
    (sound : EndpointRuns.Sound (shared.world index) (.checkTimeouts expired))
    (stepped : shared.step (.call index (.checkTimeouts expired)) = some (next, outputs)) :
    owner ∈ next.timedOut ↔
      owner ∈ shared.timedOut ∨ Takes shared (.call index (.checkTimeouts expired)) owner := by
  obtain ⟨last, calls, timesOut, -, grown⟩ := vector_inv traced sound stepped
  obtain ⟨other, request⟩ := owner
  rw [grown]
  refine List.mem_append.trans (or_congr_right ?_)
  constructor
  · intro listed
    obtain ⟨finished, member, same⟩ := List.mem_map.mp listed
    obtain ⟨rfl, rfl⟩ := Prod.mk.inj same
    obtain ⟨issued, held⟩ := List.mem_filter.mp member
    obtain ⟨held, left⟩ := of_decide_eq_true held
    refine ⟨expired, rfl, ⟨issued, held⟩, ?_⟩
    by_contra uncarried
    exact left (timesOut.others finished ⟨issued, held⟩ uncarried).2
  · rintro ⟨vector, same, pending, carried⟩
    obtain ⟨rfl, passed⟩ := Turn.call.inj same
    obtain rfl := Event.checkTimeouts.inj passed
    refine List.mem_map.mpr ⟨request, List.mem_filter.mpr ⟨pending.1, decide_eq_true ⟨pending.2, fun still => ?_⟩⟩, rfl⟩
    exact (timesOut.carried request pending carried).1 ⟨pending.1, still⟩

/-- What a turn times out. -/
theorem step_timedOut (traced : Traced shared) (sound : Sound shared turn)
    (stepped : shared.step turn = some (next, outputs)) :
    owner ∈ next.timedOut ↔ owner ∈ shared.timedOut ∨ Takes shared turn owner := by
  by_cases checks : Turn.checks turn = true
  · obtain ⟨index, expired, rfl⟩ : ∃ index expired, turn = .call index (.checkTimeouts expired) := by
      cases turn with
      | call index event =>
        cases event with
        | checkTimeouts expired => exact ⟨index, expired, rfl⟩
        | _ => cases checks
      | tick => cases checks
    exact vector_timedOut traced sound stepped
  · rw [unchecked_timedOut (eq_false_of_ne_true checks) stepped]
    refine (or_iff_left ?_).symm
    rintro ⟨expired, rfl, -⟩
    exact checks rfl

theorem run_timedOut (traced : Traced shared) (sound : Meets Shared.step Sound shared turns)
    (ran : run Shared.step shared turns = some (last, outputs)) :
    owner ∈ last.timedOut ↔ owner ∈ shared.timedOut ∨ Passed shared turns owner := by
  induction turns generalizing shared outputs with
  | nil =>
    obtain ⟨rfl, -⟩ := Prod.mk.inj (Option.some.inj ran)
    exact (or_iff_left id).symm
  | cons turn rest ih =>
    obtain ⟨next, now, later, stepped, after, -⟩ := run_cons_some.mp ran
    rw [ih (step_traced traced sound.1 stepped) (sound.2 next now stepped) after, step_timedOut traced sound.1 stepped,
      or_assoc, Passed]
    refine or_congr_right (or_congr_right ?_)
    constructor
    · exact fun passed => ⟨next, now, stepped, passed⟩
    · rintro ⟨other, also, stepped', passed⟩
      obtain ⟨rfl, -⟩ := Prod.mk.inj (Option.some.inj (stepped.symm.trans stepped'))
      exact passed

theorem run_unchecked (unchecked : ∀ turn ∈ turns, Turn.checks turn = false)
    (ran : run Shared.step shared turns = some (last, outputs)) : last.timedOut = shared.timedOut := by
  induction turns generalizing shared outputs with
  | nil =>
    obtain ⟨rfl, -⟩ := Prod.mk.inj (Option.some.inj ran)
    rfl
  | cons turn rest ih =>
    obtain ⟨next, now, later, stepped, after, -⟩ := run_cons_some.mp ran
    rw [ih (fun other member => unchecked other (List.mem_cons_of_mem _ member)) after]
    exact unchecked_timedOut (unchecked turn (List.mem_cons_self ..)) stepped

/-! ### Requests that have been timed out -/

/-- The requests that have been timed out have left their slots for good. -/
structure Settled (shared : Shared) : Prop where
  traced : Traced shared
  left : ∀ owner ∈ shared.timedOut, owner.2.born < (shared.worlds owner.1).pool.frees owner.2.slot

theorem frees_mono (traced : Traced shared) (sound : Sound shared turn)
    (stepped : shared.step turn = some (next, outputs)) (index slot : Nat) :
    (shared.worlds index).pool.frees slot ≤ (next.worlds index).pool.frees slot := by
  cases turn with
  | call called event =>
    obtain ⟨world, calls, taken, -, rfl⟩ := call_inv stepped
    by_cases same : index = called
    · subst same
      dsimp only
      rw [Function.update_self]
      exact (step_grows (traced.wf index) sound taken).1 slot
    · dsimp only
      rw [Function.update_of_ne same]
  | tick =>
    obtain ⟨⟨expired, wheel⟩, -, stepped⟩ := Option.bind_eq_some_iff.mp stepped
    obtain ⟨rfl, -⟩ := Prod.mk.inj (Option.some.inj stepped)
    exact Nat.le_refl _

theorem step_settled (settled : Settled shared) (sound : Sound shared turn)
    (stepped : shared.step turn = some (next, outputs)) : Settled next := by
  refine ⟨step_traced settled.traced sound stepped, fun owner listed => ?_⟩
  have grows := frees_mono settled.traced sound stepped owner.1 owner.2.slot
  rcases (step_timedOut settled.traced sound stepped).mp listed with before | takes
  · exact Nat.lt_of_lt_of_le (settled.left owner before) grows
  · obtain ⟨expired, rfl, pending, carried⟩ := takes
    obtain ⟨last, calls, timesOut, worlds, -⟩ := vector_inv settled.traced sound stepped
    have finished := (timesOut.carried owner.2 pending carried).1
    rw [worlds, Function.update_self] at grows ⊢
    have held : (shared.worlds owner.1).pool.frees owner.2.slot = owner.2.born := pending.2
    rw [held] at grows
    exact Nat.lt_of_le_of_ne grows fun same => finished ⟨pending.1, same.symm⟩

theorem run_settled (settled : Settled shared) (sound : Meets Shared.step Sound shared turns)
    (ran : run Shared.step shared turns = some (last, outputs)) : Settled last :=
  invariant_of_run (fun _ _ _ _ settled sound stepped => step_settled settled sound stepped) settled sound ran

end TimedOut

/-! ### Calls of `Poll` -/

section Polls
variable {shared : Shared} {work : Work}

/-- Two answers to the same question. -/
theorem asked_congr {asks other : Shared → Shared → List Turn → Nat × Request → Prop}
    (same : ∀ last outputs front back middle early later owner, work.turns = front ++ .tick :: back →
      run Shared.step shared front = some (middle, early) → run Shared.step middle (.tick :: back) = some (last, later) →
      poll shared work = some (last, outputs) → (middle.world owner.1).Pending owner.2 →
      (asks middle last back owner ↔ other middle last back owner)) :
    Asked asks shared work ↔ Asked other shared work := by
  refine forall_congr' fun last => forall_congr' fun outputs => forall_congr' fun front => forall_congr' fun back =>
    forall_congr' fun middle => forall_congr' fun early => forall_congr' fun polled => forall_congr' fun split =>
    forall_congr' fun ran => forall_congr' fun owner => forall_congr' fun due => forall_congr' fun pending => ?_
  have whole : run Shared.step shared work.turns = some (last, outputs) := polled
  rw [split] at whole
  obtain ⟨state, now, later, first, after, -⟩ := run_append_some.mp whole
  obtain ⟨rfl, -⟩ := Prod.mk.inj (Option.some.inj (ran.symm.trans first))
  exact same last outputs front back middle early later owner split ran after polled pending

theorem kept_iff (settled : Settled shared) (careful : Careful shared work) :
    Kept shared work ↔ PassedOn shared work := by
  refine asked_congr fun last outputs front back middle early later owner split ran after polled pending => ?_
  have sound : Meets Shared.step Sound shared work.turns := careful
  rw [split] at sound
  obtain ⟨first, rest⟩ := meets_append.mp sound
  have between := run_settled settled first ran
  rw [run_timedOut between.traced (rest middle early ran) after]
  refine or_iff_right fun listed => ?_
  have past := between.left owner listed
  have held : (middle.worlds owner.1).pool.frees owner.2.slot = owner.2.born := pending.2
  omega

/-- Where nothing calls `CheckTimeouts`, nothing is timed out. -/
theorem unchecked_iff (none_yet : shared.timedOut = []) (unchecked : ∀ turn ∈ work.turns, Turn.checks turn = false) :
    Kept shared work ↔ NonePending shared work := by
  refine asked_congr fun last outputs front back middle early later owner split ran after polled pending => ?_
  rw [run_unchecked unchecked polled, none_yet]
  exact iff_of_false List.not_mem_nil id

theorem split_tick {first rest front back : List Turn} (before : ∀ turn ∈ first, turn.ticks = false)
    (after : ∀ turn ∈ rest, turn.ticks = false) (split : first ++ .tick :: rest = front ++ .tick :: back) :
    front = first ∧ back = rest := by
  induction first generalizing front with
  | nil =>
    cases front with
    | nil => exact ⟨rfl, (List.cons.inj split).2.symm⟩
    | cons turn front =>
      have listed : Turn.tick ∈ rest := by
        rw [(List.cons.inj split).2]
        exact List.mem_append_right _ (List.mem_cons_self ..)
      cases after _ listed
  | cons turn first ih =>
    cases front with
    | nil =>
      obtain ⟨rfl, -⟩ := List.cons.inj split
      cases before _ (List.mem_cons_self ..)
    | cons other front =>
      obtain ⟨rfl, same⟩ := List.cons.inj split
      obtain ⟨rfl, rfl⟩ := ih (fun other member => before other (List.mem_cons_of_mem _ member)) same
      exact ⟨rfl, rfl⟩

/-- Where only `ProcessTimeouts` ticks the wheel. -/
theorem asked_once {asks : Shared → Shared → List Turn → Nat × Request → Prop}
    (before : ∀ turn ∈ work.handlers ++ work.tasks, turn.ticks = false) (after : ∀ turn ∈ work.pollers, turn.ticks = false)
    {middle last : Shared} {early outputs : List (Nat × Call)}
    (ran : run Shared.step shared (work.handlers ++ work.tasks) = some (middle, early))
    (polled : poll shared work = some (last, outputs)) :
    Asked asks shared work ↔
      ∀ owner ∈ middle.due, (middle.world owner.1).Pending owner.2 → asks middle last work.pollers owner := by
  constructor
  · intro asked
    exact asked last outputs _ _ middle early polled rfl ran
  · intro asks final calls front back state now polled' split ran'
    obtain ⟨rfl, rfl⟩ := split_tick before after split
    obtain ⟨rfl, -⟩ := Prod.mk.inj (Option.some.inj (ran.symm.trans ran'))
    obtain ⟨rfl, -⟩ := Prod.mk.inj (Option.some.inj (polled.symm.trans polled'))
    exact asks

end Polls

/-- In every run of calls of `Poll`: every request that is pending when its entry leaves the wheel is timed out by the end
    of the same call if and only if the code that the call runs passes it to `CheckTimeouts` after that (where the
    endpoints' events are sound), and if and only if there is no such request (where that code makes no calls of
    `CheckTimeouts`, as `Poll` itself makes none). -/
theorem timeouts_kept_iff {endpoints : Nat → RpcEndpoint} (fresh : ∀ index, Fresh (endpoints index)) (works : List Work) :
    (Meets poll Careful (.start endpoints) works →
      (Meets poll Kept (.start endpoints) works ↔ Meets poll PassedOn (.start endpoints) works)) ∧
    ((∀ work ∈ works, ∀ turn ∈ work.turns, Turn.checks turn = false) →
      (Meets poll Kept (.start endpoints) works ↔ Meets poll NonePending (.start endpoints) works)) := by
  constructor
  · intro careful
    have settled : Settled (.start endpoints) :=
      ⟨start_traced fresh, fun _ listed => (List.not_mem_nil listed).elim⟩
    refine meets_congr_under ?_ ?_ settled careful
    · exact fun _ _ settled careful => kept_iff settled careful
    · exact fun _ _ _ _ settled careful polled => run_settled settled careful polled
  · intro unchecked
    have same : ∀ shared : Shared, ∀ work : Work, shared.timedOut = [] →
        (∀ turn ∈ work.turns, Turn.checks turn = false) → (Kept shared work ↔ NonePending shared work) :=
      fun _ _ none_yet unchecked => unchecked_iff none_yet unchecked
    refine meets_congr_under same (fun _ _ _ _ none_yet unchecked polled => ?_) rfl (meets_of_forall unchecked)
    exact (run_unchecked unchecked polled).trans none_yet

/-! ### A request that never ends -/

/-- The first request of a hurried endpoint. -/
def shortRequest : Request := ⟨0, 0, 0, some 3, 5, true⟩

/-- A call of `Poll` that sends the request. -/
def sending : Work := ⟨[.call 0 (.sendRequest 0 64 none 5 (some 3))], [], []⟩

/-- A call of `Poll` that polls the completion of the request. -/
def completing : Work := ⟨[.call 0 (.onSendComplete { wrId := encode 7 .requestSend 0 0 })], [], []⟩

/-- A call of `Poll` with nothing to do. -/
def idling : Work := ⟨[], [], []⟩

/-- The entry is due at the next tick, whatever comes before it. -/
theorem sending_polls : ((run Shared.step (.start fun _ => hurriedEndpoint) sending.handlers).any fun result =>
    result.1.due = []) = true ∧
    ((poll (.start fun _ => hurriedEndpoint) sending).any fun result =>
      result.1.due = [(0, shortRequest)] ∧ (result.1.world 0).issued = [shortRequest] ∧
        (result.1.world 0).pool.frees 0 = 0 ∧
        (((run Shared.step result.1 completing.handlers).any fun after =>
          after.1.due = [(0, shortRequest)] ∧ (after.1.world 0).pool.frees 0 = 1) = true) ∧
        (poll result.1 completing).isSome = true ∧
        ((poll result.1 idling).any fun after =>
          after.1.timedOut = [] ∧ (after.1.world 0).issued = [shortRequest] ∧ (after.1.world 0).pool.frees 0 = 0 ∧
            ∀ bucket < kWheelSize, (after.1.wheel.buckets bucket).head = none) = true) = true := by
  decide +kernel

/-- The completion of the request comes before its entry is due. -/
theorem completed_request_kept : Meets poll Kept (.start fun _ => hurriedEndpoint) [sending, completing] := by
  have unchecked : ∀ work ∈ [sending, completing], ∀ turn ∈ work.turns, Turn.checks turn = false := by
    intro work listed
    rcases List.mem_pair.mp listed with rfl | rfl
    · simp [Work.turns, sending, Turn.checks]
    · simp [Work.turns, completing, Turn.checks]
  refine ((timeouts_kept_iff (fun _ => hurried_fresh) _).2 unchecked).mpr ?_
  obtain ⟨before, after⟩ := sending_polls
  obtain ⟨⟨first, early⟩, sent, nothing⟩ := (Option.any_eq_true _ _).mp before
  obtain ⟨⟨shared, now⟩, polled, holds⟩ := (Option.any_eq_true _ _).mp after
  obtain ⟨-, -, -, completed, defined, -⟩ := of_decide_eq_true holds
  obtain ⟨⟨second, late⟩, finished, due⟩ := (Option.any_eq_true _ _).mp completed
  obtain ⟨⟨last, later⟩, polled'⟩ := Option.isSome_iff_exists.mp defined
  obtain ⟨due, freed⟩ := of_decide_eq_true due
  refine meets_cons polled ?_ (meets_cons polled' ?_ (meets_nil _))
  · refine (asked_once (by simp [sending, Turn.ticks]) (by simp [sending]) sent polled).mpr ?_
    rw [show first.due = [] from of_decide_eq_true nothing]
    exact fun owner listed => (List.not_mem_nil listed).elim
  · refine (asked_once (by simp [completing, Turn.ticks]) (by simp [completing]) finished polled').mpr ?_
    intro owner listed pending
    rw [show second.due = _ from due] at listed
    obtain rfl := List.mem_singleton.mp listed
    have held : (second.world 0).pool.frees 0 = 0 := pending.2
    rw [freed] at held
    cases held

/-- The entry of the request leaves the wheel, and the request stays pending without one. -/
theorem pending_request_lost : ¬Meets poll Kept (.start fun _ => hurriedEndpoint) [sending, idling] ∧
    ∃ last outputs, run poll (.start fun _ => hurriedEndpoint) [sending, idling] = some (last, outputs) ∧
      (last.world 0).Pending shortRequest ∧ ∀ bucket < kWheelSize, (last.wheel.buckets bucket).head = none := by
  obtain ⟨⟨shared, now⟩, polled, holds⟩ := (Option.any_eq_true _ _).mp sending_polls.2
  obtain ⟨due, issued, held, -, -, idle⟩ := of_decide_eq_true holds
  obtain ⟨⟨last, later⟩, polled', ends⟩ := (Option.any_eq_true _ _).mp idle
  obtain ⟨nothing, still, kept, empty⟩ := of_decide_eq_true ends
  have first : (0, shortRequest) ∈ shared.due := by
    rw [due]
    exact List.mem_singleton_self _
  have pending : (shared.world 0).Pending shortRequest := ⟨by rw [issued]; exact List.mem_singleton_self _, held⟩
  have ran : run poll (.start fun _ => hurriedEndpoint) [sending, idling] = some (last, now ++ (later ++ [])) :=
    run_cons_some.mpr ⟨shared, now, _, polled, run_cons_some.mpr ⟨last, later, [], polled', rfl, rfl⟩, rfl⟩
  refine ⟨fun meets => ?_, last, _, ran, ⟨by rw [still]; exact List.mem_singleton_self _, kept⟩, empty⟩
  have timedOut : (0, shortRequest) ∈ last.timedOut :=
    (meets.2 shared now polled).1 last later [] [] shared [] polled' rfl rfl _ first pending
  rw [show last.timedOut = [] from nothing] at timedOut
  cases timedOut

end Rdma.Reactors
