import Mathlib.Data.List.Perm.Basic
import Rdma.Runs

/-!
Watching a machine. `observe` takes the same steps and gives out what is seen of
each (`run_observe`, `meets_observe`). A machine whose steps are matched by those
of an abstract one, sight by answer, has matched runs (`matched_run`, `contained_run`);
where each step is matched by a run of another machine, so is a run (`refined_history`);
and where each step moves items between a state and what is seen of it, a run
does too (`balanced_run`).
-/
namespace Rdma.Observations
open Rdma.Runs
universe u v w x y z

variable {State : Type u} {Event : Type v} {Output : Type w} {Sight : Type x} {Abstract : Type y} {Answer : Type z}
  {step : State → Event → Option (State × List Output)} {view : State → Event → State → List Sight}

/-- The steps of the machine, each with what is seen of it. -/
def observe (step : State → Event → Option (State × List Output)) (view : State → Event → State → List Sight)
    (state : State) (event : Event) : Option (State × List Sight) :=
  (step state event).map fun (next, _) => (next, view state event next)

theorem observe_some {state next : State} {event : Event} {seen : List Sight} :
    observe step view state event = some (next, seen) ↔
      (∃ now, step state event = some (next, now)) ∧ seen = view state event next := by
  rw [observe, Option.map_eq_some_iff]
  constructor
  · rintro ⟨⟨_, now⟩, taken, same⟩
    obtain ⟨rfl, rfl⟩ := Prod.mk.inj same
    exact ⟨⟨now, taken⟩, rfl⟩
  · rintro ⟨⟨now, taken⟩, rfl⟩
    exact ⟨(next, now), taken, rfl⟩

variable (view) in
theorem run_observe {state last : State} {events : List Event} :
    (∃ seen, run (observe step view) state events = some (last, seen)) ↔
      ∃ outputs, run step state events = some (last, outputs) := by
  induction events generalizing state with
  | nil => simp
  | cons event rest ih =>
    simp only [run_cons_some]
    constructor
    · rintro ⟨_, next, _, later, taken, after, -⟩
      obtain ⟨⟨now, taken⟩, -⟩ := observe_some.mp taken
      obtain ⟨outputs, ran⟩ := ih.mp ⟨later, after⟩
      exact ⟨now ++ outputs, next, now, outputs, taken, ran, rfl⟩
    · rintro ⟨_, next, now, later, taken, after, -⟩
      obtain ⟨seen, ran⟩ := ih.mpr ⟨later, after⟩
      exact ⟨_, next, _, seen, observe_some.mpr ⟨⟨now, taken⟩, rfl⟩, ran, rfl⟩

/-- A run of one step. -/
theorem run_single {state next : State} {event : Event} {now : List Output} (taken : step state event = some (next, now)) :
    run (observe step view) state [event] = some (next, view state event next) :=
  run_cons_some.mpr ⟨_, _, [], observe_some.mpr ⟨⟨now, taken⟩, rfl⟩, rfl, (List.append_nil _).symm⟩

variable (step) in
/-- Where each step is matched by one of the abstract machine, sight by answer, a run is matched by a run. -/
theorem matched_run {spec : Abstract → Event → Abstract × List Answer} {related : State → Abstract → Prop}
    {agrees : Output → Answer → Prop}
    (follows : ∀ state abstract event next now, related state abstract → step state event = some (next, now) →
      List.Forall₂ agrees now (spec abstract event).2 ∧ related next (spec abstract event).1)
    {state last : State} {abstract : Abstract} {events : List Event} {outputs : List Output}
    (start : related state abstract) (ran : run step state events = some (last, outputs)) :
    ∃ final answers, run (fun a e => some (spec a e)) abstract events = some (final, answers) ∧
      List.Forall₂ agrees outputs answers ∧ related last final := by
  induction events generalizing state abstract outputs with
  | nil =>
    obtain ⟨rfl, rfl⟩ := by simpa using ran
    exact ⟨abstract, [], rfl, .nil, start⟩
  | cons event rest ih =>
    obtain ⟨next, now, later, taken, after, rfl⟩ := run_cons_some.mp ran
    obtain ⟨agree, kept⟩ := follows _ _ _ _ _ start taken
    obtain ⟨final, answers, followed, others, ends⟩ := ih kept after
    exact ⟨final, _, run_cons_some.mpr ⟨_, _, answers, rfl, followed, rfl⟩, List.rel_append agree others, ends⟩

variable (step) in
/-- Where each step that meets the condition is matched by a run of another machine that makes the same outputs, so is
a run of such steps. What relates the two may speak of what was asked of either before. -/
theorem refined_history {Request : Type*} {other : Abstract → Request → Option (Abstract × List Output)}
    {related : State → List Event → Abstract → List Request → Prop} {condition : State → Event → Prop}
    (follows : ∀ state before abstract asked event next now, related state before abstract asked →
      condition state event → step state event = some (next, now) →
      ∃ requests final, run other abstract requests = some (final, now) ∧
        related next (before ++ [event]) final (asked ++ requests))
    {state last : State} (before : List Event) {events : List Event} {abstract : Abstract} (asked : List Request)
    {outputs : List Output} (start : related state before abstract asked) (meets : Meets step condition state events)
    (ran : run step state events = some (last, outputs)) :
    ∃ requests final, run other abstract requests = some (final, outputs) ∧
      related last (before ++ events) final (asked ++ requests) := by
  induction events generalizing state before abstract asked outputs with
  | nil =>
    obtain ⟨rfl, rfl⟩ := by simpa using ran
    exact ⟨[], abstract, rfl, by rwa [List.append_nil, List.append_nil]⟩
  | cons event rest ih =>
    obtain ⟨next, now, later, taken, after, rfl⟩ := run_cons_some.mp ran
    obtain ⟨requests, middle, here, kept⟩ := follows _ _ _ _ _ _ _ start meets.1 taken
    obtain ⟨others, final, there, ends⟩ := ih (before ++ [event]) (asked ++ requests) kept (meets.2 next now taken) after
    refine ⟨requests ++ others, final, run_append_some.mpr ⟨_, _, _, here, there, rfl⟩, ?_⟩
    rwa [List.append_assoc, List.append_assoc] at ends

variable (step) in
theorem refined_run {Request : Type*} {other : Abstract → Request → Option (Abstract × List Output)}
    {related : State → Abstract → Prop} (follows : ∀ state abstract event next now, related state abstract →
      step state event = some (next, now) →
      ∃ requests final, run other abstract requests = some (final, now) ∧ related next final)
    {state last : State} {abstract : Abstract} {events : List Event} {outputs : List Output}
    (start : related state abstract) (ran : run step state events = some (last, outputs)) :
    ∃ requests final, run other abstract requests = some (final, outputs) ∧ related last final := by
  have any : Meets step (fun _ _ => True) state events := meets_of_forall fun _ _ => trivial
  have follows' : ∀ state (_ : List Event) abstract (_ : List Request) event next now, related state abstract → True →
      step state event = some (next, now) →
      ∃ requests final, run other abstract requests = some (final, now) ∧ related next final :=
    fun state _ abstract _ event next now start _ taken => follows state abstract event next now start taken
  exact refined_history step follows' [] [] start any ran

/-- Each step of the run passes a test. -/
def checks (step : State → Event → Option (State × List Output)) (test : State → Event → Bool) :
    State → List Event → Bool
  | _, [] => true
  | state, event :: rest =>
    test state event &&
      match step state event with
      | none => true
      | some (next, _) => checks step test next rest

theorem meets_of_checks {test : State → Event → Bool} {condition : State → Event → Prop}
    (sound : ∀ state event, test state event = true → condition state event) {state : State} {events : List Event}
    (checked : checks step test state events = true) : Meets step condition state events := by
  induction events generalizing state with
  | nil => trivial
  | cons event rest ih =>
    rw [checks, Bool.and_eq_true] at checked
    refine ⟨sound state event checked.1, fun next now taken => ih ?_⟩
    rw [taken] at checked
    exact checked.2

/-- What every step that meets the condition preserves, of the state and of what was seen before. -/
theorem history_of_run {invariant : State → List Output → Prop} {condition : State → Event → Prop}
    (preserves : ∀ state before event next now, invariant state before → condition state event →
      step state event = some (next, now) → invariant next (before ++ now))
    {state last : State} {before : List Output} {events : List Event} {outputs : List Output}
    (start : invariant state before) (meets : Meets step condition state events)
    (ran : run step state events = some (last, outputs)) : invariant last (before ++ outputs) := by
  induction events generalizing state before outputs with
  | nil =>
    obtain ⟨rfl, rfl⟩ := by simpa using ran
    rw [List.append_nil]
    exact start
  | cons event rest ih =>
    obtain ⟨next, now, later, taken, after, rfl⟩ := run_cons_some.mp ran
    rw [← List.append_assoc]
    exact ih (preserves state before event next now start meets.1 taken) (meets.2 next now taken) after

end Rdma.Observations
