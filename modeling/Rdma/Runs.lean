import Mathlib.Logic.Basic
import Mathlib.Data.List.Basic

/-!
Finite runs of a deterministic machine whose steps may be undefined. A step
takes a state and an event to the next state and the outputs it makes; `none`
stands for a step with undefined behaviour, and a run through such a step is
undefined as a whole. A condition on steps is asked of each step in the state
it is taken in (`Meets`). Invariants pass from steps to runs
(`invariant_of_run`, `defined_run`), and a machine whose steps follow an
abstract machine has the abstract machine's outputs (`simulates_run`).
-/
namespace Rdma.Runs
universe u v w x

variable {State : Type u} {Event : Type v} {Output : Type w} {Abstract : Type x}

/-- The state after the events and all outputs in order, if every step is defined. -/
def run (step : State → Event → Option (State × List Output)) :
    State → List Event → Option (State × List Output)
  | state, [] => some (state, [])
  | state, event :: rest =>
    match step state event with
    | none => none
    | some (next, now) =>
      match run step next rest with
      | none => none
      | some (last, later) => some (last, now ++ later)

/-- Every step of the run meets the condition in the state it is taken in. -/
def Meets (step : State → Event → Option (State × List Output)) (condition : State → Event → Prop) :
    State → List Event → Prop
  | _, [] => True
  | state, event :: rest =>
    condition state event ∧ ∀ next now, step state event = some (next, now) → Meets step condition next rest

variable {step : State → Event → Option (State × List Output)} {condition : State → Event → Prop}

@[simp] theorem run_nil (state : State) : run step state [] = some (state, []) := rfl

@[simp] theorem meets_nil (state : State) : Meets step condition state [] := trivial

/-- A run of at least one event is a step and a run of the rest. -/
theorem run_cons_some {state last : State} {event : Event} {rest : List Event} {outputs : List Output} :
    run step state (event :: rest) = some (last, outputs) ↔
      ∃ next now later, step state event = some (next, now) ∧ run step next rest = some (last, later) ∧
        outputs = now ++ later := by
  rw [run]
  constructor
  · intro ran
    cases taken : step state event with
    | none => simp [taken] at ran
    | some result =>
      obtain ⟨next, now⟩ := result
      cases after : run step next rest with
      | none => simp [taken, after] at ran
      | some result =>
        obtain ⟨final, later⟩ := result
        simp only [taken, after, Option.some.injEq, Prod.mk.injEq] at ran
        obtain ⟨rfl, rfl⟩ := ran
        exact ⟨next, now, later, rfl, after, rfl⟩
  · rintro ⟨next, now, later, taken, after, rfl⟩
    simp only [taken, after]

theorem run_append_some {state last : State} {front back : List Event} {outputs : List Output} :
    run step state (front ++ back) = some (last, outputs) ↔
      ∃ middle now later, run step state front = some (middle, now) ∧ run step middle back = some (last, later) ∧
        outputs = now ++ later := by
  induction front generalizing state outputs with
  | nil => simp
  | cons event rest ih =>
    simp only [List.cons_append, run_cons_some, ih]
    constructor
    · rintro ⟨next, now, _, taken, ⟨middle, between, later, front, back, rfl⟩, rfl⟩
      exact ⟨middle, now ++ between, later, ⟨next, now, between, taken, front, rfl⟩, back,
        (List.append_assoc ..).symm⟩
    · rintro ⟨middle, _, later, ⟨next, now, between, taken, front, rfl⟩, back, rfl⟩
      exact ⟨next, now, between ++ later, taken, ⟨middle, between, later, front, back, rfl⟩,
        List.append_assoc ..⟩

theorem meets_cons {state next : State} {event : Event} {rest : List Event} {now : List Output}
    (taken : step state event = some (next, now)) (here : condition state event)
    (later : Meets step condition next rest) : Meets step condition state (event :: rest) := by
  refine ⟨here, fun other outputs taken' => ?_⟩
  obtain ⟨rfl, -⟩ := Prod.mk.inj (Option.some.inj (taken.symm.trans taken'))
  exact later

theorem meets_append {state : State} {front back : List Event} :
    Meets step condition state (front ++ back) ↔
      Meets step condition state front ∧
        ∀ middle now, run step state front = some (middle, now) → Meets step condition middle back := by
  induction front generalizing state with
  | nil => simp
  | cons event rest ih =>
    simp only [List.cons_append, Meets, ih, run_cons_some]
    constructor
    · rintro ⟨here, later⟩
      refine ⟨⟨here, fun next now taken => (later next now taken).1⟩, ?_⟩
      rintro middle _ ⟨next, now, between, taken, front, rfl⟩
      exact (later next now taken).2 middle between front
    · rintro ⟨⟨here, front⟩, back⟩
      exact ⟨here, fun next now taken => ⟨front next now taken, fun middle between ran =>
        back middle (now ++ between) ⟨next, now, between, taken, ran, rfl⟩⟩⟩

theorem meets_of_forall {state : State} {events : List Event} {always : Event → Prop}
    (all : ∀ event ∈ events, always event) : Meets step (fun _ event => always event) state events := by
  induction events generalizing state with
  | nil => trivial
  | cons event rest ih =>
    exact ⟨all event (by simp), fun next now _ => ih fun other member => all other (by simp [member])⟩

theorem meets_both {other : State → Event → Prop} {state : State} {events : List Event}
    (left : Meets step condition state events) (right : Meets step other state events) :
    Meets step (fun state event => condition state event ∧ other state event) state events := by
  induction events generalizing state with
  | nil => trivial
  | cons event rest ih =>
    exact ⟨⟨left.1, right.1⟩, fun next now taken => ih (left.2 next now taken) (right.2 next now taken)⟩

/-- What every step that meets the condition preserves holds at the end of a run of such steps. -/
theorem invariant_of_run {invariant : State → Prop}
    (preserves : ∀ state event next now, invariant state → condition state event →
      step state event = some (next, now) → invariant next)
    {state last : State} {events : List Event} {outputs : List Output} (start : invariant state)
    (meets : Meets step condition state events) (ran : run step state events = some (last, outputs)) :
    invariant last := by
  induction events generalizing state outputs with
  | nil =>
    obtain ⟨rfl, -⟩ := by simpa using ran
    exact start
  | cons event rest ih =>
    obtain ⟨next, now, later, taken, after, -⟩ := run_cons_some.mp ran
    exact ih (preserves state event next now start meets.1 taken) (meets.2 next now taken) after

/-- Where a step that fails the condition leads to a bad state and no step leads out of one, a run that ends well has
met the condition. -/
theorem meets_of_run {invariant bad : State → Prop}
    (preserves : ∀ state event next now, invariant state → condition state event →
      step state event = some (next, now) → invariant next)
    (fails : ∀ state event next now, invariant state → ¬condition state event →
      step state event = some (next, now) → bad next)
    (stays : ∀ state event next now, bad state → step state event = some (next, now) → bad next)
    {state last : State} {events : List Event} {outputs : List Output} (start : invariant state)
    (ran : run step state events = some (last, outputs)) (good : ¬bad last) : Meets step condition state events := by
  induction events generalizing state outputs with
  | nil => trivial
  | cons event rest ih =>
    obtain ⟨next, now, later, taken, after, -⟩ := run_cons_some.mp ran
    by_cases here : condition state event
    · exact meets_cons taken here (ih (preserves state event next now start here taken) after)
    · have any : Meets step (fun _ _ => True) next rest := meets_of_forall fun _ _ => trivial
      have ends : bad last := invariant_of_run (fun state event next now bad _ => stays state event next now bad)
        (fails state event next now start here taken) any after
      exact absurd ends good

/-- Where two conditions say the same of a step from a state with the invariant, they do of a whole run. -/
theorem meets_congr {invariant : State → Prop} {other : State → Event → Prop}
    (same : ∀ state event next now, invariant state → step state event = some (next, now) →
      (other state event ↔ condition state event))
    (preserves : ∀ state event next now, invariant state → condition state event →
      step state event = some (next, now) → invariant next)
    {state last : State} {events : List Event} {outputs : List Output} (start : invariant state)
    (ran : run step state events = some (last, outputs)) :
    Meets step other state events ↔ Meets step condition state events := by
  induction events generalizing state outputs with
  | nil => exact Iff.rfl
  | cons event rest ih =>
    obtain ⟨next, now, later, taken, after, -⟩ := run_cons_some.mp ran
    have here := same state event next now start taken
    constructor
    · intro meets
      have condition := here.mp meets.1
      have kept := preserves state event next now start condition taken
      exact meets_cons taken condition ((ih kept after).mp (meets.2 next now taken))
    · intro meets
      have kept := preserves state event next now start meets.1 taken
      exact meets_cons taken (here.mpr meets.1) ((ih kept after).mpr (meets.2 next now taken))

/-- Where two conditions say the same of every step from a state with the invariant, they do of a whole run. -/
theorem meets_same {invariant : State → Prop} {other : State → Event → Prop}
    (same : ∀ state event, invariant state → (other state event ↔ condition state event))
    (preserves : ∀ state event next now, invariant state → condition state event →
      step state event = some (next, now) → invariant next)
    {state : State} (start : invariant state) (events : List Event) :
    Meets step other state events ↔ Meets step condition state events := by
  induction events generalizing state with
  | nil => exact Iff.rfl
  | cons event rest ih =>
    constructor
    · rintro ⟨here, later⟩
      have condition := (same state event start).mp here
      refine ⟨condition, fun next now taken => ?_⟩
      exact (ih (preserves state event next now start condition taken)).mp (later next now taken)
    · rintro ⟨here, later⟩
      refine ⟨(same state event start).mpr here, fun next now taken => ?_⟩
      exact (ih (preserves state event next now start here taken)).mpr (later next now taken)

/-- Where two conditions say the same of every step that meets a third, they do of a run of such steps. -/
theorem meets_congr_under {invariant : State → Prop} {assumed other : State → Event → Prop}
    (same : ∀ state event, invariant state → assumed state event → (other state event ↔ condition state event))
    (preserves : ∀ state event next now, invariant state → assumed state event →
      step state event = some (next, now) → invariant next)
    {state : State} {events : List Event} (start : invariant state) (meets : Meets step assumed state events) :
    Meets step other state events ↔ Meets step condition state events := by
  induction events generalizing state with
  | nil => exact Iff.rfl
  | cons event rest ih =>
    refine and_congr (same state event start meets.1) ?_
    refine forall_congr' fun next => forall_congr' fun now => forall_congr' fun taken => ?_
    exact ih (preserves state event next now start meets.1 taken) (meets.2 next now taken)

/-- Where each step under an assumption meets the condition exactly if all its outputs are good, so does a run. -/
theorem outputs_good_iff {good : Output → Prop} {invariant : State → Prop} {assumed : State → Event → Prop}
    (same : ∀ state event next now, invariant state → assumed state event → step state event = some (next, now) →
      ((∀ output ∈ now, good output) ↔ condition state event))
    (preserves : ∀ state event next now, invariant state → assumed state event →
      step state event = some (next, now) → invariant next)
    {state last : State} {events : List Event} {outputs : List Output} (start : invariant state)
    (meets : Meets step assumed state events) (ran : run step state events = some (last, outputs)) :
    (∀ output ∈ outputs, good output) ↔ Meets step condition state events := by
  induction events generalizing state outputs with
  | nil =>
    obtain ⟨-, rfl⟩ := by simpa using ran
    exact iff_of_true (List.forall_mem_nil _) trivial
  | cons event rest ih =>
    obtain ⟨next, now, later, taken, after, rfl⟩ := run_cons_some.mp ran
    have here := same state event next now start meets.1 taken
    have rest_same := ih (preserves state event next now start meets.1 taken) (meets.2 next now taken) after
    rw [List.forall_mem_append, here, rest_same]
    constructor
    · rintro ⟨first, others⟩
      exact meets_cons taken first others
    · intro both
      exact ⟨both.1, both.2 next now taken⟩

/-- A preorder that every step follows holds between the ends of a run. -/
theorem grows_of_run {grows : State → State → Prop} (refl : ∀ state, grows state state)
    (trans : ∀ first second third, grows first second → grows second third → grows first third)
    (steps : ∀ state event next now, step state event = some (next, now) → grows state next)
    {state last : State} {events : List Event} {outputs : List Output}
    (ran : run step state events = some (last, outputs)) : grows state last := by
  induction events generalizing state outputs with
  | nil =>
    obtain ⟨rfl, -⟩ := by simpa using ran
    exact refl state
  | cons event rest ih =>
    obtain ⟨next, now, later, taken, after, -⟩ := run_cons_some.mp ran
    exact trans _ _ _ (steps _ _ _ _ taken) (ih after)

/-- Where the invariant lets every step that meets the condition be taken, a run of such steps is defined. -/
theorem defined_run {invariant : State → Prop}
    (progress : ∀ state event, invariant state → condition state event →
      ∃ next now, step state event = some (next, now) ∧ invariant next)
    {state : State} {events : List Event} (start : invariant state) (meets : Meets step condition state events) :
    ∃ last outputs, run step state events = some (last, outputs) ∧ invariant last := by
  induction events generalizing state with
  | nil => exact ⟨state, [], rfl, start⟩
  | cons event rest ih =>
    obtain ⟨next, now, taken, kept⟩ := progress state event start meets.1
    obtain ⟨last, later, ran, final⟩ := ih kept (meets.2 next now taken)
    exact ⟨last, now ++ later, run_cons_some.mpr ⟨next, now, later, taken, ran, rfl⟩, final⟩

/-- Where two machines take the same steps from the states with an invariant, they have the same runs. -/
theorem run_congr {invariant : State → Prop} {other : State → Event → Option (State × List Output)}
    (same : ∀ state event, invariant state → step state event = other state event)
    (preserves : ∀ state event next now, invariant state → step state event = some (next, now) → invariant next)
    {state : State} (start : invariant state) (events : List Event) : run step state events = run other state events := by
  induction events generalizing state with
  | nil => rfl
  | cons event rest ih =>
    rw [run, run, ← same state event start]
    cases taken : step state event with
    | none => rfl
    | some result =>
      dsimp only
      rw [ih (preserves state event result.1 result.2 start taken)]

/-- Some run leads from one state to the other. -/
def Reaches (step : State → Event → Option (State × List Output)) (state last : State) : Prop :=
  ∃ events outputs, run step state events = some (last, outputs)

theorem Reaches.refl (state : State) : Reaches step state state := ⟨[], [], rfl⟩

theorem Reaches.single {state next : State} {event : Event} {now : List Output}
    (taken : step state event = some (next, now)) : Reaches step state next :=
  ⟨[event], now, run_cons_some.mpr ⟨next, now, [], taken, rfl, (List.append_nil now).symm⟩⟩

theorem Reaches.trans {state middle last : State} (first : Reaches step state middle)
    (second : Reaches step middle last) : Reaches step state last := by
  obtain ⟨front, now, early⟩ := first
  obtain ⟨back, later, late⟩ := second
  exact ⟨front ++ back, now ++ later, run_append_some.mpr ⟨middle, now, later, early, late, rfl⟩⟩

/-- Some run whose steps meet the condition leads from one state to the other. -/
def ReachesUnder (step : State → Event → Option (State × List Output)) (condition : State → Event → Prop)
    (state last : State) : Prop :=
  ∃ events outputs, Meets step condition state events ∧ run step state events = some (last, outputs)

theorem ReachesUnder.refl (state : State) : ReachesUnder step condition state state := ⟨[], [], trivial, rfl⟩

theorem ReachesUnder.single {state next : State} {event : Event} {now : List Output}
    (taken : step state event = some (next, now)) (here : condition state event) :
    ReachesUnder step condition state next :=
  ⟨[event], now, meets_cons taken here trivial,
    run_cons_some.mpr ⟨next, now, [], taken, rfl, (List.append_nil now).symm⟩⟩

theorem ReachesUnder.trans {state middle last : State} (first : ReachesUnder step condition state middle)
    (second : ReachesUnder step condition middle last) : ReachesUnder step condition state last := by
  obtain ⟨front, now, early, ran⟩ := first
  obtain ⟨back, later, late, went⟩ := second
  refine ⟨front ++ back, now ++ later, meets_append.mpr ⟨early, fun other outputs there => ?_⟩,
    run_append_some.mpr ⟨middle, now, later, ran, went, rfl⟩⟩
  obtain ⟨rfl, -⟩ := Prod.mk.inj (Option.some.inj (ran.symm.trans there))
  exact late

/-- Where every run is defined, so is every step from a state that a run leads to. -/
theorem Reaches.step_defined {state middle : State} (reached : Reaches step state middle)
    (defined : ∀ events, ∃ last outputs, run step state events = some (last, outputs)) (event : Event) :
    ∃ next now, step middle event = some (next, now) := by
  obtain ⟨events, outputs, ran⟩ := reached
  obtain ⟨last, all, longer⟩ := defined (events ++ [event])
  obtain ⟨other, _, _, front, back, -⟩ := run_append_some.mp longer
  obtain ⟨rfl, -⟩ := Prod.mk.inj (Option.some.inj (ran.symm.trans front))
  obtain ⟨next, now, _, taken, -, -⟩ := run_cons_some.mp back
  exact ⟨next, now, taken⟩

/-- A step matched by the abstract machine `spec` with the same outputs makes runs match with the same outputs. -/
theorem simulates_run (spec : Abstract → Event → Abstract × List Output) (related : State → Abstract → Prop)
    (simulates : ∀ state abstract event, related state abstract → condition state event →
      ∃ next, step state event = some (next, (spec abstract event).2) ∧ related next (spec abstract event).1)
    {state : State} {abstract : Abstract} {events : List Event} (start : related state abstract)
    (meets : Meets step condition state events) :
    ∃ last final outputs, run step state events = some (last, outputs) ∧
      run (fun a e => some (spec a e)) abstract events = some (final, outputs) ∧ related last final := by
  induction events generalizing state abstract with
  | nil => exact ⟨state, abstract, [], rfl, rfl, start⟩
  | cons event rest ih =>
    obtain ⟨next, taken, kept⟩ := simulates state abstract event start meets.1
    obtain ⟨last, final, later, ran, followed, ends⟩ := ih kept (meets.2 _ _ taken)
    exact ⟨last, final, (spec abstract event).2 ++ later, run_cons_some.mpr ⟨next, _, later, taken, ran, rfl⟩,
      run_cons_some.mpr ⟨_, _, later, rfl, followed, rfl⟩, ends⟩

/-- The same where the steps of the abstract machine meet the condition. -/
theorem simulated_run (spec : Abstract → Event → Abstract × List Output) (related : State → Abstract → Prop)
    {legal : Abstract → Event → Prop}
    (simulates : ∀ state abstract event, related state abstract → legal abstract event →
      ∃ next, step state event = some (next, (spec abstract event).2) ∧ related next (spec abstract event).1)
    {state : State} {abstract : Abstract} {events : List Event} (start : related state abstract)
    (meets : Meets (fun a e => some (spec a e)) legal abstract events) :
    ∃ last final outputs, run step state events = some (last, outputs) ∧
      run (fun a e => some (spec a e)) abstract events = some (final, outputs) ∧ related last final := by
  induction events generalizing state abstract with
  | nil => exact ⟨state, abstract, [], rfl, rfl, start⟩
  | cons event rest ih =>
    obtain ⟨next, taken, kept⟩ := simulates state abstract event start meets.1
    obtain ⟨last, final, later, ran, followed, ends⟩ := ih kept (meets.2 _ _ rfl)
    exact ⟨last, final, (spec abstract event).2 ++ later, run_cons_some.mpr ⟨next, _, later, taken, ran, rfl⟩,
      run_cons_some.mpr ⟨_, _, later, rfl, followed, rfl⟩, ends⟩

end Rdma.Runs
