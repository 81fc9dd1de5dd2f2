import Rdma.Dispatchers

/-!
Handlers that call back into the dispatcher. After a handler has returned, a hit
in L0 touches the other way of the set only, but a hit in L1 promotes what its
entry holds by then to L0, and a hit in L2 caches what the index holds by then.
In runs whose handlers leave these entries to their connections, and whose
calls, the handlers' own among them, meet no shadowed copies, the dispatcher
does what a plain map does with the same calls; so it calls no null handler,
and a connection whose handler has unregistered it stays quiet until it is
registered again (`reentrant_refines`).
-/
namespace Rdma.Reentrancy
open Rdma.Verbs Rdma.WrIds Rdma.Runs
open Rdma.Dispatchers hiding Event Issued step_refines

/-! ### The machine -/

/-- A call that changes the connections of the dispatcher. -/
inductive Change
  | register (connId : UInt16) (ctx handler : Nat)
  | unregister (connId : UInt16)
  deriving DecidableEq, Repr

def Change.event : Change → Dispatchers.Event
  | .register connId ctx handler => .register connId ctx handler
  | .unregister connId => .unregister connId

def Change.apply : Change → CompletionDispatcher → CompletionDispatcher
  | .register connId ctx handler, dispatcher => dispatcher.registerConnection connId ctx (some handler)
  | .unregister connId, dispatcher => dispatcher.unregisterConnection connId

/-- What a handler does that makes these calls. -/
def changing (changes : List Change) (dispatcher : CompletionDispatcher) : CompletionDispatcher :=
  changes.foldl (fun dispatcher change => change.apply dispatcher) dispatcher

/-- `dispatch` comes with the calls of the handler that it invokes, if it invokes one. -/
inductive Event
  | change (change : Change)
  | setErrorHandler (ctx : Nat) (handler : Option Nat)
  | dispatch (wc : Wc) (changes : List Change)
  deriving DecidableEq, Repr

def step (dispatcher : CompletionDispatcher) : Event → Option (CompletionDispatcher × List Invocation)
  | .change change => some (change.apply dispatcher, [])
  | .setErrorHandler ctx handler => some (dispatcher.setErrorHandler ctx handler, [])
  | .dispatch wc changes => dispatcher.dispatch (fun _ => changing changes) wc

/-- The same calls on the map. -/
def recording (changes : List Change) (registry : Registry) : Registry :=
  changes.foldl (fun registry change => (registry.step change.event).1) registry

/-- The map, which the handler changes if there is one. -/
def record (registry : Registry) : Event → Registry × List Invocation
  | .change change => registry.step change.event
  | .setErrorHandler ctx handler => registry.step (.setErrorHandler ctx handler)
  | .dispatch wc changes => (if registry.answer wc = [] then registry else recording changes registry, registry.answer wc)

/-- Completions are those of connections that a manager can issue. -/
def Issued : Event → Prop
  | .dispatch wc _ => getConnId wc.wrId ≠ 0xFFFF
  | _ => True

instance : DecidablePred Issued
  | .dispatch wc _ => inferInstanceAs (Decidable (getConnId wc.wrId ≠ 0xFFFF))
  | .change _ => inferInstanceAs (Decidable True)
  | .setErrorHandler .. => inferInstanceAs (Decidable True)

/-- Each of the calls, in the state it is made in, meets no shadowed copy. -/
def Clear : CompletionDispatcher → List Change → Prop
  | _, [] => True
  | dispatcher, change :: rest => Shadowless dispatcher change.event ∧ Clear (change.apply dispatcher) rest

/-- `Dispatch` invokes a handler for a successful completion of the connection. -/
def invokes (dispatcher : CompletionDispatcher) (connId : UInt16) : Bool :=
  match dispatcher.find connId with
  | .l2 => (dispatcher.indexed connId).handler.isSome
  | _ => true

/-- No call meets a shadowed copy, and a handler found in L1 or L2 leaves its connection there. -/
def Orderly (dispatcher : CompletionDispatcher) : Event → Prop
  | .change change => Shadowless dispatcher change.event
  | .setErrorHandler .. => True
  | .dispatch wc changes =>
    if wc.status ≠ 0 then dispatcher.errorHandler.isSome → Clear dispatcher changes
    else invokes dispatcher (getConnId wc.wrId) →
      Clear (dispatcher.invoking (getConnId wc.wrId)) changes ∧
        Returns (getConnId wc.wrId) (changing changes (dispatcher.invoking (getConnId wc.wrId)))
          (dispatcher.find (getConnId wc.wrId))

/-! ### The refinement -/

section Refinement
variable {dispatcher : CompletionDispatcher} {registry : Registry}

theorem apply_refines (refines : Refines dispatcher registry) {change : Change}
    (clear : Shadowless dispatcher change.event) :
    Refines (change.apply dispatcher) (registry.step change.event).1 := by
  cases change with
  | register connId ctx handler => exact register_refines refines clear
  | unregister connId => exact unregister_refines refines clear

theorem changing_refines (refines : Refines dispatcher registry) {changes : List Change}
    (clear : Clear dispatcher changes) : Refines (changing changes dispatcher) (recording changes registry) := by
  induction changes generalizing dispatcher registry with
  | nil => exact refines
  | cons change rest ih => exact ih (apply_refines refines clear.1) clear.2

theorem known_invokes (refines : Refines dispatcher registry) {connId : UInt16}
    (known : registry.handlers connId ≠ none) : invokes dispatcher connId = true := by
  unfold invokes
  split
  · rename_i found
    by_contra none_left
    refine known ?_
    rw [← refines.index connId, ConnectionEntry.value, Option.not_isSome_iff_eq_none.mp none_left]
    rfl
  · rfl

/-- A step of an orderly run is a step of the map. -/
theorem step_refines (refines : Refines dispatcher registry) {event : Event} (issued : Issued event)
    (orderly : Orderly dispatcher event) :
    ∃ next, step dispatcher event = some (next, (record registry event).2) ∧ Refines next (record registry event).1 := by
  cases event with
  | change change =>
    have silent : (registry.step change.event).2 = [] := by cases change <;> rfl
    refine ⟨_, ?_, apply_refines refines orderly⟩
    rw [record, silent]
    rfl
  | setErrorHandler ctx handler => exact ⟨_, rfl, refines.index, refines.l0, refines.hot, rfl⟩
  | dispatch wc changes =>
    by_cases success : wc.status = 0
    · rw [Orderly, if_neg (not_not_intro success)] at orderly
      have answer : registry.answer wc = registry.invoke (getConnId wc.wrId) wc := if_neg (not_not_intro success)
      dsimp only [record]
      rw [answer]
      refine completion_refines refines issued success (fun ctx handler known => ?_) fun unknown => ?_
      · have invoked : registry.invoke (getConnId wc.wrId) wc ≠ [] := by
          rw [invoke_known known]
          exact List.cons_ne_nil _ _
        have some_known : registry.handlers (getConnId wc.wrId) ≠ none := by
          rw [known]
          exact Option.some_ne_none _
        obtain ⟨clear, returns⟩ := orderly (known_invokes refines some_known)
        rw [if_neg invoked]
        exact ⟨changing_refines (find_returns refines known).1 clear, returns⟩
      · rw [if_pos (by rw [Registry.invoke, unknown])]
    · rw [Orderly, if_pos success] at orderly
      dsimp only [record]
      refine error_refines refines success (fun invocation answered => ?_) fun nothing => if_pos nothing
      have handled : dispatcher.errorHandler.isSome = true := by
        by_contra missing
        have error := refines.error
        rw [Option.not_isSome_iff_eq_none.mp missing] at error
        rw [Registry.answer, if_pos success, ← error] at answered
        cases answered
      rw [if_neg (List.ne_nil_of_mem answered)]
      exact changing_refines refines (orderly handled)

end Refinement

/-! ### Unregistered connections -/

def Change.registers (connId : UInt16) : Change → Bool
  | .register other _ _ => other = connId
  | .unregister _ => false

/-- The event, or the handler that it invokes, registers the connection. -/
def Event.registers (connId : UInt16) : Event → Bool
  | .change call => call.registers connId
  | .setErrorHandler .. => false
  | .dispatch _ changes => changes.any (Change.registers connId)

section Quiet
variable {registry last : Registry} {connId : UInt16}

theorem step_unknown (unknown : registry.handlers connId = none) {change : Change}
    (other : change.registers connId = false) : (registry.step change.event).1.handlers connId = none := by
  cases change with
  | register registered ctx handler =>
    have apart : connId ≠ registered := fun same => of_decide_eq_false other same.symm
    exact (Function.update_of_ne apart ..).trans unknown
  | unregister removed =>
    by_cases same : connId = removed
    · subst same
      exact Function.update_self ..
    · exact (Function.update_of_ne same ..).trans unknown

theorem recording_unknown (unknown : registry.handlers connId = none) {changes : List Change}
    (others : ∀ change ∈ changes, change.registers connId = false) :
    (recording changes registry).handlers connId = none := by
  induction changes generalizing registry with
  | nil => exact unknown
  | cons change rest ih =>
    obtain ⟨here, later⟩ := List.forall_mem_cons.mp others
    exact ih (step_unknown unknown here) later

theorem record_unknown (unknown : registry.handlers connId = none) {event : Event}
    (other : event.registers connId = false) : (record registry event).1.handlers connId = none := by
  cases event with
  | change change => exact step_unknown unknown other
  | setErrorHandler ctx handler => exact unknown
  | dispatch wc changes =>
    dsimp only [record]
    split
    · exact unknown
    · refine recording_unknown unknown fun change made => ?_
      by_contra registers
      exact absurd (List.any_eq_true.mpr ⟨change, made, eq_true_of_ne_false registers⟩) (Bool.eq_false_iff.mp other)

theorem answer_unknown (unknown : registry.handlers connId = none) {event : Event} {handler ctx : Nat} {wc : Wc}
    (invoked : .completion handler ctx wc ∈ (record registry event).2) : getConnId wc.wrId ≠ connId := by
  rintro rfl
  cases event with
  | change change => cases change <;> cases invoked
  | setErrorHandler ctx handler => cases invoked
  | dispatch completed changes =>
    have invoked : .completion handler ctx wc ∈ registry.answer completed := invoked
    unfold Registry.answer Registry.invoke at invoked
    split at invoked
    · split at invoked
      · cases List.mem_singleton.mp invoked
      · cases invoked
    · split at invoked
      · rename_i known
        obtain ⟨-, -, rfl⟩ := Invocation.completion.inj (List.mem_singleton.mp invoked)
        rw [unknown] at known
        cases known
      · cases invoked

/-- While a connection is not registered, no completion of it invokes a handler. -/
theorem run_unknown (unknown : registry.handlers connId = none) {events : List Event}
    (others : ∀ event ∈ events, event.registers connId = false) {invocations : List Invocation}
    (ran : run (fun registry event => some (record registry event)) registry events = some (last, invocations))
    {handler ctx : Nat} {wc : Wc} (invoked : .completion handler ctx wc ∈ invocations) : getConnId wc.wrId ≠ connId := by
  induction events generalizing registry invocations with
  | nil =>
    obtain ⟨-, rfl⟩ := Prod.mk.inj (Option.some.inj ran)
    cases invoked
  | cons event rest ih =>
    obtain ⟨next, now, later, stepped, after, rfl⟩ := run_cons_some.mp ran
    obtain ⟨rfl, rfl⟩ := Prod.mk.inj (Option.some.inj stepped)
    obtain ⟨here, there⟩ := List.forall_mem_cons.mp others
    rcases List.mem_append.mp invoked with now | later
    · exact answer_unknown unknown now
    · exact ih (record_unknown unknown here) there after later

end Quiet

/-- An orderly run is a run of the map. -/
theorem run_refines {dispatcher : CompletionDispatcher} {registry : Registry} (refines : Refines dispatcher registry)
    {events : List Event} (issued : ∀ event ∈ events, Issued event) (orderly : Meets step Orderly dispatcher events) :
    ∃ last final invocations, run step dispatcher events = some (last, invocations) ∧
      run (fun registry event => some (record registry event)) registry events = some (final, invocations) ∧
      Refines last final :=
  simulates_run record Refines (fun _ _ _ refines meets => step_refines refines meets.1 meets.2) refines
    (meets_both (meets_of_forall issued) orderly)

/-- In every orderly run over the connections that a manager can issue, the dispatcher calls no null handler and invokes
    exactly the handlers that a plain map does; after a handler has unregistered its own connection, no completion of
    that connection invokes a handler until the connection is registered again. -/
theorem reentrant_refines {events : List Event} (issued : ∀ event ∈ events, Issued event)
    (orderly : Meets step Orderly .create events) :
    (∃ last registry invocations, run step .create events = some (last, invocations) ∧
      run (fun registry event => some (record registry event)) .empty events = some (registry, invocations) ∧
      Refines last registry) ∧
    ∀ front wc before after back, events = front ++ .dispatch wc (before ++ .unregister (getConnId wc.wrId) :: after) :: back →
      (∀ change ∈ after, change.registers (getConnId wc.wrId) = false) →
      (∀ event ∈ back, event.registers (getConnId wc.wrId) = false) →
      ∀ state early next now last later, run step .create front = some (state, early) →
        step state (.dispatch wc (before ++ .unregister (getConnId wc.wrId) :: after)) = some (next, now) → now ≠ [] →
        run step next back = some (last, later) →
        ∀ handler ctx completed, .completion handler ctx completed ∈ later →
          getConnId completed.wrId ≠ getConnId wc.wrId := by
  refine ⟨run_refines create_refines issued orderly, ?_⟩
  rintro front wc before after back rfl unregistered others state early next now last later ran stepped invoked ended
  obtain ⟨issuedFirst, issuedRest⟩ := List.forall_mem_append.mp issued
  obtain ⟨issuedHere, issuedLater⟩ := List.forall_mem_cons.mp issuedRest
  obtain ⟨orderlyFirst, orderlyRest⟩ := meets_append.mp orderly
  obtain ⟨here, orderlyLater⟩ := orderlyRest state early ran
  -- the state in which the handler is invoked, the one after it has returned, and the last
  obtain ⟨middle, registry, calls, same, -, refines⟩ := run_refines create_refines issuedFirst orderlyFirst
  obtain ⟨rfl, -⟩ := Prod.mk.inj (Option.some.inj (ran.symm.trans same))
  obtain ⟨returned, taken, kept⟩ := step_refines refines issuedHere here
  obtain ⟨rfl, rfl⟩ := Prod.mk.inj (Option.some.inj (stepped.symm.trans taken))
  obtain ⟨final, ends, invocations, same, recorded, -⟩ := run_refines kept issuedLater (orderlyLater _ _ stepped)
  obtain ⟨rfl, rfl⟩ := Prod.mk.inj (Option.some.inj (ended.symm.trans same))
  have answered : registry.answer wc ≠ [] := invoked
  have unknown : (record registry (.dispatch wc (before ++ .unregister (getConnId wc.wrId) :: after))).1.handlers
      (getConnId wc.wrId) = none := by
    dsimp only [record]
    rw [if_neg answered, recording, List.foldl_append, List.foldl_cons]
    exact recording_unknown (Function.update_self ..) unregistered
  exact fun handler ctx completed called => run_unknown unknown others recorded called

/-- A handler that is found in L0 unregisters its connection, and a completion of it comes later. -/
theorem resigning_handler_quiet :
    ∃ last registry invocations,
      run step .create [.change (.register 5 7 9), .dispatch (sampleWc 5) [.unregister 5], .dispatch (sampleWc 5) []] =
        some (last, invocations) ∧
      run (fun registry event => some (record registry event)) .empty
          [.change (.register 5 7 9), .dispatch (sampleWc 5) [.unregister 5], .dispatch (sampleWc 5) []] =
        some (registry, invocations) ∧
      Refines last registry := by
  refine (reentrant_refines (by decide) ?_).1
  refine meets_cons rfl ⟨by decide, by decide⟩ (meets_cons rfl ?_ (meets_cons rfl ?_ (meets_nil _)))
  · exact fun _ => ⟨⟨⟨by decide, by decide⟩, trivial⟩, trivial⟩
  · exact fun invoked => absurd invoked (by decide)

/-- Three connections of one L0 set: the first is found in L1 only, and its handler unregisters it. What is promoted to
    L0 then is a null handler, which the next completion calls. -/
theorem resigning_handler_null :
    (run step .create [.change (.register 0 1 10), .change (.register 32 2 20), .change (.register 64 3 30),
        .dispatch (sampleWc 0) [.unregister 0]]).map Prod.snd = some [.completion 10 1 (sampleWc 0)] ∧
      run step .create [.change (.register 0 1 10), .change (.register 32 2 20), .change (.register 64 3 30),
        .dispatch (sampleWc 0) [.unregister 0], .dispatch (sampleWc 0) []] = none := by
  exact ⟨by decide +kernel, rfl⟩

end Rdma.Reentrancy
