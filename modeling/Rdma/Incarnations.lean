import Rdma.ConnectionManagers
import Rdma.Dispatchers

/-!
Connections that are given the same id, one after the other. A connection is
known by its serial number, which its registration passes to the dispatcher as
the context. A completion of a connection that was removed carries the id only,
so it goes to whatever is registered under the id by then: to a later
connection's handler if and only if one is registered (`incarnations_apart_iff`).
-/
namespace Rdma.Incarnations
open Rdma.Verbs Rdma.WrIds Rdma.Runs Rdma.ConnectionManagers
open Rdma.Dispatchers hiding Event step_refines

/-! ### The machine -/

/-- The last two fields are history variables, not in the source: the ids of the connections created so far, in order,
    and what a plain map of the registered connections holds. -/
structure Fabric where
  manager : ConnectionManager
  dispatcher : CompletionDispatcher
  ids : List UInt16
  registry : Registry

/-- Connections are created, registered, unregistered and removed, and `deliver` is a completion of a work request that
    was posted on a connection, which may have been removed since. -/
inductive Event
  | create (config : ConnectionConfig) (created : Except Int Device)
  | register (serial handler : Nat)
  | unregister (serial : Nat)
  | remove (serial : Nat)
  | deliver (serial : Nat) (wc : Wc)

def Fabric.start (config : ConnectionManagerConfig) : Fabric := ⟨.create config, .create, [], .empty⟩

def Fabric.step (fabric : Fabric) : Event → Option (Fabric × List Invocation)
  | .create config created => do
    let (result, manager) ← fabric.manager.createConnection config created
    some ({ fabric with manager, ids := fabric.ids ++ result.toOption.toList }, [])
  | .register serial handler => do
    let connId ← fabric.ids[serial]?
    some ({ fabric with
        dispatcher := fabric.dispatcher.registerConnection connId serial (some handler)
        registry := (fabric.registry.step (.register connId serial handler)).1 }, [])
  | .unregister serial => do
    let connId ← fabric.ids[serial]?
    some ({ fabric with
        dispatcher := fabric.dispatcher.unregisterConnection connId
        registry := (fabric.registry.step (.unregister connId)).1 }, [])
  | .remove serial => do
    let connId ← fabric.ids[serial]?
    some ({ fabric with manager := fabric.manager.removeConnection connId }, [])
  | .deliver _ wc => do
    let (dispatcher, invocations) ← fabric.dispatcher.dispatch passive wc
    some ({ fabric with dispatcher }, invocations)

/-- A completion that carries its connection's id invokes no later connection's handler. -/
def Unconfused (fabric : Fabric) : Event → Prop
  | .deliver serial wc => fabric.ids[serial]? = some (getConnId wc.wrId) →
      ∀ next invocations, fabric.step (.deliver serial wc) = some (next, invocations) →
        ∀ handler later completed, .completion handler later completed ∈ invocations → later ≤ serial
  | _ => True

/-- The id of the connection has not been given to a later one. -/
def Unreused (fabric : Fabric) : Event → Prop
  | .deliver serial _ => ∀ connId, fabric.ids[serial]? = some connId →
      ∀ later, fabric.ids[later]? = some connId → later ≤ serial
  | _ => True

/-- No later connection is registered under the id of a successful completion. -/
def Unregistered (fabric : Fabric) : Event → Prop
  | .deliver serial wc => wc.status = 0 → fabric.ids[serial]? = some (getConnId wc.wrId) →
      ∀ later handler, fabric.registry.handlers (getConnId wc.wrId) = some (later, handler) → later ≤ serial
  | _ => True

/-- No call meets a shadowed copy, and completions carry an id that a manager can give out. -/
def Clear (fabric : Fabric) : Event → Prop
  | .register serial handler => ∀ connId, fabric.ids[serial]? = some connId →
      Shadowless fabric.dispatcher (.register connId serial handler)
  | .unregister serial => ∀ connId, fabric.ids[serial]? = some connId →
      Shadowless fabric.dispatcher (.unregister connId)
  | .deliver _ wc => getConnId wc.wrId ≠ 0xFFFF
  | _ => True

/-! ### What the dispatcher holds under an id -/

/-- Each entry with a handler has a context that may be filed under the entry's connection. -/
structure Files (may : UInt16 → Nat → Prop) (dispatcher : CompletionDispatcher) : Prop where
  l0 : ∀ place, (dispatcher.l0Cache place).handler ≠ none →
    may (dispatcher.l0Cache place).connId (dispatcher.l0Cache place).ctx
  hot : ∀ pos, (dispatcher.hotCache pos).handler ≠ none →
    may (dispatcher.hotCache pos).connId (dispatcher.hotCache pos).ctx
  index : ∀ connId, (dispatcher.indexed connId).handler ≠ none → may connId (dispatcher.indexed connId).ctx

section Filing
variable {may : UInt16 → Nat → Prop} {dispatcher : CompletionDispatcher} {connId : UInt16} {ctx : Nat}
  {handler : Option Nat}

theorem create_files : Files may .create :=
  ⟨fun _ some_handler => absurd rfl some_handler, fun _ some_handler => absurd rfl some_handler,
    fun _ some_handler => absurd rfl some_handler⟩

theorem putL0_files (files : Files may dispatcher) (place : Nat × Nat) {entry : L0CacheEntry}
    (fits : entry.handler ≠ none → may entry.connId entry.ctx) : Files may (dispatcher.putL0 place entry) :=
  ⟨(Function.forall_update_iff _ fun (_ : Nat × Nat) (entry : L0CacheEntry) =>
    entry.handler ≠ none → may entry.connId entry.ctx).mpr ⟨fits, fun other _ => files.l0 other⟩, files.hot, files.index⟩

theorem putHot_files (files : Files may dispatcher) (pos : Nat) {entry : HotCacheEntry}
    (fits : entry.handler ≠ none → may entry.connId entry.ctx) : Files may (dispatcher.putHot pos entry) :=
  ⟨files.l0, (Function.forall_update_iff _ fun (_ : Nat) (entry : HotCacheEntry) =>
    entry.handler ≠ none → may entry.connId entry.ctx).mpr ⟨fits, fun other _ => files.hot other⟩, files.index⟩

theorem putIndex_files (files : Files may dispatcher) (connId : UInt16) {entry : ConnectionEntry}
    (fits : entry.handler ≠ none → may connId entry.ctx) : Files may (dispatcher.putIndex connId entry) := by
  refine ⟨files.l0, files.hot, fun other => ?_⟩
  rw [putIndex_indexed]
  by_cases same : other = connId
  · rw [if_pos same, same]
    exact fits
  · rw [if_neg same]
    exact files.index other

theorem insertHotCache_files (files : Files may dispatcher) (fits : handler ≠ none → may connId ctx) :
    Files may (dispatcher.insertHotCache connId ctx handler) := by
  obtain ⟨pos, entry, inserted, named, value, -⟩ := insertHotCache_eq dispatcher connId ctx handler
  rw [inserted]
  refine putHot_files files pos fun some_handler => ?_
  obtain ⟨own, holds⟩ := Option.ne_none_iff_exists'.mp some_handler
  rw [HotCacheEntry.value, holds] at value
  obtain ⟨known, same, pair⟩ := Option.map_eq_some_iff.mp value.symm
  rw [named, ← (Prod.mk.inj pair).1]
  exact fits (by rw [same]; exact Option.some_ne_none _)

theorem maybePromoteToL0_files (files : Files may dispatcher) (fits : handler ≠ none → may connId ctx) :
    Files may (dispatcher.maybePromoteToL0 connId ctx handler) := by
  rcases maybePromoteToL0_eq dispatcher connId ctx handler with same | ⟨place, filled⟩
  · rw [same]
    exact files
  · rw [filled]
    exact putL0_files files place fits

theorem register_files (files : Files may dispatcher) (fits : may connId ctx) (handler : Option Nat) :
    Files may (dispatcher.registerConnection connId ctx handler) := by
  refine insertHotCache_files (putL0_files (putIndex_files files connId ?_) _ ?_) ?_
  · exact fun _ => fits
  · exact fun _ => fits
  · exact fun _ => fits

theorem unregister_files (files : Files may dispatcher) (connId : UInt16) :
    Files may (dispatcher.unregisterConnection connId) := by
  have removed : Files may (dispatcher.removeIndex connId) := by
    unfold CompletionDispatcher.removeIndex
    split
    · exact putIndex_files files connId fun some_handler => absurd rfl some_handler
    · exact files
  have first : Files may ((dispatcher.removeIndex connId).invalidateL0 connId) := by
    unfold CompletionDispatcher.invalidateL0
    split
    · exact putL0_files removed _ fun some_handler => absurd rfl some_handler
    · exact removed
  unfold CompletionDispatcher.unregisterConnection CompletionDispatcher.invalidateL1
  split
  · exact putHot_files first _ fun some_handler => absurd rfl some_handler
  · exact first

theorem ageL0_files (files : Files may dispatcher) (place : Nat × Nat) : Files may (dispatcher.ageL0 place) := by
  unfold CompletionDispatcher.ageL0
  dsimp only
  split
  · exact putL0_files files place (files.l0 place)
  · exact files

/-- The contexts of the completion handlers among the invocations. -/
def Contexts (invocations : List Invocation) (holds : Nat → Prop) : Prop :=
  ∀ handler ctx wc, .completion handler ctx wc ∈ invocations → holds ctx

theorem contexts_single {holds : Nat → Prop} {handler : Nat} {wc : Wc} (fits : holds ctx) :
    Contexts [.completion handler ctx wc] holds := by
  intro other found completed invoked
  obtain ⟨-, rfl, -⟩ := Invocation.completion.inj (List.mem_singleton.mp invoked)
  exact fits

/-- An error completion invokes no completion handler. -/
theorem failed_files (files : Files may dispatcher) {wc : Wc} (failed : wc.status ≠ 0) {next : CompletionDispatcher}
    {invocations : List Invocation} (dispatched : dispatcher.dispatch passive wc = some (next, invocations)) :
    Files may next ∧ Contexts invocations (may (getConnId wc.wrId)) := by
  unfold CompletionDispatcher.dispatch at dispatched
  dsimp only at dispatched
  rw [if_pos failed] at dispatched
  split at dispatched
  · obtain ⟨rfl, rfl⟩ := Prod.mk.inj (Option.some.inj dispatched)
    refine ⟨files, fun handler ctx wc invoked => ?_⟩
    cases List.mem_singleton.mp invoked
  · obtain ⟨rfl, rfl⟩ := Prod.mk.inj (Option.some.inj dispatched)
    exact ⟨files, fun handler ctx wc invoked => (List.not_mem_nil invoked).elim⟩

/-- A completion invokes what is filed under the id that it carries. -/
theorem dispatch_files (files : Files may dispatcher) {wc : Wc} {next : CompletionDispatcher}
    {invocations : List Invocation} (dispatched : dispatcher.dispatch passive wc = some (next, invocations)) :
    Files may next ∧ Contexts invocations (may (getConnId wc.wrId)) := by
  by_cases success : wc.status = 0
  · rw [dispatch_found passive dispatcher success] at dispatched
    cases found : dispatcher.find (getConnId wc.wrId) with
    | l0 place other =>
      rw [found] at dispatched
      obtain ⟨handler, holds, same⟩ := Option.bind_eq_some_iff.mp dispatched
      obtain ⟨rfl, rfl⟩ := Prod.mk.inj (Option.some.inj same)
      obtain ⟨own, same⟩ := hitL0_reads dispatcher place
      have touched : Files may (dispatcher.hitL0 place) := putL0_files files place (files.l0 place)
      have fits := files.l0 place (by rw [own.symm.trans holds]; exact Option.some_ne_none _)
      rw [(find_l0 found).2, ← same] at fits
      exact ⟨ageL0_files touched other, contexts_single fits⟩
    | l1 pos =>
      rw [found] at dispatched
      obtain ⟨handler, holds, same⟩ := Option.bind_eq_some_iff.mp dispatched
      obtain ⟨rfl, rfl⟩ := Prod.mk.inj (Option.some.inj same)
      have fits := files.hot pos
      rw [(find_l1 found).2] at fits
      refine ⟨maybePromoteToL0_files (putHot_files files pos (files.hot pos)) fits, contexts_single (fits ?_)⟩
      rw [holds]
      exact Option.some_ne_none _
    | l2 =>
      rw [found] at dispatched
      obtain ⟨rfl, rfl⟩ := Prod.mk.inj (Option.some.inj dispatched)
      have fits := files.index (getConnId wc.wrId)
      split
      · rename_i handler holds
        refine ⟨insertHotCache_files files fits, contexts_single (fits ?_)⟩
        rw [holds]
        exact Option.some_ne_none _
      · exact ⟨files, fun handler ctx wc invoked => (List.not_mem_nil invoked).elim⟩
  · exact failed_files files success dispatched

end Filing

/-! ### Runs -/

/-- The connection was given the id. -/
def Given (ids : List UInt16) (connId : UInt16) (serial : Nat) : Prop := ids[serial]? = some connId

section Steps
variable {fabric next : Fabric} {event : Event} {invocations : List Invocation}

theorem files_grow {ids more : List UInt16} {dispatcher : CompletionDispatcher} (files : Files (Given ids) dispatcher) :
    Files (Given (ids ++ more)) dispatcher := by
  have grows : ∀ connId serial, Given ids connId serial → Given (ids ++ more) connId serial := by
    intro connId serial given
    obtain ⟨inside, -⟩ := List.getElem?_eq_some_iff.mp given
    exact (List.getElem?_append_left inside).trans given
  exact ⟨fun place known => grows _ _ (files.l0 place known), fun pos known => grows _ _ (files.hot pos known),
    fun connId known => grows _ _ (files.index connId known)⟩

/-- Every entry of the dispatcher is filed under the id that its connection was given. -/
theorem step_files (files : Files (Given fabric.ids) fabric.dispatcher)
    (stepped : fabric.step event = some (next, invocations)) : Files (Given next.ids) next.dispatcher := by
  cases event with
  | create config created =>
    obtain ⟨⟨result, manager⟩, -, same⟩ := Option.bind_eq_some_iff.mp stepped
    obtain ⟨rfl, -⟩ := Prod.mk.inj (Option.some.inj same)
    exact files_grow files
  | register serial handler =>
    obtain ⟨connId, given, same⟩ := Option.bind_eq_some_iff.mp stepped
    obtain ⟨rfl, -⟩ := Prod.mk.inj (Option.some.inj same)
    exact register_files files given (some handler)
  | unregister serial =>
    obtain ⟨connId, -, same⟩ := Option.bind_eq_some_iff.mp stepped
    obtain ⟨rfl, -⟩ := Prod.mk.inj (Option.some.inj same)
    exact unregister_files files connId
  | remove serial =>
    obtain ⟨connId, -, same⟩ := Option.bind_eq_some_iff.mp stepped
    obtain ⟨rfl, -⟩ := Prod.mk.inj (Option.some.inj same)
    exact files
  | deliver serial wc =>
    obtain ⟨⟨dispatcher, called⟩, dispatched, same⟩ := Option.bind_eq_some_iff.mp stepped
    obtain ⟨rfl, -⟩ := Prod.mk.inj (Option.some.inj same)
    exact (dispatch_files files dispatched).1

/-- While the id has not been given out again, only its own connection is filed under it. -/
theorem unreused_unconfused (files : Files (Given fabric.ids) fabric.dispatcher) (unreused : Unreused fabric event) :
    Unconfused fabric event := by
  cases event with
  | deliver serial wc =>
    intro carries next invocations stepped handler later completed invoked
    obtain ⟨⟨dispatcher, called⟩, dispatched, same⟩ := Option.bind_eq_some_iff.mp stepped
    obtain ⟨-, rfl⟩ := Prod.mk.inj (Option.some.inj same)
    have given := (dispatch_files files dispatched).2 handler later completed invoked
    exact unreused (getConnId wc.wrId) carries later given
  | _ => trivial

theorem step_refines (refines : Refines fabric.dispatcher fabric.registry) (clear : Clear fabric event)
    (stepped : fabric.step event = some (next, invocations)) : Refines next.dispatcher next.registry := by
  cases event with
  | create config created =>
    obtain ⟨⟨result, manager⟩, -, same⟩ := Option.bind_eq_some_iff.mp stepped
    obtain ⟨rfl, -⟩ := Prod.mk.inj (Option.some.inj same)
    exact refines
  | register serial handler =>
    obtain ⟨connId, given, same⟩ := Option.bind_eq_some_iff.mp stepped
    obtain ⟨rfl, -⟩ := Prod.mk.inj (Option.some.inj same)
    exact register_refines refines (clear connId given)
  | unregister serial =>
    obtain ⟨connId, given, same⟩ := Option.bind_eq_some_iff.mp stepped
    obtain ⟨rfl, -⟩ := Prod.mk.inj (Option.some.inj same)
    exact unregister_refines refines (clear connId given)
  | remove serial =>
    obtain ⟨connId, -, same⟩ := Option.bind_eq_some_iff.mp stepped
    obtain ⟨rfl, -⟩ := Prod.mk.inj (Option.some.inj same)
    exact refines
  | deliver serial wc =>
    obtain ⟨⟨dispatcher, called⟩, dispatched, same⟩ := Option.bind_eq_some_iff.mp stepped
    obtain ⟨rfl, -⟩ := Prod.mk.inj (Option.some.inj same)
    obtain ⟨after, expected, kept⟩ := dispatch_refines refines clear
    obtain ⟨rfl, -⟩ := Prod.mk.inj (Option.some.inj (dispatched.symm.trans expected))
    exact kept

/-- A completion invokes the handler that is registered under its id, whichever connection it belongs to. -/
theorem unconfused_iff (refines : Refines fabric.dispatcher fabric.registry) (clear : Clear fabric event) :
    Unconfused fabric event ↔ Unregistered fabric event := by
  cases event with
  | deliver serial wc =>
    obtain ⟨dispatcher, dispatched, -⟩ := dispatch_refines refines clear
    have stepped : fabric.step (.deliver serial wc) = some ({ fabric with dispatcher }, fabric.registry.answer wc) :=
      Option.bind_eq_some_iff.mpr ⟨_, dispatched, rfl⟩
    constructor
    · intro unconfused success carries later handler known
      have invoked : .completion handler later wc ∈ fabric.registry.answer wc := by
        rw [Registry.answer, if_neg (not_not_intro success), invoke_known known]
        exact List.mem_singleton_self _
      exact unconfused carries _ _ stepped handler later wc invoked
    · intro unregistered carries next invocations stepped' handler later completed invoked
      obtain ⟨-, rfl⟩ := Prod.mk.inj (Option.some.inj (stepped.symm.trans stepped'))
      unfold Registry.answer Registry.invoke at invoked
      split at invoked
      · split at invoked
        · cases List.mem_singleton.mp invoked
        · cases invoked
      · rename_i success
        split at invoked
        · rename_i known
          obtain ⟨rfl, rfl, -⟩ := Invocation.completion.inj (List.mem_singleton.mp invoked)
          exact unregistered (not_not.mp success) carries _ _ known
        · cases invoked
  | _ => exact Iff.rfl

end Steps

/-- In every run: completions invoke no later connection's handler if they are delivered before their ids are given out
    again; and where no call meets a shadowed copy, if and only if no later connection is registered under the id of a
    successful completion when it is delivered. -/
theorem incarnations_apart_iff (config : ConnectionManagerConfig) (events : List Event) :
    (Meets Fabric.step Unreused (.start config) events → Meets Fabric.step Unconfused (.start config) events) ∧
    (Meets Fabric.step Clear (.start config) events →
      (Meets Fabric.step Unconfused (.start config) events ↔ Meets Fabric.step Unregistered (.start config) events)) := by
  constructor
  · intro unreused
    have files : Files (Given (Fabric.start config).ids) (Fabric.start config).dispatcher := create_files
    have same : ∀ fabric : Fabric, ∀ event : Event, Files (Given fabric.ids) fabric.dispatcher → Unreused fabric event →
        (Unconfused fabric event ↔ True) :=
      fun _ _ files unreused => iff_of_true (unreused_unconfused files unreused) trivial
    refine (meets_congr_under same (fun _ _ _ _ files _ stepped => step_files files stepped) files unreused).mpr ?_
    exact meets_of_forall fun _ _ => trivial
  · intro clear
    have same : ∀ fabric : Fabric, ∀ event : Event, Refines fabric.dispatcher fabric.registry → Clear fabric event →
        (Unconfused fabric event ↔ Unregistered fabric event) :=
      fun _ _ refines clear => unconfused_iff refines clear
    exact meets_congr_under same (fun _ _ _ _ refines clear stepped => step_refines refines clear stepped) create_refines
      clear

/-- A device that accepts every work request. -/
def willing : Except Int Device := .ok ⟨fun _ => none, fun _ => none, [], []⟩

/-- A connection is removed, and its completion is delivered before the next connection with its id is registered. -/
theorem early_completion_unconfused : Meets Fabric.step Unconfused (.start { maxConnections := 2 })
    [.create {} willing, .register 0 10, .unregister 0, .remove 0, .create {} willing, .deliver 0 (sampleWc 0),
      .register 1 20] := by
  have deliverable : getConnId (sampleWc 0).wrId ≠ 0xFFFF := by decide
  refine ((incarnations_apart_iff _ _).2 ?_).mpr ?_
  · refine meets_cons rfl trivial (meets_cons rfl ?_ (meets_cons rfl ?_ (meets_cons rfl trivial
      (meets_cons rfl trivial (meets_cons rfl deliverable (meets_cons rfl ?_ (meets_nil _)))))))
    all_goals
      intro connId given
      obtain rfl := Option.some.inj given
      exact ⟨by decide, by decide⟩
  · refine meets_cons rfl trivial (meets_cons rfl trivial (meets_cons rfl trivial (meets_cons rfl trivial
      (meets_cons rfl trivial (meets_cons rfl ?_ (meets_cons rfl trivial (meets_nil _)))))))
    intro success carries later handler known
    cases known

/-- The next connection with the id is registered by the time the completion is delivered. -/
theorem late_completion_confused : ∃ fabric outputs next,
    run Fabric.step (.start {}) [.create {} willing, .register 0 10, .unregister 0, .remove 0, .create {} willing,
        .register 1 20] = some (fabric, outputs) ∧ fabric.ids = [0, 0] ∧
      fabric.step (.deliver 0 (sampleWc 0)) = some (next, [.completion 20 1 (sampleWc 0)]) ∧
      ¬Unconfused fabric (.deliver 0 (sampleWc 0)) := by
  have answered : (run Fabric.step (.start {}) [.create {} willing, .register 0 10, .unregister 0, .remove 0,
      .create {} willing, .register 1 20]).any (fun result => decide (result.1.ids = [0, 0] ∧
        (result.1.step (.deliver 0 (sampleWc 0))).map Prod.snd = some [.completion 20 1 (sampleWc 0)])) = true := by
    decide +kernel
  obtain ⟨⟨fabric, outputs⟩, ran, holds⟩ := (Option.any_eq_true _ _).mp answered
  obtain ⟨ids, invoked⟩ := of_decide_eq_true holds
  obtain ⟨⟨next, invocations⟩, stepped, rfl⟩ := Option.map_eq_some_iff.mp invoked
  refine ⟨fabric, outputs, next, ran, ids, stepped, fun unconfused => ?_⟩
  have carried : fabric.ids[0]? = some (getConnId (sampleWc 0).wrId) := by
    rw [ids]
    decide
  have earlier := unconfused carried next _ stepped 20 1 (sampleWc 0) (List.mem_singleton_self _)
  omega

end Rdma.Incarnations
