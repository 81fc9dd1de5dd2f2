import Rdma.HierarchicalWheels
import Rdma.Runs

/-!
Runs of the timing wheels. Both wheels file their entries alike (`Files`), and
whatever files its entries so conserves them (`files_run`): in every run each
entry of the pool is on exactly one list, scheduling fails only when all are
pending, and what was accepted is what was reported and what is pending
(`wheels_conserve`).
-/
namespace Rdma.WheelRuns
open Rdma.Chains Rdma.Runs Rdma.TimingWheels Rdma.HierarchicalWheels

inductive Event
  | schedule (slotIndex : UInt32) (generation : UInt8) (timeout : UInt32)
  | tick
  deriving DecidableEq, Repr

/-- A wheel with the tokens that it has accepted and reported so far, which are history variables. -/
structure Log (Wheel : Type) where
  wheel : Wheel
  accepted : List Token
  reported : List Token

/-- The two operations of a wheel. -/
structure Operations (Wheel : Type) where
  schedule : Wheel → UInt32 → UInt8 → UInt32 → Bool × Wheel
  tick : Wheel → Option (List Token × Wheel)

def single : Operations TimingWheel := ⟨TimingWheel.schedule, TimingWheel.tick⟩
def hierarchical : Operations HierarchicalTimingWheel :=
  ⟨HierarchicalTimingWheel.schedule, HierarchicalTimingWheel.tick⟩

variable {Wheel Bucket : Type}

def Operations.step (operations : Operations Wheel) (log : Log Wheel) : Event → Option (Log Wheel × List Unit)
  | .schedule slotIndex generation timeout =>
    let (accepted, wheel) := operations.schedule log.wheel slotIndex generation timeout
    some ({ log with wheel, accepted := if accepted then log.accepted ++ [(slotIndex, generation)] else log.accepted },
      [])
  | .tick => do
    let (expired, wheel) ← operations.tick log.wheel
    some ({ log with wheel, reported := log.reported ++ expired }, [])

/-- Every entry is on exactly one finite list of the wheel, what was accepted was reported or is pending, and
    scheduling fails exactly when all entries are pending, and then changes nothing. -/
def Conserved (operations : Operations Wheel) (layout : Layout Bucket) (links : Wheel → Links Bucket)
    (token : Wheel → Nat → Token) (log : Log Wheel) : Prop :=
  ∃ lists, Holds layout (links log.wheel) lists [] ∧
    Accounts layout lists (token log.wheel) log.accepted log.reported ∧
    ∀ slotIndex generation timeout,
      ((operations.schedule log.wheel slotIndex generation timeout).1 = false ↔
        (layout.pending lists).length = layout.size) ∧
      ((operations.schedule log.wheel slotIndex generation timeout).1 = false →
        (operations.schedule log.wheel slotIndex generation timeout).2 = log.wheel)

/-- How a wheel files its entries: a free one goes into a bucket, a tick empties a bucket, and what a wheel moves
    otherwise it moves between buckets. -/
structure Files [DecidableEq Bucket] (operations : Operations Wheel) (layout : Layout Bucket)
    (links : Wheel → Links Bucket) (token : Wheel → Nat → Token)
    (represents : Wheel → (Option Bucket → List Nat) → Prop) : Prop where
  holds : ∀ wheel lists, represents wheel lists → Holds layout (links wheel) lists []
  full : ∀ wheel lists, represents wheel lists → lists none = [] → ∀ slotIndex generation timeout,
    operations.schedule wheel slotIndex generation timeout = (false, wheel)
  scheduled : ∀ wheel lists, represents wheel lists → ∀ entry rest, lists none = entry :: rest →
    ∀ slotIndex generation timeout, ∃ next, ∃ target ∈ layout.buckets,
      operations.schedule wheel slotIndex generation timeout = (true, next) ∧
      represents next (scheduledLists lists entry rest target) ∧
      token next = Function.update (token wheel) entry (slotIndex, generation)
  ticked : ∀ wheel lists, represents wheel lists → ∃ next moved, ∃ bucket ∈ layout.buckets,
    operations.tick wheel = some ((lists (some bucket)).map (token wheel), next) ∧ represents next moved ∧
    token next = token wheel ∧
    (layout.pending (Function.update lists (some bucket) [])).Perm (layout.pending moved)

section Filing
variable [DecidableEq Bucket] {operations : Operations Wheel} {layout : Layout Bucket} {links : Wheel → Links Bucket}
  {token : Wheel → Nat → Token} {represents : Wheel → (Option Bucket → List Nat) → Prop}

/-- The wheel holds lists that account for what was accepted and reported. -/
def Kept (layout : Layout Bucket) (token : Wheel → Nat → Token)
    (represents : Wheel → (Option Bucket → List Nat) → Prop) (log : Log Wheel) : Prop :=
  ∃ lists, represents log.wheel lists ∧ Accounts layout lists (token log.wheel) log.accepted log.reported

theorem Files.free_unlisted (files : Files operations layout links token represents) {wheel : Wheel}
    {lists : Option Bucket → List Nat} (filed : represents wheel lists) {entry : Nat} {rest : List Nat}
    (free : lists none = entry :: rest) : entry ∉ layout.pending lists := by
  have once := (files.holds wheel lists filed).once
  rw [List.nil_append, places_flatMap, free] at once
  exact fun listed => (List.nodup_cons.mp once).1 (List.mem_append_right _ listed)

/-- Every step is defined and keeps the accounts. -/
theorem files_step (files : Files operations layout links token represents) (log : Log Wheel) (event : Event)
    (kept : Kept layout token represents log) :
    ∃ next outputs, operations.step log event = some (next, outputs) ∧ Kept layout token represents next := by
  obtain ⟨lists, filed, accounts⟩ := kept
  cases event with
  | schedule slotIndex generation timeout =>
    cases free : lists none with
    | nil =>
      have full := files.full log.wheel lists filed free slotIndex generation timeout
      refine ⟨log, [], ?_, lists, filed, accounts⟩
      rw [Operations.step, full]
      rfl
    | cons entry rest =>
      obtain ⟨next, target, member, scheduled, files_next, tokens⟩ :=
        files.scheduled log.wheel lists filed entry rest free slotIndex generation timeout
      refine ⟨⟨next, log.accepted ++ [(slotIndex, generation)], log.reported⟩, [], ?_, _, files_next, ?_⟩
      · rw [Operations.step, scheduled]
        rfl
      · change Accounts layout _ (token next) _ _
        rw [tokens]
        exact accounts.accept (files.free_unlisted filed free) member _
  | tick =>
    obtain ⟨next, moved, bucket, member, ticked, files_next, tokens, same⟩ := files.ticked log.wheel lists filed
    refine ⟨_, [], Option.bind_eq_some_iff.mpr ⟨_, ticked, rfl⟩, moved, files_next, ?_⟩
    change Accounts layout moved (token next) _ _
    rw [tokens]
    exact (accounts.report member).move same

/-- What holds of every run of a wheel that files its entries. -/
theorem files_run (files : Files operations layout links token represents) {wheel : Wheel}
    {lists : Option Bucket → List Nat} (filed : represents wheel lists) (unused : layout.pending lists = [])
    (events : List Event) :
    ∃ last outputs, run operations.step ⟨wheel, [], []⟩ events = some (last, outputs) ∧
      Conserved operations layout links token last := by
  have start : Kept layout token represents ⟨wheel, [], []⟩ :=
    ⟨lists, filed, by rw [Accounts, unused]; exact List.Perm.refl _⟩
  have always : Meets operations.step (fun _ _ => True) ⟨wheel, [], []⟩ events := meets_of_forall fun _ _ => trivial
  obtain ⟨last, outputs, ran, ends, filed, accounts⟩ :=
    defined_run (fun log event kept _ => files_step files log event kept) start always
  refine ⟨last, outputs, ran, ends, files.holds _ _ filed, accounts, fun slotIndex generation timeout => ?_⟩
  have length := (files.holds _ _ filed).length
  rw [List.length_nil, Nat.zero_add] at length
  cases free : ends none with
  | nil =>
    rw [files.full last.wheel ends filed free]
    rw [free, List.length_nil, Nat.zero_add] at length
    exact ⟨⟨fun _ => length, fun _ => rfl⟩, fun _ => rfl⟩
  | cons entry rest =>
    obtain ⟨next, target, -, scheduled, -⟩ :=
      files.scheduled last.wheel ends filed entry rest free slotIndex generation timeout
    rw [free, List.length_cons] at length
    rw [scheduled]
    refine ⟨⟨nofun, fun all => ?_⟩, nofun⟩
    omega

end Filing

/-! ### Both wheels -/

theorem single_files : Files single layout TimingWheel.links TimingWheel.token TimingWheels.Represents where
  holds _ _ filed := filed.filed.holds
  full _ _ filed full := schedule_full filed full
  scheduled wheel lists filed entry rest free slotIndex generation timeout := by
    obtain ⟨next, scheduled, kept, tokens, -⟩ := schedule_spec filed free slotIndex generation timeout
    exact ⟨next, _, mem_buckets.mpr (target_lt wheel timeout), scheduled, kept, tokens⟩
  ticked wheel lists filed := by
    obtain ⟨next, freed, ticked, kept, tokens, -⟩ := tick_spec filed
    refine ⟨next, _, _, mem_buckets.mpr filed.current, ticked, kept, tokens, ?_⟩
    rw [pending_free]

theorem hierarchical_files :
    Files hierarchical levels HierarchicalTimingWheel.links HierarchicalTimingWheel.token
      fun wheel lists => HierarchicalWheels.Represents wheel lists [] where
  holds _ _ filed := filed.filed.holds
  full _ _ filed full := HierarchicalWheels.schedule_full filed full
  scheduled wheel lists filed entry rest free slotIndex generation timeout := by
    obtain ⟨next, scheduled, kept, tokens, -⟩ :=
      HierarchicalWheels.schedule_spec filed free slotIndex generation timeout
    exact ⟨next, _, target_mem wheel timeout, scheduled, kept, tokens⟩
  ticked wheel lists filed := by
    obtain ⟨next, moved, ticked, kept, tokens, same⟩ := HierarchicalWheels.tick_spec filed
    exact ⟨next, moved, _, mem_allBuckets.mpr filed.level1Current, ticked, kept, tokens, same.symm⟩

/-- Every run of either wheel is defined and conserves its entries and its timeouts. -/
theorem wheels_conserve (events : List Event) :
    (∃ last outputs, run single.step ⟨.create, [], []⟩ events = some (last, outputs) ∧
      Conserved single layout TimingWheel.links TimingWheel.token last) ∧
    ∀ poolAddress, ∃ last outputs,
      run hierarchical.step ⟨.create poolAddress, [], []⟩ events = some (last, outputs) ∧
      Conserved hierarchical levels HierarchicalTimingWheel.links HierarchicalTimingWheel.token last := by
  refine ⟨files_run single_files TimingWheels.create_represents ?_ events, fun poolAddress =>
    files_run hierarchical_files (HierarchicalWheels.create_represents poolAddress) ?_ events⟩
  · exact List.flatMap_eq_nil_iff.mpr fun _ _ => rfl
  · exact List.flatMap_eq_nil_iff.mpr fun _ _ => rfl

end Rdma.WheelRuns
