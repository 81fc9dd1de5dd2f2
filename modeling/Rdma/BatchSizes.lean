import Rdma.Runs
import Rdma.Types
import Mathlib.Tactic.Ring

/-!
How many completions a reactor asks a completion queue for (`reactor.cpp`).
`Create` sizes the buffer by `max_batch_size`, and takes the first batch size
from another setting or a literal; `AdaptBatchSize` doubles and halves it
between two bounds, after every 1000 calls of `Poll`. Every run keeps the batch
size within the buffer exactly if the first one fits and, where it adapts, it
can be doubled (`within_buffer_iff`). What `Poll` does beside polling the
completion queues is left out.
-/
namespace Rdma.BatchSizes
open Rdma.Types Rdma.Runs

/-! ### The batch size -/

inductive BatchMode
  | latency
  | throughput
  | adaptive
  deriving DecidableEq, Repr

structure ReactorConfig where
  batchMode : BatchMode := .throughput
  latencyBatchSize : Int := 16
  throughputBatchSize : Int := 64
  maxBatchSize : Int := 128
  deriving DecidableEq, Repr

/-- `cqEntries` is how many completion queues are registered. -/
structure Reactor where
  config : ReactorConfig
  cqEntries : Nat := 0
  wcBufferSize : Int := 0
  currentBatchSize : Int := 32
  pollCount : UInt64 := 0
  deriving DecidableEq, Repr

/-- The largest `int`. -/
def intMax : Int := 2147483647

/-- The batch size that `Create` picks by the mode. -/
def ReactorConfig.firstBatchSize (config : ReactorConfig) : Int :=
  match config.batchMode with
  | .latency => config.latencyBatchSize
  | .throughput => config.throughputBatchSize
  | .adaptive => 32

/-- `allocated` is whether `aligned_alloc` returns a buffer. -/
def Reactor.create (config : ReactorConfig) (allocated : Bool) : Except Status Reactor :=
  let wcBufferSize := config.maxBatchSize
  if allocated then .ok { config, wcBufferSize, currentBatchSize := config.firstBatchSize }
  else .error (Status.resourceExhausted "Failed to allocate WC buffer")

/-- How the completions per poll compare with the batch size: more than 0.8 of it, less than 0.2 of it. -/
structure Load where
  above : Bool
  below : Bool
  deriving DecidableEq, Repr

/-- A product that is no `int` is undefined. -/
def Reactor.adaptBatchSize (reactor : Reactor) (load : Load) : Option Reactor :=
  if reactor.config.batchMode ≠ .adaptive then some reactor
  else if load.above then
    if intMax < reactor.currentBatchSize * 2 then none
    else
      some { reactor with
        currentBatchSize := min (reactor.currentBatchSize * 2) reactor.config.maxBatchSize
        pollCount := 0 }
  else if load.below ∧ reactor.config.latencyBatchSize < reactor.currentBatchSize then
    some { reactor with
      currentBatchSize := max (reactor.currentBatchSize.tdiv 2) reactor.config.latencyBatchSize
      pollCount := 0 }
  else some { reactor with pollCount := 0 }

/-- The outputs are the batch sizes passed to `CompletionQueue::Poll`. -/
def Reactor.poll (reactor : Reactor) (load : Load) : Option (Reactor × List Int) :=
  let sizes := List.replicate reactor.cqEntries reactor.currentBatchSize
  let reactor := { reactor with pollCount := reactor.pollCount + 1 }
  if reactor.pollCount % 1000 = 0 then (reactor.adaptBatchSize load).map fun adapted => (adapted, sizes)
  else some (reactor, sizes)

inductive Event
  | registerCQ
  | poll (load : Load)
  deriving DecidableEq, Repr

def Reactor.step (reactor : Reactor) : Event → Option (Reactor × List Int)
  | .registerCQ => some ({ reactor with cqEntries := reactor.cqEntries + 1 }, [])
  | .poll load => reactor.poll load

/-- The settings that the batch sizes come from are positive. -/
structure Positive (config : ReactorConfig) : Prop where
  latency : 0 < config.latencyBatchSize
  throughput : 0 < config.throughputBatchSize
  most : 0 < config.maxBatchSize

/-- The first batch size fits the buffer, and twice the size of the buffer is an `int` if batches may get as large. -/
def Fits (config : ReactorConfig) : Prop :=
  match config.batchMode with
  | .latency => config.latencyBatchSize ≤ config.maxBatchSize
  | .throughput => config.throughputBatchSize ≤ config.maxBatchSize
  | .adaptive => 32 ≤ config.maxBatchSize ∧ config.maxBatchSize * 2 ≤ intMax

variable {config : ReactorConfig} {reactor next : Reactor} {allocated : Bool}

theorem create_inv (created : Reactor.create config allocated = .ok reactor) :
    reactor = { config, wcBufferSize := config.maxBatchSize, currentBatchSize := config.firstBatchSize } := by
  cases allocated with
  | true => exact (Except.ok.inj created).symm
  | false => cases created

theorem fits_iff : Fits config ↔ config.firstBatchSize ≤ config.maxBatchSize ∧
    (config.batchMode = .adaptive → config.maxBatchSize * 2 ≤ intMax) := by
  unfold Fits ReactorConfig.firstBatchSize
  cases mode : config.batchMode with
  | latency => simp
  | throughput => simp
  | adaptive => simp

theorem Positive.first (positive : Positive config) : 1 ≤ config.firstBatchSize := by
  unfold ReactorConfig.firstBatchSize
  cases config.batchMode with
  | latency => exact positive.latency
  | throughput => exact positive.throughput
  | adaptive => exact (by decide : (1 : Int) ≤ 32)

/-! ### Settings that fit -/

/-- A batch size that fits a buffer of the configured size. -/
structure Within (config : ReactorConfig) (reactor : Reactor) : Prop where
  same : reactor.config = config
  positive : 1 ≤ reactor.currentBatchSize
  within : reactor.currentBatchSize ≤ config.maxBatchSize

/-- Doubling and halving stay between the bounds. -/
theorem adaptBatchSize_within (positive : Positive config) (fits : Fits config) (within : Within config reactor)
    (load : Load) : ∃ next, reactor.adaptBatchSize load = some next ∧ Within config next := by
  obtain ⟨rfl, one, most⟩ := within
  have least := positive.latency
  unfold Reactor.adaptBatchSize
  by_cases mode : reactor.config.batchMode = .adaptive
  · have doubles := (fits_iff.mp fits).2 mode
    rw [if_neg (not_not.mpr mode)]
    by_cases above : load.above = true
    · rw [if_pos above, if_neg (by omega)]
      refine ⟨_, rfl, rfl, ?_, ?_⟩
      · dsimp only
        omega
      · exact Int.min_le_right _ _
    · rw [if_neg above]
      by_cases below : load.below = true ∧ reactor.config.latencyBatchSize < reactor.currentBatchSize
      · rw [if_pos below]
        have halved : reactor.currentBatchSize.tdiv 2 ≤ reactor.currentBatchSize := Int.tdiv_le_self 2 (by omega)
        refine ⟨_, rfl, rfl, ?_, ?_⟩
        · dsimp only
          omega
        · dsimp only
          omega
      · rw [if_neg below]
        exact ⟨_, rfl, rfl, one, most⟩
  · rw [if_pos mode]
    exact ⟨_, rfl, rfl, one, most⟩

theorem step_within (positive : Positive config) (fits : Fits config) (within : Within config reactor)
    (event : Event) :
    ∃ next sizes, reactor.step event = some (next, sizes) ∧ Within config next ∧
      ∀ size ∈ sizes, size = reactor.currentBatchSize := by
  cases event with
  | registerCQ => exact ⟨_, _, rfl, ⟨within.same, within.positive, within.within⟩, List.forall_mem_nil _⟩
  | poll load =>
    have counted : Within config { reactor with pollCount := reactor.pollCount + 1 } :=
      ⟨within.same, within.positive, within.within⟩
    change ∃ next sizes, reactor.poll load = some (next, sizes) ∧ _
    unfold Reactor.poll
    dsimp only
    split
    · obtain ⟨adapted, adapts, kept⟩ := adaptBatchSize_within positive fits counted load
      rw [adapts]
      exact ⟨adapted, _, rfl, kept, fun size member => List.eq_of_mem_replicate member⟩
    · exact ⟨_, _, rfl, counted, fun size member => List.eq_of_mem_replicate member⟩

/-- A run from a batch size that fits. -/
theorem run_within (positive : Positive config) (fits : Fits config) (within : Within config reactor)
    (events : List Event) :
    ∃ last sizes, run Reactor.step reactor events = some (last, sizes) ∧ Within config last ∧
      ∀ size ∈ sizes, 1 ≤ size ∧ size ≤ config.maxBatchSize := by
  induction events generalizing reactor with
  | nil => exact ⟨reactor, [], rfl, within, List.forall_mem_nil _⟩
  | cons event rest ih =>
    obtain ⟨next, now, taken, kept, passed⟩ := step_within positive fits within event
    obtain ⟨last, later, ran, final, bounded⟩ := ih kept
    refine ⟨last, _, run_cons_some.mpr ⟨next, now, later, taken, ran, rfl⟩, final, ?_⟩
    intro size member
    rcases List.mem_append.mp member with first | rest
    · rw [passed size first]
      exact ⟨within.positive, within.within⟩
    · exact bounded size rest

/-! ### Settings that do not fit -/

/-- The next call of `Poll` is the first of 1000, on no completion queue. -/
structure Idle (reactor : Reactor) : Prop where
  unregistered : reactor.cqEntries = 0
  unpolled : reactor.pollCount = 0

/-- The first completion queue is asked for as many completions as the batch size says. -/
theorem first_poll (idle : Idle reactor) (load : Load) :
    ∃ last, run Reactor.step reactor [.registerCQ, .poll load] = some (last, [reactor.currentBatchSize]) := by
  obtain ⟨config, cqEntries, wcBufferSize, currentBatchSize, pollCount⟩ := reactor
  obtain ⟨rfl, rfl⟩ := idle
  exact ⟨_, rfl⟩

theorem count_next (count : Nat) : UInt64.ofNat count + 1 = UInt64.ofNat (count + 1) :=
  (UInt64.ofNat_add count 1).symm

/-- The count of calls is a multiple of 1000 after 1000 of them. -/
theorem count_due (count : Nat) (few : count ≤ 1000) :
    UInt64.ofNat (count + 1) % 1000 = 0 ↔ (count + 1) % 1000 = 0 := by
  rw [← UInt64.toNat_inj, UInt64.toNat_mod, UInt64.toNat_ofNat_of_lt' (by omega : count + 1 < 2 ^ 64)]
  rfl

/-- Fewer than 1000 calls of `Poll` adapt nothing. -/
theorem polls_counted (idle : Idle reactor) (load : Load) (count : Nat) (few : count < 1000) :
    run Reactor.step reactor (List.replicate count (.poll load)) =
      some ({ reactor with pollCount := UInt64.ofNat count }, []) := by
  induction count with
  | zero =>
    obtain ⟨config, cqEntries, wcBufferSize, currentBatchSize, pollCount⟩ := reactor
    obtain ⟨rfl, rfl⟩ := idle
    rfl
  | succ count ih =>
    rw [List.replicate_succ', run_append_some]
    refine ⟨_, [], [], ih (by omega), run_cons_some.mpr ⟨_, [], [], ?_, rfl, rfl⟩, rfl⟩
    change Reactor.poll _ load = _
    unfold Reactor.poll
    dsimp only
    rw [count_next, if_neg ?_, idle.unregistered]
    · rfl
    · rw [count_due count (by omega)]
      omega

/-- The 1000th call of `Poll` adapts the batch size. -/
theorem due_poll (idle : Idle reactor) (load : Load) :
    Reactor.step { reactor with pollCount := 999 } (.poll load) =
      (Reactor.adaptBatchSize { reactor with pollCount := 1000 } load).map fun adapted => (adapted, []) := by
  change Reactor.poll _ load = _
  unfold Reactor.poll
  dsimp only
  rw [if_pos (by decide), idle.unregistered]
  rfl

theorem reaches_due (idle : Idle reactor) : Reaches Reactor.step reactor { reactor with pollCount := 999 } :=
  ⟨_, _, polls_counted idle ⟨true, false⟩ 999 (by omega)⟩

/-- Under a high load an adaptive reactor doubles its batch size, if it can, up to the size of its buffer. -/
theorem reaches_double (idle : Idle reactor) (adaptive : reactor.config.batchMode = .adaptive)
    (doubles : reactor.currentBatchSize * 2 ≤ intMax) (most : reactor.currentBatchSize * 2 ≤ reactor.config.maxBatchSize) :
    Reaches Reactor.step reactor { reactor with currentBatchSize := reactor.currentBatchSize * 2 } := by
  have adapts : Reactor.step { reactor with pollCount := 999 } (.poll ⟨true, false⟩) =
      some ({ reactor with currentBatchSize := reactor.currentBatchSize * 2 }, []) := by
    rw [due_poll idle]
    unfold Reactor.adaptBatchSize
    dsimp only
    rw [if_neg (not_not.mpr adaptive), if_pos rfl, if_neg (by omega), Int.min_eq_left most, ← idle.unpolled]
    rfl
  exact (reaches_due idle).trans (.single adapts)

/-- Under a high load the batch size gets from 32 to any power of 2 that is an `int` and fits the buffer. -/
theorem reaches_power (idle : Idle reactor) (adaptive : reactor.config.batchMode = .adaptive)
    (first : reactor.currentBatchSize = 32) (exponent : Nat) (fits : 32 * 2 ^ exponent ≤ intMax)
    (most : 32 * 2 ^ exponent ≤ reactor.config.maxBatchSize) :
    Reaches Reactor.step reactor { reactor with currentBatchSize := 32 * 2 ^ exponent } := by
  induction exponent with
  | zero =>
    have same : { reactor with currentBatchSize := 32 * 2 ^ 0 } = reactor := by
      rw [show (32 * 2 ^ 0 : Int) = 32 from rfl, ← first]
    rw [same]
    exact Reaches.refl reactor
  | succ exponent ih =>
    have doubled : (32 * 2 ^ (exponent + 1) : Int) = 32 * 2 ^ exponent * 2 := by rw [Int.pow_succ, Int.mul_assoc]
    have positive : (0 : Int) < 32 * 2 ^ exponent := Int.mul_pos (by decide) (Int.pow_pos (by decide))
    rw [doubled] at fits most ⊢
    refine (ih (by omega) (by omega)).trans ?_
    exact reaches_double ⟨idle.unregistered, idle.unpolled⟩ adaptive fits most

/-- Every run keeps the batch size within the buffer, and defined, exactly if the settings fit. -/
theorem within_buffer_iff (positive : Positive config) (created : Reactor.create config allocated = .ok reactor) :
    (∀ events, ∃ last sizes, run Reactor.step reactor events = some (last, sizes) ∧
      ∀ size ∈ sizes, 1 ≤ size ∧ size ≤ reactor.wcBufferSize) ↔ Fits config := by
  obtain rfl := create_inv created
  have idle : Idle { config, wcBufferSize := config.maxBatchSize, currentBatchSize := config.firstBatchSize } :=
    ⟨rfl, rfl⟩
  constructor
  · intro safe
    rw [fits_iff]
    constructor
    · obtain ⟨last, sizes, ran, bounded⟩ := safe [.registerCQ, .poll ⟨false, false⟩]
      obtain ⟨final, passed⟩ := first_poll idle ⟨false, false⟩
      obtain ⟨-, rfl⟩ := Prod.mk.inj (Option.some.inj (ran.symm.trans passed))
      exact (bounded _ (List.mem_singleton_self _)).2
    · intro adaptive
      by_contra large
      have first : config.firstBatchSize = 32 := by
        unfold ReactorConfig.firstBatchSize
        rw [adaptive]
      have reached := reaches_power idle adaptive first 25 (by decide) (by unfold intMax at large; dsimp only; omega)
      obtain ⟨next, now, taken⟩ := (reached.trans (reaches_due ⟨rfl, rfl⟩)).step_defined
        (fun events => (safe events).imp fun _ rest => rest.imp fun _ ran => ran.1) (.poll ⟨true, false⟩)
      rw [due_poll ⟨rfl, rfl⟩] at taken
      unfold Reactor.adaptBatchSize at taken
      dsimp only at taken
      rw [if_neg (not_not.mpr adaptive), if_pos rfl, if_pos (by decide)] at taken
      cases taken
  · intro fits events
    have within : Within config
        { config, wcBufferSize := config.maxBatchSize, currentBatchSize := config.firstBatchSize } :=
      ⟨rfl, positive.first, (fits_iff.mp fits).1⟩
    obtain ⟨last, sizes, ran, -, bounded⟩ := run_within positive fits within events
    exact ⟨last, sizes, ran, bounded⟩

/-- The settings that a reactor has by default fit. -/
theorem default_within : Fits {} ∧ ∀ events, ∃ last sizes,
    run Reactor.step { config := {}, wcBufferSize := 128, currentBatchSize := 64 } events = some (last, sizes) ∧
      ∀ size ∈ sizes, 1 ≤ size ∧ size ≤ 128 := by
  have fits : Fits {} := (by decide : (64 : Int) ≤ 128)
  have positive : Positive {} := ⟨by decide, by decide, by decide⟩
  exact ⟨fits, (within_buffer_iff positive (rfl : Reactor.create {} true = .ok _)).mpr fits⟩

/-- A buffer of 12 completions, for polls of 64 by default, of 16 in the latency mode and of 32 in the adaptive mode. -/
theorem buffer_too_small :
    (∃ reactor last, Positive { maxBatchSize := 12 } ∧
      Reactor.create { maxBatchSize := 12 } true = .ok reactor ∧ reactor.wcBufferSize = 12 ∧
      run Reactor.step reactor [.registerCQ, .poll ⟨false, false⟩] = some (last, [64])) ∧
    (∃ reactor last, Positive { batchMode := .latency, maxBatchSize := 12 } ∧
      Reactor.create { batchMode := .latency, maxBatchSize := 12 } true = .ok reactor ∧ reactor.wcBufferSize = 12 ∧
      run Reactor.step reactor [.registerCQ, .poll ⟨false, false⟩] = some (last, [16])) ∧
    ∃ reactor last, Positive { batchMode := .adaptive, maxBatchSize := 12 } ∧
      Reactor.create { batchMode := .adaptive, maxBatchSize := 12 } true = .ok reactor ∧ reactor.wcBufferSize = 12 ∧
      run Reactor.step reactor [.registerCQ, .poll ⟨false, false⟩] = some (last, [32]) :=
  ⟨⟨_, _, ⟨by decide, by decide, by decide⟩, rfl, rfl, rfl⟩, ⟨_, _, ⟨by decide, by decide, by decide⟩, rfl, rfl, rfl⟩,
    ⟨_, _, ⟨by decide, by decide, by decide⟩, rfl, rfl, rfl⟩⟩

end Rdma.BatchSizes
