import Mathlib.Tactic.FieldSimp
import Mathlib.Tactic.Linarith
import Mathlib.Data.Rat.Floor
import Rdma.FlowControls

/-!
Lazy credit updates (`FlowControl::ShouldUpdateCredit`). The receiver gives
credits back once they reach a threshold, which an adaptive ratio of the receive
depth sets. The ratio is a weighted mean of ratios (`newRatio_exact`), so it
stays between 0 and 1, the threshold never exceeds the depth (`Tuned`), and a
sender that has run out is owed the whole depth, which reaches the threshold.
-/
namespace Rdma.LazyCredits
open Rdma.Runs Rdma.CreditLoops Rdma.FlowControls

def IsRatio (ratio : ℚ) : Prop := 0 ≤ ratio ∧ ratio ≤ 1

/-- The thresholds of the configuration are ratios, and the least is not above the greatest. -/
structure Sane (config : FlowControlConfig) : Prop where
  lazyUpdateThreshold : IsRatio config.lazyUpdateThreshold
  minThreshold : IsRatio config.minThreshold
  maxThreshold : IsRatio config.maxThreshold
  ordered : config.minThreshold ≤ config.maxThreshold

/-- Where the adjustment interpolates, no difference goes below 0 and the divisor is not 0. -/
def NoUnderflow (control : FlowControl) : Prop :=
  ¬ control.config.highRateThreshold ≤ control.estimatedRate →
    ¬ control.estimatedRate ≤ control.config.lowRateThreshold →
      control.config.lowRateThreshold ≤ control.estimatedRate ∧
        control.config.lowRateThreshold ≤ control.config.highRateThreshold ∧
        control.config.highRateThreshold - control.config.lowRateThreshold ≠ 0

/-- The threshold fits the depth, and the next adjustment is defined, whatever rate has been estimated. -/
structure Safe (control : FlowControl) : Prop where
  threshold : control.lazyThreshold ≤ control.config.recvDepth
  adjusts : ∀ rate, ({ control with estimatedRate := rate } : FlowControl).adjustThreshold.isSome = true
  noUnderflow : ∀ rate, NoUnderflow { control with estimatedRate := rate }

/-! ### The ratio -/

/-- The first ratio counts for `weight`. -/
theorem IsRatio.mean {first second weight : ℚ} (left : IsRatio first) (right : IsRatio second)
    (between : IsRatio weight) : IsRatio ((1 - weight) * first + weight * second) := by
  obtain ⟨positive, below⟩ := between
  constructor
  · have kept : 0 ≤ (1 - weight) * first := mul_nonneg (sub_nonneg.mpr below) left.1
    have added : 0 ≤ weight * second := mul_nonneg positive right.1
    exact add_nonneg kept added
  · have kept : (1 - weight) * first ≤ 1 - weight := mul_le_of_le_one_right (sub_nonneg.mpr below) left.2
    have added : weight * second ≤ weight := mul_le_of_le_one_right positive right.2
    linarith

theorem noUnderflow (control : FlowControl) : NoUnderflow control := by
  intro low high
  have above : control.config.lowRateThreshold < control.estimatedRate := UInt32.not_le.mp high
  have below : control.estimatedRate < control.config.highRateThreshold := UInt32.not_le.mp low
  have ordered : control.config.lowRateThreshold < control.config.highRateThreshold := UInt32.lt_trans above below
  refine ⟨UInt32.le_of_lt above, UInt32.le_of_lt ordered, ?_⟩
  intro zero
  have difference := UInt32.toNat_sub_of_le _ _ (UInt32.le_of_lt ordered)
  rw [zero] at difference
  have apart := UInt32.lt_iff_toNat_lt.mp ordered
  exact absurd difference (Nat.sub_pos_of_lt apart).ne

/-- The share of the way from the low to the high rate. -/
theorem rateRatio_isRatio {low rate high : UInt32} (above : low ≤ rate) (below : rate ≤ high) :
    IsRatio ((rate - low).toNat / (high - low).toNat) := by
  have ordered : (rate - low).toNat ≤ (high - low).toNat := by
    rw [UInt32.toNat_sub_of_le _ _ above, UInt32.toNat_sub_of_le _ _ (UInt32.le_trans above below)]
    have bound := UInt32.le_iff_toNat_le.mp below
    omega
  constructor
  · positivity
  · exact div_le_one_of_le₀ (Nat.cast_le.mpr ordered) (Nat.cast_nonneg _)

theorem newRatio_isRatio {control : FlowControl} (sane : Sane control.config) :
    ∃ ratio, control.newRatio = some ratio ∧ IsRatio ratio := by
  unfold FlowControl.newRatio
  by_cases fast : control.config.highRateThreshold ≤ control.estimatedRate
  · exact ⟨_, if_pos fast, sane.maxThreshold⟩
  by_cases slow : control.estimatedRate ≤ control.config.lowRateThreshold
  · exact ⟨_, (if_neg fast).trans (if_pos slow), sane.minThreshold⟩
  obtain ⟨above, -, span⟩ := noUnderflow control fast slow
  refine ⟨_, (if_neg fast).trans ((if_neg slow).trans (if_neg span)), ?_⟩
  have share := rateRatio_isRatio above (UInt32.le_of_lt (UInt32.not_le.mp fast))
  have mean := sane.minThreshold.mean sane.maxThreshold share
  convert mean using 1
  ring

/-! ### The threshold -/

theorem toUInt32_of_nonneg {value : ℚ} (positive : 0 ≤ value) (small : value < 2 ^ 32) :
    toUInt32 value = some (UInt32.ofNat ⌊value⌋.toNat) := by
  have whole : value.num.tdiv value.den = ⌊value⌋ := by
    rw [Rat.floor_def', Int.tdiv_eq_ediv_of_nonneg (Rat.num_nonneg.mpr positive)]
  have fits : ⌊value⌋ < 2 ^ 32 := by
    rw [Int.floor_lt]
    exact_mod_cast small
  rw [toUInt32, whole]
  exact if_pos ⟨Int.floor_nonneg.mpr positive, fits⟩

/-- A share of the depth converts to no more than the depth. -/
theorem toUInt32_isRatio {ratio : ℚ} (share : IsRatio ratio) (depth : UInt32) :
    ∃ threshold, toUInt32 (depth.toNat * ratio) = some threshold ∧ threshold ≤ depth := by
  have positive : 0 ≤ depth.toNat * ratio := mul_nonneg (Nat.cast_nonneg _) share.1
  have bounded : depth.toNat * ratio ≤ depth.toNat := mul_le_of_le_one_right (Nat.cast_nonneg _) share.2
  have small : (depth.toNat : ℚ) < 2 ^ 32 := by exact_mod_cast depth.toNat_lt
  refine ⟨_, toUInt32_of_nonneg positive (lt_of_le_of_lt bounded small), ?_⟩
  have floor : ⌊depth.toNat * ratio⌋ ≤ depth.toNat := by
    have below := (Int.floor_le (depth.toNat * ratio)).trans bounded
    exact_mod_cast below
  have whole : ⌊depth.toNat * ratio⌋.toNat ≤ depth.toNat := Int.toNat_le.mpr floor
  rw [UInt32.le_iff_toNat_le, UInt32.toNat_ofNat', Nat.mod_eq_of_lt (Nat.lt_of_le_of_lt whole depth.toNat_lt)]
  exact whole

/-- The configuration is sane, and the ratio and the threshold are what the adjustments leave. -/
structure Tuned (control : FlowControl) : Prop where
  sane : Sane control.config
  ratio : IsRatio control.currentThresholdRatio
  threshold : control.lazyThreshold ≤ control.config.recvDepth

theorem create_tuned {config : FlowControlConfig} (sane : Sane config) (now : Int) :
    ∃ control, FlowControl.create config now = some control ∧ Tuned control ∧ control.config = config := by
  obtain ⟨threshold, converts, below⟩ := toUInt32_isRatio sane.lazyUpdateThreshold config.recvDepth
  exact ⟨_, Option.map_eq_some_iff.mpr ⟨_, converts, rfl⟩, ⟨sane, sane.lazyUpdateThreshold, below⟩, rfl⟩

theorem reset_eq (control : FlowControl) (config : FlowControlConfig) (now : Int) :
    control.reset config now = FlowControl.create config now := rfl

variable {control : FlowControl}

theorem adjustThreshold_tuned (tuned : Tuned control) :
    ∃ adjusted, control.adjustThreshold = some adjusted ∧ Tuned adjusted ∧ adjusted.config = control.config := by
  obtain ⟨newRatio, found, share⟩ := newRatio_isRatio tuned.sane
  have smoothed : IsRatio (4 / 5 * control.currentThresholdRatio + 1 / 5 * newRatio) := by
    have fifth : IsRatio (1 / 5) := by
      constructor
      · norm_num
      · norm_num
    have mean := tuned.ratio.mean share fifth
    convert mean using 2
    norm_num
  obtain ⟨threshold, converts, below⟩ := toUInt32_isRatio smoothed control.config.recvDepth
  refine ⟨_, Option.bind_eq_some_iff.mpr ⟨newRatio, found, Option.map_eq_some_iff.mpr ⟨_, converts, rfl⟩⟩, ?_, rfl⟩
  exact ⟨tuned.sane, smoothed, below⟩

theorem Tuned.safe (tuned : Tuned control) : Safe control where
  threshold := tuned.threshold
  adjusts rate := by
    have estimated : Tuned { control with estimatedRate := rate } := ⟨tuned.sane, tuned.ratio, tuned.threshold⟩
    obtain ⟨adjusted, defined, -⟩ := adjustThreshold_tuned estimated
    exact Option.isSome_iff_exists.mpr ⟨adjusted, defined⟩
  noUnderflow rate := noUnderflow _

theorem updateRateStatistics_tuned (tuned : Tuned control) (count : UInt32) (now : Int) :
    ∃ next, control.updateRateStatistics count now = some next ∧ Tuned next := by
  unfold FlowControl.updateRateStatistics
  dsimp only
  split
  · split
    · have counted : Tuned { control with
          windowRecvCount := control.windowRecvCount + count
          windowSampleCount := control.windowSampleCount + 1
          estimatedRate := UInt32.ofNat (((control.windowRecvCount + count) * 1000).toNat /
            ((now - control.lastSampleTime).tdiv 1000000).toNat) } := ⟨tuned.sane, tuned.ratio, tuned.threshold⟩
      obtain ⟨adjusted, adjusts, kept, -⟩ := adjustThreshold_tuned counted
      exact ⟨_, Option.map_eq_some_iff.mpr ⟨_, adjusts, rfl⟩, kept.sane, kept.ratio, kept.threshold⟩
    · exact ⟨_, rfl, tuned.sane, tuned.ratio, tuned.threshold⟩
  · exact ⟨_, rfl, tuned.sane, tuned.ratio, tuned.threshold⟩

/-- Whatever rate is sampled, the receiver's statistics are defined. -/
theorem onRecvCompleted_tuned (tuned : Tuned control) (count : UInt32) (now : Int) :
    ∃ next, control.onRecvCompleted count now = some next ∧ Tuned next := by
  have owed : Tuned { control with pendingCredits := control.pendingCredits + count } :=
    ⟨tuned.sane, tuned.ratio, tuned.threshold⟩
  unfold FlowControl.onRecvCompleted
  dsimp only
  split
  · exact updateRateStatistics_tuned owed count now
  · exact ⟨_, rfl, owed⟩

theorem tryConsume_tuned (tuned : Tuned control) (count : UInt32) : Tuned (control.tryConsume count).2 := by
  rcases tryConsume_inv control count with ⟨-, refused⟩ | ⟨-, granted⟩
  · rwa [refused]
  · rw [granted]
    exact ⟨tuned.sane, tuned.ratio, tuned.threshold⟩

/-! ### The calls of one endpoint -/

inductive Call
  | reset (config : FlowControlConfig) (now : Int)
  | tryConsume (count : UInt32)
  | onRecvCompleted (count : UInt32) (now : Int)
  | getPiggybackCredits
  | addCredits (count : UInt32)
  deriving DecidableEq

def step (control : FlowControl) : Call → Option (FlowControl × List Unit)
  | .reset config now => (control.reset config now).map (·, [])
  | .tryConsume count => some ((control.tryConsume count).2, [])
  | .onRecvCompleted count now => (control.onRecvCompleted count now).map (·, [])
  | .getPiggybackCredits => some (control.getPiggybackCredits.2, [])
  | .addCredits count => some (control.addCredits count, [])

/-- A reset gives a sane configuration. -/
def SaneCall : Call → Prop
  | .reset config _ => Sane config
  | _ => True

theorem step_tuned (control : FlowControl) (call : Call) (tuned : Tuned control) (sane : SaneCall call) :
    ∃ next outputs, step control call = some (next, outputs) ∧ Tuned next := by
  cases call with
  | reset config now =>
    obtain ⟨next, created, kept, -⟩ := create_tuned sane now
    exact ⟨next, [], Option.map_eq_some_iff.mpr ⟨next, (reset_eq control config now).trans created, rfl⟩, kept⟩
  | tryConsume count => exact ⟨_, _, rfl, tryConsume_tuned tuned count⟩
  | onRecvCompleted count now =>
    obtain ⟨next, completes, kept⟩ := onRecvCompleted_tuned tuned count now
    exact ⟨next, [], Option.map_eq_some_iff.mpr ⟨next, completes, rfl⟩, kept⟩
  | getPiggybackCredits => exact ⟨_, _, rfl, tuned.sane, tuned.ratio, tuned.threshold⟩
  | addCredits count => exact ⟨_, _, rfl, tuned.sane, tuned.ratio, tuned.threshold⟩

/-! ### Two endpoints -/

/-- Both endpoints are tuned, for the same depth. -/
def Matched (depth : UInt32) (control : Side → FlowControl) : Prop :=
  ∀ side, Tuned (control side) ∧ (control side).config.recvDepth = depth

theorem Matched.update {depth : UInt32} {control : Side → FlowControl} (matched : Matched depth control) {side : Side}
    {after : FlowControl} (tuned : Tuned after) (same : after.config = (control side).config) :
    Matched depth (Function.update control side after) := by
  intro place
  by_cases here : place = side
  · rw [here, Function.update_self, same]
    exact ⟨tuned, (matched side).2⟩
  · rw [Function.update_of_ne here]
    exact matched place

variable {world next : World} {event : Event} {outputs : List Bool} {depth : UInt32}

theorem tryConsume_config (control : FlowControl) (count : UInt32) :
    (control.tryConsume count).2.config = control.config := by
  rcases tryConsume_inv control count with ⟨-, refused⟩ | ⟨-, granted⟩
  · rw [refused]
  · rw [granted]

theorem worldStep_matched (matched : Matched depth world.control)
    (stepped : world.step event = some (next, outputs)) : Matched depth next.control := by
  cases event with
  | tryConsume sender count =>
    obtain ⟨rfl, -⟩ := Prod.mk.inj (Option.some.inj stepped)
    exact matched.update (tryConsume_tuned (matched sender).1 count) (tryConsume_config ..)
  | onRecvCompleted receiver count now =>
    simp only [World.step] at stepped
    split at stepped
    · cases stepped
    · obtain ⟨after, completes, same⟩ := Option.map_eq_some_iff.mp stepped
      obtain ⟨rfl, -⟩ := Prod.mk.inj same
      obtain ⟨other, alike, tuned⟩ := onRecvCompleted_tuned (matched receiver).1 count now
      obtain rfl := Option.some.inj (completes.symm.trans alike)
      exact matched.update tuned (onRecvCompleted_same completes).config
  | getPiggybackCredits receiver =>
    obtain ⟨rfl, -⟩ := Prod.mk.inj (Option.some.inj stepped)
    have tuned := (matched receiver).1
    refine matched.update ⟨tuned.sane, tuned.ratio, tuned.threshold⟩ ?_
    rfl
  | addCredits sender index =>
    obtain ⟨count, -, same⟩ := Option.map_eq_some_iff.mp stepped
    obtain ⟨rfl, -⟩ := Prod.mk.inj same
    have tuned := (matched sender).1
    refine matched.update ⟨tuned.sane, tuned.ratio, tuned.threshold⟩ ?_
    rfl

theorem run_matched {events : List Event} (matched : Matched depth world.control)
    (ran : run World.step world events = some (next, outputs)) : Matched depth next.control := by
  have always : Meets World.step (fun _ _ => True) world events := meets_of_forall fun _ _ => trivial
  exact invariant_of_run (fun _ _ _ _ kept _ stepped => worldStep_matched kept stepped) matched always ran

/-- With all credits owed by the receiver, the threshold is reached. -/
theorem starved_updates (matched : Matched depth world.control) {side : Side}
    (total : (world.loop side).total = depth.toNat) (held : (world.control side).sendCredits = 0)
    (sent : world.messages side.other = 0) (returning : amount (world.credits side) = 0) :
    (world.control side.other).shouldUpdateCredit = true := by
  have owed : (world.control side.other).pendingCredits = depth := by
    apply UInt32.toNat_inj.mp
    simp only [World.loop, Loop.total, held, sent, returning] at total
    simpa using total
  obtain ⟨tuned, same⟩ := matched side.other
  apply decide_eq_true
  rw [owed, ← same]
  exact tuned.threshold

/-- With thresholds that are ratios, whatever is sampled and in every run, the threshold never exceeds the depth, every
    adjustment is defined, and an endpoint that has no credits left while neither messages nor credits are in flight
    is due a credit update. -/
theorem starved_sender_updated {configs : Side → FlowControlConfig} (sane : ∀ side, Sane (configs side))
    (now : Side → Int) :
    ∃ control, (∀ side, FlowControl.create (configs side) (now side) = some (control side)) ∧
      (∀ side calls, (∀ call ∈ calls, SaneCall call) → ∃ last outputs,
        run step (control side) calls = some (last, outputs) ∧ Safe last) ∧
      ∀ depth, (∀ side, (configs side).recvDepth = depth) → ∀ events last outputs,
        run World.step (.start control) events = some (last, outputs) →
          ∀ side, Safe (last.control side) ∧ (last.control side).lazyThreshold ≤ depth ∧
            ((last.control side).sendCredits = 0 → last.messages side.other = 0 → amount (last.credits side) = 0 →
              (last.control side.other).shouldUpdateCredit = true) := by
  choose control created tuned same using fun side => create_tuned (sane side) (now side)
  refine ⟨control, created, fun side calls calm => ?_, fun depth posted events last outputs ran side => ?_⟩
  · obtain ⟨last, outputs, ran, kept⟩ :=
      defined_run (fun state call kept good => step_tuned state call kept good) (tuned side)
        (meets_of_forall calm)
    exact ⟨last, outputs, ran, kept.safe⟩
  · have start : Matched depth (World.start control).control := fun side => ⟨tuned side, by
      change (control side).config.recvDepth = depth
      rw [same]
      exact posted side⟩
    have matched := run_matched start ran
    have full : ∀ side, ((World.start control).loop side).total = depth.toNat := by
      intro side
      have held : (control side).sendCredits = depth := (create_inv (created side)).1.trans (posted side)
      have owed : (control side.other).pendingCredits = 0 := (create_inv (created side.other)).2
      simp only [World.start, World.loop, Loop.total, held, owed]
      rfl
    have total := (run_conserves (fun side => (full side).trans_lt depth.toNat_lt) ran).2 side
    refine ⟨(matched side).1.safe, ?_, starved_updates matched (total.trans (full side))⟩
    rw [← (matched side).2]
    exact (matched side).1.threshold

theorem default_sane : Sane {} := by
  constructor
  · constructor
    · norm_num
    · norm_num
  · constructor
    · norm_num
    · norm_num
  · constructor
    · norm_num
    · norm_num
  · norm_num

/-- With the default settings, a sender that has sent all it may is due an update once its messages have arrived. -/
theorem all_credits_updated : ∃ last,
    run World.step (.start fun _ => byDefault) [.tryConsume .left 1024, .onRecvCompleted .right 1024 1000] =
      some (last, [true]) ∧ (last.control .right).shouldUpdateCredit = true := by
  obtain ⟨control, created, -, resumes⟩ := starved_sender_updated (fun _ => default_sane) (fun _ => 0)
  have first : FlowControl.create {} 0 = some byDefault := by decide +kernel
  have same : control = fun _ => byDefault := by
    funext side
    exact Option.some.inj ((created side).symm.trans first)
  subst same
  have ran : run World.step (.start fun _ => byDefault) [.tryConsume .left 1024, .onRecvCompleted .right 1024 1000] =
    some (_, [true]) := rfl
  exact ⟨_, ran, (resumes 1024 (fun _ => rfl) _ _ _ ran .left).2.2 rfl rfl rfl⟩

end Rdma.LazyCredits
