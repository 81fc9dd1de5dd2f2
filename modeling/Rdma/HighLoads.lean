import Mathlib.Tactic.FieldSimp
import Mathlib.Tactic.Linarith
import Rdma.FlowControls

/-!
The adaptive threshold under a high load (`flow_control.cpp`). A window starts
with no receives counted and ends with the call of `OnRecvCompleted` that makes
`windowSize` of them. The code measures its length in whole milliseconds and
multiplies the sum of the counts by 1000 in 32 bits. So a window shorter than a
millisecond is skipped, and one whose product wraps can look like a low load
(`high_load_iff`).
-/
namespace Rdma.HighLoads
open Rdma.Runs Rdma.FlowControls

/-! ### Windows -/

/-- The calls on an endpoint's flow control. -/
inductive Call
  | tryConsume (count : UInt32)
  | onRecvCompleted (count : UInt32) (now : Int)
  | getPiggybackCredits
  | addCredits (count : UInt32)
  deriving DecidableEq, Repr

/-- A step has no outputs; what the calls return does not matter here. -/
def call (control : FlowControl) : Call → Option (FlowControl × List Unit)
  | .tryConsume count => some ((control.tryConsume count).2, [])
  | .onRecvCompleted count now => (control.onRecvCompleted count now).map (·, [])
  | .getPiggybackCredits => some (control.getPiggybackCredits.2, [])
  | .addCredits count => some (control.addCredits count, [])

/-- The counts of the receives. -/
def received (calls : List Call) : List UInt32 :=
  calls.filterMap fun
    | .onRecvCompleted count _ => some count
    | _ => none

/-- The sum of the counts, which does not wrap. -/
def total (counts : List UInt32) : Nat := (counts.map UInt32.toNat).sum

/-- No receive is counted yet, as after the constructor, a reset or the end of a window. -/
def Fresh (control : FlowControl) : Prop := control.windowRecvCount = 0 ∧ control.windowSampleCount = 0

/-- How far the window that began in `control` has come in `state` with these receives. -/
structure Within (control state : FlowControl) (counts : List UInt32) : Prop where
  config : state.config = control.config
  ratio : state.currentThresholdRatio = control.currentThresholdRatio
  lastSampleTime : state.lastSampleTime = control.lastSampleTime
  windowRecvCount : state.windowRecvCount.toNat = total counts % 2 ^ 32
  windowSampleCount : state.windowSampleCount.toNat = counts.length

variable {control state : FlowControl} {counts : List UInt32}

theorem total_snoc (counts : List UInt32) (count : UInt32) : total (counts ++ [count]) = total counts + count.toNat := by
  simp [total]

theorem fresh_within (fresh : Fresh control) : Within control control [] := by
  refine ⟨rfl, rfl, rfl, ?_, ?_⟩
  · rw [fresh.1]
    rfl
  · rw [fresh.2]
    rfl

/-- The state in which `UpdateRateStatistics` compares the number of receives with the size of the window. -/
def counted (state : FlowControl) (count : UInt32) : FlowControl :=
  { state with
    pendingCredits := state.pendingCredits + count
    windowRecvCount := state.windowRecvCount + count
    windowSampleCount := state.windowSampleCount + 1 }

theorem counted_within (within : Within control state counts) (room : counts.length + 1 < 2 ^ 32) (count : UInt32) :
    Within control (counted state count) (counts ++ [count]) := by
  refine ⟨within.config, within.ratio, within.lastSampleTime, ?_, ?_⟩
  · rw [counted, total_snoc, UInt32.toNat_add, within.windowRecvCount, Nat.mod_add_mod]
  · rw [counted, UInt32.toNat_add, within.windowSampleCount, UInt32.toNat_one, Nat.mod_eq_of_lt room,
      List.length_append, List.length_singleton]

/-- A receive before the last of the window is counted. -/
theorem receive_within (adaptive : control.config.enableAdaptiveThreshold = true)
    (within : Within control state counts) (more : counts.length + 1 < control.config.windowSize.toNat)
    (count : UInt32) (now : Int) : state.onRecvCompleted count now = some (counted state count) := by
  have after := counted_within within (Nat.lt_trans more (UInt32.toNat_lt _)) count
  have unfinished : ¬(counted state count).config.windowSize ≤ (counted state count).windowSampleCount := by
    rw [UInt32.le_iff_toNat_le, after.windowSampleCount, after.config, List.length_append, List.length_singleton]
    omega
  rw [← within.config] at adaptive
  unfold FlowControl.onRecvCompleted FlowControl.updateRateStatistics
  exact (if_pos adaptive).trans (if_neg unfinished)

/-- Every run of calls that does not complete the window is defined and counts its receives. -/
theorem window_run (adaptive : control.config.enableAdaptiveThreshold = true) (within : Within control state counts)
    {calls : List Call} (more : counts.length + (received calls).length < max 1 control.config.windowSize.toNat) :
    ∃ before, run call state calls = some (before, []) ∧ Within control before (counts ++ received calls) := by
  induction calls generalizing state counts with
  | nil => exact ⟨state, rfl, by simpa [received] using within⟩
  | cons first rest ih =>
    cases first with
    | tryConsume count =>
      have kept : Within control (state.tryConsume count).2 counts := by
        rcases tryConsume_inv state count with ⟨-, same⟩ | ⟨-, same⟩
        · rw [same]
          exact within
        · rw [same]
          exact ⟨within.config, within.ratio, within.lastSampleTime, within.windowRecvCount, within.windowSampleCount⟩
      obtain ⟨before, ran, ends⟩ := ih kept more
      exact ⟨before, run_cons_some.mpr ⟨_, _, _, rfl, ran, rfl⟩, ends⟩
    | onRecvCompleted count now =>
      have longer : counts.length + ((received rest).length + 1) < max 1 control.config.windowSize.toNat := more
      have size := control.config.windowSize.toNat_lt
      have received_now := receive_within adaptive within (by omega) count now
      have kept := counted_within within (by omega) count
      obtain ⟨before, ran, ends⟩ := ih kept (by rw [List.length_append, List.length_singleton]; omega)
      refine ⟨before, run_cons_some.mpr ⟨counted state count, [], [], ?_, ran, rfl⟩, ?_⟩
      · rw [call, received_now]
        rfl
      · rw [List.append_assoc] at ends
        exact ends
    | getPiggybackCredits =>
      have kept : Within control state.getPiggybackCredits.2 counts :=
        ⟨within.config, within.ratio, within.lastSampleTime, within.windowRecvCount, within.windowSampleCount⟩
      obtain ⟨before, ran, ends⟩ := ih kept more
      exact ⟨before, run_cons_some.mpr ⟨_, _, _, rfl, ran, rfl⟩, ends⟩
    | addCredits count =>
      have kept : Within control (state.addCredits count) counts :=
        ⟨within.config, within.ratio, within.lastSampleTime, within.windowRecvCount, within.windowSampleCount⟩
      obtain ⟨before, ran, ends⟩ := ih kept more
      exact ⟨before, run_cons_some.mpr ⟨_, _, _, rfl, ran, rfl⟩, ends⟩

/-! ### The end of a window -/

/-- The call returns and has set the ratio to that of a high load. -/
def Reacts (control : FlowControl) (result : Option FlowControl) : Prop :=
  ∃ next, result = some next ∧
    next.currentThresholdRatio = 4 / 5 * control.currentThresholdRatio + 1 / 5 * control.config.maxThreshold

/-- The threshold that goes with the ratio of a high load fits in 32 bits. -/
def Convertible (control : FlowControl) : Prop :=
  (toUInt32 (control.config.recvDepth.toNat *
    (4 / 5 * control.currentThresholdRatio + 1 / 5 * control.config.maxThreshold))).isSome = true

/-- Between the two rates the new ratio stays below the upper threshold, unless the thresholds are equal. -/
theorem interpolated_iff {lower upper : ℚ} {above span : ℕ} (inside : above < span) :
    lower + above / span * (upper - lower) = upper ↔ lower = upper := by
  have positive : (0 : ℚ) < span := by exact_mod_cast Nat.zero_lt_of_lt inside
  have below : (above : ℚ) < span := by exact_mod_cast inside
  have factor : lower + above / span * (upper - lower) - upper = (lower - upper) * ((span - above) / span) := by
    field_simp
    ring
  rw [← sub_eq_zero, factor, mul_eq_zero, sub_eq_zero, or_iff_left]
  exact (div_pos (sub_pos.mpr below) positive).ne'

/-- The ratio that the estimated rate asks for is that of a high load exactly if the rate is high or there is only one
    ratio to ask for. -/
theorem newRatio_high (state : FlowControl) :
    ∃ ratio, state.newRatio = some ratio ∧ (ratio = state.config.maxThreshold ↔
      state.config.highRateThreshold ≤ state.estimatedRate ∨ state.config.minThreshold = state.config.maxThreshold) := by
  unfold FlowControl.newRatio
  dsimp only
  by_cases high : state.config.highRateThreshold ≤ state.estimatedRate
  · rw [if_pos high]
    exact ⟨_, rfl, by simp [high]⟩
  · rw [if_neg high]
    by_cases low : state.estimatedRate ≤ state.config.lowRateThreshold
    · rw [if_pos low]
      exact ⟨_, rfl, by simp [high]⟩
    · rw [if_neg low]
      rw [UInt32.not_le, UInt32.lt_iff_toNat_lt] at high low
      have above : (state.estimatedRate - state.config.lowRateThreshold).toNat =
          state.estimatedRate.toNat - state.config.lowRateThreshold.toNat :=
        UInt32.toNat_sub_of_le _ _ (UInt32.le_iff_toNat_le.mpr (by omega))
      have span : (state.config.highRateThreshold - state.config.lowRateThreshold).toNat =
          state.config.highRateThreshold.toNat - state.config.lowRateThreshold.toNat :=
        UInt32.toNat_sub_of_le _ _ (UInt32.le_iff_toNat_le.mpr (by omega))
      have apart : state.config.highRateThreshold - state.config.lowRateThreshold ≠ 0 := by
        intro zero
        rw [zero] at span
        change 0 = _ at span
        omega
      rw [if_neg apart]
      refine ⟨_, rfl, ?_⟩
      rw [interpolated_iff (by omega), UInt32.le_iff_toNat_le, or_iff_right (Nat.not_le.mpr high)]

/-- When the window is long enough the ratio follows the estimated rate. -/
theorem adjust_reacts (state : FlowControl) (now : Int) :
    Reacts state (state.adjustThreshold.map (·.newWindow now)) ↔
      (state.config.highRateThreshold ≤ state.estimatedRate ∨
        state.config.minThreshold = state.config.maxThreshold) ∧ Convertible state := by
  obtain ⟨ratio, asked, highest⟩ := newRatio_high state
  rw [← highest]
  unfold FlowControl.adjustThreshold
  rw [asked, Option.bind_some]
  constructor
  · rintro ⟨next, adjusted, same⟩
    obtain ⟨middle, converts, rfl⟩ := Option.map_eq_some_iff.mp adjusted
    obtain ⟨threshold, fits, rfl⟩ := Option.map_eq_some_iff.mp converts
    have top : ratio = state.config.maxThreshold := by
      have smoothed : 4 / 5 * state.currentThresholdRatio + 1 / 5 * ratio =
          4 / 5 * state.currentThresholdRatio + 1 / 5 * state.config.maxThreshold := same
      linarith
    refine ⟨top, ?_⟩
    rw [Convertible, ← top, fits]
    rfl
  · rintro ⟨rfl, convertible⟩
    obtain ⟨threshold, fits⟩ := Option.isSome_iff_exists.mp convertible
    dsimp only
    rw [fits]
    exact ⟨_, rfl, rfl⟩

/-- The receive that completes the window. -/
theorem complete_eq (adaptive : control.config.enableAdaptiveThreshold = true) (within : Within control state counts)
    (last : counts.length + 1 = max 1 control.config.windowSize.toNat) (count : UInt32) (now : Int) :
    state.onRecvCompleted count now =
      if 0 < (now - control.lastSampleTime).tdiv 1000000 then
        (FlowControl.adjustThreshold { counted state count with
          estimatedRate := UInt32.ofNat (((counted state count).windowRecvCount * 1000).toNat /
            ((now - control.lastSampleTime).tdiv 1000000).toNat) }).map (·.newWindow now)
      else some ((counted state count).newWindow now) := by
  have size := control.config.windowSize.toNat_lt
  have after := counted_within within (by omega) count
  have finished : (counted state count).config.windowSize ≤ (counted state count).windowSampleCount := by
    rw [UInt32.le_iff_toNat_le, after.windowSampleCount, after.config, List.length_append, List.length_singleton]
    omega
  rw [← within.config] at adaptive
  rw [← within.lastSampleTime]
  unfold FlowControl.onRecvCompleted FlowControl.updateRateStatistics
  exact (if_pos adaptive).trans (if_pos finished)

/-- The receives of the window, `sum` in `elapsed` nanoseconds, come at the high rate or above. -/
def High (config : FlowControlConfig) (sum : Nat) (elapsed : Int) : Prop :=
  config.highRateThreshold.toNat * elapsed ≤ sum * 10 ^ 9

/-- The window takes a millisecond, its product fits or looks high all the same, and the threshold can be converted; or
    it is shorter and the ratio is the highest already. -/
def Noticed (control : FlowControl) (sum : Nat) (elapsed : Int) : Prop :=
  if elapsed < 1000000 then control.currentThresholdRatio = control.config.maxThreshold
  else
    (sum * 1000 < 2 ^ 32 ∨ control.config.highRateThreshold.toNat ≤ sum * 1000 % 2 ^ 32 / (elapsed.toNat / 1000000) ∨
      control.config.minThreshold = control.config.maxThreshold) ∧ Convertible control

/-- A product that fits does not hide a high rate. -/
theorem high_of_fits {config : FlowControlConfig} {sum : Nat} {elapsed : Int} (high : High config sum elapsed)
    (long : 1000000 ≤ elapsed) (fits : sum * 1000 < 2 ^ 32) :
    config.highRateThreshold.toNat ≤ sum * 1000 % 2 ^ 32 / (elapsed.toNat / 1000000) := by
  obtain ⟨nanoseconds, rfl⟩ := Int.eq_ofNat_of_zero_le (Int.le_trans (by decide) long)
  have long : 1000000 ≤ nanoseconds := by omega
  have high : config.highRateThreshold.toNat * nanoseconds ≤ sum * 10 ^ 9 := by
    unfold High at high
    exact_mod_cast high
  rw [Nat.mod_eq_of_lt fits, Int.toNat_natCast, Nat.le_div_iff_mul_le (Nat.div_pos long (by decide))]
  have whole : config.highRateThreshold.toNat * (nanoseconds / 1000000 * 1000000) ≤
      config.highRateThreshold.toNat * nanoseconds := Nat.mul_le_mul_left _ (Nat.div_mul_le_self ..)
  rw [← Nat.mul_assoc] at whole
  omega

/-- A ratio that is kept is that of a high load exactly if it is the highest. -/
theorem kept_reacts (state : FlowControl) (now : Int) :
    Reacts state (some (state.newWindow now)) ↔ state.currentThresholdRatio = state.config.maxThreshold := by
  constructor
  · rintro ⟨next, same, ratio⟩
    obtain rfl := Option.some.inj same
    have kept : state.currentThresholdRatio =
        4 / 5 * state.currentThresholdRatio + 1 / 5 * state.config.maxThreshold := ratio
    linarith
  · intro top
    refine ⟨_, rfl, ?_⟩
    change state.currentThresholdRatio = _
    linarith

theorem Within.estimate (within : Within control state counts) (rate : UInt32) :
    Within control { state with estimatedRate := rate } counts :=
  ⟨within.config, within.ratio, within.lastSampleTime, within.windowRecvCount, within.windowSampleCount⟩

/-- A window keeps what a high load asks for. -/
theorem reacts_within (within : Within control state counts) (result : Option FlowControl) :
    Reacts control result ↔ Reacts state result := by
  unfold Reacts
  rw [within.ratio, within.config]

theorem convertible_within (within : Within control state counts) : Convertible control ↔ Convertible state := by
  unfold Convertible
  rw [within.ratio, within.config]

/-- The estimated rate of a window. -/
theorem rate_toNat {after : FlowControl} (within : Within control after counts) (elapsed : Nat) :
    (UInt32.ofNat ((after.windowRecvCount * 1000).toNat / elapsed)).toNat =
      total counts * 1000 % 2 ^ 32 / elapsed := by
  have product : (after.windowRecvCount * 1000).toNat = total counts * 1000 % 2 ^ 32 := by
    rw [UInt32.toNat_mul, within.windowRecvCount]
    exact Nat.mod_mul_mod ..
  have below : total counts * 1000 % 2 ^ 32 / elapsed < 2 ^ 32 :=
    Nat.lt_of_le_of_lt (Nat.div_le_self ..) (Nat.mod_lt _ (by decide))
  rw [product, UInt32.toNat_ofNat', Nat.mod_eq_of_lt below]

/-- The receive that completes a window at the high rate or above. -/
theorem completed_reacts (adaptive : control.config.enableAdaptiveThreshold = true)
    (within : Within control state counts) (last : counts.length + 1 = max 1 control.config.windowSize.toNat)
    {count : UInt32} {now : Int} (forward : control.lastSampleTime ≤ now)
    (high : High control.config (total (counts ++ [count])) (now - control.lastSampleTime)) :
    Reacts control (state.onRecvCompleted count now) ↔
      Noticed control (total (counts ++ [count])) (now - control.lastSampleTime) := by
  have size := control.config.windowSize.toNat_lt
  have after := counted_within within (by omega) count
  have positive : 0 ≤ now - control.lastSampleTime := by omega
  rw [complete_eq adaptive within last]
  generalize counted state count = ended at after
  generalize counts ++ [count] = counts at after high
  generalize now - control.lastSampleTime = elapsed at high positive
  obtain ⟨nanoseconds, rfl⟩ := Int.eq_ofNat_of_zero_le positive
  have milliseconds : (nanoseconds : Int).tdiv 1000000 = (nanoseconds / 1000000 : Nat) := rfl
  unfold Noticed
  rw [milliseconds, Int.toNat_natCast, Int.toNat_natCast]
  by_cases short : (nanoseconds : Int) < 1000000
  · have none_left : nanoseconds / 1000000 = 0 := Nat.div_eq_of_lt (by omega)
    rw [if_pos short, none_left, if_neg (by decide), reacts_within after, kept_reacts, after.ratio, after.config]
  · have some_left : (0 : Int) < (nanoseconds / 1000000 : Nat) := by omega
    have fitting := high_of_fits high (by omega)
    rw [Int.toNat_natCast] at fitting
    rw [if_neg short, if_pos some_left, reacts_within (after.estimate _), adjust_reacts, UInt32.le_iff_toNat_le,
      rate_toNat after, convertible_within (after.estimate _), after.config]
    refine and_congr_left fun _ => ?_
    constructor
    · rintro (rate | thresholds)
      · exact .inr (.inl rate)
      · exact .inr (.inr thresholds)
    · rintro (fits | rate | thresholds)
      · exact .inl (fitting fits)
      · exact .inl rate
      · exact .inr thresholds

/-- The calls up to the last receive of a window. -/
theorem window_open (fresh : Fresh control) (adaptive : control.config.enableAdaptiveThreshold = true)
    {calls : List Call} (last : (received calls).length + 1 = max 1 control.config.windowSize.toNat) :
    ∃ before, run call control calls = some (before, []) ∧ Within control before (received calls) := by
  have more : ([] : List UInt32).length + (received calls).length < max 1 control.config.windowSize.toNat := by
    rw [List.length_nil]
    omega
  obtain ⟨before, ran, within⟩ := window_run adaptive (fresh_within fresh) more
  rw [List.nil_append] at within
  exact ⟨before, ran, within⟩

/-- The end of a window at the high rate or above sets the ratio to that of a high load if and only if the window takes
    a millisecond, its product fits or looks high all the same and the new threshold can be converted, or it is shorter
    and the ratio is the highest already. -/
theorem high_load_iff (fresh : Fresh control) (adaptive : control.config.enableAdaptiveThreshold = true)
    {calls : List Call} {count : UInt32} {now : Int}
    (last : (received calls).length + 1 = max 1 control.config.windowSize.toNat)
    (forward : control.lastSampleTime ≤ now)
    (high : High control.config (total (received calls ++ [count])) (now - control.lastSampleTime)) :
    ∃ before, run call control calls = some (before, []) ∧
      (Reacts control (before.onRecvCompleted count now) ↔
        Noticed control (total (received calls ++ [count])) (now - control.lastSampleTime)) := by
  obtain ⟨before, ran, within⟩ := window_open fresh adaptive last
  exact ⟨before, ran, completed_reacts adaptive within last forward high⟩

/-- The default flow control, made at time 0. -/
def atStart : FlowControl where
  config := {}
  lazyThreshold := 256
  currentThresholdRatio := 1 / 4
  sendCredits := 1024
  lastSampleTime := 0

example : FlowControl.create {} 0 = some atStart := by decide +kernel

/-- 100 receives in five milliseconds. -/
theorem default_window_noticed : ∃ before,
    run call atStart (List.replicate 99 (.onRecvCompleted 1 0)) = some (before, []) ∧
      Reacts atStart (before.onRecvCompleted 1 5000000) := by
  have last : (received (List.replicate 99 (.onRecvCompleted 1 0))).length + 1 =
      max 1 atStart.config.windowSize.toNat := by decide
  have high : High atStart.config (total (received (List.replicate 99 (.onRecvCompleted 1 0)) ++ [1]))
      (5000000 - atStart.lastSampleTime) := by
    unfold High
    decide
  obtain ⟨before, ran, reacts⟩ := high_load_iff ⟨rfl, rfl⟩ rfl last (by decide) high
  refine ⟨before, ran, reacts.mpr ?_⟩
  rw [Noticed, if_neg (by decide)]
  exact ⟨.inl (by decide), by unfold Convertible; decide +kernel⟩

/-- 100 receives in half a millisecond leave the ratio as it is. -/
theorem short_window_skipped : ∃ before,
    run call atStart (List.replicate 99 (.onRecvCompleted 1 0)) = some (before, []) ∧
      High atStart.config (total (received (List.replicate 99 (.onRecvCompleted 1 0)) ++ [1])) 500000 ∧
      ¬Reacts atStart (before.onRecvCompleted 1 500000) := by
  have last : (received (List.replicate 99 (.onRecvCompleted 1 0))).length + 1 =
      max 1 atStart.config.windowSize.toNat := by decide
  have high : High atStart.config (total (received (List.replicate 99 (.onRecvCompleted 1 0)) ++ [1]))
      (500000 - atStart.lastSampleTime) := by
    unfold High
    decide
  obtain ⟨before, ran, within⟩ := window_open ⟨rfl, rfl⟩ rfl last
  refine ⟨before, ran, high, fun reacts => ?_⟩
  have noticed := (completed_reacts rfl within last (by decide) high).mp reacts
  rw [Noticed, if_pos (by decide)] at noticed
  exact absurd noticed (by decide +kernel)

end Rdma.HighLoads
