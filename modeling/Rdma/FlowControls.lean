import Rdma.CreditLoops
import Rdma.Runs
import Mathlib.Tactic.Ring

/-!
Credit-based flow control (`flow_control.h`, `flow_control.cpp`) between two
endpoints. A sender consumes a credit for each message; the receiver counts the
messages that complete, gives the count back as credits on what it sends, and
the sender adds them. In each direction the credits of the sender, the messages
in flight, the credits pending at the receiver and those in flight make a loop
(`World.loop`), and every step is a move of it (`step_moves`), so they add up to
the receives posted and no counter wraps (`credits_conserved`). Ratios are exact
rationals, and a conversion to a value out of range is undefined.
-/
namespace Rdma.FlowControls
open Rdma.Runs Rdma.CreditLoops

/-! ### An endpoint -/

structure FlowControlConfig where
  recvDepth : UInt32 := 1024
  lazyUpdateThreshold : ℚ := 1 / 4
  enableAdaptiveThreshold : Bool := true
  minThreshold : ℚ := 1 / 10
  maxThreshold : ℚ := 1 / 2
  windowSize : UInt32 := 100
  highRateThreshold : UInt32 := 10000
  lowRateThreshold : UInt32 := 1000
  deriving DecidableEq

/-- `lastSampleTime` is in nanoseconds. -/
structure FlowControl where
  config : FlowControlConfig
  lazyThreshold : UInt32
  currentThresholdRatio : ℚ
  sendCredits : UInt32
  pendingCredits : UInt32 := 0
  lastSampleTime : Int
  windowRecvCount : UInt32 := 0
  windowSampleCount : UInt32 := 0
  estimatedRate : UInt32 := 0
  deriving DecidableEq

/-- `static_cast<uint32_t>` drops the fraction; a value that does not fit is undefined. -/
def toUInt32 (value : ℚ) : Option UInt32 :=
  let whole := value.num.tdiv value.den
  if 0 ≤ whole ∧ whole < 2 ^ 32 then some (UInt32.ofNat whole.toNat) else none

/-- `now` is what the clock shows. -/
def FlowControl.create (config : FlowControlConfig) (now : Int) : Option FlowControl :=
  (toUInt32 (config.recvDepth.toNat * config.lazyUpdateThreshold)).map fun lazyThreshold =>
    { config, lazyThreshold
      currentThresholdRatio := config.lazyUpdateThreshold
      sendCredits := config.recvDepth
      lastSampleTime := now }

/-- The ratio that the estimated rate asks for; a division by 0 is undefined. -/
def FlowControl.newRatio (control : FlowControl) : Option ℚ :=
  let config := control.config
  if config.highRateThreshold ≤ control.estimatedRate then some config.maxThreshold
  else if control.estimatedRate ≤ config.lowRateThreshold then some config.minThreshold
  else
    let above := control.estimatedRate - config.lowRateThreshold
    let span := config.highRateThreshold - config.lowRateThreshold
    if span = 0 then none
    else some (config.minThreshold + above.toNat / span.toNat * (config.maxThreshold - config.minThreshold))

def FlowControl.adjustThreshold (control : FlowControl) : Option FlowControl :=
  control.newRatio.bind fun newRatio =>
    let ratio := 4 / 5 * control.currentThresholdRatio + 1 / 5 * newRatio
    (toUInt32 (control.config.recvDepth.toNat * ratio)).map fun lazyThreshold =>
      { control with currentThresholdRatio := ratio, lazyThreshold }

/-- The start of a new window. -/
def FlowControl.newWindow (control : FlowControl) (now : Int) : FlowControl :=
  { control with windowRecvCount := 0, windowSampleCount := 0, lastSampleTime := now }

def FlowControl.updateRateStatistics (control : FlowControl) (count : UInt32) (now : Int) : Option FlowControl :=
  let control := { control with
    windowRecvCount := control.windowRecvCount + count
    windowSampleCount := control.windowSampleCount + 1 }
  if control.config.windowSize ≤ control.windowSampleCount then
    let elapsedMs := (now - control.lastSampleTime).tdiv 1000000
    if 0 < elapsedMs then
      let rate := (control.windowRecvCount * 1000).toNat / elapsedMs.toNat
      (FlowControl.adjustThreshold { control with estimatedRate := UInt32.ofNat rate }).map (·.newWindow now)
    else some (control.newWindow now)
  else some control

def FlowControl.tryConsume (control : FlowControl) (count : UInt32) : Bool × FlowControl :=
  if control.sendCredits < count then (false, control)
  else (true, { control with sendCredits := control.sendCredits - count })

def FlowControl.onRecvCompleted (control : FlowControl) (count : UInt32) (now : Int) : Option FlowControl :=
  let control := { control with pendingCredits := control.pendingCredits + count }
  if control.config.enableAdaptiveThreshold then control.updateRateStatistics count now else some control

def FlowControl.shouldUpdateCredit (control : FlowControl) : Bool := control.lazyThreshold ≤ control.pendingCredits

def FlowControl.getPiggybackCredits (control : FlowControl) : UInt32 × FlowControl :=
  (control.pendingCredits, { control with pendingCredits := 0 })

def FlowControl.addCredits (control : FlowControl) (count : UInt32) : FlowControl :=
  { control with sendCredits := control.sendCredits + count }

def FlowControl.reset (control : FlowControl) (config : FlowControlConfig) (now : Int) : Option FlowControl :=
  (toUInt32 (config.recvDepth.toNat * config.lazyUpdateThreshold)).map fun lazyThreshold =>
    { control with
      config, lazyThreshold
      currentThresholdRatio := config.lazyUpdateThreshold
      sendCredits := config.recvDepth
      pendingCredits := 0
      lastSampleTime := now
      windowRecvCount := 0
      windowSampleCount := 0
      estimatedRate := 0 }

/-! ### Two endpoints -/

inductive Side
  | left
  | right
  deriving DecidableEq, Repr

def Side.other : Side → Side
  | .left => .right
  | .right => .left

/-- The endpoints, and how many messages and which amounts of credits are in flight to each of them. -/
structure World where
  control : Side → FlowControl
  messages : Side → Nat
  credits : Side → List UInt32

inductive Event
  | tryConsume (sender : Side) (count : UInt32)
  | onRecvCompleted (receiver : Side) (count : UInt32) (now : Int)
  | getPiggybackCredits (receiver : Side)
  | addCredits (sender : Side) (index : Nat)
  deriving DecidableEq, Repr

/-- Only what is in flight arrives. The outputs are what `TryConsume` returns. -/
def World.step (world : World) : Event → Option (World × List Bool)
  | .tryConsume sender count =>
    let (granted, control) := (world.control sender).tryConsume count
    let sent := if granted then count.toNat else 0
    some ({ world with
      control := Function.update world.control sender control
      messages := Function.update world.messages sender.other (world.messages sender.other + sent) }, [granted])
  | .onRecvCompleted receiver count now =>
    if world.messages receiver < count.toNat then none
    else
      ((world.control receiver).onRecvCompleted count now).map fun control =>
        ({ world with
          control := Function.update world.control receiver control
          messages := Function.update world.messages receiver (world.messages receiver - count.toNat) }, [])
  | .getPiggybackCredits receiver =>
    let (count, control) := (world.control receiver).getPiggybackCredits
    some ({ world with
      control := Function.update world.control receiver control
      credits := Function.update world.credits receiver.other (world.credits receiver.other ++ [count]) }, [])
  | .addCredits sender index =>
    (world.credits sender)[index]?.map fun count =>
      ({ world with
        control := Function.update world.control sender ((world.control sender).addCredits count)
        credits := Function.update world.credits sender ((world.credits sender).eraseIdx index) }, [])

/-- Nothing is in flight. -/
def World.start (control : Side → FlowControl) : World := ⟨control, fun _ => 0, fun _ => []⟩

/-- The counters of the step do not wrap. -/
def NoWrap (world : World) : Event → Prop
  | .tryConsume sender count =>
    ((world.control sender).tryConsume count).1 = true → count ≤ (world.control sender).sendCredits
  | .onRecvCompleted receiver count _ => (world.control receiver).pendingCredits.toNat + count.toNat < 2 ^ 32
  | .getPiggybackCredits _ => True
  | .addCredits sender index =>
    ∀ count, (world.credits sender)[index]? = some count →
      (world.control sender).sendCredits.toNat + count.toNat < 2 ^ 32

def amount (credits : List UInt32) : Nat := (credits.map UInt32.toNat).sum

/-- The credits for what the side sends. -/
def World.loop (world : World) (side : Side) : Loop where
  held := (world.control side).sendCredits.toNat
  sent := world.messages side.other
  owed := (world.control side.other).pendingCredits.toNat
  returning := amount (world.credits side)

/-! ### What the steps do to the credits -/

theorem create_inv {config : FlowControlConfig} {now : Int} {control : FlowControl}
    (created : FlowControl.create config now = some control) :
    control.sendCredits = config.recvDepth ∧ control.pendingCredits = 0 := by
  obtain ⟨threshold, -, rfl⟩ := Option.map_eq_some_iff.mp created
  exact ⟨rfl, rfl⟩

/-- The credits and the configuration are the same. -/
structure SameCredits (control next : FlowControl) : Prop where
  config : next.config = control.config
  sendCredits : next.sendCredits = control.sendCredits
  pendingCredits : next.pendingCredits = control.pendingCredits

variable {control adjusted : FlowControl} {count : UInt32} {now : Int}

theorem adjustThreshold_same (adjusts : control.adjustThreshold = some adjusted) : SameCredits control adjusted := by
  obtain ⟨ratio, -, converts⟩ := Option.bind_eq_some_iff.mp adjusts
  obtain ⟨threshold, -, rfl⟩ := Option.map_eq_some_iff.mp converts
  exact ⟨rfl, rfl, rfl⟩

theorem updateRateStatistics_same (updates : control.updateRateStatistics count now = some adjusted) :
    SameCredits control adjusted := by
  unfold FlowControl.updateRateStatistics at updates
  dsimp only at updates
  split at updates
  · split at updates
    · obtain ⟨middle, adjusts, rfl⟩ := Option.map_eq_some_iff.mp updates
      obtain ⟨config, send, owed⟩ := adjustThreshold_same adjusts
      exact ⟨config, send, owed⟩
    · obtain rfl := Option.some.inj updates
      exact ⟨rfl, rfl, rfl⟩
  · obtain rfl := Option.some.inj updates
    exact ⟨rfl, rfl, rfl⟩

/-- The rate statistics leave the credits alone. -/
theorem onRecvCompleted_same (completes : control.onRecvCompleted count now = some adjusted) :
    SameCredits { control with pendingCredits := control.pendingCredits + count } adjusted := by
  unfold FlowControl.onRecvCompleted at completes
  dsimp only at completes
  split at completes
  · exact updateRateStatistics_same completes
  · obtain rfl := Option.some.inj completes
    exact ⟨rfl, rfl, rfl⟩

theorem tryConsume_inv (control : FlowControl) (count : UInt32) :
    (control.sendCredits < count ∧ control.tryConsume count = (false, control)) ∨
      (count ≤ control.sendCredits ∧
        control.tryConsume count = (true, { control with sendCredits := control.sendCredits - count })) := by
  unfold FlowControl.tryConsume
  by_cases short : control.sendCredits < count
  · exact .inl ⟨short, if_pos short⟩
  · exact .inr ⟨UInt32.not_lt.mp short, if_neg short⟩

@[simp] theorem other_other (side : Side) : side.other.other = side := by
  cases side with
  | left => rfl
  | right => rfl

theorem other_ne (side : Side) : side.other ≠ side := by
  cases side with
  | left => decide
  | right => decide

theorem eq_or_other (side place : Side) : side = place ∨ side = place.other := by
  cases side with
  | left =>
    cases place with
    | left => exact .inl rfl
    | right => exact .inr rfl
  | right =>
    cases place with
    | left => exact .inr rfl
    | right => exact .inl rfl

variable {world next : World} {event : Event} {outputs : List Bool}

theorem consume_moves {sender : Side} {count : UInt32} (enough : count ≤ (world.control sender).sendCredits)
    (control : next.control = Function.update world.control sender
      { world.control sender with sendCredits := (world.control sender).sendCredits - count })
    (messages : next.messages =
      Function.update world.messages sender.other (world.messages sender.other + count.toNat))
    (credits : next.credits = world.credits) (side : Side) : Move (world.loop side) (next.loop side) := by
  rcases eq_or_other side sender with rfl | rfl
  · have held : count.toNat ≤ (world.loop side).held := UInt32.le_iff_toNat_le.mp enough
    have moved : next.loop side = { world.loop side with
        held := (world.loop side).held - count.toNat, sent := (world.loop side).sent + count.toNat } := by
      simp only [World.loop, control, messages, credits, Function.update_self, Function.update_of_ne (other_ne side),
        UInt32.toNat_sub_of_le _ _ enough]
    rw [moved]
    exact .send held
  · have same : next.loop sender.other = world.loop sender.other := by
      simp only [World.loop, control, messages, credits, other_other, Function.update_self,
        Function.update_of_ne (other_ne sender), Function.update_of_ne (other_ne sender).symm]
    rw [same]
    exact .idle _

theorem complete_moves {receiver : Side} {count : UInt32} {after : FlowControl}
    (arrived : count.toNat ≤ world.messages receiver)
    (completed : SameCredits
      { world.control receiver with pendingCredits := (world.control receiver).pendingCredits + count } after)
    (control : next.control = Function.update world.control receiver after)
    (messages : next.messages = Function.update world.messages receiver (world.messages receiver - count.toNat))
    (credits : next.credits = world.credits) (side : Side) (small : (world.loop side).total < 2 ^ 32) :
    Move (world.loop side) (next.loop side) := by
  rcases eq_or_other side receiver with rfl | rfl
  · have same : next.loop side = world.loop side := by
      simp only [World.loop, control, messages, credits, Function.update_self, Function.update_of_ne (other_ne side),
        completed.sendCredits]
    rw [same]
    exact .idle _
  · have sent : count.toNat ≤ (world.loop receiver.other).sent := by
      rw [World.loop, other_other]
      exact arrived
    have room : (world.control receiver).pendingCredits.toNat + count.toNat < 2 ^ 32 := by
      have fits := Loop.complete_le sent
      simp only [World.loop, other_other] at fits small
      omega
    have moved : next.loop receiver.other = { world.loop receiver.other with
        sent := (world.loop receiver.other).sent - count.toNat
        owed := (world.loop receiver.other).owed + count.toNat } := by
      simp only [World.loop, control, messages, credits, other_other, Function.update_self,
        Function.update_of_ne (other_ne receiver), completed.pendingCredits, UInt32.toNat_add,
        Nat.mod_eq_of_lt room]
    rw [moved]
    exact .complete sent

theorem amount_snoc (credits : List UInt32) (count : UInt32) :
    amount (credits ++ [count]) = amount credits + count.toNat := by
  rw [amount, amount, List.map_append, List.sum_append]
  rfl

theorem amount_erase {credits : List UInt32} {index : Nat} {count : UInt32} (listed : credits[index]? = some count) :
    amount credits = amount (credits.eraseIdx index) + count.toNat := by
  induction credits generalizing index with
  | nil => cases listed
  | cons first rest ih =>
    cases index with
    | zero =>
      obtain rfl := Option.some.inj listed
      exact Nat.add_comm _ _
    | succ index =>
      have later := ih listed
      simp only [amount, List.eraseIdx_cons_succ, List.map_cons, List.sum_cons] at later ⊢
      omega

theorem collect_moves (receiver : Side)
    (control : next.control = Function.update world.control receiver { world.control receiver with pendingCredits := 0 })
    (messages : next.messages = world.messages)
    (credits : next.credits = Function.update world.credits receiver.other
      (world.credits receiver.other ++ [(world.control receiver).pendingCredits])) (side : Side) :
    Move (world.loop side) (next.loop side) := by
  rcases eq_or_other side receiver with rfl | rfl
  · have same : next.loop side = world.loop side := by
      simp only [World.loop, control, messages, credits, Function.update_self, Function.update_of_ne (other_ne side),
        Function.update_of_ne (other_ne side).symm]
    rw [same]
    exact .idle _
  · have moved : next.loop receiver.other = { world.loop receiver.other with
        owed := (world.loop receiver.other).owed - (world.control receiver).pendingCredits.toNat
        returning := (world.loop receiver.other).returning + (world.control receiver).pendingCredits.toNat } := by
      simp only [World.loop, control, messages, credits, other_other, Function.update_self,
        Function.update_of_ne (other_ne receiver), amount_snoc, Nat.sub_self]
      rfl
    rw [moved]
    refine .collect ?_
    rw [World.loop, other_other]

theorem grant_moves {sender : Side} {index : Nat} {count : UInt32}
    (listed : (world.credits sender)[index]? = some count)
    (control : next.control = Function.update world.control sender
      { world.control sender with sendCredits := (world.control sender).sendCredits + count })
    (messages : next.messages = world.messages)
    (credits : next.credits = Function.update world.credits sender ((world.credits sender).eraseIdx index))
    (side : Side) (small : (world.loop side).total < 2 ^ 32) : Move (world.loop side) (next.loop side) := by
  rcases eq_or_other side sender with rfl | rfl
  · have returning : (world.loop side).returning = amount ((world.credits side).eraseIdx index) + count.toNat :=
      amount_erase listed
    have room : (world.control side).sendCredits.toNat + count.toNat < 2 ^ 32 := by
      have fits := Loop.grant_le (returning ▸ Nat.le_add_left .. : count.toNat ≤ (world.loop side).returning)
      exact Nat.lt_of_le_of_lt fits small
    have moved : next.loop side = { world.loop side with
        returning := (world.loop side).returning - count.toNat
        held := (world.loop side).held + count.toNat } := by
      rw [returning, Nat.add_sub_cancel]
      simp only [World.loop, control, messages, credits, Function.update_self, Function.update_of_ne (other_ne side),
        UInt32.toNat_add, Nat.mod_eq_of_lt room]
    rw [moved]
    refine .grant ?_
    rw [returning]
    exact Nat.le_add_left _ _
  · have same : next.loop sender.other = world.loop sender.other := by
      simp only [World.loop, control, messages, credits, other_other, Function.update_self,
        Function.update_of_ne (other_ne sender)]
    rw [same]
    exact .idle _

/-- Every step is a move of the credits in each direction. -/
theorem step_moves (stepped : world.step event = some (next, outputs)) (side : Side)
    (small : (world.loop side).total < 2 ^ 32) : Move (world.loop side) (next.loop side) := by
  cases event with
  | tryConsume sender count =>
    rcases tryConsume_inv (world.control sender) count with ⟨-, refused⟩ | ⟨enough, granted⟩
    · simp only [World.step, refused] at stepped
      obtain ⟨rfl, -⟩ := Prod.mk.inj (Option.some.inj stepped)
      simp only [Bool.false_eq_true, if_false, Nat.add_zero, Function.update_eq_self]
      exact .idle _
    · simp only [World.step, granted] at stepped
      obtain ⟨rfl, -⟩ := Prod.mk.inj (Option.some.inj stepped)
      refine consume_moves enough ?_ ?_ ?_ side
      · rfl
      · rfl
      · rfl
  | onRecvCompleted receiver count now =>
    simp only [World.step] at stepped
    split at stepped
    · cases stepped
    · rename_i arrived
      obtain ⟨after, completes, same⟩ := Option.map_eq_some_iff.mp stepped
      obtain ⟨rfl, -⟩ := Prod.mk.inj same
      refine complete_moves (Nat.le_of_not_lt arrived) (onRecvCompleted_same completes) ?_ ?_ ?_ side small
      · rfl
      · rfl
      · rfl
  | getPiggybackCredits receiver =>
    obtain ⟨rfl, -⟩ := Prod.mk.inj (Option.some.inj stepped)
    refine collect_moves receiver ?_ ?_ ?_ side
    · rfl
    · rfl
    · rfl
  | addCredits sender index =>
    obtain ⟨count, listed, same⟩ := Option.map_eq_some_iff.mp stepped
    obtain ⟨rfl, -⟩ := Prod.mk.inj same
    refine grant_moves listed ?_ ?_ ?_ side small
    · rfl
    · rfl
    · rfl

/-! ### Runs -/

/-- No counter wraps where the credits of each direction fit one. -/
theorem step_noWrap (stepped : world.step event = some (next, outputs))
    (small : ∀ side, (world.loop side).total < 2 ^ 32) : NoWrap world event := by
  cases event with
  | tryConsume sender count =>
    intro granted
    rcases tryConsume_inv (world.control sender) count with ⟨-, refused⟩ | ⟨enough, -⟩
    · rw [refused] at granted
      cases granted
    · exact enough
  | onRecvCompleted receiver count now =>
    simp only [World.step] at stepped
    split at stepped
    · cases stepped
    · rename_i arrived
      have sent : count.toNat ≤ (world.loop receiver.other).sent := by
        rw [World.loop, other_other]
        exact Nat.le_of_not_lt arrived
      have fits := (Loop.complete_le sent).trans_lt (small receiver.other)
      rwa [World.loop, other_other] at fits
  | getPiggybackCredits receiver => trivial
  | addCredits sender index =>
    intro count listed
    have returning : count.toNat ≤ (world.loop sender).returning := by
      rw [World.loop, amount_erase listed]
      exact Nat.le_add_left _ _
    exact (Loop.grant_le returning).trans_lt (small sender)

theorem run_conserves {events : List Event} {last : World} (small : ∀ side, (world.loop side).total < 2 ^ 32)
    (ran : run World.step world events = some (last, outputs)) :
    Meets World.step NoWrap world events ∧ ∀ side, (last.loop side).total = (world.loop side).total := by
  induction events generalizing world outputs with
  | nil =>
    obtain ⟨rfl, -⟩ := by simpa using ran
    exact ⟨trivial, fun _ => rfl⟩
  | cons event rest ih =>
    obtain ⟨next, now, later, stepped, after, -⟩ := run_cons_some.mp ran
    have same : ∀ side, (next.loop side).total = (world.loop side).total :=
      fun side => (step_moves stepped side (small side)).total
    obtain ⟨fits, total⟩ := ih (fun side => (same side).trans_lt (small side)) after
    exact ⟨meets_cons stepped (step_noWrap stepped small) fits, fun side => (total side).trans (same side)⟩

/-- Between two endpoints with the same number of posted receives, the credits of each direction add up to it, no
    counter wraps, and no more messages are in flight. -/
theorem credits_conserved {configs : Side → FlowControlConfig} {depth : UInt32}
    (posted : ∀ side, (configs side).recvDepth = depth) {now : Side → Int} {control : Side → FlowControl}
    (created : ∀ side, FlowControl.create (configs side) (now side) = some (control side)) {events : List Event}
    {last : World} {outputs : List Bool} (ran : run World.step (.start control) events = some (last, outputs)) :
    Meets World.step NoWrap (.start control) events ∧
      ∀ side, (last.control side).sendCredits.toNat + last.messages side.other +
          (last.control side.other).pendingCredits.toNat + amount (last.credits side) = depth.toNat ∧
        last.messages side.other ≤ depth.toNat := by
  have start : ∀ side, ((World.start control).loop side).total = depth.toNat := by
    intro side
    have full : (control side).sendCredits = depth := (create_inv (created side)).1.trans (posted side)
    have nothing : (control side.other).pendingCredits = 0 := (create_inv (created side.other)).2
    simp only [World.start, World.loop, Loop.total, full, nothing]
    rfl
  obtain ⟨fits, total⟩ := run_conserves (fun side => (start side).trans_lt depth.toNat_lt) ran
  refine ⟨fits, ?_⟩
  intro side
  have whole := (total side).trans (start side)
  exact ⟨whole, (last.loop side).sent_le.trans_eq whole⟩

/-- A flow control with the default settings, at time 0. -/
def byDefault : FlowControl :=
  { config := {}, lazyThreshold := 256, currentThresholdRatio := 1 / 4, sendCredits := 1024, lastSampleTime := 0 }

/-- Four of ten messages complete, and their credits come back together. -/
theorem four_credits_returned : ∃ last,
    run World.step (.start fun _ => byDefault) [.tryConsume .left 10, .onRecvCompleted .right 4 1000,
      .tryConsume .left 2000, .getPiggybackCredits .right, .addCredits .left 0] = some (last, [true, false]) ∧
    Meets World.step NoWrap (.start fun _ => byDefault) [.tryConsume .left 10, .onRecvCompleted .right 4 1000,
      .tryConsume .left 2000, .getPiggybackCredits .right, .addCredits .left 0] ∧
    ∀ side, (last.control side).sendCredits.toNat + last.messages side.other +
        (last.control side.other).pendingCredits.toNat + amount (last.credits side) = 1024 ∧
      last.messages side.other ≤ 1024 := by
  have created : FlowControl.create {} 0 = some byDefault := by decide +kernel
  exact ⟨_, rfl, credits_conserved (fun _ => rfl) (fun _ => created) rfl⟩

end Rdma.FlowControls
