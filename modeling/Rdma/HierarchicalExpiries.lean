import Rdma.Labels
import Rdma.SharedWheels

/-!
When the two-level timing wheel reports an entry. An entry of level 1 is
reported after as many ticks as its timeout. One of level 2 waits for the tick
that spreads its bucket, and then in the level 1 bucket chosen by its address,
whatever is left of its timeout. So its report can be early, and when is decided
by the state in which it is scheduled (`never_early_iff`); it is late by 511
ticks at most, whatever level 1 bucket it gets (`lateness_bound`).
-/
namespace Rdma.HierarchicalExpiries
open Rdma.Chains Rdma.Runs Rdma.HierarchicalWheels Rdma.Labels
open Rdma.TimingWheels (Token scheduledLists scheduled_keeps firstLists)
open Rdma.WheelRuns (Event hierarchical_files)
open Rdma.SharedWheels (walk walk_chain)

/-- A wheel, how many calls of `Schedule` it has accepted, how often it has ticked, and which call filled an entry
    last. -/
structure Traced where
  wheel : HierarchicalTimingWheel
  accepted : Nat
  ticks : Nat
  label : Nat → Nat

/-- The vector that a tick fills, with the number of the call that scheduled each element. -/
abbrev Report := List (Nat × Token)

/-- The entries that the next tick reports. -/
def due (wheel : HierarchicalTimingWheel) : List Nat :=
  walk wheel.entryPool kMaxEntries (wheel.buckets (.one, wheel.level1Current.toNat)).head

def Traced.schedule (traced : Traced) (slotIndex : UInt32) (generation : UInt8) (timeoutMs : UInt32) : Traced :=
  match traced.wheel.schedule slotIndex generation timeoutMs, traced.wheel.freeList with
  | (true, wheel), some entry =>
    { traced with wheel, accepted := traced.accepted + 1, label := Function.update traced.label entry traced.accepted }
  | (_, wheel), _ => { traced with wheel }

def Traced.tick (traced : Traced) (ticked : Option (List Token × HierarchicalTimingWheel)) :
    Option (Traced × List Report) := do
  let (expired, wheel) ← ticked
  some ({ traced with wheel, ticks := traced.ticks + 1 }, [((due traced.wheel).map traced.label).zip expired])

def Traced.step (traced : Traced) : Event → Option (Traced × List Report)
  | .schedule slotIndex generation timeoutMs => some (traced.schedule slotIndex generation timeoutMs, [])
  | .tick => traced.tick traced.wheel.tick

/-- A step where the k-th tick puts an entry that leaves level 2 into the level 1 bucket `choose k entry`. -/
def Traced.stepTo (choose : Nat → Nat → Nat) (traced : Traced) : Event → Option (Traced × List Report)
  | .schedule slotIndex generation timeoutMs => some (traced.schedule slotIndex generation timeoutMs, [])
  | .tick => traced.tick (traced.wheel.tickTo (choose traced.ticks))

def Traced.start (poolAddress : UInt64) : Traced := ⟨.create poolAddress, 0, 0, fun _ => 0⟩

/-! ### Where an entry is -/

/-- The wheel holds the lists, and its pending entries were filled by calls that are counted. -/
structure Sound (traced : Traced) (lists : Option (Level × Nat) → List Nat) : Prop where
  represents : Represents traced.wheel lists []
  older : ∀ entry ∈ levels.pending lists, traced.label entry < traced.accepted

/-- The ticks up to the one that spreads the level 2 bucket `distance` behind the current one. -/
def untilSpread (traced : Traced) (distance : Nat) : Nat := 255 - traced.wheel.level1Current.toNat + 256 * distance

/-- The entry stands where `left` ticks come before the one that reports it. -/
def Stands (choose : Nat → Nat → Nat) (traced : Traced) (lists : Option (Level × Nat) → List Nat) (entry left : Nat) :
    Prop :=
  left < 256 ∧ entry ∈ lists (some (.one, (traced.wheel.level1Current.toNat + left) % 256)) ∨
    ∃ distance < 256, entry ∈ lists (some (.two, (traced.wheel.level2Current.toNat + distance) % 256)) ∧
      left = untilSpread traced distance + 1 +
        choose (traced.ticks + untilSpread traced distance) entry % kLevel1Size

/-- The wheel has an entry of the call that so many ticks come before, or none. -/
def Placed (choose : Nat → Nat → Nat) (call : Nat) (given : Token) (traced : Traced) (place : Option Nat) : Prop :=
  ∃ lists, Sound traced lists ∧ call < traced.accepted ∧
    Filed levels lists traced.label traced.wheel.token call given (Stands choose traced lists) place

variable {traced next : Traced} {lists : Option (Level × Nat) → List Nat} {choose : Nat → Nat → Nat}
  {entry call : Nat} {given : Token} {place : Option Nat}

theorem start_sound (poolAddress : UInt64) : Sound (.start poolAddress) (firstLists kMaxEntries) where
  represents := create_represents poolAddress
  older := by
    intro entry listed
    obtain ⟨bucket, -, impossible⟩ := mem_pending.mp listed
    cases impossible

theorem Sound.holds (sound : Sound traced lists) : Holds levels traced.wheel.links lists [] := sound.represents.filed.holds

/-! ### Schedule -/

theorem schedule_refused (sound : Sound traced lists) (full : lists none = []) (slotIndex : UInt32)
    (generation : UInt8) (timeoutMs : UInt32) : traced.schedule slotIndex generation timeoutMs = traced := by
  have refused := schedule_full sound.represents full slotIndex generation timeoutMs
  simp only [Traced.schedule, refused]

/-- What an accepted call does beside filing the entry. -/
structure Accepts (traced next : Traced) (entry : Nat) (given : Token) : Prop where
  accepted : next.accepted = traced.accepted + 1
  ticks : next.ticks = traced.ticks
  label : next.label = Function.update traced.label entry traced.accepted
  tokens : next.wheel.token = Function.update traced.wheel.token entry given
  level1Current : next.wheel.level1Current = traced.wheel.level1Current
  level2Current : next.wheel.level2Current = traced.wheel.level2Current
  poolAddress : next.wheel.poolAddress = traced.wheel.poolAddress

/-- An accepted call fills the first free entry, which gets the call's number. -/
theorem schedule_accepted (sound : Sound traced lists) {rest : List Nat} (free : lists none = entry :: rest)
    (slotIndex : UInt32) (generation : UInt8) (timeoutMs : UInt32) :
    Sound (traced.schedule slotIndex generation timeoutMs)
        (scheduledLists lists entry rest (traced.wheel.target timeoutMs)) ∧
      Accepts traced (traced.schedule slotIndex generation timeoutMs) entry (slotIndex, generation) := by
  obtain ⟨wheel, scheduled, represents, tokens, level1, level2, address⟩ :=
    schedule_spec sound.represents free slotIndex generation timeoutMs
  have head : traced.wheel.freeList = some entry := (sound.represents.filed.fill free slotIndex generation).1
  have taken : traced.schedule slotIndex generation timeoutMs =
      ⟨wheel, traced.accepted + 1, traced.ticks, Function.update traced.label entry traced.accepted⟩ := by
    simp only [Traced.schedule, scheduled, head]
  rw [taken]
  refine ⟨⟨represents, ?_⟩, ⟨rfl, rfl, rfl, tokens, level1, level2, address⟩⟩
  intro other listed
  dsimp only
  by_cases same : other = entry
  · rw [same, Function.update_self]
    exact Nat.lt_succ_self _
  · rw [Function.update_of_ne same]
    have pending := ((mem_scheduled (target_mem ..)).mp listed).resolve_left same
    exact Nat.lt_succ_of_lt (sound.older other pending)

/-- Other calls leave an entry where it is. -/
theorem Stands.accept {left filed : Nat} (stands : Stands choose traced lists filed left) {rest : List Nat}
    {target : Level × Nat} (accepts : Accepts traced next entry given) :
    Stands choose next (scheduledLists lists entry rest target) filed left := by
  unfold Stands untilSpread at stands ⊢
  rw [accepts.level1Current, accepts.level2Current, accepts.ticks]
  rcases stands with ⟨near, listed⟩ | ⟨distance, inside, listed, far⟩
  · exact .inl ⟨near, scheduled_keeps listed⟩
  · exact .inr ⟨distance, inside, scheduled_keeps listed, far⟩

theorem Placed.schedule (placed : Placed choose call given traced place) (slotIndex : UInt32) (generation : UInt8)
    (timeoutMs : UInt32) : Placed choose call given (traced.schedule slotIndex generation timeoutMs) place := by
  obtain ⟨lists, sound, known, there⟩ := placed
  cases free : lists none with
  | nil =>
    rw [schedule_refused sound free]
    exact ⟨lists, sound, known, there⟩
  | cons entry rest =>
    obtain ⟨kept, accepts⟩ := schedule_accepted sound free slotIndex generation timeoutMs
    have unlisted := hierarchical_files.free_unlisted sound.represents free
    refine ⟨_, kept, by rw [accepts.accepted]; exact Nat.lt_succ_of_lt known, ?_⟩
    rw [accepts.label, accepts.tokens]
    exact there.accept known (target_mem ..) unlisted fun _ _ stands => stands.accept accepts

/-! ### Tick -/

theorem current_mem (sound : Sound traced lists) : (Level.one, traced.wheel.level1Current.toNat) ∈ levels.buckets :=
  mem_allBuckets.mpr sound.represents.level1Current

/-- The entries that the next tick reports are those of the current bucket. -/
theorem due_current (sound : Sound traced lists) :
    due traced.wheel = lists (some (.one, traced.wheel.level1Current.toNat)) := by
  obtain ⟨chain, popped⟩ := sound.represents.filed.popAll (current_mem sound)
  exact walk_chain chain (hand_le popped)

/-- A tick that spreads a bucket of level 2 as it likes. -/
theorem tick_sound (sound : Sound traced lists) (spread : Nat → Nat) :
    ∃ next moved, traced.tick (traced.wheel.tickTo spread) = some (next,
        [(lists (some (.one, traced.wheel.level1Current.toNat))).map fun entry =>
          (traced.label entry, traced.wheel.token entry)]) ∧
      Advances spread traced.wheel lists next.wheel moved ∧ Sound next moved ∧ next.accepted = traced.accepted ∧
      next.ticks = traced.ticks + 1 ∧ next.label = traced.label := by
  obtain ⟨wheel, moved, ticks, advances⟩ := tickTo_spec spread sound.represents
  refine ⟨{ traced with wheel, ticks := traced.ticks + 1 }, moved, ?_, advances, ⟨advances.represents, ?_⟩, rfl, rfl, rfl⟩
  · refine Option.bind_eq_some_iff.mpr ⟨_, ticks, ?_⟩
    rw [due_current sound]
    dsimp only
    rw [List.zip_map']
  · intro other listed
    have cut := pending_cut lists (current_mem sound)
    exact sound.older other (cut.mem_iff.mpr (List.mem_append_right _ (advances.pending.mem_iff.mp listed)))

/-- A tick brings an entry that it does not report one nearer. -/
theorem Stands.tick {left : Nat} (stands : Stands choose traced lists entry (left + 1)) (sound : Sound traced lists)
    {moved : Option (Level × Nat) → List Nat}
    (advances : Advances (choose traced.ticks) traced.wheel lists next.wheel moved)
    (ticks : next.ticks = traced.ticks + 1) : Stands choose next moved entry left := by
  have level1 := sound.represents.level1Current
  have level2 := sound.represents.level2Current
  unfold Stands untilSpread at stands ⊢
  rw [advances.level1Current, advances.level2Current, ticks]
  rcases stands with ⟨near, listed⟩ | ⟨distance, inside, listed, far⟩
  · refine .inl ⟨Nat.lt_of_succ_lt near, (advances.one ..).mpr (.inl ⟨by omega, ?_⟩)⟩
    rwa [show ((traced.wheel.level1Current.toNat + 1) % 256 + left) % 256 =
      (traced.wheel.level1Current.toNat + (left + 1)) % 256 by omega]
  · by_cases last : traced.wheel.level1Current.toNat = 255
    · rw [last] at far ⊢
      cases distance with
      | zero =>
        rw [Nat.add_zero, Nat.mod_eq_of_lt level2] at listed
        have chosen : left = choose traced.ticks entry % kLevel1Size := by
          simp only [Nat.sub_self, Nat.mul_zero, Nat.add_zero] at far
          omega
        have bound : choose traced.ticks entry % kLevel1Size < 256 := Nat.mod_lt _ (by decide)
        refine .inl ⟨by omega, (advances.one ..).mpr (.inr ⟨last, listed, ?_⟩)⟩
        omega
      | succ distance =>
        rw [if_pos rfl]
        refine .inr ⟨distance, by omega, (advances.two ..).mpr ⟨by omega, ?_⟩, ?_⟩
        · rwa [show ((traced.wheel.level2Current.toNat + 1) % 256 + distance) % 256 =
            (traced.wheel.level2Current.toNat + (distance + 1)) % 256 by omega]
        · have same : traced.ticks + 1 + (255 - (255 + 1) % 256 + 256 * distance) =
              traced.ticks + (255 - 255 + 256 * (distance + 1)) := by omega
          rw [same]
          omega
    · refine .inr ⟨distance, inside, (advances.two ..).mpr ⟨fun both => last both.1, ?_⟩, ?_⟩
      · rwa [if_neg last]
      · have same : traced.ticks + 1 + (255 - (traced.wheel.level1Current.toNat + 1) % 256 + 256 * distance) =
            traced.ticks + (255 - traced.wheel.level1Current.toNat + 256 * distance) := by omega
        rw [same]
        omega

/-- The next tick reports exactly the entries that no tick comes before. -/
theorem Stands.due_iff {left : Nat} (stands : Stands choose traced lists entry left) (sound : Sound traced lists) :
    entry ∈ lists (some (.one, traced.wheel.level1Current.toNat)) ↔ left = 0 := by
  have level1 := sound.represents.level1Current
  have current := current_mem sound
  have inside : ∀ level place, (level, place % 256) ∈ levels.buckets :=
    fun level place => mem_allBuckets.mpr (Nat.mod_lt _ (by decide))
  rcases stands with ⟨near, listed⟩ | ⟨distance, -, listed, far⟩
  · constructor
    · intro here
      have same := (Prod.mk.inj (bucket_unique sound.holds current (inside ..) here listed)).2
      omega
    · rintro rfl
      rwa [Nat.add_zero, Nat.mod_eq_of_lt level1] at listed
  · constructor
    · intro here
      cases (Prod.mk.inj (bucket_unique sound.holds current (inside ..) here listed)).1
    · omega

/-- A tick reports the entry or brings it one nearer. -/
theorem Placed.tick (placed : Placed choose call given traced place) :
    ∃ next report, traced.stepTo choose .tick = some (next, [report]) ∧
      Placed choose call given next (place.bind Nat.ppred) ∧
      report.filter (·.1 = call) = if place = some 0 then [(call, given)] else [] := by
  obtain ⟨lists, sound, known, there⟩ := placed
  obtain ⟨next, moved, taken, advances, kept, accepted, ticks, label⟩ := tick_sound sound (choose traced.ticks)
  have current := current_mem sound
  have within : ∀ other ∈ lists (some (.one, traced.wheel.level1Current.toNat)), other ∈ levels.pending lists :=
    fun other listed => mem_pending.mpr ⟨_, current, listed⟩
  have soon : ∀ entry left, Stands choose traced lists entry left →
      (entry ∈ lists (some (.one, traced.wheel.level1Current.toNat)) ↔ left = 0) :=
    fun _ _ stands => stands.due_iff sound
  refine ⟨next, _, taken, ⟨moved, kept, accepted ▸ known, ?_⟩, ?_⟩
  · rw [label, advances.tokens]
    exact there.tick (fun _ => advances.pending.mem_iff.trans (mem_cut sound.holds current)) soon
      fun _ _ stands => stands.tick sound advances ticks
  · exact there.reported within (List.nodup_append.mp (bucket_once sound.holds current)).1 soon

/-! ### Runs -/

/-- How many ticks come before the one that reports an entry that is scheduled now. -/
def ticksLeft (choose : Nat → Nat → Nat) (traced : Traced) (entry : Nat) (timeoutMs : UInt32) : Nat :=
  if timeoutMs.toNat < 256 then timeoutMs.toNat
  else
    untilSpread traced (timeoutMs.toNat / 256 % 256) + 1 +
      choose (traced.ticks + untilSpread traced (timeoutMs.toNat / 256 % 256)) entry % kLevel1Size

/-- A scheduled entry stands where its timeout puts it. -/
theorem scheduled_stands (sound : Sound traced lists) {rest : List Nat} (timeoutMs : UInt32)
    (accepts : Accepts traced next entry given) :
    Stands choose next (scheduledLists lists entry rest (traced.wheel.target timeoutMs)) entry
      (ticksLeft choose traced entry timeoutMs) := by
  have here : entry ∈ scheduledLists lists entry rest (traced.wheel.target timeoutMs)
      (some (traced.wheel.target timeoutMs)) := by
    rw [scheduledLists, Function.update_self]
    exact List.mem_cons_self
  have level2 := sound.represents.level2Current
  unfold Stands ticksLeft untilSpread
  rw [accepts.level1Current, accepts.level2Current, accepts.ticks]
  by_cases short : timeoutMs.toNat < 256
  · rw [if_pos short]
    refine .inl ⟨short, ?_⟩
    have target : traced.wheel.target timeoutMs = (.one, (traced.wheel.level1Current.toNat + timeoutMs.toNat) % 256) := by
      rw [HierarchicalTimingWheel.target, if_pos (show timeoutMs.toNat < kLevel1Size * kLevel1TickMs from short),
        UInt32.toNat_add, kLevel1Size, Nat.mod_mod_of_dvd _ (by decide)]
    rwa [target] at here ⊢
  · rw [if_neg short]
    refine .inr ⟨timeoutMs.toNat / 256 % 256, Nat.mod_lt _ (by decide), ?_, rfl⟩
    have target : traced.wheel.target timeoutMs =
        (.two, (traced.wheel.level2Current.toNat + timeoutMs.toNat / 256 % 256) % 256) := by
      rw [HierarchicalTimingWheel.target, if_neg (show ¬timeoutMs.toNat < kLevel1Size * kLevel1TickMs from short),
        UInt32.toNat_add, UInt32.toNat_div, kLevel2Size, Nat.mod_mod_of_dvd _ (by decide), Nat.add_mod_mod]
      rfl
    rwa [target] at here ⊢

/-- An accepted call is in the vector of the tick that its timeout and the choice of buckets name, and in no other. -/
theorem accepted_reports (choose : Nat → Nat → Nat) (sound : Sound traced lists) {slotIndex : UInt32}
    {generation : UInt8} {timeoutMs : UInt32}
    (accepted : (traced.wheel.schedule slotIndex generation timeoutMs).1 = true) :
    ∃ entry, traced.wheel.freeList = some entry ∧ ∀ events, ∃ last reports,
      run (Traced.stepTo choose) (traced.schedule slotIndex generation timeoutMs) events = some (last, reports) ∧
      reports.length = events.count .tick ∧ ∀ tick report, reports[tick]? = some report →
        report.filter (·.1 = traced.accepted) =
          if ticksLeft choose traced entry timeoutMs = tick then [(traced.accepted, (slotIndex, generation))] else [] := by
  cases free : lists none with
  | nil =>
    rw [schedule_full sound.represents free] at accepted
    cases accepted
  | cons entry rest =>
    obtain ⟨kept, accepts⟩ := schedule_accepted sound free slotIndex generation timeoutMs
    refine ⟨entry, (sound.represents.filed.fill free slotIndex generation).1, fun events => ?_⟩
    have placed : Placed choose traced.accepted (slotIndex, generation)
        (traced.schedule slotIndex generation timeoutMs) (some (ticksLeft choose traced entry timeoutMs)) := by
      refine ⟨_, kept, by rw [accepts.accepted]; exact Nat.lt_succ_self _, entry, ?_, scheduled_stands sound timeoutMs accepts⟩
      rw [accepts.label, accepts.tokens]
      exact .accepted sound.older (target_mem ..)
    obtain ⟨last, reports, ran, count, found⟩ := run_reports (Placed choose _ _)
      (fun _ _ slotIndex generation timeoutMs placed => ⟨_, rfl, placed.schedule slotIndex generation timeoutMs⟩)
      (fun _ _ placed => placed.tick) placed events
    refine ⟨last, reports, ran, count, fun tick report listed => ?_⟩
    rw [found tick report listed]
    simp only [Option.some.injEq]

theorem step_sound (sound : Sound traced lists) {event : Event} {reports : List Report}
    (stepped : traced.stepTo choose event = some (next, reports)) :
    (∃ lists, Sound next lists) ∧ next.wheel.poolAddress = traced.wheel.poolAddress := by
  cases event with
  | schedule slotIndex generation timeoutMs =>
    obtain ⟨rfl, -⟩ := Prod.mk.inj (Option.some.inj stepped)
    cases free : lists none with
    | nil =>
      rw [schedule_refused sound free]
      exact ⟨⟨lists, sound⟩, rfl⟩
    | cons entry rest =>
      obtain ⟨kept, accepts⟩ := schedule_accepted sound free slotIndex generation timeoutMs
      exact ⟨⟨_, kept⟩, accepts.poolAddress⟩
  | tick =>
    obtain ⟨after, moved, taken, advances, kept, -⟩ := tick_sound sound (choose traced.ticks)
    obtain ⟨rfl, -⟩ := Prod.mk.inj (Option.some.inj (taken.symm.trans stepped))
    exact ⟨⟨_, kept⟩, advances.poolAddress⟩

theorem reached_sound {poolAddress : UInt64} {events : List Event} {reports : List Report}
    (ran : run (Traced.stepTo choose) (.start poolAddress) events = some (traced, reports)) :
    ∃ lists, Sound traced lists := by
  have always : Meets (Traced.stepTo choose) (fun _ _ => True) (.start poolAddress) events :=
    meets_of_forall fun _ _ => trivial
  have progress : ∀ (state : Traced) event next outputs, (∃ lists, Sound state lists) → True →
      state.stepTo choose event = some (next, outputs) → ∃ lists, Sound next lists := by
    rintro state event next outputs ⟨lists, sound⟩ - stepped
    exact (step_sound sound stepped).1
  exact invariant_of_run progress ⟨_, start_sound poolAddress⟩ always ran

/-- The code chooses by the addresses of the entries, which do not change. -/
theorem run_step (sound : Sound traced lists) (events : List Event) :
    run Traced.step traced events = run (Traced.stepTo fun _ => traced.wheel.chosen) traced events := by
  have same : ∀ state event, (∃ lists, Sound state lists) ∧ state.wheel.poolAddress = traced.wheel.poolAddress →
      state.stepTo (fun _ => traced.wheel.chosen) event = state.step event := by
    intro state event invariant
    have chosen : state.wheel.chosen = traced.wheel.chosen := by
      unfold HierarchicalTimingWheel.chosen
      rw [invariant.2]
    cases event with
    | schedule slotIndex generation timeoutMs => rfl
    | tick => rw [Traced.step, Traced.stepTo, tick_eq, chosen]
  refine (run_congr same (fun state event next outputs invariant stepped => ?_) ⟨⟨lists, sound⟩, rfl⟩ events).symm
  obtain ⟨⟨lists, sound⟩, address⟩ := invariant
  obtain ⟨kept, unmoved⟩ := step_sound sound stepped
  exact ⟨kept, unmoved.trans address⟩

/-! ### Never early -/

/-- No tick before as many as the timeout reports the call. -/
def NeverEarly (next : Traced) (call : Nat) (timeoutMs : UInt32) : Prop :=
  ∀ events last reports, run Traced.step next events = some (last, reports) → ∀ tick < timeoutMs.toNat, ∀ report,
    reports[tick]? = some report → ∀ element ∈ report, element.1 ≠ call

/-- An accepted entry is not reported early if and only if as many ticks as its timeout come before its report. -/
theorem never_early_of_sound (sound : Sound traced lists) {slotIndex : UInt32} {generation : UInt8} {timeoutMs : UInt32}
    (accepted : (traced.wheel.schedule slotIndex generation timeoutMs).1 = true) :
    ∃ entry, traced.wheel.freeList = some entry ∧
      (∀ events, ∃ last reports,
        run Traced.step (traced.schedule slotIndex generation timeoutMs) events = some (last, reports)) ∧
      (NeverEarly (traced.schedule slotIndex generation timeoutMs) traced.accepted timeoutMs ↔
        timeoutMs.toNat ≤ ticksLeft (fun _ => traced.wheel.chosen) traced entry timeoutMs) := by
  obtain ⟨entry, free, later⟩ := accepted_reports (fun _ => traced.wheel.chosen) sound accepted
  have taken : traced.stepTo (fun _ => traced.wheel.chosen) (.schedule slotIndex generation timeoutMs) =
      some (traced.schedule slotIndex generation timeoutMs, []) := rfl
  obtain ⟨⟨filed, kept⟩, address⟩ := step_sound sound taken
  have same : (traced.schedule slotIndex generation timeoutMs).wheel.chosen = traced.wheel.chosen := by
    unfold HierarchicalTimingWheel.chosen
    rw [address]
  have runs : ∀ events, run Traced.step (traced.schedule slotIndex generation timeoutMs) events =
      run (Traced.stepTo fun _ => traced.wheel.chosen) (traced.schedule slotIndex generation timeoutMs) events := by
    intro events
    rw [run_step kept, same]
  refine ⟨entry, free, fun events => ?_, ?_, ?_⟩
  · obtain ⟨last, reports, ran, -⟩ := later events
    exact ⟨last, reports, (runs events).trans ran⟩
  · intro never
    by_contra early
    obtain ⟨last, reports, ran, ticks, found⟩ :=
      later (List.replicate (ticksLeft (fun _ => traced.wheel.chosen) traced entry timeoutMs + 1) .tick)
    rw [List.count_replicate_self] at ticks
    have listed := List.getElem?_eq_getElem
      (ticks ▸ Nat.lt_succ_self _ : ticksLeft (fun _ => traced.wheel.chosen) traced entry timeoutMs < reports.length)
    have reported := found _ _ listed
    rw [if_pos rfl] at reported
    have element := List.mem_of_mem_filter (reported ▸ List.mem_singleton_self (traced.accepted, (slotIndex, generation)))
    exact never _ _ _ ((runs _).trans ran) _ (Nat.lt_of_not_le early) _ listed _ element rfl
  · intro inTime events last reports ran tick before report listed element member called
    obtain ⟨final, others, again, -, found⟩ := later events
    obtain ⟨-, rfl⟩ := Prod.mk.inj (Option.some.inj (again.symm.trans ((runs events).symm.trans ran)))
    have nothing := found tick report listed
    rw [if_neg (by omega), List.filter_eq_nil_iff] at nothing
    exact nothing element member (by simpa using called)

/-- An entry that the wheel accepts is not reported early, whatever else is scheduled, if and only if its timeout is
    short, or no longer than the way to the tick that spreads its bucket and on to the bucket of its address. -/
theorem never_early_iff {poolAddress : UInt64} {events : List Event} {reports : List Report}
    (ran : run Traced.step (.start poolAddress) events = some (traced, reports)) {slotIndex : UInt32}
    {generation : UInt8} {timeoutMs : UInt32}
    (accepted : (traced.wheel.schedule slotIndex generation timeoutMs).1 = true) :
    ∃ entry, traced.wheel.freeList = some entry ∧
      (∀ events, ∃ last reports,
        run Traced.step (traced.schedule slotIndex generation timeoutMs) events = some (last, reports)) ∧
      (NeverEarly (traced.schedule slotIndex generation timeoutMs) traced.accepted timeoutMs ↔
        timeoutMs.toNat < 256 ∨
        timeoutMs.toNat ≤ 256 - traced.wheel.level1Current.toNat + 256 * (timeoutMs.toNat / 256 % 256) +
          (traced.wheel.demotionTarget entry).2) := by
  rw [run_step (start_sound poolAddress)] at ran
  obtain ⟨lists, sound⟩ := reached_sound ran
  obtain ⟨entry, free, defined, never⟩ := never_early_of_sound sound accepted
  refine ⟨entry, free, defined, never.trans ?_⟩
  have level1 := sound.represents.level1Current
  have bucket : (traced.wheel.demotionTarget entry).2 = traced.wheel.chosen entry % kLevel1Size := rfl
  unfold ticksLeft untilSpread
  rw [bucket]
  dsimp only
  split <;> omega

/-- A timeout of 300 on a new wheel. -/
theorem long_timeout_not_early : NeverEarly ((Traced.start 16384).schedule 3 1 300) 0 300 := by
  have ran : run Traced.step (.start 16384) [] = some (_, []) := rfl
  have accepted : ((Traced.start 16384).wheel.schedule 3 1 300).1 = true := rfl
  obtain ⟨entry, -, -, early⟩ := never_early_iff ran accepted
  refine early.mpr (.inr ?_)
  change 300 ≤ 256 - 0 + 256 * 1 + _
  omega

/-- After two ticks of a wheel whose first entry has an address that chooses bucket 0, a timeout of 511 is reported by
    the 511th tick, one early. -/
theorem late_phase_early : ∃ traced reports, run Traced.step (.start 16384) [.tick, .tick] = some (traced, reports) ∧
    (traced.wheel.schedule 3 1 511).1 = true ∧ ¬NeverEarly (traced.schedule 3 1 511) traced.accepted 511 := by
  have two : (run Traced.step (.start 16384) [.tick, .tick]).map (fun result =>
      (result.1.wheel.level1Current, result.1.wheel.freeList, result.1.wheel.poolAddress)) = some (2, some 0, 16384) := by
    decide +kernel
  obtain ⟨⟨traced, reports⟩, ran, shape⟩ := Option.map_eq_some_iff.mp two
  obtain ⟨level1, free, address⟩ : traced.wheel.level1Current = 2 ∧ traced.wheel.freeList = some 0 ∧
      traced.wheel.poolAddress = 16384 := by simpa using shape
  have accepted : (traced.wheel.schedule 3 1 511).1 = true := by
    simp only [HierarchicalTimingWheel.schedule, HierarchicalTimingWheel.allocEntry, free]
  have reached := ran
  rw [run_step (start_sound 16384)] at reached
  obtain ⟨lists, sound⟩ := reached_sound reached
  obtain ⟨entry, head, -, never⟩ := never_early_of_sound sound accepted
  obtain rfl : 0 = entry := Option.some.inj (free.symm.trans head)
  refine ⟨traced, reports, ran, accepted, fun inTime => ?_⟩
  have left : ticksLeft (fun _ => traced.wheel.chosen) traced 0 511 = 510 := by
    unfold ticksLeft untilSpread HierarchicalTimingWheel.chosen
    rw [level1, address]
    dsimp only
    decide
  have late := never.mp inTime
  rw [left] at late
  exact absurd late (by decide)

/-! ### Never late by more than 511 -/

/-- The call is in the vector of one of the next `bound` ticks, once there are as many. -/
def ReportedWithin (choose : Nat → Nat → Nat) (next : Traced) (call : Nat) (given : Token) (bound : Nat) : Prop :=
  ∀ events last reports, run (Traced.stepTo choose) next events = some (last, reports) → bound ≤ events.count .tick →
    ∃ tick < bound, ∃ report, reports[tick]? = some report ∧ (call, given) ∈ report

/-- The call is in the vector of the tick that `tick` others come before, and in no other. -/
def ReportedBy (choose : Nat → Nat → Nat) (next : Traced) (call : Nat) (given : Token) (tick : Nat) : Prop :=
  ∀ events last reports, run (Traced.stepTo choose) next events = some (last, reports) →
    reports.length = events.count .tick ∧ ∀ index report, reports[index]? = some report →
      report.filter (·.1 = call) = if index = tick then [(call, given)] else []

theorem ticksLeft_lt (choose : Nat → Nat → Nat) (traced : Traced) (entry : Nat) {timeoutMs : UInt32} (short : timeoutMs.toNat < 65536) :
    ticksLeft choose traced entry timeoutMs < timeoutMs.toNat + 512 := by
  unfold ticksLeft untilSpread
  have bound := Nat.mod_lt (choose (traced.ticks +
    (255 - traced.wheel.level1Current.toNat + 256 * (timeoutMs.toNat / 256 % 256))) entry) (by decide : 0 < kLevel1Size)
  unfold kLevel1Size at bound ⊢
  split <;> omega

/-- Whatever level 1 bucket the spreading chooses for each entry, an entry with a timeout that level 2 covers is
    reported by one of the first 512 ticks after as many as its timeout, and one of level 1 exactly on time. -/
theorem lateness_bound {poolAddress : UInt64} {events : List Event} {reports : List Report}
    (ran : run (Traced.stepTo choose) (.start poolAddress) events = some (traced, reports)) {slotIndex : UInt32}
    {generation : UInt8} {timeoutMs : UInt32}
    (accepted : (traced.wheel.schedule slotIndex generation timeoutMs).1 = true) (short : timeoutMs.toNat < 65536) :
    (∀ events, ∃ last reports,
      run (Traced.stepTo choose) (traced.schedule slotIndex generation timeoutMs) events = some (last, reports)) ∧
    ReportedWithin choose (traced.schedule slotIndex generation timeoutMs) traced.accepted (slotIndex, generation)
      (timeoutMs.toNat + 512) ∧
    (timeoutMs.toNat < 256 →
      ReportedBy choose (traced.schedule slotIndex generation timeoutMs) traced.accepted (slotIndex, generation)
        timeoutMs.toNat) := by
  obtain ⟨lists, sound⟩ := reached_sound ran
  obtain ⟨entry, -, later⟩ := accepted_reports choose sound accepted
  have bound := ticksLeft_lt choose traced entry short
  refine ⟨fun events => ?_, ?_, ?_⟩
  · obtain ⟨last, reports, ran, -⟩ := later events
    exact ⟨last, reports, ran⟩
  · intro events last reports ran enough
    obtain ⟨final, others, again, ticks, found⟩ := later events
    obtain ⟨-, rfl⟩ := Prod.mk.inj (Option.some.inj (again.symm.trans ran))
    have listed := List.getElem?_eq_getElem
      (by omega : ticksLeft choose traced entry timeoutMs < others.length)
    have reported := found _ _ listed
    rw [if_pos rfl] at reported
    exact ⟨_, bound, _, listed, List.mem_of_mem_filter (reported ▸ List.mem_singleton_self _)⟩
  · intro exact events last reports ran
    obtain ⟨final, others, again, ticks, found⟩ := later events
    obtain ⟨-, rfl⟩ := Prod.mk.inj (Option.some.inj (again.symm.trans ran))
    refine ⟨ticks, fun index report listed => ?_⟩
    rw [found index report listed, ticksLeft, if_pos exact]
    simp only [eq_comm]

/-- A timeout of 30 seconds on a new wheel whose entries all go to the last bucket. -/
theorem thirty_seconds_bounded :
    ReportedWithin (fun _ _ => 255) ((Traced.start 0).schedule 3 1 30000) 0 (3, 1) 30512 := by
  have ran : run (Traced.stepTo fun _ _ => 255) (.start 0) [] = some (_, []) := rfl
  have accepted : ((Traced.start 0).wheel.schedule 3 1 30000).1 = true := rfl
  exact (lateness_bound ran accepted (by decide)).2.1

end Rdma.HierarchicalExpiries
