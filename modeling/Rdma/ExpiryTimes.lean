import Rdma.Labels
import Rdma.SharedWheels

/-!
When the single-level timing wheel reports an entry. Each call of `Schedule`
that is accepted gets a number, a history variable remembers which call has
filled an entry, and the vector of a `Tick` carries the numbers beside the
tokens. An entry is reported once, after as many ticks as its timeout leaves
when divided by the size of the wheel (`accepted_reports`), so on time exactly if
its timeout is less than that size (`expires_on_time_iff`).
-/
namespace Rdma.ExpiryTimes
open Rdma.Chains Rdma.Runs Rdma.TimingWheels Rdma.WheelRuns
open Rdma.SharedWheels (walk walk_current)
open Rdma.Labels

/-- A wheel, how many calls of `Schedule` it has accepted, and which of these filled an entry last. -/
structure Traced where
  wheel : TimingWheel
  accepted : Nat
  label : Nat → Nat

/-- The vector that a tick fills, with the number of the call that scheduled each element. -/
abbrev Report := List (Nat × Token)

/-- The entries that the next tick reports. -/
def due (wheel : TimingWheel) : List Nat :=
  walk wheel.entryPool kMaxEntries (wheel.buckets wheel.current.toNat).head

def Traced.step (traced : Traced) : Event → Option (Traced × List Report)
  | .schedule slotIndex generation timeout =>
    match traced.wheel.schedule slotIndex generation timeout, traced.wheel.freeList with
    | (true, wheel), some entry =>
      some (⟨wheel, traced.accepted + 1, Function.update traced.label entry traced.accepted⟩, [])
    | (_, wheel), _ => some ({ traced with wheel }, [])
  | .tick => do
    let (expired, wheel) ← traced.wheel.tick
    some ({ traced with wheel }, [((due traced.wheel).map traced.label).zip expired])

def Traced.start : Traced := ⟨.create, 0, fun _ => 0⟩

/-! ### Where an entry is -/

/-- The wheel holds the lists, and its pending entries were filled by calls that are counted. -/
structure Sound (traced : Traced) (lists : Option Nat → List Nat) : Prop where
  represents : Represents traced.wheel lists
  older : ∀ entry ∈ layout.pending lists, traced.label entry < traced.accepted

/-- The entry stands where `left` ticks come before the one that reports it. -/
def Stands (traced : Traced) (lists : Option Nat → List Nat) (entry left : Nat) : Prop :=
  left < kWheelSize ∧ entry ∈ lists (some ((traced.wheel.current.toNat + left) % kWheelSize))

/-- The wheel has an entry of the call that so many ticks come before, or none. -/
def Placed (call : Nat) (given : Token) (traced : Traced) (place : Option Nat) : Prop :=
  ∃ lists, Sound traced lists ∧ call < traced.accepted ∧
    Filed layout lists traced.label traced.wheel.token call given (Stands traced lists) place

variable {traced next : Traced} {lists : Option Nat → List Nat} {entry call : Nat} {given : Token} {place : Option Nat}

theorem Sound.holds (sound : Sound traced lists) : Holds layout traced.wheel.links lists [] := sound.represents.filed.holds

/-! ### Steps -/

theorem start_sound : Sound .start (firstLists kMaxEntries) where
  represents := create_represents
  older := by
    intro entry listed
    obtain ⟨bucket, -, impossible⟩ := mem_pending.mp listed
    cases impossible

theorem step_full (sound : Sound traced lists) (full : lists none = []) (slotIndex : UInt32) (generation : UInt8)
    (timeout : UInt32) : traced.step (.schedule slotIndex generation timeout) = some (traced, []) := by
  have refused := schedule_full sound.represents full slotIndex generation timeout
  simp only [Traced.step, refused]

/-- An accepted call fills an entry, which gets the call's number. -/
theorem step_accepted (sound : Sound traced lists) {rest : List Nat} (free : lists none = entry :: rest)
    (slotIndex : UInt32) (generation : UInt8) (timeout : UInt32) :
    ∃ next, traced.step (.schedule slotIndex generation timeout) = some (next, []) ∧
      Sound next (scheduledLists lists entry rest (traced.wheel.target timeout)) ∧
      next.accepted = traced.accepted + 1 ∧ next.label = Function.update traced.label entry traced.accepted ∧
      next.wheel.token = Function.update traced.wheel.token entry (slotIndex, generation) ∧
      next.wheel.current = traced.wheel.current := by
  obtain ⟨wheel, scheduled, represents, tokens, current⟩ :=
    schedule_spec sound.represents free slotIndex generation timeout
  have head : traced.wheel.freeList = some entry := (sound.represents.filed.fill free slotIndex generation).1
  refine ⟨⟨wheel, traced.accepted + 1, Function.update traced.label entry traced.accepted⟩, ?_, ⟨represents, ?_⟩, rfl, rfl,
    tokens, current⟩
  · simp only [Traced.step, scheduled, head]
  · intro other listed
    dsimp only
    by_cases same : other = entry
    · rw [same, Function.update_self]
      exact Nat.lt_succ_self _
    · rw [Function.update_of_ne same]
      have pending := ((mem_scheduled (mem_buckets.mpr (target_lt ..))).mp listed).resolve_left same
      exact Nat.lt_succ_of_lt (sound.older other pending)

/-- A tick reports the entries of the current bucket. -/
theorem step_tick (sound : Sound traced lists) :
    ∃ next freed, traced.step .tick = some (next, [(lists (some traced.wheel.current.toNat)).map fun entry =>
        (traced.label entry, traced.wheel.token entry)]) ∧
      Sound next (Function.update (Function.update lists (some traced.wheel.current.toNat) []) none freed) ∧
      next.accepted = traced.accepted ∧ next.label = traced.label ∧ next.wheel.token = traced.wheel.token ∧
      next.wheel.current.toNat = (traced.wheel.current.toNat + 1) % kWheelSize := by
  obtain ⟨wheel, freed, ticks, represents, tokens, current⟩ := tick_spec sound.represents
  refine ⟨{ traced with wheel }, freed, ?_, ⟨represents, ?_⟩, rfl, rfl, tokens, current⟩
  · refine Option.bind_eq_some_iff.mpr ⟨_, ticks, ?_⟩
    rw [due, walk_current sound.represents]
    dsimp only
    rw [List.zip_map']
  · intro other listed
    rw [pending_free] at listed
    have cut := pending_cut lists (mem_buckets.mpr sound.represents.current)
    exact sound.older other (cut.mem_iff.mpr (List.mem_append_right _ listed))

/-- A scheduled entry stands where its timeout puts it. -/
theorem scheduled_stands (rest : List Nat) (timeout : UInt32) (current : next.wheel.current = traced.wheel.current) :
    Stands next (scheduledLists lists entry rest (traced.wheel.target timeout)) entry (timeout.toNat % kWheelSize) := by
  refine ⟨Nat.mod_lt _ (by decide), ?_⟩
  have target : (next.wheel.current.toNat + timeout.toNat % kWheelSize) % kWheelSize = traced.wheel.target timeout := by
    rw [current, TimingWheel.target, UInt32.toNat_add, Nat.mod_mod_of_dvd _ (by decide), Nat.add_mod_mod]
  rw [target, scheduledLists, Function.update_self]
  exact List.mem_cons_self

/-- Other calls leave the entry where it is. -/
theorem Placed.schedule (placed : Placed call given traced place) (slotIndex : UInt32) (generation : UInt8)
    (timeout : UInt32) :
    ∃ next, traced.step (.schedule slotIndex generation timeout) = some (next, []) ∧ Placed call given next place := by
  obtain ⟨lists, sound, known, there⟩ := placed
  cases free : lists none with
  | nil => exact ⟨traced, step_full sound free .., lists, sound, known, there⟩
  | cons entry rest =>
    obtain ⟨next, taken, kept, accepted, label, tokens, current⟩ :=
      step_accepted sound free slotIndex generation timeout
    have unlisted := single_files.free_unlisted sound.represents free
    refine ⟨next, taken, _, kept, accepted ▸ Nat.lt_succ_of_lt known, ?_⟩
    rw [label, tokens]
    refine there.accept known (mem_buckets.mpr (target_lt ..)) unlisted fun filed left stands => ⟨stands.1, ?_⟩
    rw [current]
    exact scheduled_keeps stands.2

/-- The next tick reports exactly the entries that no tick comes before. -/
theorem Stands.due_iff {left : Nat} (stands : Stands traced lists entry left) (sound : Sound traced lists) :
    entry ∈ lists (some traced.wheel.current.toNat) ↔ left = 0 := by
  have below := sound.represents.current
  obtain ⟨near, listed⟩ := stands
  constructor
  · intro here
    have same := bucket_unique sound.holds (mem_buckets.mpr (Nat.mod_lt _ (by decide))) (mem_buckets.mpr below) listed here
    unfold kWheelSize at below near same
    omega
  · rintro rfl
    rwa [Nat.add_zero, Nat.mod_eq_of_lt below] at listed

/-- A tick brings an entry that it does not report one nearer. -/
theorem Stands.tick {left : Nat} (stands : Stands traced lists entry (left + 1)) (sound : Sound traced lists)
    {freed : List Nat} (current : next.wheel.current.toNat = (traced.wheel.current.toNat + 1) % kWheelSize) :
    Stands next (Function.update (Function.update lists (some traced.wheel.current.toNat) []) none freed) entry left := by
  have below := sound.represents.current
  obtain ⟨near, listed⟩ := stands
  have bucket : (next.wheel.current.toNat + left) % kWheelSize =
      (traced.wheel.current.toNat + (left + 1)) % kWheelSize := by
    rw [current, Nat.mod_add_mod, Nat.add_assoc, Nat.add_comm 1]
  have apart : (traced.wheel.current.toNat + (left + 1)) % kWheelSize ≠ traced.wheel.current.toNat := by
    unfold kWheelSize at below near ⊢
    omega
  refine ⟨Nat.lt_of_succ_lt near, ?_⟩
  rw [bucket, Function.update_of_ne (Option.some_ne_none _), Function.update_of_ne (by simpa using apart)]
  exact listed

/-- A tick reports the entry or brings it one nearer. -/
theorem Placed.tick (placed : Placed call given traced place) :
    ∃ next report, traced.step .tick = some (next, [report]) ∧ Placed call given next (place.bind Nat.ppred) ∧
      report.filter (·.1 = call) = if place = some 0 then [(call, given)] else [] := by
  obtain ⟨lists, sound, known, there⟩ := placed
  obtain ⟨next, freed, taken, kept, accepted, label, tokens, current⟩ := step_tick sound
  have inside : traced.wheel.current.toNat ∈ layout.buckets := mem_buckets.mpr sound.represents.current
  have within : ∀ other ∈ lists (some traced.wheel.current.toNat), other ∈ layout.pending lists :=
    fun _ listed => mem_pending.mpr ⟨_, inside, listed⟩
  have soon : ∀ entry left, Stands traced lists entry left →
      (entry ∈ lists (some traced.wheel.current.toNat) ↔ left = 0) := fun _ _ stands => stands.due_iff sound
  refine ⟨next, _, taken, ⟨_, kept, accepted ▸ known, ?_⟩, ?_⟩
  · rw [label, tokens]
    refine there.tick (fun other => ?_) soon fun _ _ stands => stands.tick sound current
    rw [pending_free]
    exact mem_cut sound.holds inside
  · exact there.reported within (List.nodup_append.mp (bucket_once sound.holds inside)).1 soon

/-! ### Runs -/

theorem reached_sound {events : List Event} {reports : List Report}
    (ran : run Traced.step .start events = some (traced, reports)) : ∃ lists, Sound traced lists := by
  have progress : ∀ state event next outputs, (∃ lists, Sound state lists) → True →
      state.step event = some (next, outputs) → ∃ lists, Sound next lists := by
    rintro state event next outputs ⟨lists, sound⟩ - stepped
    cases event with
    | schedule slotIndex generation timeout =>
      cases free : lists none with
      | nil =>
        obtain ⟨rfl, -⟩ := Prod.mk.inj (Option.some.inj ((step_full sound free ..).symm.trans stepped))
        exact ⟨lists, sound⟩
      | cons entry rest =>
        obtain ⟨after, taken, kept, -⟩ := step_accepted sound free slotIndex generation timeout
        obtain ⟨rfl, -⟩ := Prod.mk.inj (Option.some.inj (taken.symm.trans stepped))
        exact ⟨_, kept⟩
    | tick =>
      obtain ⟨after, freed, taken, kept, -⟩ := step_tick sound
      obtain ⟨rfl, -⟩ := Prod.mk.inj (Option.some.inj (taken.symm.trans stepped))
      exact ⟨_, kept⟩
  have always : Meets Traced.step (fun _ _ => True) .start events := meets_of_forall fun _ _ => trivial
  exact invariant_of_run progress ⟨_, start_sound⟩ always ran

/-- The entry of an accepted call is where its timeout puts it. -/
theorem accepted_reports (sound : Sound traced lists) {slotIndex : UInt32} {generation : UInt8} {timeout : UInt32}
    (accepted : (traced.wheel.schedule slotIndex generation timeout).1 = true) :
    ∃ next, traced.step (.schedule slotIndex generation timeout) = some (next, []) ∧ ∀ events, ∃ last reports,
      run Traced.step next events = some (last, reports) ∧ reports.length = events.count .tick ∧
        ∀ tick report, reports[tick]? = some report → report.filter (·.1 = traced.accepted) =
          if timeout.toNat % kWheelSize = tick then [(traced.accepted, (slotIndex, generation))] else [] := by
  cases free : lists none with
  | nil =>
    rw [schedule_full sound.represents free] at accepted
    cases accepted
  | cons entry rest =>
    obtain ⟨next, taken, kept, count, label, tokens, current⟩ :=
      step_accepted sound free slotIndex generation timeout
    refine ⟨next, taken, fun events => ?_⟩
    have placed : Placed traced.accepted (slotIndex, generation) next (some (timeout.toNat % kWheelSize)) := by
      refine ⟨_, kept, count ▸ Nat.lt_succ_self _, entry, ?_, scheduled_stands rest timeout current⟩
      rw [label, tokens]
      exact .accepted sound.older (mem_buckets.mpr (target_lt ..))
    obtain ⟨last, reports, ran, ticks, found⟩ := run_reports (Placed _ _)
      (fun _ _ slotIndex generation timeout placed => placed.schedule slotIndex generation timeout)
      (fun _ _ placed => placed.tick) placed events
    refine ⟨last, reports, ran, ticks, fun tick report listed => ?_⟩
    rw [found tick report listed]
    simp only [Option.some.injEq]

/-- The call is in the vector of the tick behind as many ticks as its timeout, and in no other. -/
def OnTime (next : Traced) (call : Nat) (token : Token) (timeout : UInt32) : Prop :=
  ∀ events last reports, run Traced.step next events = some (last, reports) → ∀ tick report,
    reports[tick]? = some report → report.filter (·.1 = call) = if tick = timeout.toNat then [(call, token)] else []

/-- An entry that the wheel accepts is reported on time, whatever else is scheduled, if and only if its timeout is less
    than the size of the wheel. -/
theorem expires_on_time_iff {events : List Event} {reports : List Report}
    (ran : run Traced.step .start events = some (traced, reports)) {slotIndex : UInt32} {generation : UInt8}
    {timeout : UInt32} (accepted : (traced.wheel.schedule slotIndex generation timeout).1 = true) :
    ∃ next, traced.step (.schedule slotIndex generation timeout) = some (next, []) ∧
      (∀ events, ∃ last reports, run Traced.step next events = some (last, reports)) ∧
      (OnTime next traced.accepted (slotIndex, generation) timeout ↔ timeout.toNat < kWheelSize) := by
  obtain ⟨lists, sound⟩ := reached_sound ran
  obtain ⟨next, taken, later⟩ := accepted_reports sound accepted
  refine ⟨next, taken, fun events => ?_, ?_, ?_⟩
  · obtain ⟨last, reports, ran, -⟩ := later events
    exact ⟨last, reports, ran⟩
  · intro onTime
    by_contra long
    obtain ⟨last, reports, ran, ticks, found⟩ := later (List.replicate (timeout.toNat % kWheelSize + 1) .tick)
    rw [List.count_replicate_self] at ticks
    have listed := List.getElem?_eq_getElem (ticks ▸ Nat.lt_succ_self _ : timeout.toNat % kWheelSize < reports.length)
    have early := found _ _ listed
    rw [if_pos rfl, onTime _ _ _ ran _ _ listed, if_neg] at early
    · cases early
    · have inside : timeout.toNat % kWheelSize < kWheelSize := Nat.mod_lt _ (by decide)
      omega
  · intro short events last reports ran tick report listed
    obtain ⟨final, others, again, -, found⟩ := later events
    obtain ⟨-, rfl⟩ := Prod.mk.inj (Option.some.inj (again.symm.trans ran))
    rw [found tick report listed, Nat.mod_eq_of_lt short]
    simp only [eq_comm]

/-- A timeout of five ticks on a new wheel. -/
theorem short_timeout_on_time : ∃ next, Traced.start.step (.schedule 3 1 5) = some (next, []) ∧
    OnTime next 0 (3, 1) 5 := by
  have ran : run Traced.step .start [] = some (_, []) := rfl
  have accepted : (Traced.start.wheel.schedule 3 1 5).1 = true := rfl
  obtain ⟨next, taken, -, onTime⟩ := expires_on_time_iff ran accepted
  exact ⟨next, taken, onTime.mpr (by decide)⟩

/-- An entry with the default timeout of an endpoint, 30000 ticks, is reported by the 305th. -/
theorem default_timeout_early : ∃ next last reports, Traced.start.step (.schedule 0 0 30000) = some (next, []) ∧
    run Traced.step next (List.replicate 305 .tick) = some (last, reports) ∧
    (∃ report, reports[304]? = some report ∧ (0, (0, 0)) ∈ report) ∧ ¬ OnTime next 0 (0, 0) 30000 := by
  have accepted : (Traced.start.wheel.schedule 0 0 30000).1 = true := rfl
  obtain ⟨next, taken, later⟩ := accepted_reports start_sound accepted
  obtain ⟨last, reports, ran, ticks, found⟩ := later (List.replicate 305 .tick)
  rw [List.count_replicate_self] at ticks
  have inside : 304 < reports.length := by
    rw [ticks]
    decide
  have listed := List.getElem?_eq_getElem inside
  have early := found _ _ listed
  rw [if_pos (by decide)] at early
  refine ⟨next, last, reports, taken, ran, ⟨_, listed, ?_⟩, ?_⟩
  · exact List.mem_of_mem_filter (early ▸ List.mem_singleton_self _)
  · intro onTime
    have late := onTime _ _ _ ran _ _ listed
    rw [if_neg (by decide)] at late
    cases early.symm.trans late

end Rdma.ExpiryTimes
