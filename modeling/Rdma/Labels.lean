import Mathlib.Data.Nat.PSub
import Rdma.WheelRuns

/-!
The entries of a wheel with the numbers of the calls that filled them. Each call
of `Schedule` that is accepted gets a number, and a history variable remembers
which call has filled an entry last. However a wheel arranges its buckets, the
entry of a call stays the only one with its number until a tick reports it, and
where each tick brings it one nearer, it is reported in the vector of exactly
one tick (`run_reports`).
-/
namespace Rdma.Labels
open Rdma.Chains Rdma.Runs Rdma.TimingWheels Rdma.WheelRuns

variable {Bucket : Type} {layout : Layout Bucket} {links : Links Bucket}
  {lists : Option Bucket → List Nat} {label : Nat → Nat} {token : Nat → Token} {call entry : Nat} {given : Token}

/-- The entry is the only pending one of the call, and carries its token. -/
structure Carried (layout : Layout Bucket) (lists : Option Bucket → List Nat) (label : Nat → Nat) (token : Nat → Token)
    (call : Nat) (given : Token) (entry : Nat) : Prop where
  listed : entry ∈ layout.pending lists
  labelled : label entry = call
  carries : token entry = given
  only : ∀ other ∈ layout.pending lists, label other = call → other = entry

/-- No pending entry is one of the call. -/
def Absent (layout : Layout Bucket) (lists : Option Bucket → List Nat) (label : Nat → Nat) (call : Nat) : Prop :=
  ∀ entry ∈ layout.pending lists, label entry ≠ call

/-- What a wheel has of a call: an entry that stands where so many ticks come before it, or nothing. -/
def Filed (layout : Layout Bucket) (lists : Option Bucket → List Nat) (label : Nat → Nat) (token : Nat → Token)
    (call : Nat) (given : Token) (stands : Nat → Nat → Prop) : Option Nat → Prop
  | none => Absent layout lists label call
  | some left => ∃ entry, Carried layout lists label token call given entry ∧ stands entry left

/-! ### Pending entries -/

theorem mem_pending : entry ∈ layout.pending lists ↔ ∃ bucket ∈ layout.buckets, entry ∈ lists (some bucket) :=
  List.mem_flatMap

/-- The entry moves. -/
theorem Carried.keep (carried : Carried layout lists label token call given entry) {moved : Option Bucket → List Nat}
    (listed : entry ∈ layout.pending moved) (fewer : ∀ other ∈ layout.pending moved, other ∈ layout.pending lists) :
    Carried layout moved label token call given entry :=
  ⟨listed, carried.labelled, carried.carries, fun other found => carried.only other (fewer other found)⟩

/-- The entry leaves. -/
theorem Carried.leave (carried : Carried layout lists label token call given entry) {moved : Option Bucket → List Nat}
    (gone : entry ∉ layout.pending moved) (fewer : ∀ other ∈ layout.pending moved, other ∈ layout.pending lists) :
    Absent layout moved label call := by
  intro other found same
  obtain rfl := carried.only other (fewer other found) same
  exact gone found

section Reports
variable {due : List Nat} (within : ∀ other ∈ due, other ∈ layout.pending lists)
include within

/-- What a tick that reports the entries `due` says of the call. -/
theorem Carried.reported (carried : Carried layout lists label token call given entry) (once : due.Nodup) :
    (due.map fun entry => (label entry, token entry)).filter (·.1 = call) =
      if entry ∈ due then [(call, given)] else [] := by
  have found : due.filter (fun old => label old = call) = due.filter (· = entry) := by
    refine List.filter_congr fun old member => decide_eq_decide.mpr ⟨carried.only old (within old member), ?_⟩
    rintro rfl
    exact carried.labelled
  rw [List.filter_map]
  change List.map _ (due.filter fun old => label old = call) = _
  rw [found, List.filter_eq]
  split
  · rename_i here
    rw [List.count_eq_one_of_mem once here, List.replicate_one, List.map_singleton, carried.labelled, carried.carries]
  · rename_i apart
    rw [List.count_eq_zero.mpr apart]
    rfl

theorem Absent.reported (absent : Absent layout lists label call) :
    (due.map fun entry => (label entry, token entry)).filter (·.1 = call) = [] := by
  rw [List.filter_eq_nil_iff]
  intro element listed
  obtain ⟨old, member, rfl⟩ := List.mem_map.mp listed
  simpa using absent old (within old member)

/-- The call is reported exactly if its entry is one that no tick comes before. -/
theorem Filed.reported {stands : Nat → Nat → Prop} {place : Option Nat}
    (filed : Filed layout lists label token call given stands place) (once : due.Nodup)
    (soon : ∀ entry left, stands entry left → (entry ∈ due ↔ left = 0)) :
    (due.map fun entry => (label entry, token entry)).filter (·.1 = call) =
      if place = some 0 then [(call, given)] else [] := by
  cases place with
  | none => exact Absent.reported within filed
  | some left =>
    obtain ⟨entry, carried, there⟩ := filed
    rw [carried.reported within once]
    simp only [soon entry left there, Option.some.injEq]

end Reports

/-- A tick that takes off the wheel what it reports brings the entry nearer, or takes it off. -/
theorem Filed.tick {stands nearer : Nat → Nat → Prop} {place : Option Nat}
    (filed : Filed layout lists label token call given stands place) {moved : Option Bucket → List Nat} {due : List Nat}
    (left : ∀ other, other ∈ layout.pending moved ↔ other ∈ layout.pending lists ∧ other ∉ due)
    (soon : ∀ entry left, stands entry left → (entry ∈ due ↔ left = 0))
    (moves : ∀ entry left, stands entry (left + 1) → nearer entry left) :
    Filed layout moved label token call given nearer (place.bind Nat.ppred) := by
  have fewer : ∀ other ∈ layout.pending moved, other ∈ layout.pending lists := fun other found => ((left other).mp found).1
  cases place with
  | none => exact fun other found => filed other (fewer other found)
  | some ticks =>
    obtain ⟨entry, carried, there⟩ := filed
    cases ticks with
    | zero =>
      have here := (soon entry 0 there).mpr rfl
      exact carried.leave (fun found => ((left entry).mp found).2 here) fewer
    | succ ticks =>
      have away : entry ∉ due := fun here => Nat.succ_ne_zero ticks ((soon entry _ there).mp here)
      exact ⟨entry, carried.keep ((left entry).mpr ⟨carried.listed, away⟩) fewer, moves entry ticks there⟩

variable [DecidableEq Bucket]

theorem mem_scheduled {rest : List Nat} {target : Bucket} (inside : target ∈ layout.buckets) {other : Nat} :
    other ∈ layout.pending (scheduledLists lists entry rest target) ↔ other = entry ∨ other ∈ layout.pending lists := by
  have pushed := pending_push (Function.update lists none rest) inside entry
  rw [pending_free, Function.update_of_ne (Option.some_ne_none target)] at pushed
  rw [scheduledLists, pushed.mem_iff, List.mem_cons]

theorem bucket_once (holds : Holds layout links lists []) {bucket : Bucket} (inside : bucket ∈ layout.buckets) :
    (lists (some bucket) ++ layout.pending (Function.update lists (some bucket) [])).Nodup := by
  have once := holds.once
  rw [List.nil_append, places_flatMap] at once
  exact (pending_cut lists inside).nodup_iff.mp (List.nodup_append.mp once).2.1

/-- An entry is in one bucket only. -/
theorem bucket_unique (holds : Holds layout links lists []) {bucket place : Bucket} (inside : bucket ∈ layout.buckets)
    (there : place ∈ layout.buckets) (listed : entry ∈ lists (some bucket)) (other : entry ∈ lists (some place)) :
    bucket = place := by
  by_contra apart
  refine (List.nodup_append.mp (bucket_once holds inside)).2.2 entry listed entry ?_ rfl
  refine mem_pending.mpr ⟨place, there, ?_⟩
  rwa [Function.update_of_ne (by simpa using Ne.symm apart)]

/-- What is pending when a bucket is emptied. -/
theorem mem_cut (holds : Holds layout links lists []) {bucket : Bucket} (inside : bucket ∈ layout.buckets) {other : Nat} :
    other ∈ layout.pending (Function.update lists (some bucket) []) ↔
      other ∈ layout.pending lists ∧ other ∉ lists (some bucket) := by
  have cut := pending_cut lists inside
  have apart := (List.nodup_append.mp (bucket_once holds inside)).2.2
  rw [cut.mem_iff, List.mem_append]
  constructor
  · exact fun pending => ⟨.inr pending, fun listed => apart other listed other pending rfl⟩
  · exact fun both => both.1.resolve_left both.2

/-! ### Schedule -/

/-- A call that is accepted gets an entry. -/
theorem Carried.accepted (older : ∀ other ∈ layout.pending lists, label other < call) {rest : List Nat} {target : Bucket}
    (inside : target ∈ layout.buckets) :
    Carried layout (scheduledLists lists entry rest target) (Function.update label entry call)
      (Function.update token entry given) call given entry where
  listed := (mem_scheduled inside).mpr (.inl rfl)
  labelled := Function.update_self ..
  carries := Function.update_self ..
  only := by
    intro other listed same
    rcases (mem_scheduled inside).mp listed with here | pending
    · exact here
    · by_contra apart
      rw [Function.update_of_ne apart] at same
      exact Nat.ne_of_lt (older other pending) same

section Accept
variable {first accepted : Nat} {rest : List Nat} {target : Bucket} {other : Token}
  (known : call < accepted) (inside : target ∈ layout.buckets)
include known inside

/-- Another call leaves the entry alone. -/
theorem Carried.accept (unlisted : first ∉ layout.pending lists)
    (carried : Carried layout lists label token call given entry) :
    Carried layout (scheduledLists lists first rest target) (Function.update label first accepted)
      (Function.update token first other) call given entry := by
  have apart : entry ≠ first := by
    rintro rfl
    exact unlisted carried.listed
  refine ⟨(mem_scheduled inside).mpr (.inr carried.listed), ?_, ?_, ?_⟩
  · rw [Function.update_of_ne apart, carried.labelled]
  · rw [Function.update_of_ne apart, carried.carries]
  · intro old listed same
    by_cases new : old = first
    · rw [new, Function.update_self] at same
      exact absurd same (Nat.ne_of_gt known)
    · rw [Function.update_of_ne new] at same
      exact carried.only old (((mem_scheduled inside).mp listed).resolve_left new) same

theorem Absent.accept (absent : Absent layout lists label call) :
    Absent layout (scheduledLists lists first rest target) (Function.update label first accepted) call := by
  intro old listed
  by_cases new : old = first
  · rw [new, Function.update_self]
    exact Nat.ne_of_gt known
  · rw [Function.update_of_ne new]
    exact absent old (((mem_scheduled inside).mp listed).resolve_left new)

theorem Filed.accept {stands still : Nat → Nat → Prop} {place : Option Nat}
    (filed : Filed layout lists label token call given stands place) (unlisted : first ∉ layout.pending lists)
    (keeps : ∀ entry left, stands entry left → still entry left) :
    Filed layout (scheduledLists lists first rest target) (Function.update label first accepted)
      (Function.update token first other) call given still place := by
  cases place with
  | none => exact Absent.accept known inside filed
  | some left =>
    obtain ⟨entry, carried, there⟩ := filed
    exact ⟨entry, carried.accept known inside unlisted, keeps entry left there⟩

end Accept

/-! ### Runs -/

section Runs
variable {State : Type} {step : State → Event → Option (State × List (List (Nat × Token)))}

/-- Where other calls leave the entry of a call as near as it is, and each tick brings it one nearer, every run is
    defined, and the call is in the vector of the tick that its place names and in no other. -/
theorem run_reports (placed : State → Option Nat → Prop)
    (schedules : ∀ state place slotIndex generation timeout, placed state place → ∃ next,
      step state (.schedule slotIndex generation timeout) = some (next, []) ∧ placed next place)
    (ticks : ∀ state place, placed state place → ∃ next report, step state .tick = some (next, [report]) ∧
      placed next (place.bind Nat.ppred) ∧
      report.filter (·.1 = call) = if place = some 0 then [(call, given)] else [])
    {state : State} {place : Option Nat} (start : placed state place) (events : List Event) :
    ∃ last reports, run step state events = some (last, reports) ∧ reports.length = events.count .tick ∧
      ∀ tick report, reports[tick]? = some report →
        report.filter (·.1 = call) = if place = some tick then [(call, given)] else [] := by
  induction events generalizing state place with
  | nil => exact ⟨state, [], rfl, rfl, fun _ _ impossible => by cases impossible⟩
  | cons event rest ih =>
    cases event with
    | schedule slotIndex generation timeout =>
      have more : (Event.schedule slotIndex generation timeout :: rest).count .tick = rest.count .tick := by simp
      rw [more]
      obtain ⟨next, taken, there⟩ := schedules state place slotIndex generation timeout start
      obtain ⟨last, reports, ran, count, found⟩ := ih there
      exact ⟨last, reports, run_cons_some.mpr ⟨_, _, _, taken, ran, rfl⟩, count, found⟩
    | tick =>
      obtain ⟨next, first, taken, there, here⟩ := ticks state place start
      obtain ⟨last, reports, ran, count, found⟩ := ih there
      refine ⟨last, first :: reports, run_cons_some.mpr ⟨_, _, _, taken, ran, rfl⟩, ?_, ?_⟩
      · rw [List.count_cons_self, List.length_cons, count]
      · intro tick report listed
        cases tick with
        | zero =>
          obtain rfl := Option.some.inj listed
          exact here
        | succ tick =>
          rw [found tick report listed]
          rcases place with _ | _ | left
          · simp
          · simp
          · simp

end Runs

end Rdma.Labels
