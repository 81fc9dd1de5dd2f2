import Rdma.Endpoints

/-!
The ledger of slots: what an endpoint's slot pool is for. Each slot has an
epoch, which counts how often it was freed, and at most one holder, a request
that waits for its completions. A request is known by its slot and the epoch in
which it was given the slot. The actions a ledger allows keep it sane
(`act_sane`): a request holds its slot until it is finished, and each request
is finished, and its callback invoked, at most once (`calls_distinct`).
-/
namespace Rdma.Ledgers
open Rdma.Runs Rdma.Endpoints

/-- A request that was given a slot and a token; `accepted` tells whether the send call returned the slot. -/
structure Request where
  slotIndex : UInt32
  generation : UInt8
  born : Nat
  callbackFn : Option Nat
  callbackCtx : Nat
  accepted : Bool
  deriving DecidableEq, Repr

def Request.slot (request : Request) : Nat := request.slotIndex.toNat

/-- What the slot of a waiting request records. -/
structure Holder where
  callbackFn : Option Nat
  callbackCtx : Nat
  completed : Nat
  total : Nat
  errorCode : UInt8
  deriving DecidableEq, Repr

structure Ledger where
  epoch : Nat → Nat
  holder : Nat → Option Holder
  issued : List Request

/-- `advance` counts one completion of the slot's holder; `expire` times it out. -/
inductive Action
  | accept (request : Request) (total : Nat)
  | refuse (request : Request)
  | advance (slotIndex : UInt32)
  | expire (slotIndex : UInt32)
  deriving DecidableEq, Repr

def Ledger.nextEpoch (ledger : Ledger) (slot : Nat) : Nat → Nat :=
  Function.update ledger.epoch slot (ledger.epoch slot + 1)

/-- The holder leaves its slot. -/
def Ledger.finish (ledger : Ledger) (slotIndex : UInt32) (holder : Holder) (status : UInt8) : Ledger × List Call :=
  ({ ledger with
      epoch := ledger.nextEpoch slotIndex.toNat
      holder := Function.update ledger.holder slotIndex.toNat none },
    match holder.callbackFn with
    | none => []
    | some callbackFn => [⟨callbackFn, holder.callbackCtx, slotIndex, status, ledger.epoch slotIndex.toNat⟩])

def Ledger.act (ledger : Ledger) : Action → Ledger × List Call
  | .accept request total =>
    ({ ledger with
        holder := Function.update ledger.holder request.slot
          (some ⟨request.callbackFn, request.callbackCtx, 0, total, 0⟩)
        issued := ledger.issued ++ [request] }, [])
  | .refuse request =>
    ({ ledger with epoch := ledger.nextEpoch request.slot, issued := ledger.issued ++ [request] }, [])
  | .advance slotIndex =>
    match ledger.holder slotIndex.toNat with
    | none => (ledger, [])
    | some holder =>
      if holder.completed + 1 < holder.total then
        ({ ledger with
            holder := Function.update ledger.holder slotIndex.toNat
              (some { holder with completed := holder.completed + 1 }) }, [])
      else ledger.finish slotIndex holder holder.errorCode
  | .expire slotIndex =>
    match ledger.holder slotIndex.toNat with
    | none => (ledger, [])
    | some holder => ledger.finish slotIndex holder 1

def Ledger.Allowed (ledger : Ledger) : Action → Prop
  | .accept request total =>
    ledger.holder request.slot = none ∧ request.born = ledger.epoch request.slot ∧ request.accepted = true ∧
      0 < total ∧ total ≤ 2
  | .refuse request =>
    ledger.holder request.slot = none ∧ request.born = ledger.epoch request.slot ∧ request.accepted = false
  | .advance slotIndex | .expire slotIndex => (ledger.holder slotIndex.toNat).isSome

def Ledger.step (ledger : Ledger) (action : Action) : Option (Ledger × List Call) := some (ledger.act action)

/-- The request has been given its slot and not been finished since. -/
def Ledger.Pending (ledger : Ledger) (request : Request) : Prop :=
  request ∈ ledger.issued ∧ ledger.epoch request.slot = request.born

/-- What a holder knows of its request, and the counts of a request that waits. -/
structure Holder.Of (holder : Holder) (request : Request) : Prop where
  callback : holder.callbackFn = request.callbackFn ∧ holder.callbackCtx = request.callbackCtx
  accepted : request.accepted = true
  waiting : holder.completed < holder.total
  total : holder.total ≤ 2
  noError : holder.errorCode = 0

structure Sane (ledger : Ledger) : Prop where
  held : ∀ slot holder, ledger.holder slot = some holder →
    ∃ request ∈ ledger.issued, request.slot = slot ∧ request.born = ledger.epoch slot
  holds : ∀ request ∈ ledger.issued, request.born = ledger.epoch request.slot →
    ∃ holder, ledger.holder request.slot = some holder ∧ holder.Of request
  past : ∀ request ∈ ledger.issued, request.born ≤ ledger.epoch request.slot
  distinct : (ledger.issued.map fun request => (request.slot, request.born)).Nodup

variable {ledger : Ledger}

/-- The holder of a slot stands for a pending request. -/
theorem Sane.holder_request (sane : Sane ledger) {slot : Nat} {holder : Holder}
    (held : ledger.holder slot = some holder) :
    ∃ request, ledger.Pending request ∧ request.slot = slot ∧ holder.Of request := by
  obtain ⟨request, issued, rfl, born⟩ := sane.held slot holder held
  obtain ⟨other, held', is_of⟩ := sane.holds request issued born
  rw [held, Option.some.injEq] at held'
  subst held'
  exact ⟨request, ⟨issued, born.symm⟩, rfl, is_of⟩

/-! ### One action -/

theorem nextEpoch_same (ledger : Ledger) (slot : Nat) : ledger.nextEpoch slot slot = ledger.epoch slot + 1 := by
  simp [Ledger.nextEpoch]

theorem nextEpoch_other (ledger : Ledger) {slot other : Nat} (apart : other ≠ slot) :
    ledger.nextEpoch slot other = ledger.epoch other := by
  simp [Ledger.nextEpoch, apart]

theorem nextEpoch_mono (ledger : Ledger) (slot other : Nat) : ledger.epoch other ≤ ledger.nextEpoch slot other := by
  by_cases same : other = slot
  · subst same
    rw [nextEpoch_same]
    omega
  · rw [nextEpoch_other ledger same]

theorem act_advance_more {slotIndex : UInt32} {holder : Holder} (held : ledger.holder slotIndex.toNat = some holder)
    (more : holder.completed + 1 < holder.total) :
    ledger.act (.advance slotIndex) =
      ({ ledger with
          holder := Function.update ledger.holder slotIndex.toNat
            (some { holder with completed := holder.completed + 1 }) }, []) := by
  simp only [Ledger.act, held, if_pos more]

theorem act_advance_last {slotIndex : UInt32} {holder : Holder} (held : ledger.holder slotIndex.toNat = some holder)
    (last : ¬holder.completed + 1 < holder.total) :
    ledger.act (.advance slotIndex) = ledger.finish slotIndex holder holder.errorCode := by
  simp only [Ledger.act, held, if_neg last]

theorem act_expire {slotIndex : UInt32} {holder : Holder} (held : ledger.holder slotIndex.toNat = some holder) :
    ledger.act (.expire slotIndex) = ledger.finish slotIndex holder 1 := by
  simp only [Ledger.act, held]

theorem issued_sane_refuse (sane : Sane ledger) {request : Request} (free : ledger.holder request.slot = none)
    (born : request.born = ledger.epoch request.slot) :
    ((ledger.issued ++ [request]).map fun request => (request.slot, request.born)).Nodup := by
  rw [List.map_append, List.nodup_append]
  refine ⟨sane.distinct, List.nodup_singleton _, ?_⟩
  rintro _ earlier _ new same
  obtain ⟨other, issued, rfl⟩ := List.mem_map.mp earlier
  obtain rfl : _ = (request.slot, request.born) := by simpa using new
  obtain ⟨slot, sameBorn⟩ := Prod.mk.inj same
  obtain ⟨holder, held, -⟩ := sane.holds other issued (by rw [sameBorn, born, slot])
  rw [slot, free] at held
  cases held

theorem finish_sane (sane : Sane ledger) {slotIndex : UInt32} (holder : Holder) (status : UInt8) :
    Sane (ledger.finish slotIndex holder status).1 where
  held slot other held := by
    by_cases same : slot = slotIndex.toNat
    · subst same
      simp [Ledger.finish] at held
    · have kept : ledger.holder slot = some other := by simpa [Ledger.finish, same] using held
      obtain ⟨request, issued, at_slot, born⟩ := sane.held slot other kept
      exact ⟨request, issued, at_slot, by rw [born]; exact (nextEpoch_other ledger same).symm⟩
  holds request issued born := by
    have past := sane.past request issued
    by_cases same : request.slot = slotIndex.toNat
    · have advanced : request.born = ledger.epoch request.slot + 1 := by
        rw [born, Ledger.finish, ← same]
        exact nextEpoch_same ledger request.slot
      omega
    · have kept : request.born = ledger.epoch request.slot := by
        rw [born, Ledger.finish]
        exact nextEpoch_other ledger same
      obtain ⟨other, held, is_of⟩ := sane.holds request issued kept
      exact ⟨other, by simpa [Ledger.finish, same] using held, is_of⟩
  past request issued := (sane.past request issued).trans (nextEpoch_mono ..)
  distinct := sane.distinct

theorem accept_sane (sane : Sane ledger) {request : Request} {total : Nat}
    (allowed : ledger.Allowed (.accept request total)) : Sane (ledger.act (.accept request total)).1 := by
  obtain ⟨free, born, accepted, positive, small⟩ := allowed
  refine ⟨?_, ?_, ?_, issued_sane_refuse sane free born⟩
  · intro slot holder held
    by_cases same : slot = request.slot
    · exact ⟨request, by simp [Ledger.act], same.symm, by rw [same]; exact born⟩
    · have kept : ledger.holder slot = some holder := by simpa [Ledger.act, same] using held
      obtain ⟨other, issued, at_slot, born⟩ := sane.held slot holder kept
      exact ⟨other, by simp [Ledger.act, issued], at_slot, born⟩
  · intro other issued sameBorn
    by_cases same : other.slot = request.slot
    · rcases List.mem_append.mp issued with old | new
      · obtain ⟨holder, held, -⟩ := sane.holds other old sameBorn
        rw [same, free] at held
        cases held
      · obtain rfl := List.mem_singleton.mp new
        exact ⟨⟨other.callbackFn, other.callbackCtx, 0, total, 0⟩, by simp [Ledger.act],
          ⟨⟨rfl, rfl⟩, accepted, positive, small, rfl⟩⟩
    · rcases List.mem_append.mp issued with old | new
      · obtain ⟨holder, held, is_of⟩ := sane.holds other old sameBorn
        exact ⟨holder, by simpa [Ledger.act, same] using held, is_of⟩
      · exact absurd (congrArg Request.slot (List.mem_singleton.mp new)) same
  · intro other issued
    rcases List.mem_append.mp issued with old | new
    · exact sane.past other old
    · obtain rfl := List.mem_singleton.mp new
      exact born.le

theorem refuse_sane (sane : Sane ledger) {request : Request} (allowed : ledger.Allowed (.refuse request)) :
    Sane (ledger.act (.refuse request)).1 := by
  obtain ⟨free, born, -⟩ := allowed
  refine ⟨?_, ?_, ?_, issued_sane_refuse sane free born⟩
  · intro slot holder held
    have apart : slot ≠ request.slot := by
      rintro rfl
      rw [show ledger.holder request.slot = some holder from held] at free
      cases free
    obtain ⟨other, issued, at_slot, born⟩ := sane.held slot holder held
    exact ⟨other, by simp [Ledger.act, issued], at_slot, by rw [born]; exact (nextEpoch_other ledger apart).symm⟩
  · intro other issued sameBorn
    have later := nextEpoch_mono ledger request.slot other.slot
    rcases List.mem_append.mp issued with old | new
    · by_cases same : other.slot = request.slot
      · have past := sane.past other old
        have bumped : other.born = ledger.epoch other.slot + 1 := by
          rw [sameBorn, Ledger.act, ← same]
          exact nextEpoch_same ledger other.slot
        omega
      · exact sane.holds other old (sameBorn.trans (nextEpoch_other ledger same))
    · obtain rfl := List.mem_singleton.mp new
      have bumped : other.born = ledger.epoch other.slot + 1 := sameBorn.trans (nextEpoch_same ledger other.slot)
      omega
  · intro other issued
    rcases List.mem_append.mp issued with old | new
    · exact (sane.past other old).trans (nextEpoch_mono ..)
    · obtain rfl := List.mem_singleton.mp new
      exact born.le.trans (nextEpoch_mono ..)

theorem advance_sane (sane : Sane ledger) {slotIndex : UInt32} (allowed : ledger.Allowed (.advance slotIndex)) :
    Sane (ledger.act (.advance slotIndex)).1 := by
  obtain ⟨holder, held⟩ := Option.isSome_iff_exists.mp allowed
  by_cases more : holder.completed + 1 < holder.total
  · rw [act_advance_more held more]
    refine ⟨?_, ?_, sane.past, sane.distinct⟩
    · intro slot other counted
      by_cases same : slot = slotIndex.toNat
      · subst same
        exact sane.held _ holder held
      · exact sane.held slot other (by simpa [same] using counted)
    · intro request issued born
      obtain ⟨other, held', is_of⟩ := sane.holds request issued born
      by_cases same : request.slot = slotIndex.toNat
      · rw [same, held, Option.some.injEq] at held'
        subst held'
        exact ⟨{ holder with completed := holder.completed + 1 }, by simp [same], ⟨is_of.callback, is_of.accepted, more, is_of.total, is_of.noError⟩⟩
      · exact ⟨other, by simpa [same] using held', is_of⟩
  · rw [act_advance_last held more]
    exact finish_sane sane holder _

/-- Every allowed action keeps the ledger sane. -/
theorem act_sane (sane : Sane ledger) {action : Action} (allowed : ledger.Allowed action) :
    Sane (ledger.act action).1 := by
  cases action with
  | accept request total => exact accept_sane sane allowed
  | refuse request => exact refuse_sane sane allowed
  | advance slotIndex => exact advance_sane sane allowed
  | expire slotIndex =>
    obtain ⟨holder, held⟩ := Option.isSome_iff_exists.mp allowed
    rw [act_expire held]
    exact finish_sane sane holder 1

theorem act_epoch_mono (ledger : Ledger) (action : Action) (slot : Nat) :
    ledger.epoch slot ≤ (ledger.act action).1.epoch slot := by
  cases action with
  | accept request total => exact Nat.le_refl _
  | refuse request => exact nextEpoch_mono ..
  | advance slotIndex =>
    unfold Ledger.act
    dsimp only
    split
    · exact Nat.le_refl _
    · split
      · exact Nat.le_refl _
      · exact nextEpoch_mono ..
  | expire slotIndex =>
    unfold Ledger.act
    dsimp only
    split
    · exact Nat.le_refl _
    · exact nextEpoch_mono ..

theorem act_issued (ledger : Ledger) (action : Action) {request : Request} (issued : request ∈ ledger.issued) :
    request ∈ (ledger.act action).1.issued := by
  cases action with
  | accept other total => exact List.mem_append_left _ issued
  | refuse other => exact List.mem_append_left _ issued
  | advance slotIndex =>
    unfold Ledger.act
    dsimp only
    split
    · exact issued
    · split <;> exact issued
  | expire slotIndex =>
    unfold Ledger.act
    dsimp only
    split <;> exact issued

/-! ### Callbacks -/

/-- The call invokes the callback of the request, which was accepted and holds the slot at the call. -/
structure CallOf (call : Call) (request : Request) : Prop where
  slot : call.slotIndex.toNat = request.slot
  epoch : call.epoch = request.born
  callback : request.callbackFn = some call.callbackFn ∧ request.callbackCtx = call.callbackCtx
  accepted : request.accepted = true

/-- A call that a finishing holder makes. -/
theorem finish_call (sane : Sane ledger) {slotIndex : UInt32} {holder : Holder} {status : UInt8} {call : Call}
    (held : ledger.holder slotIndex.toNat = some holder) (called : call ∈ (ledger.finish slotIndex holder status).2) :
    call.status = status ∧ call.slotIndex = slotIndex ∧ call.epoch = ledger.epoch slotIndex.toNat ∧
      ∃ request, ledger.Pending request ∧ CallOf call request := by
  obtain ⟨request, pending, at_slot, is_of⟩ := sane.holder_request held
  unfold Ledger.finish at called
  cases callback : holder.callbackFn with
  | none => simp [callback] at called
  | some callbackFn =>
    obtain rfl : call = _ := by simpa [callback] using called
    refine ⟨rfl, rfl, rfl, request, pending, ⟨at_slot.symm, ?_, ⟨?_, is_of.callback.2.symm⟩, is_of.accepted⟩⟩
    · rw [← pending.2, at_slot]
    · rw [← is_of.callback.1, callback]

theorem finish_epoch (ledger : Ledger) (slotIndex : UInt32) (holder : Holder) (status : UInt8) :
    (ledger.finish slotIndex holder status).1.epoch slotIndex.toNat = ledger.epoch slotIndex.toNat + 1 :=
  nextEpoch_same ..

/-- A callback is invoked by the last action of a request that holds the slot. -/
theorem act_call (sane : Sane ledger) {action : Action} {call : Call} (called : call ∈ (ledger.act action).2) :
    (∃ request, ledger.Pending request ∧ CallOf call request) ∧
      (ledger.act action).1.epoch call.slotIndex.toNat = call.epoch + 1 := by
  cases action with
  | accept request total => cases called
  | refuse request => cases called
  | advance slotIndex =>
    cases held : ledger.holder slotIndex.toNat with
    | none => simp [Ledger.act, held] at called
    | some holder =>
      by_cases more : holder.completed + 1 < holder.total
      · simp [act_advance_more held more] at called
      · rw [act_advance_last held more] at called ⊢
        obtain ⟨-, slot, epoch, request⟩ := finish_call sane held called
        exact ⟨request, by rw [slot, finish_epoch, epoch]⟩
  | expire slotIndex =>
    cases held : ledger.holder slotIndex.toNat with
    | none => simp [Ledger.act, held] at called
    | some holder =>
      rw [act_expire held] at called ⊢
      obtain ⟨-, slot, epoch, request⟩ := finish_call sane held called
      exact ⟨request, by rw [slot, finish_epoch, epoch]⟩

theorem expire_status {slotIndex : UInt32} {call : Call} (called : call ∈ (ledger.act (.expire slotIndex)).2) :
    call.status = 1 := by
  cases held : ledger.holder slotIndex.toNat with
  | none => simp [Ledger.act, held] at called
  | some holder =>
    rw [act_expire held] at called
    unfold Ledger.finish at called
    cases callback : holder.callbackFn with
    | none => simp [callback] at called
    | some callbackFn =>
      obtain rfl : call = _ := by simpa [callback] using called
      rfl

/-- A holder that has recorded no error is called with status 0. -/
theorem advance_status (sane : Sane ledger) {slotIndex : UInt32} {call : Call}
    (called : call ∈ (ledger.act (.advance slotIndex)).2) : call.status = 0 := by
  cases held : ledger.holder slotIndex.toNat with
  | none => simp [Ledger.act, held] at called
  | some holder =>
    obtain ⟨request, -, -, is_of⟩ := sane.holder_request held
    by_cases more : holder.completed + 1 < holder.total
    · simp [act_advance_more held more] at called
    · rw [act_advance_last held more] at called
      exact (finish_call sane held called).1.trans is_of.noError

theorem act_calls_length (ledger : Ledger) (action : Action) : (ledger.act action).2.length ≤ 1 := by
  have finishes : ∀ slotIndex holder status, (ledger.finish slotIndex holder status).2.length ≤ 1 := by
    intro slotIndex holder status
    unfold Ledger.finish
    cases holder.callbackFn <;> simp
  cases action with
  | accept request total => exact Nat.zero_le _
  | refuse request => exact Nat.zero_le _
  | advance slotIndex =>
    unfold Ledger.act
    dsimp only
    split
    · exact Nat.zero_le _
    · split
      · exact Nat.zero_le _
      · exact finishes ..
  | expire slotIndex =>
    unfold Ledger.act
    dsimp only
    split
    · exact Nat.zero_le _
    · exact finishes ..

/-! ### Runs of actions -/

theorem step_some {next : Ledger} {action : Action} {now : List Call} :
    ledger.step action = some (next, now) ↔ next = (ledger.act action).1 ∧ now = (ledger.act action).2 := by
  rw [Ledger.step, Option.some.injEq, Prod.ext_iff]
  exact ⟨fun ⟨first, second⟩ => ⟨first.symm, second.symm⟩, fun ⟨first, second⟩ => ⟨first.symm, second.symm⟩⟩

theorem run_single {last : Ledger} {action : Action} {calls : List Call}
    (ran : run Ledger.step ledger [action] = some (last, calls)) : (last, calls) = ledger.act action := by
  obtain ⟨_, _, _, taken, rest, rfl⟩ := run_cons_some.mp ran
  obtain ⟨rfl, rfl⟩ := step_some.mp taken
  obtain ⟨rfl, rfl⟩ := Prod.mk.inj (Option.some.inj rest)
  rw [List.append_nil]

/-- Epochs grow, and requests stay in the list. -/
def Ledger.Grows (earlier later : Ledger) : Prop :=
  (∀ slot, earlier.epoch slot ≤ later.epoch slot) ∧ ∀ request ∈ earlier.issued, request ∈ later.issued

theorem run_grows {last : Ledger} {actions : List Action} {calls : List Call}
    (ran : run Ledger.step ledger actions = some (last, calls)) : ledger.Grows last := by
  refine grows_of_run ?_ ?_ ?_ ran
  · exact fun _ => ⟨fun _ => Nat.le_refl _, fun _ issued => issued⟩
  · exact fun _ _ _ early late =>
      ⟨fun slot => (early.1 slot).trans (late.1 slot), fun request issued => late.2 _ (early.2 request issued)⟩
  · rintro state action next now taken
    obtain ⟨rfl, -⟩ := step_some.mp taken
    exact ⟨act_epoch_mono state action, fun _ => act_issued state action⟩

/-- Each callback of a run belongs to an accepted request, which held the slot from before the call until the call. -/
theorem run_calls {last : Ledger} {actions : List Action} {calls : List Call} (sane : Sane ledger)
    (allowed : Meets Ledger.step Ledger.Allowed ledger actions)
    (ran : run Ledger.step ledger actions = some (last, calls)) :
    ∀ call ∈ calls, (∃ request ∈ last.issued, CallOf call request) ∧
      ledger.epoch call.slotIndex.toNat ≤ call.epoch ∧ call.epoch < last.epoch call.slotIndex.toNat := by
  induction actions generalizing ledger calls with
  | nil =>
    obtain ⟨rfl, rfl⟩ := by simpa using ran
    intro call called
    cases called
  | cons action rest ih =>
    obtain ⟨_, _, later, taken, after, rfl⟩ := run_cons_some.mp ran
    obtain ⟨rfl, rfl⟩ := step_some.mp taken
    have grows := run_grows after
    intro call called
    rcases List.mem_append.mp called with now | called
    · obtain ⟨⟨request, pending, is_of⟩, bumped⟩ := act_call sane now
      have started : ledger.epoch call.slotIndex.toNat = call.epoch := by rw [is_of.slot, pending.2, is_of.epoch]
      have ends := grows.1 call.slotIndex.toNat
      exact ⟨⟨request, grows.2 _ (act_issued ledger action pending.1), is_of⟩, by omega, by omega⟩
    · obtain ⟨owner, low, high⟩ := ih (act_sane sane allowed.1) (allowed.2 _ _ taken) after call called
      exact ⟨owner, (act_epoch_mono ledger action _).trans low, high⟩

/-- Timeouts are reported with status 1. -/
theorem run_expires_status {last : Ledger} {actions : List Action} {calls : List Call}
    (expires : ∀ action ∈ actions, ∃ slotIndex, action = .expire slotIndex)
    (ran : run Ledger.step ledger actions = some (last, calls)) : ∀ call ∈ calls, call.status = 1 := by
  induction actions generalizing ledger calls with
  | nil =>
    obtain ⟨-, rfl⟩ := by simpa using ran
    intro call called
    cases called
  | cons action rest ih =>
    obtain ⟨_, _, later, taken, after, rfl⟩ := run_cons_some.mp ran
    obtain ⟨rfl, rfl⟩ := step_some.mp taken
    obtain ⟨slotIndex, rfl⟩ := expires action (List.mem_cons_self ..)
    intro call called
    rcases List.mem_append.mp called with now | called
    · exact expire_status now
    · exact ih (fun other member => expires other (List.mem_cons_of_mem _ member)) after call called

/-- Without timeouts no call reports status 1. -/
theorem run_untimed_status {last : Ledger} {actions : List Action} {calls : List Call} (sane : Sane ledger)
    (allowed : Meets Ledger.step Ledger.Allowed ledger actions)
    (untimed : ∀ slotIndex, Action.expire slotIndex ∉ actions)
    (ran : run Ledger.step ledger actions = some (last, calls)) : ∀ call ∈ calls, call.status = 0 := by
  induction actions generalizing ledger calls with
  | nil =>
    obtain ⟨-, rfl⟩ := by simpa using ran
    intro call called
    cases called
  | cons action rest ih =>
    obtain ⟨_, _, later, taken, after, rfl⟩ := run_cons_some.mp ran
    obtain ⟨rfl, rfl⟩ := step_some.mp taken
    intro call called
    rcases List.mem_append.mp called with now | called
    · cases action with
      | accept request total => cases now
      | refuse request => cases now
      | advance slotIndex => exact advance_status sane now
      | expire slotIndex => exact absurd (List.mem_cons_self ..) (untimed slotIndex)
    · exact ih (act_sane sane allowed.1) (allowed.2 _ _ taken)
        (fun slotIndex member => untimed slotIndex (List.mem_cons_of_mem _ member)) after call called

/-- No request's callback is invoked twice in a run. -/
theorem run_calls_distinct {last : Ledger} {actions : List Action} {calls : List Call} (sane : Sane ledger)
    (allowed : Meets Ledger.step Ledger.Allowed ledger actions)
    (ran : run Ledger.step ledger actions = some (last, calls)) :
    (calls.map fun call => (call.slotIndex.toNat, call.epoch)).Nodup := by
  induction actions generalizing ledger calls with
  | nil =>
    obtain ⟨rfl, rfl⟩ := by simpa using ran
    exact List.nodup_nil
  | cons action rest ih =>
    obtain ⟨_, _, later, taken, after, rfl⟩ := run_cons_some.mp ran
    obtain ⟨rfl, rfl⟩ := step_some.mp taken
    have kept := act_sane sane allowed.1
    rw [List.map_append, List.nodup_append]
    refine ⟨?_, ih kept (allowed.2 _ _ taken) after, ?_⟩
    · have single := act_calls_length ledger action
      generalize (ledger.act action).2 = now at single ⊢
      rcases now with _ | ⟨call, _ | ⟨other, rest⟩⟩
      · exact List.nodup_nil
      · exact List.nodup_singleton _
      · simp at single
    · rintro _ now _ later same
      obtain ⟨first, called, rfl⟩ := List.mem_map.mp now
      obtain ⟨second, calledLater, rfl⟩ := List.mem_map.mp later
      obtain ⟨slot, epoch⟩ := Prod.mk.inj same
      have bumped := (act_call sane called).2
      have low := (run_calls kept (allowed.2 _ _ taken) after second calledLater).2.1
      rw [← slot, bumped] at low
      omega

/-! ### What becomes of a holder -/

/-- The action counts a completion of the slot. -/
def advances (slot : Nat) : Action → Bool
  | .advance slotIndex => slotIndex.toNat = slot
  | _ => false

/-- The action times the slot out. -/
def expires (slot : Nat) : Action → Bool
  | .expire slotIndex => slotIndex.toNat = slot
  | _ => false

/-- The holder's callback is among the calls, if it is not null. -/
def Called (slot epoch : Nat) (holder : Holder) (calls : List Call) : Prop :=
  ∀ callbackFn, holder.callbackFn = some callbackFn → ∃ call ∈ calls, call.callbackFn = callbackFn ∧
    call.callbackCtx = holder.callbackCtx ∧ call.slotIndex.toNat = slot ∧ call.epoch = epoch

theorem finish_called (ledger : Ledger) (slotIndex : UInt32) (holder : Holder) (status : UInt8) :
    Called slotIndex.toNat (ledger.epoch slotIndex.toNat) holder (ledger.finish slotIndex holder status).2 := by
  intro callbackFn callback
  simp only [Ledger.finish, callback]
  exact ⟨_, List.mem_singleton_self _, rfl, rfl, rfl, rfl⟩

/-- The holder after so many completions. -/
def Holder.count (holder : Holder) (completions : Nat) : Holder :=
  { holder with completed := holder.completed + completions }

theorem count_count (holder : Holder) (first second : Nat) :
    (holder.count first).count second = holder.count (first + second) := by
  simp only [Holder.count, Nat.add_assoc]

/-- The slot keeps its holder with so many more completions counted, or the holder has its completions or a timeout
    and has been called. -/
def Progress (ledger last : Ledger) (slot : Nat) (holder : Holder) (completions : Nat) (timeout : Bool)
    (calls : List Call) : Prop :=
  last.epoch slot = ledger.epoch slot ∧ last.holder slot = some (holder.count completions) ∨
    ledger.epoch slot < last.epoch slot ∧ (holder.total ≤ holder.completed + completions ∨ timeout = true) ∧
      Called slot (ledger.epoch slot) holder calls

theorem act_other {slot : Nat} {action : Action} (allowed : ledger.Allowed action) {holder : Holder}
    (held : ledger.holder slot = some holder) (idle : advances slot action = false) (early : expires slot action = false) :
    (ledger.act action).1.epoch slot = ledger.epoch slot ∧ (ledger.act action).1.holder slot = some holder := by
  cases action with
  | accept request total =>
    have apart : slot ≠ request.slot := by
      rintro rfl
      rw [allowed.1] at held
      cases held
    exact ⟨rfl, (Function.update_of_ne apart ..).trans held⟩
  | refuse request =>
    have apart : slot ≠ request.slot := by
      rintro rfl
      rw [allowed.1] at held
      cases held
    exact ⟨nextEpoch_other ledger apart, held⟩
  | advance slotIndex =>
    have apart : slot ≠ slotIndex.toNat := fun same => by simp [advances, same] at idle
    obtain ⟨other, holds⟩ := Option.isSome_iff_exists.mp allowed
    by_cases more : other.completed + 1 < other.total
    · rw [act_advance_more holds more]
      exact ⟨rfl, (Function.update_of_ne apart ..).trans held⟩
    · rw [act_advance_last holds more]
      exact ⟨nextEpoch_other ledger apart, (Function.update_of_ne apart ..).trans held⟩
  | expire slotIndex =>
    have apart : slot ≠ slotIndex.toNat := fun same => by simp [expires, same] at early
    obtain ⟨other, holds⟩ := Option.isSome_iff_exists.mp allowed
    rw [act_expire holds]
    exact ⟨nextEpoch_other ledger apart, (Function.update_of_ne apart ..).trans held⟩

theorem act_progress {slot : Nat} {action : Action} (allowed : ledger.Allowed action) {holder : Holder}
    (held : ledger.holder slot = some holder) :
    Progress ledger (ledger.act action).1 slot holder (if advances slot action then 1 else 0) (expires slot action)
      (ledger.act action).2 := by
  by_cases idle : advances slot action = false
  · by_cases early : expires slot action = false
    · rw [idle]
      exact .inl (act_other allowed held idle early)
    · cases action with
      | expire slotIndex =>
        obtain rfl : slotIndex.toNat = slot := by simpa [expires] using early
        rw [act_expire held]
        exact .inr ⟨by rw [finish_epoch]; exact Nat.lt_succ_self _, .inr (by simp [expires]), finish_called _ _ _ _⟩
      | _ => exact absurd rfl early
  · cases action with
    | advance slotIndex =>
      obtain rfl : slotIndex.toNat = slot := by simpa [advances] using idle
      rw [if_pos (by simp [advances])]
      by_cases more : holder.completed + 1 < holder.total
      · rw [act_advance_more held more]
        exact .inl ⟨rfl, Function.update_self ..⟩
      · rw [act_advance_last held more]
        exact .inr ⟨by rw [finish_epoch]; exact Nat.lt_succ_self _, .inl (Nat.le_of_not_lt more), finish_called _ _ _ _⟩
    | _ => exact absurd rfl idle

theorem Progress.mono {last : Ledger} {slot first second : Nat} {holder : Holder} {early late : Bool} {calls : List Call}
    (progress : Progress ledger last slot holder first early calls) (same : first = second)
    (implies : early = true → late = true) : Progress ledger last slot holder second late calls := by
  subst same
  rcases progress with kept | ⟨bumped, complete | timeout, called⟩
  · exact .inl kept
  · exact .inr ⟨bumped, .inl complete, called⟩
  · exact .inr ⟨bumped, .inr (implies timeout), called⟩

theorem Progress.trans {middle last : Ledger} {slot first second : Nat} {holder : Holder} {early late : Bool}
    {now later : List Call} (front : Progress ledger middle slot holder first early now)
    (back : middle.epoch slot = ledger.epoch slot → middle.holder slot = some (holder.count first) →
      Progress middle last slot (holder.count first) second late later)
    (grows : middle.epoch slot ≤ last.epoch slot) :
    Progress ledger last slot holder (first + second) (early || late) (now ++ later) := by
  rcases front with ⟨epoch, kept⟩ | ⟨bumped, why, called⟩
  · rcases back epoch kept with ⟨ends, counted⟩ | ⟨ended, why, called⟩
    · exact .inl ⟨ends.trans epoch, by rw [counted, count_count]⟩
    · refine .inr ⟨by omega, ?_, ?_⟩
      · rcases why with complete | timeout
        · exact .inl (by simp only [Holder.count] at complete; omega)
        · exact .inr (by rw [timeout, Bool.or_true])
      · intro callbackFn callback
        obtain ⟨call, found, is_call⟩ := called callbackFn callback
        exact ⟨call, List.mem_append_right _ found, by rw [← epoch]; exact is_call⟩
  · refine .inr ⟨Nat.lt_of_lt_of_le bumped grows, ?_, ?_⟩
    · rcases why with complete | timeout
      · exact .inl (by omega)
      · exact .inr (by rw [timeout, Bool.true_or])
    · intro callbackFn callback
      obtain ⟨call, found, is_call⟩ := called callbackFn callback
      exact ⟨call, List.mem_append_left _ found, is_call⟩

/-- Along a run of allowed actions. -/
theorem run_progress {last : Ledger} {actions : List Action} {calls : List Call} {slot : Nat} {holder : Holder}
    (held : ledger.holder slot = some holder) (allowed : Meets Ledger.step Ledger.Allowed ledger actions)
    (ran : run Ledger.step ledger actions = some (last, calls)) :
    Progress ledger last slot holder (actions.countP (advances slot)) (actions.any (expires slot)) calls := by
  induction actions generalizing ledger holder calls with
  | nil =>
    obtain ⟨rfl, rfl⟩ := by simpa using ran
    exact .inl ⟨rfl, held⟩
  | cons action rest ih =>
    obtain ⟨_, _, later, taken, after, rfl⟩ := run_cons_some.mp ran
    obtain ⟨rfl, rfl⟩ := step_some.mp taken
    rw [List.countP_cons, Nat.add_comm, List.any_cons]
    exact (act_progress allowed.1 held).trans (fun _ kept => ih kept (allowed.2 _ _ taken) after)
      ((run_grows after).1 slot)

end Rdma.Ledgers
