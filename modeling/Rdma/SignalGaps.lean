import Rdma.Signaling

/-!
How far apart the signaled work requests of a queue pair are. `shouldSignal`
counts the decisions it takes, while the fragments in front of the last are
posted unsignaled and uncounted, and a decision stays counted where the device
then rejects the work request. Where no post does either (`Counted`), among any
`signal_interval` work requests that the device accepts one after the other one
is signaled (`signaled_within_interval`).
-/
namespace Rdma.SignalGaps
open Rdma.Types Rdma.Verbs Rdma.Runs Rdma.QueuePairs Rdma.Signaling

/-! ### Gaps in a list of flags -/

/-- Any `n` flags in a row have one that is set. -/
def SetWithin (n : Nat) (flags : List Bool) : Prop := ∀ window, window <:+: flags → window.length = n → true ∈ window

/-- At most `k` flags at the end of the list are not set. -/
def Trails (k : Nat) (flags : List Bool) : Prop := ∀ window, window <:+ flags → true ∉ window → window.length ≤ k

theorem trails_nil (k : Nat) : Trails k [] := by
  intro window suffix _
  rw [List.suffix_nil.mp suffix]
  exact Nat.zero_le k

theorem Trails.mono {k more : Nat} {flags : List Bool} (trails : Trails k flags) (le : k ≤ more) :
    Trails more flags := fun window suffix unset => (trails window suffix unset).trans le

theorem Trails.unset {k : Nat} {flags : List Bool} (trails : Trails k flags) : Trails (k + 1) (flags ++ [false]) := by
  intro window suffix unset
  rcases List.suffix_concat_iff.mp suffix with rfl | ⟨front, rfl, inside⟩
  · exact Nat.zero_le _
  · have := trails front inside fun member => unset (List.mem_append_left _ member)
    rw [List.length_append, List.length_singleton]
    omega

theorem trails_set (flags : List Bool) : Trails 0 (flags ++ [true]) := by
  intro window suffix unset
  rcases List.suffix_concat_iff.mp suffix with rfl | ⟨front, rfl, -⟩
  · exact Nat.le_refl 0
  · exact absurd (List.mem_append_right front (List.mem_singleton_self true)) unset

theorem setWithin_nil {n : Nat} (positive : 0 < n) : SetWithin n [] := by
  intro window infix_ length
  rw [List.infix_nil.mp infix_] at length
  exact absurd length.symm (Nat.ne_of_gt positive)

/-- A flag behind the list closes no window without a set flag, if few flags at the end are not set. -/
theorem SetWithin.append {n k : Nat} {flags more : List Bool} (within : SetWithin n flags)
    (trails : Trails k (flags ++ more)) (short : k < n) (few : more.length ≤ 1) : SetWithin n (flags ++ more) := by
  rcases Nat.le_one_iff_eq_zero_or_eq_one.mp few with empty | single
  · rw [List.length_eq_zero_iff.mp empty, List.append_nil]
    exact within
  · obtain ⟨flag, rfl⟩ := List.length_eq_one_iff.mp single
    intro window inside length
    rcases List.infix_concat_iff.mp inside with suffix | earlier
    · by_contra unset
      have := trails window suffix unset
      omega
    · exact within window earlier length

/-! ### What a post hands over -/

/-- Whether each of the work requests that the device accepted is signaled. -/
def flags (wrs : List (SendWr × Bool)) : List Bool := (wrs.filter (·.2)).map (·.1.signaled)

theorem flags_append (front back : List (SendWr × Bool)) : flags (front ++ back) = flags front ++ flags back := by
  rw [flags, List.filter_append, List.map_append]
  rfl

theorem flags_single (wr : SendWr) (answer : Bool) : flags [(wr, answer)] = if answer then [wr.signaled] else [] := by
  cases answer with
  | true => rfl
  | false => rfl

/-- The device accepts the first fragment of a list that is split: it is unsignaled and nothing counts it. -/
def Splits (qp : QueuePair) : Post → Prop
  | .send .. | .sendInline .. | .write .. | .writeWithImm .. | .read .. => False
  | .sendSGL _ iov .. =>
    qp.config.maxSendSge.toNat < iov.length ∧ qp.config.maxSendSge.toNat ≤ 16 ∧ answer qp 0 = none

/-- Between the states the device accepts one work request, signaled as decided, or none if the call fails. -/
def Hands (qp after : QueuePair) (ok : Bool) : Prop :=
  ∃ wrs, after.device.sends = qp.device.sends ++ wrs ∧ flags wrs = if ok then [qp.shouldSignal.1] else []

theorem single_hands {qp after : QueuePair} {wr : SendWr} (signaled : wr.signaled = qp.shouldSignal.1)
    {failed : String} {status : Status}
    (returned : (qp.shouldSignal.2.post wr failed).map some id = (some status, after)) : Hands qp after status.ok := by
  obtain ⟨same, rest⟩ : some (qp.shouldSignal.2.post wr failed).1 = some status ∧
    (qp.shouldSignal.2.post wr failed).2 = after := Prod.mk.inj returned
  rw [← Option.some.inj same, ← rest]
  refine ⟨_, by rw [post_sends, (shouldSignal_frame qp).2], ?_⟩
  rw [flags_single, signaled]

theorem hands_nothing {qp after : QueuePair} (device : after.device.sends = qp.device.sends) :
    Hands qp after false := ⟨[], by rw [device, List.append_nil], rfl⟩

theorem doPostSendSGL_hands (qp : QueuePair) (iov : List Iovec) (lkey : UInt32) (wrId : UInt64) :
    Hands qp (qp.shouldSignal.2.doPostSendSGL iov lkey wrId qp.shouldSignal.1).2
      (qp.shouldSignal.2.doPostSendSGL iov lkey wrId qp.shouldSignal.1).1.ok := by
  by_cases fits : iov.length ≤ 16
  · obtain ⟨ok, wr, sends, -, signaled⟩ := doPostSendSGL_sends qp.shouldSignal.2 fits lkey wrId qp.shouldSignal.1
    refine ⟨_, by rw [sends, (shouldSignal_frame qp).2], ?_⟩
    rw [ok, flags_single, signaled, (shouldSignal_frame qp).2]
  · rw [doPostSendSGL_large _ (Nat.lt_of_not_le fits), ok_invalidArgument]
    exact hands_nothing (by rw [(shouldSignal_frame qp).2])

/-- A list whose first fragment does not go out: the call fails and nothing is accepted. -/
theorem postFragments_hands {qp after : QueuePair} {maxSge fuel : Nat} {wrIdBase : UInt64} {connId : UInt16}
    {generation : UInt8} {remaining : List Iovec} {fragmentIndex : UInt32} {status : Status}
    (more : maxSge < remaining.length) (stays : maxSge ≤ 16 → answer qp 0 ≠ none)
    (ran : qp.postFragments maxSge wrIdBase connId generation fuel remaining fragmentIndex = (some status, after)) :
    Hands qp after status.ok := by
  have some_left : remaining ≠ [] := List.ne_nil_of_length_pos (Nat.zero_lt_of_lt more)
  cases fuel with
  | zero =>
    obtain ⟨first, rest, rfl⟩ := List.exists_cons_of_ne_nil some_left
    cases ran
  | succ fuel =>
    rw [postFragments_succ maxSge wrIdBase connId generation qp fuel some_left, Nat.min_eq_right (Nat.le_of_lt more),
      postFragment_middle qp more] at ran
    have taken : (remaining.take maxSge).length = maxSge := by
      rw [List.length_take]
      omega
    by_cases few : maxSge ≤ 16
    · have rejected : qp.device.nextAnswer.isNone = false := by
        cases answered : qp.device.nextAnswer with
        | none => exact absurd answered (stays few)
        | some errno => rfl
      obtain ⟨ok, wr, sends, -, -⟩ := doPostSendSGL_sends qp (taken.trans_le few) 0
        (WrIds.encode connId .requestSend generation (fragmentSlot wrIdBase fragmentIndex)) false
      rw [rejected] at ok sends
      generalize qp.doPostSendSGL _ _ _ _ = posted at ran ok sends
      obtain ⟨posted, next⟩ := posted
      dsimp only at ran ok sends
      simp only [ok, Bool.not_false, if_true, Prod.mk.injEq, Option.some.injEq] at ran
      obtain ⟨rfl, rfl⟩ := ran
      rw [ok]
      exact ⟨_, sends, flags_single wr false⟩
    · rw [doPostSendSGL_large _ (by omega)] at ran
      simp only [ok_invalidArgument, Bool.not_false, if_true, Prod.mk.injEq, Option.some.injEq] at ran
      obtain ⟨rfl, rfl⟩ := ran
      rw [ok_invalidArgument]
      exact hands_nothing rfl

/-- A post that does not split its list hands the device what it has decided on, or nothing. -/
theorem on_hands {qp after : QueuePair} {post : Post} {status : Status} (whole : ¬Splits qp post)
    (returned : post.on qp = (some status, after)) : Hands qp after status.ok := by
  cases post with
  | send buf wrId => exact single_hands rfl returned
  | write buf remoteAddr remoteRkey wrId => exact single_hands rfl returned
  | writeWithImm buf remoteAddr remoteRkey immData wrId => exact single_hands rfl returned
  | read buf remoteAddr remoteRkey wrId => exact single_hands rfl returned
  | sendInline data length wrId =>
    rw [Post.on, QueuePair.postSendInline] at returned
    split at returned
    · obtain ⟨same, rfl⟩ := Prod.mk.inj returned
      obtain rfl := Option.some.inj same
      exact hands_nothing rfl
    · exact single_hands rfl returned
  | sendSGL fuel iov wrIdBase connId generation =>
    rw [Post.on, QueuePair.postSendSGL] at returned
    dsimp only at returned
    split at returned
    · obtain ⟨same, rfl⟩ := Prod.mk.inj returned
      obtain rfl := Option.some.inj same
      exact doPostSendSGL_hands ..
    · rename_i many
      have more := Nat.lt_of_not_le many
      exact postFragments_hands more (fun few accepted => whole ⟨more, few, accepted⟩) returned

/-! ### Every run -/

/-- The events in question: posts while there is capacity for a signaled one, and completions of signaled ones. -/
def Posting (traffic : Traffic) : Event → Prop
  | .post _ => traffic.qp.canPostSignaled = true
  | .sendComplete => True
  | .reset _ => False

/-- Every work request that the device accepts has been counted, and no decision to signal is lost on one that it
    rejects; with an interval of 1 every decision is to signal, and none is missed. -/
def Counted (traffic : Traffic) : Event → Prop
  | .post post =>
    ¬Splits traffic.qp post ∧ (traffic.qp.config.signalInterval = 1 ∨ ¬post.Leaks traffic.qp)
  | .sendComplete | .reset _ => True

/-- The accepted work requests at the end that are not signaled have been counted, and the counter is below the
    interval. -/
structure Spaced (start traffic : Traffic) : Prop where
  config : traffic.qp.config = start.qp.config
  below : traffic.qp.unsignaledCount.toNat < start.qp.config.signalInterval.toNat
  sends : ∃ wrs, traffic.qp.device.sends = start.qp.device.sends ++ wrs ∧
    Trails traffic.qp.unsignaledCount.toNat (flags wrs) ∧ SetWithin start.qp.config.signalInterval.toNat (flags wrs)

/-- A counter below the interval does not wrap. -/
theorem count_succ {qp : QueuePair} (below : qp.unsignaledCount.toNat < qp.config.signalInterval.toNat) :
    (qp.unsignaledCount + 1).toNat = qp.unsignaledCount.toNat + 1 := by
  have bound := qp.config.signalInterval.toNat_lt
  rw [UInt32.toNat_add, UInt32.toNat_one, Nat.mod_eq_of_lt (by omega)]

/-- What a counted post does to the counter, next to the work requests that the device accepts. -/
theorem post_trails {qp after : QueuePair} {post : Post} {status : Status} {earlier : List Bool}
    {wrs : List (SendWr × Bool)} (returned : post.on qp = (some status, after)) (capacity : qp.canPostSignaled = true)
    (kept : qp.config.signalInterval = 1 ∨ ¬post.Leaks qp)
    (below : qp.unsignaledCount.toNat < qp.config.signalInterval.toNat)
    (trails : Trails qp.unsignaledCount.toNat earlier)
    (handed : flags wrs = if status.ok then [qp.shouldSignal.1] else []) :
    after.unsignaledCount.toNat < qp.config.signalInterval.toNat ∧
      Trails after.unsignaledCount.toNat (earlier ++ flags wrs) := by
  obtain ⟨effect, succeeds⟩ := on_effect returned
  have counting := count_succ below
  by_cases decides : post.Decides qp
  · have count := (effect.decided decides).unsignaledCount
    cases signaled : qp.shouldSignal.1 with
    | false =>
      have early : ¬qp.config.signalInterval ≤ qp.unsignaledCount + 1 := by
        intro due
        rw [shouldSignal_eq, capacity, decide_eq_true due] at signaled
        cases signaled
      rw [UInt32.le_iff_toNat_le, counting] at early
      rw [shouldSignal_unsignaled signaled] at count
      rw [count, counting, handed, signaled]
      refine ⟨by omega, ?_⟩
      cases status.ok with
      | true => exact trails.unset
      | false =>
        rw [if_neg Bool.false_ne_true, List.append_nil]
        exact trails.mono (Nat.le_succ _)
    | true =>
      rw [shouldSignal_signaled signaled] at count
      have zero : after.unsignaledCount.toNat = 0 := congrArg UInt32.toNat count
      rw [zero, handed, signaled]
      refine ⟨by omega, ?_⟩
      cases ok : status.ok with
      | true => exact trails_set earlier
      | false =>
        -- a decision is lost: with an interval of 1 nothing has been counted before it
        have leaks : post.Leaks qp := ⟨decides, signaled, fun goes => by
          rw [succeeds.mpr ⟨decides, goes⟩] at ok
          cases ok⟩
        have one : qp.config.signalInterval = 1 := kept.resolve_right (not_not.mpr leaks)
        rw [one, UInt32.toNat_one] at below
        rw [if_neg Bool.false_ne_true, List.append_nil]
        exact trails.mono (by omega)
  · have failed : status.ok = false := Bool.eq_false_iff.mpr fun ok => decides (succeeds.mp ok).1
    rw [(effect.undecided decides).unsignaledCount, handed, failed, if_neg Bool.false_ne_true, List.append_nil]
    exact ⟨below, trails⟩

theorem post_spaced {start traffic next : Traffic} {post : Post} {now : List Status} (spaced : Spaced start traffic)
    (capacity : traffic.qp.canPostSignaled = true) (counted : Counted traffic (.post post))
    (stepped : traffic.step (.post post) = some (next, now)) : Spaced start next := by
  obtain ⟨status, after, returned, -, rfl⟩ := step_post stepped
  obtain ⟨wrs, sent, handed⟩ := on_hands counted.1 returned
  obtain ⟨earlier, sends, trails, within⟩ := spaced.sends
  have below : traffic.qp.unsignaledCount.toNat < traffic.qp.config.signalInterval.toNat := by
    rw [spaced.config]
    exact spaced.below
  obtain ⟨short, trailing⟩ := post_trails returned capacity counted.2 below trails handed
  rw [spaced.config] at short
  have few : (flags wrs).length ≤ 1 := by
    rw [handed]
    split <;> simp
  refine ⟨(on_outstanding returned).1.trans spaced.config, short, earlier ++ wrs, ?_, ?_, ?_⟩
  · rw [sent, sends, List.append_assoc]
  · rw [flags_append]
    exact trailing
  · rw [flags_append]
    exact within.append trailing short few

theorem step_spaced {start traffic next : Traffic} {event : Event} {now : List Status} (spaced : Spaced start traffic)
    (posting : Posting traffic event) (counted : Counted traffic event)
    (stepped : traffic.step event = some (next, now)) : Spaced start next := by
  cases event with
  | post post => exact post_spaced spaced posting counted stepped
  | sendComplete =>
    rw [Traffic.step] at stepped
    split at stepped
    · obtain ⟨rfl, -⟩ := Prod.mk.inj (Option.some.inj stepped)
      exact ⟨spaced.config, spaced.below, spaced.sends⟩
    · cases stepped
  | reset answer => cases posting

/-- Where every accepted work request is counted and no decision to signal is lost, among any `signal_interval` work
    requests that the device accepts in a row one is signaled. -/
theorem signaled_within_interval {config : QueuePairConfig} {device : Device} {events : List Event} {last : Traffic}
    {outputs : List Status} (interval : 1 ≤ config.signalInterval)
    (posting : Meets Traffic.step Posting (.start config device) events)
    (counted : Meets Traffic.step Counted (.start config device) events)
    (ran : run Traffic.step (.start config device) events = some (last, outputs)) :
    SetWithin config.signalInterval.toNat (flags (handed (Traffic.start config device).qp last.qp)) := by
  have positive : 0 < config.signalInterval.toNat := UInt32.le_iff_toNat_le.mp interval
  have start : Spaced (.start config device) (.start config device) :=
    ⟨rfl, positive, [], (List.append_nil _).symm, trails_nil _, setWithin_nil positive⟩
  have spaced : Spaced (.start config device) last :=
    invariant_of_run (fun _ _ _ _ spaced both taken => step_spaced spaced both.1 both.2 taken) start
      (meets_both posting counted) ran
  obtain ⟨wrs, sends, -, within⟩ := spaced.sends
  rw [handed_append sends]
  exact within

/-- A queue pair that signals every second work request, on a device with the given answers. -/
def everySecond (sendAnswer : Nat → Option Int) : Traffic :=
  .start { signalInterval := 2 } ⟨sendAnswer, fun _ => none, [], []⟩

/-- Two sends with an interval of 2. -/
theorem every_second_signaled : ∃ last outputs,
    run Traffic.step (everySecond fun _ => none) [.post (.send ⟨4096, 64, 1⟩ 0), .post (.send ⟨4096, 64, 1⟩ 1)] =
        some (last, outputs) ∧
      SetWithin 2 (flags (handed (everySecond fun _ => none).qp last.qp)) := by
  have posting : Meets Traffic.step Posting (everySecond fun _ => none)
      [.post (.send ⟨4096, 64, 1⟩ 0), .post (.send ⟨4096, 64, 1⟩ 1)] :=
    meets_cons rfl rfl (meets_cons rfl rfl (meets_nil _))
  have counted : Meets Traffic.step Counted (everySecond fun _ => none)
      [.post (.send ⟨4096, 64, 1⟩ 0), .post (.send ⟨4096, 64, 1⟩ 1)] :=
    meets_cons rfl ⟨id, .inr fun leaks => leaks.2.2 rfl⟩
      (meets_cons rfl ⟨id, .inr fun leaks => leaks.2.2 rfl⟩ (meets_nil _))
  exact ⟨_, _, rfl, signaled_within_interval (by decide) posting counted rfl⟩

/-- A queue pair that splits lists of more than one segment and signals every work request. -/
def oneSegment : Traffic :=
  .start { signalInterval := 1, maxSendSge := 1 } ⟨fun _ => none, fun _ => none, [], []⟩

/-- With an interval of 2, the second of three sends is to be signaled and rejected, and the two that are accepted are
    not signaled. With an interval of 1, the first of two fragments is accepted and not signaled. -/
theorem unsignaled_runs :
    (∃ last outputs, Meets Traffic.step Posting (everySecond fun index => if index = 1 then some 12 else none)
        [.post (.send ⟨4096, 64, 1⟩ 0), .post (.send ⟨4096, 64, 1⟩ 1), .post (.send ⟨4096, 64, 1⟩ 2)] ∧
      run Traffic.step (everySecond fun index => if index = 1 then some 12 else none)
        [.post (.send ⟨4096, 64, 1⟩ 0), .post (.send ⟨4096, 64, 1⟩ 1), .post (.send ⟨4096, 64, 1⟩ 2)] =
          some (last, outputs) ∧
      flags last.qp.device.sends = [false, false] ∧ ¬SetWithin 2 (flags last.qp.device.sends)) ∧
    ∃ last outputs, Meets Traffic.step Posting oneSegment [.post (.sendSGL 3 [⟨4096, 8⟩, ⟨8192, 8⟩] 0 0 0)] ∧
      run Traffic.step oneSegment [.post (.sendSGL 3 [⟨4096, 8⟩, ⟨8192, 8⟩] 0 0 0)] = some (last, outputs) ∧
      flags last.qp.device.sends = [false, true] ∧ ¬SetWithin 1 (flags last.qp.device.sends) := by
  refine ⟨⟨_, _, meets_cons rfl rfl (meets_cons rfl rfl (meets_cons rfl rfl (meets_nil _))), rfl, by decide, ?_⟩,
    ⟨_, _, meets_cons rfl rfl (meets_nil _), rfl, by decide, ?_⟩⟩
  · intro within
    exact absurd (within [false, false] ⟨[], [], by decide⟩ rfl) (by decide)
  · intro within
    exact absurd (within [false] ⟨[], [true], by decide⟩ rfl) (by decide)

end Rdma.SignalGaps
