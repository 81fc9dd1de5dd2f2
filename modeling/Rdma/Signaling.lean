import Rdma.QueuePairs
import Rdma.Runs

/-!
Selective signaling over runs of a queue pair. A post operation asks
`shouldSignal` at most once (`Post.Decides`), before it knows whether the
device will accept the work request (`Post.Goes`), and it succeeds if and only
if it gets that far and the device does (`on_ok_iff`). `on_effect` says what
it does to the counters and how many completions it yields. So
`outstanding_signaled_` is the number of signaled work requests in flight as
long as no post that was to be signaled fails, and no longer
(`outstanding_exact_iff`).
-/
namespace Rdma.Signaling
open Rdma.Types Rdma.Verbs Rdma.Runs Rdma.QueuePairs

/-- A call of a post operation. `fuel` bounds the rounds of the fragmentation loop. -/
inductive Post
  | send (buf : Buffer) (wrId : UInt64)
  | sendInline (data length wrId : UInt64)
  | write (buf : Buffer) (remoteAddr : UInt64) (remoteRkey : UInt32) (wrId : UInt64)
  | writeWithImm (buf : Buffer) (remoteAddr : UInt64) (remoteRkey immData : UInt32) (wrId : UInt64)
  | read (buf : Buffer) (remoteAddr : UInt64) (remoteRkey : UInt32) (wrId : UInt64)
  | sendSGL (fuel : Nat) (iov : List Iovec) (wrIdBase : UInt64) (connId : UInt16) (generation : UInt8)
  deriving DecidableEq, Repr

/-- The status is `none` where the call has not returned after `fuel` rounds of the fragmentation loop. -/
def Post.on (qp : QueuePair) : Post → Option Status × QueuePair
  | .send buf wrId => (qp.postSend buf wrId).map some id
  | .sendInline data length wrId => (qp.postSendInline data length wrId).map some id
  | .write buf remoteAddr remoteRkey wrId => (qp.postWrite buf remoteAddr remoteRkey wrId).map some id
  | .writeWithImm buf remoteAddr remoteRkey immData wrId =>
    (qp.postWriteWithImm buf remoteAddr remoteRkey immData wrId).map some id
  | .read buf remoteAddr remoteRkey wrId => (qp.postRead buf remoteAddr remoteRkey wrId).map some id
  | .sendSGL fuel iov wrIdBase connId generation => qp.postSendSGL fuel iov wrIdBase connId generation

/-! ### When a post decides, and when it goes out -/

/-- The device's answer to the send with the given number from now on. -/
def answer (qp : QueuePair) (index : Nat) : Option Int := qp.device.sendAnswer (qp.device.sends.length + index)

/-- One more work request has been handed to the device. -/
theorem answer_behind {qp next : QueuePair} {wr : SendWr × Bool}
    (device : next.device = { qp.device with sends := qp.device.sends ++ [wr] }) (index : Nat) :
    answer next index = answer qp (index + 1) := by
  rw [answer, device]
  dsimp only
  rw [List.length_append, List.length_singleton, Nat.add_assoc, Nat.add_comm 1]
  rfl

/-- The fragments of `count` segments that come before the last one. -/
def fragmentsBefore (maxSge count : Nat) : Nat := (count - 1) / maxSge

/-- The fragmentation loop on `count` segments gets to the last fragment. -/
def GetsToLast (qp : QueuePair) (maxSge count : Nat) : Prop :=
  0 < maxSge ∧ maxSge ≤ 16 ∧ ∀ index < fragmentsBefore maxSge count, answer qp index = none

instance (qp : QueuePair) (maxSge count : Nat) : Decidable (GetsToLast qp maxSge count) :=
  inferInstanceAs (Decidable (_ ∧ _ ∧ _))

/-- The call gets to the signaling decision. -/
def Post.Decides (qp : QueuePair) : Post → Prop
  | .send .. | .write .. | .writeWithImm .. | .read .. => True
  | .sendInline _ length _ => length.toNat ≤ qp.config.maxInlineData.toNat
  | .sendSGL _ iov .. =>
    qp.config.maxSendSge.toNat < iov.length → GetsToLast qp qp.config.maxSendSge.toNat iov.length

/-- The device accepts the work request that the signaling decision is about. -/
def Post.Goes (qp : QueuePair) : Post → Prop
  | .send .. | .sendInline .. | .write .. | .writeWithImm .. | .read .. => answer qp 0 = none
  | .sendSGL _ iov .. =>
    if iov.length ≤ qp.config.maxSendSge.toNat then iov.length ≤ 16 ∧ answer qp 0 = none
    else answer qp (fragmentsBefore qp.config.maxSendSge.toNat iov.length) = none

/-- The call fails after it has counted its work request as signaled. -/
def Post.Leaks (qp : QueuePair) (post : Post) : Prop :=
  post.Decides qp ∧ qp.shouldSignal.1 = true ∧ ¬post.Goes qp

/-! ### What a post does to the counters -/

theorem shouldSignal_signaled {qp : QueuePair} (signaled : qp.shouldSignal.1 = true) :
    qp.shouldSignal.2 = { qp with unsignaledCount := 0, outstandingSignaled := qp.outstandingSignaled + 1 } := by
  unfold QueuePair.shouldSignal at signaled ⊢
  dsimp only at signaled ⊢
  split at signaled
  · rename_i due
    rw [if_pos due]
    split at signaled
    · cases signaled
    · rename_i room
      rw [if_neg room]
  · cases signaled

/-- A signaling decision adds to the outstanding work requests what it decides. -/
theorem shouldSignal_outstanding (qp : QueuePair) :
    qp.shouldSignal.2.outstandingSignaled.toNat = qp.outstandingSignaled.toNat + qp.shouldSignal.1.toNat ∧
      (qp.shouldSignal.1 = true → qp.outstandingSignaled.toNat < qp.config.cqDepth.toNat / 2) := by
  cases signaled : qp.shouldSignal.1 with
  | false =>
    rw [shouldSignal_unsignaled signaled]
    exact ⟨rfl, nofun⟩
  | true =>
    have capacity := signaled
    rw [shouldSignal_eq, Bool.and_eq_true] at capacity
    have room := UInt32.lt_iff_toNat_lt.mp (of_decide_eq_true capacity.2)
    rw [UInt32.toNat_div] at room
    have bound := qp.config.cqDepth.toNat_lt
    refine ⟨?_, fun _ => room⟩
    rw [shouldSignal_signaled signaled, UInt32.toNat_add, Nat.mod_eq_of_lt]
    · rfl
    · change _ + 1 < _
      change _ < _ / 2 at room
      omega

/-- Equal in everything that signaling and the device's answers depend on. -/
structure Alike (qp other : QueuePair) : Prop where
  config : other.config = qp.config
  unsignaledCount : other.unsignaledCount = qp.unsignaledCount
  outstanding : other.outstandingSignaled = qp.outstandingSignaled
  answers : other.device.sendAnswer = qp.device.sendAnswer

theorem Alike.refl (qp : QueuePair) : Alike qp qp := ⟨rfl, rfl, rfl, rfl⟩

theorem Alike.trans {qp other third : QueuePair} (first : Alike qp other) (second : Alike other third) :
    Alike qp third :=
  ⟨second.config.trans first.config, second.unsignaledCount.trans first.unsignaledCount,
    second.outstanding.trans first.outstanding, second.answers.trans first.answers⟩

theorem Alike.signal {qp other : QueuePair} (alike : Alike qp other) : other.shouldSignal.1 = qp.shouldSignal.1 :=
  shouldSignal_congr alike.config alike.unsignaledCount alike.outstanding

theorem Alike.shouldSignal {qp other : QueuePair} (alike : Alike qp other) :
    Alike qp.shouldSignal.2 other.shouldSignal.2 := by
  cases signaled : qp.shouldSignal.1 with
  | false =>
    rw [shouldSignal_unsignaled signaled, shouldSignal_unsignaled (alike.signal.trans signaled)]
    exact ⟨alike.config, congrArg (· + 1) alike.unsignaledCount, alike.outstanding, alike.answers⟩
  | true =>
    rw [shouldSignal_signaled signaled, shouldSignal_signaled (alike.signal.trans signaled)]
    exact ⟨alike.config, rfl, congrArg (· + 1) alike.outstanding, alike.answers⟩

theorem post_alike (qp : QueuePair) (wr : SendWr) (failed : String) : Alike qp (qp.post wr failed).2 := by
  rw [post_eq]
  exact ⟨rfl, rfl, rfl, rfl⟩

/-- What a call leaves behind that has taken the signaling decision or not: the counters, what it has handed over,
    and a completion to come if the work request is signaled and the call succeeds. -/
structure Effect (before after : QueuePair) (decides : Prop) (ok : Bool) : Prop where
  decided : decides → Alike before.shouldSignal.2 after
  undecided : ¬decides → Alike before after
  sends : ∃ wrs, after.device.sends = before.device.sends ++ wrs ∧
    (cqes wrs).length = (before.shouldSignal.1 && ok).toNat

/-- A work request that is posted as the signaling decision says. -/
theorem signaled_effect (qp : QueuePair) {wr : SendWr} (signaled : wr.signaled = qp.shouldSignal.1) (failed : String) :
    Effect qp (qp.shouldSignal.2.post wr failed).2 True (qp.shouldSignal.2.post wr failed).1.ok where
  decided _ := post_alike ..
  undecided undecided := absurd trivial undecided
  sends := by
    refine ⟨_, by rw [post_sends, (shouldSignal_frame qp).2], ?_⟩
    rw [cqes_single, signaled]

/-- A work request that is posted as the signaling decision says, if it has few enough segments. -/
theorem doPostSendSGL_effect (qp : QueuePair) (iov : List Iovec) (lkey : UInt32) (wrId : UInt64) :
    Effect qp (qp.shouldSignal.2.doPostSendSGL iov lkey wrId qp.shouldSignal.1).2 True
        (qp.shouldSignal.2.doPostSendSGL iov lkey wrId qp.shouldSignal.1).1.ok ∧
      ((qp.shouldSignal.2.doPostSendSGL iov lkey wrId qp.shouldSignal.1).1.ok = true ↔
        iov.length ≤ 16 ∧ answer qp 0 = none) := by
  unfold QueuePair.doPostSendSGL
  split
  · rename_i large
    refine ⟨⟨fun _ => ⟨rfl, rfl, rfl, rfl⟩, fun undecided => absurd trivial undecided, [], ?_, ?_⟩, ?_⟩
    · rw [(shouldSignal_frame qp).2, List.append_nil]
    · rw [ok_invalidArgument, Bool.and_false]
      rfl
    · rw [ok_invalidArgument]
      exact ⟨nofun, fun fits => absurd fits.1 (Nat.not_le_of_lt large)⟩
  · rename_i fits
    refine ⟨signaled_effect qp rfl _, ?_⟩
    rw [post_ok, (shouldSignal_frame qp).2, Option.isNone_iff_eq_none]
    exact ⟨fun accepted => ⟨Nat.le_of_not_lt fits, accepted⟩, fun goes => goes.2⟩

/-! ### The fragmentation loop -/

section Fragments
variable {maxSge : Nat} {wrIdBase : UInt64} {connId : UInt16} {generation : UInt8}

theorem fragmentsBefore_succ {count : Nat} (positive : 0 < maxSge) (more : maxSge < count) :
    fragmentsBefore maxSge count = fragmentsBefore maxSge (count - maxSge) + 1 := by
  unfold fragmentsBefore
  rw [Nat.div_eq, if_pos ⟨positive, by omega⟩]
  congr 2
  omega

theorem fragmentsBefore_last {count : Nat} (some_left : 0 < count) (last : count ≤ maxSge) :
    fragmentsBefore maxSge count = 0 := Nat.div_eq_of_lt (by omega)

/-- Whether the loop gets to the last fragment is decided by the fragments after one that was accepted. -/
theorem getsToLast_next {qp next : QueuePair} {count : Nat} (more : maxSge < count)
    (accepted : answer qp 0 = none) (shifted : ∀ index, answer next index = answer qp (index + 1)) :
    GetsToLast next maxSge (count - maxSge) ↔ GetsToLast qp maxSge count := by
  unfold GetsToLast
  refine and_congr_right fun positive => and_congr_right fun _ => ?_
  rw [fragmentsBefore_succ positive more]
  constructor
  · intro later index below
    cases index with
    | zero => exact accepted
    | succ index => exact (shifted index).symm.trans (later index (Nat.lt_of_succ_lt_succ below))
  · intro all index below
    exact (shifted index).trans (all (index + 1) (Nat.succ_lt_succ below))

/-- The work request of a fragment before the last. -/
def unsignaledWr (iov : List Iovec) (lkey : UInt32) (wrId : UInt64) : SendWr where
  wrId
  opcode := .send
  signaled := false
  sgList := iov.map fun segment => ⟨segment.iovBase, segment.iovLen.toUInt32, lkey⟩

/-- A work request that is posted unsignaled, if it has few enough segments. -/
theorem unsignaled_post (qp : QueuePair) (iov : List Iovec) (lkey : UInt32) (wrId : UInt64) :
    Alike qp (qp.doPostSendSGL iov lkey wrId false).2 ∧
      ((qp.doPostSendSGL iov lkey wrId false).1.ok = true ↔ iov.length ≤ 16 ∧ answer qp 0 = none) ∧
      ∃ wrs, (qp.doPostSendSGL iov lkey wrId false).2.device.sends = qp.device.sends ++ wrs ∧ cqes wrs = [] ∧
        (iov.length ≤ 16 → wrs.length = 1) := by
  by_cases fits : iov.length ≤ 16
  · have posted : qp.doPostSendSGL iov lkey wrId false = qp.post (unsignaledWr iov lkey wrId)
        "ibv_post_send SGL failed" := if_neg (Nat.not_lt.mpr fits)
    rw [posted, post_ok, Option.isNone_iff_eq_none]
    exact ⟨post_alike .., ⟨fun accepted => ⟨fits, accepted⟩, fun goes => goes.2⟩, _, post_sends .., rfl, fun _ => rfl⟩
  · rw [doPostSendSGL_large qp (Nat.lt_of_not_le fits)]
    refine ⟨⟨rfl, rfl, rfl, rfl⟩, ⟨nofun, fun goes => absurd goes.1 fits⟩, [], (List.append_nil _).symm, rfl, ?_⟩
    exact fun small => absurd small fits

theorem postFragment_last (qp : QueuePair) (remaining : List Iovec) (fragmentIndex : UInt32) :
    qp.postFragment remaining.length wrIdBase connId generation remaining fragmentIndex =
      qp.shouldSignal.2.doPostSendSGL remaining 0
        (WrIds.encode connId .requestSend generation (fragmentSlot wrIdBase fragmentIndex)) qp.shouldSignal.1 := by
  unfold QueuePair.postFragment
  dsimp only
  rw [if_pos rfl, List.take_length]

theorem postFragment_middle (qp : QueuePair) {remaining : List Iovec} (more : maxSge < remaining.length)
    (fragmentIndex : UInt32) :
    qp.postFragment maxSge wrIdBase connId generation remaining fragmentIndex =
      qp.doPostSendSGL (remaining.take maxSge) 0
        (WrIds.encode connId .requestSend generation (fragmentSlot wrIdBase fragmentIndex)) false := by
  unfold QueuePair.postFragment
  dsimp only
  rw [if_neg (Nat.ne_of_gt more)]

/-- The loop on `count` segments decides if it gets to the last fragment, and succeeds if the device accepts that one
    too. -/
structure LoopEffect (qp after : QueuePair) (maxSge count : Nat) (ok : Bool) : Prop where
  effect : Effect qp after (GetsToLast qp maxSge count) ok
  succeeds : ok = true ↔ GetsToLast qp maxSge count ∧ answer qp (fragmentsBefore maxSge count) = none

/-- A fragment before the last that was posted: what it hands over yields no completion. -/
structure Middle (qp next : QueuePair) (maxSge : Nat) (ok : Bool) : Prop where
  alike : Alike qp next
  accepts : ok = true ↔ maxSge ≤ 16 ∧ answer qp 0 = none
  sends : ∃ wrs, next.device.sends = qp.device.sends ++ wrs ∧ cqes wrs = [] ∧ (maxSge ≤ 16 → wrs.length = 1)

variable {qp next after : QueuePair} {count : Nat}

theorem Middle.stops (middle : Middle qp next maxSge false) (more : maxSge < count) :
    LoopEffect qp next maxSge count false := by
  have quits : ¬GetsToLast qp maxSge count := by
    rintro ⟨positive, few, accepted⟩
    rw [fragmentsBefore_succ positive more] at accepted
    exact absurd (middle.accepts.mpr ⟨few, accepted 0 (Nat.zero_lt_succ _)⟩) nofun
  refine ⟨⟨fun decides => absurd decides quits, fun _ => middle.alike, ?_⟩, nofun, fun goes => absurd goes.1 quits⟩
  obtain ⟨wrs, sends, quiet, -⟩ := middle.sends
  exact ⟨wrs, sends, by rw [quiet, Bool.and_false]; rfl⟩

theorem Middle.continues (middle : Middle qp next maxSge true) (more : maxSge < count) {ok : Bool}
    (rest : LoopEffect next after maxSge (count - maxSge) ok) : LoopEffect qp after maxSge count ok := by
  obtain ⟨few, accepted⟩ := middle.accepts.mp rfl
  obtain ⟨wrs, sends, quiet, one⟩ := middle.sends
  have shifted : ∀ index, answer next index = answer qp (index + 1) := by
    intro index
    rw [answer, middle.alike.answers, sends, List.length_append, one few, Nat.add_assoc, Nat.add_comm 1]
    rfl
  have gets := getsToLast_next more accepted shifted
  refine ⟨⟨fun decides => middle.alike.shouldSignal.trans (rest.effect.decided (gets.mpr decides)),
    fun quits => middle.alike.trans (rest.effect.undecided fun decides => quits (gets.mp decides)), ?_⟩, ?_⟩
  · obtain ⟨later, sent, completions⟩ := rest.effect.sends
    refine ⟨wrs ++ later, by rw [sent, sends, List.append_assoc], ?_⟩
    rw [cqes_append, quiet, List.nil_append, completions, middle.alike.signal]
  · rw [rest.succeeds, gets]
    refine and_congr_right fun decides => ?_
    rw [shifted, ← fragmentsBefore_succ decides.1 more]

/-- A round of the loop before the last. -/
theorem postFragment_posted (wrIdBase : UInt64) (connId : UInt16) (generation : UInt8) (qp : QueuePair)
    {remaining : List Iovec} (more : maxSge < remaining.length) (fragmentIndex : UInt32) :
    Middle qp (qp.postFragment maxSge wrIdBase connId generation remaining fragmentIndex).2 maxSge
      (qp.postFragment maxSge wrIdBase connId generation remaining fragmentIndex).1.ok := by
  rw [postFragment_middle qp more]
  obtain ⟨alike, accepts, sends⟩ := unsignaled_post qp (remaining.take maxSge) 0
    (WrIds.encode connId .requestSend generation (fragmentSlot wrIdBase fragmentIndex))
  rw [List.length_take, Nat.min_eq_left (Nat.le_of_lt more)] at accepts sends
  exact ⟨alike, accepts, sends⟩

theorem last_effect (some_left : 0 < count) (last : count ≤ maxSge) (small : maxSge ≤ 16) {ok : Bool}
    (effect : Effect qp after True ok) (succeeds : ok = true ↔ count ≤ 16 ∧ answer qp 0 = none) :
    LoopEffect qp after maxSge count ok := by
  have none_before := fragmentsBefore_last some_left last
  have gets : GetsToLast qp maxSge count := by
    refine ⟨by omega, small, fun index below => ?_⟩
    rw [none_before] at below
    cases below
  refine ⟨⟨fun _ => effect.decided trivial, fun quits => absurd gets quits, effect.sends⟩, ?_⟩
  rw [succeeds, none_before]
  exact and_congr_left fun _ => ⟨fun _ => gets, fun _ => Nat.le_trans last small⟩

/-- The round of the loop that posts the last fragment. -/
theorem last_round_effect {fuel : Nat} {remaining : List Iovec} {fragmentIndex : UInt32} {status : Status}
    (some_left : remaining ≠ []) (last : remaining.length ≤ maxSge) (few : maxSge ≤ 16)
    (ran : qp.postFragments maxSge wrIdBase connId generation (fuel + 1) remaining fragmentIndex =
      (some status, after)) : LoopEffect qp after maxSge remaining.length status.ok := by
  rw [postFragments_succ maxSge wrIdBase connId generation qp fuel some_left, Nat.min_eq_left last,
    postFragment_last] at ran
  obtain ⟨effect, succeeds⟩ := doPostSendSGL_effect qp remaining 0
    (WrIds.encode connId .requestSend generation (fragmentSlot wrIdBase fragmentIndex))
  generalize qp.shouldSignal.2.doPostSendSGL _ _ _ _ = posted at ran effect succeeds
  obtain ⟨posted, next⟩ := posted
  dsimp only at ran effect succeeds
  have ends := last_effect (List.length_pos_iff.mpr some_left) last few effect succeeds
  rw [List.drop_length] at ran
  split at ran
  · obtain ⟨same, rfl⟩ := Prod.mk.inj ran
    obtain rfl := Option.some.inj same
    exact ends
  · rename_i ok
    have returned : next.postFragments maxSge wrIdBase connId generation fuel [] (fragmentIndex + 1) =
        (some Status.OK, next) := by cases fuel <;> rfl
    obtain ⟨same, rfl⟩ := Prod.mk.inj (returned.symm.trans ran)
    obtain rfl := Option.some.inj same
    rw [Bool.not_eq_true, Bool.not_eq_false'] at ok
    rw [ok] at ends
    exact ends

/-- A run of the loop that returns. -/
theorem postFragments_effect {fuel : Nat} {remaining : List Iovec} {fragmentIndex : UInt32} {status : Status}
    (some_left : remaining ≠ []) (small : maxSge < remaining.length ∨ maxSge ≤ 16)
    (ran : qp.postFragments maxSge wrIdBase connId generation fuel remaining fragmentIndex = (some status, after)) :
    LoopEffect qp after maxSge remaining.length status.ok := by
  induction fuel generalizing qp remaining fragmentIndex with
  | zero =>
    cases remaining with
    | nil => exact absurd rfl some_left
    | cons first rest => cases ran
  | succ fuel ih =>
    by_cases more : maxSge < remaining.length
    · rw [postFragments_succ maxSge wrIdBase connId generation qp fuel some_left] at ran
      have middle := postFragment_posted wrIdBase connId generation qp more fragmentIndex
      rw [Nat.min_eq_right (Nat.le_of_lt more)] at ran
      generalize qp.postFragment _ _ _ _ _ _ = posted at ran middle
      obtain ⟨posted, next⟩ := posted
      dsimp only at ran middle
      cases ok : posted.ok with
      | false =>
        rw [ok] at middle
        simp only [ok, Bool.not_false, if_true, Prod.mk.injEq, Option.some.injEq] at ran
        obtain ⟨rfl, rfl⟩ := ran
        rw [ok]
        exact middle.stops more
      | true =>
        rw [ok] at middle
        simp only [ok, Bool.not_true, Bool.false_eq_true, if_false] at ran
        have left : remaining.drop maxSge ≠ [] := by
          rw [Ne, List.drop_eq_nil_iff]
          exact Nat.not_le.mpr more
        have rest := ih left (.inr (middle.accepts.mp rfl).1) ran
        rw [List.length_drop] at rest
        exact middle.continues more rest
    · exact last_round_effect some_left (Nat.le_of_not_lt more) (small.resolve_left more) ran

end Fragments

/-! ### The post operations -/

/-- The posts of a single work request. -/
theorem single_effect {qp after : QueuePair} {wr : SendWr} (signaled : wr.signaled = qp.shouldSignal.1) {failed : String}
    {status : Status} (returned : (qp.shouldSignal.2.post wr failed).map some id = (some status, after)) :
    Effect qp after True status.ok ∧ (status.ok = true ↔ True ∧ answer qp 0 = none) := by
  obtain ⟨same, rest⟩ : some (qp.shouldSignal.2.post wr failed).1 = some status ∧
    (qp.shouldSignal.2.post wr failed).2 = after := Prod.mk.inj returned
  rw [← Option.some.inj same, ← rest]
  refine ⟨signaled_effect qp signaled failed, ?_⟩
  rw [post_ok, (shouldSignal_frame qp).2, Option.isNone_iff_eq_none, true_and]
  rfl

theorem Effect.congr {qp after : QueuePair} {decides others : Prop} {ok : Bool} (effect : Effect qp after decides ok)
    (same : decides ↔ others) : Effect qp after others ok := by rwa [← propext same]

theorem sendInline_effect {qp after : QueuePair} {data length wrId : UInt64} {status : Status}
    (returned : (Post.sendInline data length wrId).on qp = (some status, after)) :
    Effect qp after ((Post.sendInline data length wrId).Decides qp) status.ok ∧
      (status.ok = true ↔ (Post.sendInline data length wrId).Decides qp ∧ (Post.sendInline data length wrId).Goes qp) := by
  rw [Post.on, QueuePair.postSendInline] at returned
  split at returned
  · rename_i large
    obtain ⟨same, rfl⟩ := Prod.mk.inj returned
    obtain rfl := Option.some.inj same
    have quits : ¬length.toNat ≤ qp.config.maxInlineData.toNat := Nat.not_le_of_lt large
    refine ⟨⟨fun decides => absurd decides quits, fun _ => ⟨rfl, rfl, rfl, rfl⟩, [], (List.append_nil _).symm, ?_⟩, ?_⟩
    · rw [ok_invalidArgument, Bool.and_false]
      rfl
    · rw [ok_invalidArgument]
      exact ⟨nofun, fun goes => absurd goes.1 quits⟩
  · rename_i fits
    have decides : True ↔ length.toNat ≤ qp.config.maxInlineData.toNat :=
      ⟨fun _ => Nat.le_of_not_lt fits, fun _ => trivial⟩
    obtain ⟨effect, succeeds⟩ := single_effect rfl returned
    exact ⟨effect.congr decides, succeeds.trans (and_congr_left fun _ => decides)⟩

theorem sendSGL_effect {qp after : QueuePair} {fuel : Nat} {iov : List Iovec} {wrIdBase : UInt64} {connId : UInt16}
    {generation : UInt8} {status : Status}
    (returned : (Post.sendSGL fuel iov wrIdBase connId generation).on qp = (some status, after)) :
    Effect qp after ((Post.sendSGL fuel iov wrIdBase connId generation).Decides qp) status.ok ∧
      (status.ok = true ↔ (Post.sendSGL fuel iov wrIdBase connId generation).Decides qp ∧
        (Post.sendSGL fuel iov wrIdBase connId generation).Goes qp) := by
  rw [Post.on, QueuePair.postSendSGL] at returned
  dsimp only at returned
  rw [Post.Decides, Post.Goes]
  split at returned
  · rename_i fits
    obtain ⟨same, rfl⟩ := Prod.mk.inj returned
    obtain rfl := Option.some.inj same
    obtain ⟨effect, succeeds⟩ := doPostSendSGL_effect qp iov 0 wrIdBase
    have decides : True ↔ (qp.config.maxSendSge.toNat < iov.length →
        GetsToLast qp qp.config.maxSendSge.toNat iov.length) :=
      ⟨fun _ more => absurd fits (Nat.not_le_of_lt more), fun _ => trivial⟩
    refine ⟨effect.congr decides, succeeds.trans ?_⟩
    rw [if_pos fits, ← decides, true_and]
  · rename_i many
    have more := Nat.lt_of_not_le many
    have some_left := List.ne_nil_of_length_pos (Nat.lt_of_le_of_lt (Nat.zero_le _) more)
    obtain ⟨effect, succeeds⟩ := postFragments_effect some_left (.inl more) returned
    have decides : GetsToLast qp qp.config.maxSendSge.toNat iov.length ↔ (qp.config.maxSendSge.toNat < iov.length →
        GetsToLast qp qp.config.maxSendSge.toNat iov.length) := ⟨fun gets _ => gets, fun gets => gets more⟩
    refine ⟨effect.congr decides, succeeds.trans ?_⟩
    rw [if_neg many, ← decides]

/-- What a post that returns does, and whether it succeeds. -/
theorem on_effect {qp after : QueuePair} {post : Post} {status : Status} (returned : post.on qp = (some status, after)) :
    Effect qp after (post.Decides qp) status.ok ∧ (status.ok = true ↔ post.Decides qp ∧ post.Goes qp) := by
  cases post with
  | send buf wrId => exact single_effect rfl returned
  | write buf remoteAddr remoteRkey wrId => exact single_effect rfl returned
  | writeWithImm buf remoteAddr remoteRkey immData wrId => exact single_effect rfl returned
  | read buf remoteAddr remoteRkey wrId => exact single_effect rfl returned
  | sendInline data length wrId => exact sendInline_effect returned
  | sendSGL fuel iov wrIdBase connId generation => exact sendSGL_effect returned

/-! ### Runs of a queue pair -/

/-- A queue pair with the numbers of signaled work requests that its device has accepted since the last reset, and of
    those completed since, which are history variables. -/
structure Traffic where
  qp : QueuePair
  accepted : Nat
  completed : Nat

inductive Event
  | post (post : Post)
  | sendComplete
  | reset (answer : Option Int)

/-- A post that does not return is no step, nor is a completion where no signaled work request is in flight. -/
def Traffic.step (traffic : Traffic) : Event → Option (Traffic × List Status)
  | .post post => do
    let (status, qp) := post.on traffic.qp
    let status ← status
    some ({ traffic with qp, accepted := traffic.accepted + (cqes (handed traffic.qp qp)).length }, [status])
  | .sendComplete =>
    if traffic.completed < traffic.accepted then
      some ({ traffic with qp := traffic.qp.onSendComplete true, completed := traffic.completed + 1 }, [])
    else none
  | .reset answer =>
    let (status, qp) := traffic.qp.reset answer
    some (if status.ok then ⟨qp, 0, 0⟩ else { traffic with qp }, [status])

/-- A queue pair that was just created. -/
def Traffic.start (config : QueuePairConfig) (device : Device) : Traffic := ⟨{ config, device }, 0, 0⟩

/-- The counter is the number of signaled work requests in flight, and there is capacity if there are none. -/
structure Exact (traffic : Traffic) : Prop where
  inside : traffic.completed ≤ traffic.accepted
  counts : traffic.qp.outstandingSignaled.toNat = traffic.accepted - traffic.completed
  capacity : traffic.accepted = traffic.completed →
    (traffic.qp.canPostSignaled = true ↔ 2 ≤ traffic.qp.config.cqDepth.toNat)

/-- The step leaves the counter exact, and leaves it alone if it fails. -/
def Keeps (traffic : Traffic) (event : Event) : Prop :=
  ∀ next now, traffic.step event = some (next, now) → Exact next ∧
    ∀ status ∈ now, status.ok = false → next.qp.outstandingSignaled = traffic.qp.outstandingSignaled

/-- The step is no post that fails after it has counted its work request as signaled. -/
def Returns (traffic : Traffic) : Event → Prop
  | .post post => ¬post.Leaks traffic.qp
  | .sendComplete | .reset _ => True

/-- A post that returns adds to the counter one for each completion to come, and one if it leaks. -/
theorem on_outstanding {qp after : QueuePair} {post : Post} {status : Status}
    (returned : post.on qp = (some status, after)) :
    after.config = qp.config ∧ (status.ok = false → (cqes (handed qp after)).length = 0) ∧
      (post.Leaks qp → after.outstandingSignaled.toNat =
        qp.outstandingSignaled.toNat + (cqes (handed qp after)).length + 1) ∧
      (¬post.Leaks qp → after.outstandingSignaled.toNat =
        qp.outstandingSignaled.toNat + (cqes (handed qp after)).length) := by
  obtain ⟨effect, succeeds⟩ := on_effect returned
  obtain ⟨wrs, sends, completions⟩ := effect.sends
  rw [handed_append sends, completions]
  refine ⟨?_, fun failed => by rw [failed, Bool.and_false]; rfl, ?_, ?_⟩
  · by_cases decides : post.Decides qp
    · exact (effect.decided decides).config.trans (shouldSignal_frame qp).1
    · exact (effect.undecided decides).config
  · rintro ⟨decides, signaled, stays⟩
    have failed : status.ok = false := Bool.eq_false_iff.mpr fun ok => stays (succeeds.mp ok).2
    rw [(effect.decided decides).outstanding, (shouldSignal_outstanding qp).1, signaled, failed]
    rfl
  · intro keeps
    by_cases decides : post.Decides qp
    · rw [(effect.decided decides).outstanding, (shouldSignal_outstanding qp).1]
      cases signaled : qp.shouldSignal.1 with
      | false => rfl
      | true =>
        have goes : post.Goes qp := by
          by_contra stays
          exact keeps ⟨decides, signaled, stays⟩
        rw [succeeds.mpr ⟨decides, goes⟩]
        rfl
    · have failed : status.ok = false := Bool.eq_false_iff.mpr fun ok => decides (succeeds.mp ok).1
      rw [(effect.undecided decides).outstanding, failed, Bool.and_false]
      rfl

variable {traffic next : Traffic} {event : Event} {now : List Status}

/-- A counter that counts the work requests in flight leaves capacity where there are none. -/
theorem exact_of_counts (inside : traffic.completed ≤ traffic.accepted)
    (counts : traffic.qp.outstandingSignaled.toNat = traffic.accepted - traffic.completed) : Exact traffic := by
  refine ⟨inside, counts, fun settled => ?_⟩
  have zero : traffic.qp.outstandingSignaled = 0 := by
    apply UInt32.toNat_inj.mp
    rw [counts, settled, Nat.sub_self]
    rfl
  rw [QueuePair.canPostSignaled, zero, decide_eq_true_iff, UInt32.lt_iff_toNat_lt, UInt32.toNat_div]
  change 0 < _ / 2 ↔ _
  omega

theorem step_post {post : Post} (stepped : traffic.step (.post post) = some (next, now)) :
    ∃ status after, post.on traffic.qp = (some status, after) ∧ now = [status] ∧
      next = ⟨after, traffic.accepted + (cqes (handed traffic.qp after)).length, traffic.completed⟩ := by
  obtain ⟨status, returned, stepped⟩ := Option.bind_eq_some_iff.mp stepped
  obtain ⟨rfl, rfl⟩ := Prod.mk.inj (Option.some.inj stepped)
  exact ⟨status, _, Prod.ext returned rfl, rfl, rfl⟩

/-- What a step does to an exact counter: it keeps it exact if and only if it is no post that leaks. -/
theorem step_exact (exact : Exact traffic) (stepped : traffic.step event = some (next, now)) :
    (Exact next ↔ Returns traffic event) ∧ (Returns traffic event →
      ∀ status ∈ now, status.ok = false → next.qp.outstandingSignaled = traffic.qp.outstandingSignaled) := by
  have inside := exact.inside
  have counts := exact.counts
  cases event with
  | post post =>
    obtain ⟨status, after, returned, rfl, rfl⟩ := step_post stepped
    obtain ⟨-, failing, leaking, kept⟩ := on_outstanding returned
    refine ⟨⟨fun exact leaks => ?_, fun keeps => exact_of_counts ?_ ?_⟩, fun keeps other member failed => ?_⟩
    · have counted := exact.counts
      have lost := leaking leaks
      dsimp only at counted
      omega
    · exact Nat.le_trans inside (Nat.le_add_right ..)
    · rw [kept keeps, counts]
      dsimp only
      omega
    · rw [List.mem_singleton.mp member] at failed
      apply UInt32.toNat_inj.mp
      rw [kept keeps, failing failed, Nat.add_zero]
  | sendComplete =>
    rw [Traffic.step] at stepped
    split at stepped
    · rename_i flying
      obtain ⟨rfl, rfl⟩ := Prod.mk.inj (Option.some.inj stepped)
      refine ⟨⟨fun _ => trivial, fun _ => exact_of_counts flying ?_⟩, fun _ _ member => by cases member⟩
      change (traffic.qp.outstandingSignaled - 1).toNat = _
      rw [UInt32.toNat_sub_of_le, counts]
      · exact Nat.sub_sub ..
      · rw [UInt32.le_iff_toNat_le, counts]
        change 1 ≤ _
        omega
    · cases stepped
  | reset answer =>
    obtain ⟨rfl, rfl⟩ := Prod.mk.inj (Option.some.inj stepped)
    cases answer with
    | none =>
      refine ⟨⟨fun _ => trivial, fun _ => exact_of_counts (Nat.le_refl _) rfl⟩, fun _ status member failed => ?_⟩
      rw [List.mem_singleton.mp member] at failed
      cases failed
    | some errno => exact ⟨⟨fun _ => trivial, fun _ => exact⟩, fun _ _ _ _ => rfl⟩

theorem keeps_iff (exact : Exact traffic) (stepped : traffic.step event = some (next, now)) :
    Keeps traffic event ↔ Returns traffic event := by
  obtain ⟨exact_iff, unchanged⟩ := step_exact exact stepped
  constructor
  · intro keeps
    exact exact_iff.mp (keeps next now stepped).1
  · intro returns other outputs taken
    obtain ⟨rfl, rfl⟩ := Prod.mk.inj (Option.some.inj (stepped.symm.trans taken))
    exact ⟨exact_iff.mpr returns, unchanged returns⟩

/-- Every step of a run keeps the counter of outstanding signaled work requests exact if and only if no step is a post
    that fails after it has counted its work request. -/
theorem outstanding_exact_iff {config : QueuePairConfig} {device : Device} {events : List Event} {last : Traffic}
    {outputs : List Status} (ran : run Traffic.step (.start config device) events = some (last, outputs)) :
    Exact (.start config device) ∧ (Meets Traffic.step Keeps (.start config device) events ↔
      Meets Traffic.step Returns (.start config device) events) := by
  have start : Exact (.start config device) := exact_of_counts (Nat.le_refl 0) rfl
  refine ⟨start, meets_congr (fun traffic event next now exact taken => ?_)
    (fun traffic event next now exact returns taken => ?_) start ran⟩
  · exact keeps_iff exact taken
  · exact (step_exact exact taken).1.mpr returns

/-- Sixteen sends that the device accepts, and the completion of the one that is signaled. -/
theorem accepted_sends_run : ∃ last outputs,
    run Traffic.step (.start {} ⟨fun _ => none, fun _ => none, [], []⟩)
        (List.replicate 16 (.post (.send ⟨4096, 64, 1⟩ 0)) ++ [.sendComplete]) = some (last, outputs) ∧
      Exact (.start {} ⟨fun _ => none, fun _ => none, [], []⟩) ∧
      (Meets Traffic.step Keeps (.start {} ⟨fun _ => none, fun _ => none, [], []⟩)
          (List.replicate 16 (.post (.send ⟨4096, 64, 1⟩ 0)) ++ [.sendComplete]) ↔
        Meets Traffic.step Returns (.start {} ⟨fun _ => none, fun _ => none, [], []⟩)
          (List.replicate 16 (.post (.send ⟨4096, 64, 1⟩ 0)) ++ [.sendComplete])) :=
  ⟨_, _, rfl, outstanding_exact_iff rfl⟩

/-- Sixteen sends, of which the device rejects the last: nothing is in flight and there is no capacity any more. -/
theorem rejected_send_leaks : ∃ last outputs,
    run Traffic.step (.start { cqDepth := 2 } ⟨fun index => if index = 15 then some 12 else none, fun _ => none, [], []⟩)
        (List.replicate 16 (.post (.send ⟨4096, 64, 1⟩ 0))) = some (last, outputs) ∧
      last.accepted = 0 ∧ last.completed = 0 ∧ last.qp.outstandingSignaled = 1 ∧ last.qp.canPostSignaled = false :=
  ⟨_, _, rfl, by decide +kernel⟩

end Rdma.Signaling
