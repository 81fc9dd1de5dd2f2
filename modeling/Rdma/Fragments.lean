import Mathlib.Data.List.Forall2
import Rdma.QueuePairs

/-!
Fragmentation of the segments of a send (`queue_pair.cpp`). `postSendSGL` cuts
the segments into work requests of `max_send_sge` segments each, while
`doPostSendSGL` has room for 16 in one work request. With a device that accepts
every work request, the segments go out faithfully if and only if there are
none, or the limit is not 0 and one of the limit and the number of segments is
at most 16 (`fragmented_iff`). With a limit of 0 the loop never ends
(`postFragments_stuck`).
-/
namespace Rdma.Fragments
open Rdma.Types Rdma.Verbs Rdma.QueuePairs

/-- The device accepts every work request. -/
def Accepting (device : Device) : Prop := ∀ call, device.sendAnswer call = none

/-- The element is the whole segment. -/
def Carries (sge : Sge) (segment : Iovec) : Prop :=
  sge.addr = segment.iovBase ∧ sge.length.toNat = segment.iovLen.toNat

/-- The work requests carry every segment once and in order, and none of them more than `limit` segments. -/
structure Faithful (limit : Nat) (iov : List Iovec) (wrs : List (SendWr × Bool)) : Prop where
  covers : List.Forall₂ Carries (wrs.flatMap fun wr => wr.1.sgList) iov
  narrow : ∀ wr ∈ wrs, wr.1.sgList.length ≤ limit

/-- The call returns `OK`, and what it has handed to the device carries the segments faithfully. -/
def Fragmented (qp : QueuePair) (iov : List Iovec) (wrIdBase : UInt64) (connId : UInt16) (generation : UInt8) : Prop :=
  ∃ fuel, (qp.postSendSGL fuel iov wrIdBase connId generation).1 = some Status.OK ∧
    Faithful qp.config.maxSendSge.toNat iov (handed qp (qp.postSendSGL fuel iov wrIdBase connId generation).2)

/-- The lengths fit in the elements of a work request. -/
def Short (iov : List Iovec) : Prop := ∀ segment ∈ iov, segment.iovLen.toNat < 2 ^ 32

theorem Accepting.next {device : Device} (accepting : Accepting device) : device.nextAnswer = none :=
  accepting device.sends.length

/-! ### Faithful work requests -/

theorem Faithful.none (limit : Nat) : Faithful limit [] [] := ⟨.nil, by simp⟩

/-- The segments of one work request. -/
theorem Faithful.one {limit : Nat} {iov : List Iovec} (short : Short iov) (fits : iov.length ≤ limit) (lkey : UInt32)
    {wr : SendWr} (segments : wr.sgList = iov.map fun segment => ⟨segment.iovBase, segment.iovLen.toUInt32, lkey⟩) :
    Faithful limit iov [(wr, true)] := by
  constructor
  · rw [List.flatMap_singleton, segments, List.forall₂_map_left_iff, List.forall₂_same]
    intro segment mem
    refine ⟨rfl, ?_⟩
    rw [UInt64.toNat_toUInt32]
    exact Nat.mod_eq_of_lt (short segment mem)
  · simpa [segments] using fits

theorem Faithful.append {limit : Nat} {front back : List Iovec} {first rest : List (SendWr × Bool)}
    (carried : Faithful limit front first) (others : Faithful limit back rest) :
    Faithful limit (front ++ back) (first ++ rest) := by
  constructor
  · rw [List.flatMap_append]
    exact List.rel_append carried.covers others.covers
  · intro wr mem
    rcases List.mem_append.mp mem with mem | mem
    · exact carried.narrow wr mem
    · exact others.narrow wr mem

/-! ### The loop -/

section Loop
variable (wrIdBase : UInt64) (connId : UInt16) (generation : UInt8)

/-- What an accepting device is handed for at most 16 segments. -/
theorem doPostSendSGL_accepted {qp : QueuePair} (accepting : Accepting qp.device) {iov : List Iovec}
    (fits : iov.length ≤ 16) (lkey : UInt32) (wrId : UInt64) (signaled : Bool) :
    ∃ wr next, qp.doPostSendSGL iov lkey wrId signaled = (Status.OK, next) ∧
      next.device.sends = qp.device.sends ++ [(wr, true)] ∧ Accepting next.device ∧
      wr.sgList = iov.map fun segment => ⟨segment.iovBase, segment.iovLen.toUInt32, lkey⟩ := by
  unfold QueuePair.doPostSendSGL
  rw [if_neg (Nat.not_lt.mpr fits), post_eq, accepting.next]
  refine ⟨{ wrId, opcode := .send, signaled,
            sgList := iov.map fun segment => ⟨segment.iovBase, segment.iovLen.toUInt32, lkey⟩ }, _, rfl, ?_, accepting, rfl⟩
  rw [Device.ibvPostSend, accepting.next]
  rfl

/-- A fragment of at most 16 segments is one work request with the first segments that remain. -/
theorem postFragment_accepted {qp : QueuePair} (accepting : Accepting qp.device) {chunk : Nat} (fits : chunk ≤ 16)
    (remaining : List Iovec) (fragmentIndex : UInt32) :
    ∃ wr next, qp.postFragment chunk wrIdBase connId generation remaining fragmentIndex = (Status.OK, next) ∧
      next.device.sends = qp.device.sends ++ [(wr, true)] ∧ Accepting next.device ∧
      wr.sgList = (remaining.take chunk).map fun segment => ⟨segment.iovBase, segment.iovLen.toUInt32, 0⟩ := by
  have taken : (remaining.take chunk).length ≤ 16 := by rw [List.length_take]; omega
  have device := (shouldSignal_frame qp).2
  unfold QueuePair.postFragment
  dsimp only
  split
  · rw [← device] at accepting ⊢
    exact doPostSendSGL_accepted accepting taken ..
  · exact doPostSendSGL_accepted accepting taken ..

/-- The loop ends after as many rounds as there are segments at most, and hands over all of them. -/
theorem postFragments_faithful {maxSge : Nat} (positive : 0 < maxSge) (narrow : maxSge ≤ 16) {qp : QueuePair}
    (accepting : Accepting qp.device) {fuel : Nat} {remaining : List Iovec} (enough : remaining.length ≤ fuel)
    (short : Short remaining) (fragmentIndex : UInt32) :
    ∃ wrs next, qp.postFragments maxSge wrIdBase connId generation fuel remaining fragmentIndex =
        (some Status.OK, next) ∧ next.device.sends = qp.device.sends ++ wrs ∧ Faithful maxSge remaining wrs := by
  induction fuel generalizing qp remaining fragmentIndex with
  | zero =>
    obtain rfl := List.eq_nil_of_length_eq_zero (Nat.le_zero.mp enough)
    exact ⟨[], qp, rfl, by simp, .none maxSge⟩
  | succ fuel ih =>
    by_cases empty : remaining = []
    · subst empty
      exact ⟨[], qp, rfl, by simp, .none maxSge⟩
    · have some_left : 0 < remaining.length := List.length_pos_of_ne_nil empty
      rw [postFragments_succ maxSge wrIdBase connId generation qp fuel empty]
      have fits : min remaining.length maxSge ≤ maxSge := Nat.min_le_right ..
      have advance : 0 < min remaining.length maxSge := by omega
      generalize min remaining.length maxSge = chunk at fits advance
      obtain ⟨wr, next, posted, sends, still, segments⟩ :=
        postFragment_accepted wrIdBase connId generation accepting (Nat.le_trans fits narrow) remaining fragmentIndex
      have fewer : (remaining.drop chunk).length ≤ fuel := by rw [List.length_drop]; omega
      obtain ⟨wrs, last, done, rest, others⟩ :=
        ih still fewer (fun segment mem => short segment (List.mem_of_mem_drop mem)) (fragmentIndex + 1)
      refine ⟨(wr, true) :: wrs, last, ?_, ?_, ?_⟩
      · simp only [posted]
        exact done
      · rw [rest, sends, List.append_assoc, List.singleton_append]
      · have first : Faithful maxSge (remaining.take chunk) [(wr, true)] := by
          refine .one (fun segment mem => short segment (List.mem_of_mem_take mem)) ?_ 0 segments
          rw [List.length_take]
          omega
        have both := first.append others
        rwa [List.take_append_drop, List.singleton_append] at both

/-- With a limit of 0 every fragment is empty, and the loop goes on for ever. -/
theorem postFragments_stuck {qp : QueuePair} (accepting : Accepting qp.device) (fuel : Nat) {remaining : List Iovec}
    (some_left : remaining ≠ []) (fragmentIndex : UInt32) :
    (qp.postFragments 0 wrIdBase connId generation fuel remaining fragmentIndex).1 = none := by
  induction fuel generalizing qp fragmentIndex with
  | zero =>
    obtain ⟨segment, rest, rfl⟩ := List.exists_cons_of_ne_nil some_left
    rfl
  | succ fuel ih =>
    obtain ⟨wr, next, posted, -, still, -⟩ :=
      postFragment_accepted wrIdBase connId generation accepting (Nat.zero_le 16) remaining fragmentIndex
    rw [postFragments_succ 0 wrIdBase connId generation qp fuel some_left, Nat.min_zero]
    simp only [posted]
    exact ih still (fragmentIndex + 1)

end Loop

/-! ### The call -/

section Call
variable {qp : QueuePair} {iov : List Iovec} {wrIdBase : UInt64} {connId : UInt16} {generation : UInt8}

theorem fragmented_of_single (accepting : Accepting qp.device) (short : Short iov)
    (fits : iov.length ≤ qp.config.maxSendSge.toNat) (small : iov.length ≤ 16) :
    Fragmented qp iov wrIdBase connId generation := by
  have device := (shouldSignal_frame qp).2
  rw [← device] at accepting
  obtain ⟨wr, next, posted, sends, -, segments⟩ :=
    doPostSendSGL_accepted accepting small 0 wrIdBase qp.shouldSignal.1
  rw [device] at sends
  refine ⟨0, ?_⟩
  unfold QueuePair.postSendSGL
  dsimp only
  rw [if_pos fits, posted, handed_append sends]
  exact ⟨rfl, .one short fits 0 segments⟩

theorem fragmented_of_fragments (accepting : Accepting qp.device) (short : Short iov)
    (more : qp.config.maxSendSge.toNat < iov.length) (positive : 0 < qp.config.maxSendSge.toNat)
    (narrow : qp.config.maxSendSge.toNat ≤ 16) : Fragmented qp iov wrIdBase connId generation := by
  obtain ⟨wrs, next, posted, sends, carried⟩ :=
    postFragments_faithful wrIdBase connId generation positive narrow accepting (Nat.le_refl iov.length) short 0
  refine ⟨iov.length, ?_⟩
  unfold QueuePair.postSendSGL
  dsimp only
  rw [if_neg (Nat.not_le.mpr more), posted, handed_append sends]
  exact ⟨rfl, carried⟩

/-- More than 16 segments for one work request are refused. -/
theorem not_fragmented_of_large (large : 16 < iov.length) (wide : 16 < qp.config.maxSendSge.toNat) :
    ¬Fragmented qp iov wrIdBase connId generation := by
  rintro ⟨fuel, returned, -⟩
  by_cases fits : iov.length ≤ qp.config.maxSendSge.toNat
  · unfold QueuePair.postSendSGL at returned
    dsimp only at returned
    rw [if_pos fits, doPostSendSGL_large _ large] at returned
    simp [Status.invalidArgument, Status.OK] at returned
  · have more := Nat.lt_of_not_le fits
    cases fuel with
    | zero =>
      have some_left : iov ≠ [] := List.ne_nil_of_length_pos (Nat.zero_lt_of_lt large)
      obtain ⟨segment, rest, rfl⟩ := List.exists_cons_of_ne_nil some_left
      unfold QueuePair.postSendSGL at returned
      dsimp only at returned
      rw [if_neg fits] at returned
      cases returned
    | succ fuel =>
      obtain ⟨failed, -⟩ := postFragment_large wrIdBase connId generation qp wide (Nat.le_of_lt more) 0
      rw [postSendSGL_fragments wrIdBase more] at returned
      simp only [failed, Bool.not_false, if_true, Option.some.injEq] at returned
      rw [returned] at failed
      cases failed

theorem not_fragmented_of_zero (accepting : Accepting qp.device) (some_left : iov ≠ [])
    (zero : qp.config.maxSendSge.toNat = 0) : ¬Fragmented qp iov wrIdBase connId generation := by
  rintro ⟨fuel, returned, -⟩
  have more : ¬iov.length ≤ 0 := Nat.not_le.mpr (List.length_pos_of_ne_nil some_left)
  unfold QueuePair.postSendSGL at returned
  dsimp only at returned
  rw [zero, if_neg more, postFragments_stuck wrIdBase connId generation accepting fuel some_left] at returned
  cases returned

/-- With a device that accepts every work request and lengths that fit, the segments go out faithfully if and only if
    there are none, or the limit is not 0 and the limit or the number of segments is at most 16. -/
theorem fragmented_iff (accepting : Accepting qp.device) (short : Short iov) :
    Fragmented qp iov wrIdBase connId generation ↔
      iov.length = 0 ∨ 0 < qp.config.maxSendSge.toNat ∧ (qp.config.maxSendSge.toNat ≤ 16 ∨ iov.length ≤ 16) := by
  constructor
  · intro faithful
    by_cases empty : iov = []
    · exact .inl (by simp [empty])
    · refine .inr ⟨?_, ?_⟩
      · by_contra zero
        exact not_fragmented_of_zero accepting empty (Nat.eq_zero_of_not_pos zero) faithful
      · by_contra wide
        rw [not_or, Nat.not_le, Nat.not_le] at wide
        exact not_fragmented_of_large wide.2 wide.1 faithful
  · rintro (empty | ⟨positive, small⟩)
    · apply fragmented_of_single accepting short <;> omega
    · by_cases fits : iov.length ≤ qp.config.maxSendSge.toNat
      · exact fragmented_of_single accepting short fits (by omega)
      · exact fragmented_of_fragments accepting short (Nat.lt_of_not_le fits) positive (by omega)

/-- Two segments with a limit of one segment. -/
theorem fragmented_two :
    Fragmented ⟨{ maxSendSge := 1 }, 0, 0, ⟨fun _ => none, fun _ => none, [], []⟩⟩ [⟨4096, 100⟩, ⟨8192, 200⟩] 7 1 0 :=
  (fragmented_iff (fun _ => rfl) (by unfold Short; decide)).mpr (by decide)

/-- A limit of 30 does not let 17 segments through. -/
theorem seventeen_not_fragmented :
    ¬∀ (qp : QueuePair) (iov : List Iovec) (wrIdBase : UInt64) (connId : UInt16) (generation : UInt8),
      Accepting qp.device → Short iov → Fragmented qp iov wrIdBase connId generation := by
  intro every
  have faithful := every ⟨{ maxSendSge := 30 }, 0, 0, ⟨fun _ => none, fun _ => none, [], []⟩⟩
    (List.replicate 17 ⟨4096, 100⟩) 7 1 0 (fun _ => rfl) (by unfold Short; decide)
  exact not_fragmented_of_large (by decide) (by decide) faithful

end Call

end Rdma.Fragments
