import Rdma.Chains
import Rdma.Runs
import Rdma.Types

/-!
The doorbell batcher (`doorbell_batcher.h`): work requests of the caller are
linked into a chain, which one `ibv_post_send` submits when the batch is full,
too old, or the reactor idles. The pending chain is what the head, the tail, the
count and the links agree on (`Inv`), so the chains submitted and the pending one
list the work requests added, in order (`chains_in_order`). Which work requests
the device has rejected can be told from what the batcher returns only where a
chain of one is flushed outside `AddSendWr` (`rejections_told_iff`).
-/
namespace Rdma.Doorbells
open Rdma.Types Rdma.Runs Rdma.Chains

/-! ### The batcher -/

structure Config where
  maxBatchSize : Nat := 32
  maxDelayUs : UInt32 := 10
  deriving DecidableEq, Repr

/-- `next` is the memory of the work requests: their links, which belong to the caller while they are not pending. -/
structure DoorbellBatcher where
  config : Config
  tscPerUs : UInt64 := 2400
  sendHead : Option Nat := none
  sendTail : Option Nat := none
  sendCount : Nat := 0
  firstWrTsc : UInt64 := 0
  idlePollCount : UInt32 := 0
  next : Nat → Option Nat

/-- The answer of `ibv_post_send` to a chain: it accepts all work requests, or it returns an error with `bad_wr` at the
    first rejected one, behind as many accepted as `accepted` says, short of all. -/
inductive Answer
  | ok
  | failed (ret : Int) (nonzero : ret ≠ 0) (accepted : Nat)
  deriving DecidableEq, Repr

def Answer.ret : Answer → Int
  | .ok => 0
  | .failed ret _ _ => ret

def Answer.accepts (chain : List Nat) : Answer → List Nat
  | .ok => chain
  | .failed _ _ accepted => chain.take (min accepted (chain.length - 1))

def Answer.rejects (chain : List Nat) : Answer → List Nat
  | .ok => []
  | .failed _ _ accepted => chain.drop (min accepted (chain.length - 1))

/-- What `FlushSend` returns. -/
def Answer.status (answer : Answer) : Status :=
  if answer.ret ≠ 0 then Status.ioError "ibv_post_send failed" answer.ret else Status.OK

/-- The status that the caller of the batcher gets, if the flush is one that `reports`. -/
def Answer.seen (answer : Answer) (reports : Bool) : Option Status := if reports then some answer.status else none

/-- A call of `ibv_post_send`: the head of the chain, the memory at the time, and the answer. -/
structure Submission where
  head : Option Nat
  next : Nat → Option Nat
  answer : Answer
  reports : Bool

/-- `tsc` is what `GetTsc` returns. -/
def DoorbellBatcher.shouldFlush (batcher : DoorbellBatcher) (tsc : UInt64) : Bool :=
  if batcher.sendCount = 0 then false
  else if batcher.config.maxBatchSize ≤ batcher.sendCount then true
  else if batcher.config.maxDelayUs.toUInt64 * batcher.tscPerUs ≤ tsc - batcher.firstWrTsc then true
  else if 2 ≤ batcher.idlePollCount ∧ 0 < batcher.sendCount then true
  else false

/-- The batcher behind a submission. -/
def DoorbellBatcher.reset (batcher : DoorbellBatcher) : DoorbellBatcher :=
  { batcher with sendHead := none, sendTail := none, sendCount := 0, idlePollCount := 0 }

/-- `answer` is what `ibv_post_send` answers if it is called, and `reports` whether the status gets to the caller. -/
def DoorbellBatcher.flushSend (batcher : DoorbellBatcher) (answer : Answer) (reports : Bool) :
    DoorbellBatcher × List Submission :=
  if batcher.sendHead = none then (batcher, [])
  else
    (batcher.reset, [⟨batcher.sendHead, batcher.next, answer, reports⟩])

/-- The links and the tail after the work request is put behind the others. -/
def DoorbellBatcher.enqueue (batcher : DoorbellBatcher) (wr : Nat) (tsc : UInt64) : DoorbellBatcher :=
  let batcher :=
    match batcher.sendTail with
    | some tail => { batcher with next := Function.update batcher.next tail (some wr) }
    | none => { batcher with sendHead := some wr, firstWrTsc := tsc }
  { batcher with
    sendTail := some wr
    next := Function.update batcher.next wr none
    sendCount := batcher.sendCount + 1 }

/-- The status of the flush is dropped. -/
def DoorbellBatcher.addSendWr (batcher : DoorbellBatcher) (wr : Nat) (tsc : UInt64) (answer : Answer) :
    DoorbellBatcher × List Submission :=
  let batcher := batcher.enqueue wr tsc
  if batcher.config.maxBatchSize ≤ batcher.sendCount then batcher.flushSend answer false else (batcher, [])

/-- `idle_poll_count_` at the end of a poll. -/
def DoorbellBatcher.polled (batcher : DoorbellBatcher) (hadEvents : Bool) : DoorbellBatcher :=
  { batcher with idlePollCount := if !hadEvents then batcher.idlePollCount + 1 else 0 }

def DoorbellBatcher.onPollEnd (batcher : DoorbellBatcher) (hadEvents : Bool) (tsc : UInt64) (answer : Answer) :
    DoorbellBatcher × List Submission :=
  let batcher := batcher.polled hadEvents
  if batcher.shouldFlush tsc then batcher.flushSend answer true else (batcher, [])

/-- `relink` is a write of the caller to a work request of its own. -/
inductive Event
  | addSendWr (wr : Nat) (tsc : UInt64) (answer : Answer)
  | flushSend (answer : Answer)
  | onPollEnd (hadEvents : Bool) (tsc : UInt64) (answer : Answer)
  | relink (wr : Nat) (pointer : Option Nat)

def DoorbellBatcher.step (batcher : DoorbellBatcher) : Event → DoorbellBatcher × List Submission
  | .addSendWr wr tsc answer => batcher.addSendWr wr tsc answer
  | .flushSend answer => batcher.flushSend answer true
  | .onPollEnd hadEvents tsc answer => batcher.onPollEnd hadEvents tsc answer
  | .relink wr pointer => ({ batcher with next := Function.update batcher.next wr pointer }, [])

/-- Every step is defined. -/
def machine (batcher : DoorbellBatcher) (event : Event) : Option (DoorbellBatcher × List Submission) :=
  some (batcher.step event)

/-- The work request is on no chain from the head. -/
def Submitted (batcher : DoorbellBatcher) (wr : Nat) : Prop :=
  ∀ chain, Chain batcher.next batcher.sendHead chain → wr ∉ chain

/-- A work request is added again, or written by the caller, only after it was submitted. -/
def Owned (batcher : DoorbellBatcher) : Event → Prop
  | .addSendWr wr _ _ | .relink wr _ => Submitted batcher wr
  | .flushSend _ | .onPollEnd .. => True

def Event.added : Event → Option Nat
  | .addSendWr wr _ _ => some wr
  | .flushSend _ | .onPollEnd .. | .relink .. => none

/-- The work requests that the events add, in order. -/
def added (events : List Event) : List Nat := events.filterMap Event.added

/-- A batcher as the constructor builds it, with any calibration, over any memory. -/
def DoorbellBatcher.create (config : Config) (tscPerUs : UInt64) (next : Nat → Option Nat) : DoorbellBatcher :=
  { config, tscPerUs, next }

/-! ### The pending chain -/

/-- The links from the head on spell out the pending work requests; the tail is the last of them and the count their
    number. -/
structure Filled (batcher : DoorbellBatcher) (pending : List Nat) : Prop where
  chain : Chain batcher.next batcher.sendHead pending
  distinct : pending.Nodup
  tail : batcher.sendTail = pending.getLast?
  count : batcher.sendCount = pending.length

/-- Between calls there are fewer than make a batch. -/
structure Inv (batcher : DoorbellBatcher) (pending : List Nat) : Prop extends Filled batcher pending where
  short : 1 ≤ batcher.config.maxBatchSize → batcher.sendCount < batcher.config.maxBatchSize

/-- The call got a chain that is terminated and lists the work requests. -/
def Spells (submission : Submission) (chain : List Nat) : Prop := Chain submission.next submission.head chain

/-- What a step makes of the pending work requests and those it adds. -/
structure Submits (batcher next : DoorbellBatcher) (submissions : List Submission) (waiting : List Nat) : Prop where
  config : next.config = batcher.config
  kept : ∃ chains pending, List.Forall₂ Spells submissions chains ∧ Inv next pending ∧
    chains.flatten ++ pending = waiting

/-- The head, the tail, the count and the links agree. -/
def Linked (batcher : DoorbellBatcher) : Prop := ∃ pending, Inv batcher pending

theorem create_inv (config : Config) (tscPerUs : UInt64) (next : Nat → Option Nat) :
    Inv (.create config tscPerUs next) [] := ⟨⟨.nil, List.nodup_nil, rfl, rfl⟩, fun positive => positive⟩

variable {batcher : DoorbellBatcher} {pending : List Nat}

theorem head_none_iff (chain : Chain batcher.next batcher.sendHead pending) :
    batcher.sendHead = none ↔ pending = [] := by
  constructor
  · intro null
    rw [null] at chain
    exact chain_unique chain .nil
  · rintro rfl
    generalize batcher.sendHead = head at chain
    cases chain
    rfl

theorem Inv.tail_iff (inv : Inv batcher pending) : batcher.sendTail = none ↔ pending = [] := by
  rw [inv.tail, List.getLast?_eq_none_iff]

/-- A flush submits the pending chain. -/
theorem flushSend_submits (filled : Filled batcher pending) (answer : Answer) (reports : Bool) :
    Submits batcher (batcher.flushSend answer reports).1 (batcher.flushSend answer reports).2 pending := by
  unfold DoorbellBatcher.flushSend
  by_cases null : batcher.sendHead = none
  · obtain rfl := (head_none_iff filled.chain).mp null
    rw [if_pos null]
    refine ⟨rfl, [], [], .nil, ⟨filled, ?_⟩, rfl⟩
    intro positive
    rw [filled.count]
    exact positive
  · rw [if_neg null]
    refine ⟨rfl, [pending], [], .cons filled.chain .nil, ⟨⟨.nil, List.nodup_nil, rfl, rfl⟩, fun positive => positive⟩, ?_⟩
    simp

/-- A work request of the caller goes behind the pending ones. -/
theorem enqueue_filled (inv : Inv batcher pending) {wr : Nat} (outside : wr ∉ pending) (tsc : UInt64) :
    Filled (batcher.enqueue wr tsc) (pending ++ [wr]) ∧ (batcher.enqueue wr tsc).config = batcher.config := by
  have distinct : (pending ++ [wr]).Nodup := by
    rw [List.nodup_append]
    refine ⟨inv.distinct, List.nodup_singleton _, ?_⟩
    rintro other member last single rfl
    rw [List.mem_singleton] at single
    exact outside (single ▸ member)
  have ends : some wr = (pending ++ [wr]).getLast? := List.getLast?_concat.symm
  unfold DoorbellBatcher.enqueue
  cases tail : batcher.sendTail with
  | some last =>
    have behind : pending.getLast? = some last := inv.tail.symm.trans tail
    refine ⟨⟨chain_snoc inv.chain inv.distinct behind outside, distinct, ends, ?_⟩, rfl⟩
    rw [List.length_append, List.length_singleton, ← inv.count]
  | none =>
    obtain rfl := inv.tail_iff.mp tail
    refine ⟨⟨?_, distinct, ends, ?_⟩, rfl⟩
    · refine .cons ?_
      dsimp only
      rw [Function.update_self]
      exact .nil
    · exact congrArg (· + 1) inv.count

theorem Submitted.outside {wr : Nat} (submitted : Submitted batcher wr) (inv : Inv batcher pending) : wr ∉ pending :=
  submitted pending inv.chain

theorem polled_inv (inv : Inv batcher pending) (hadEvents : Bool) : Inv (batcher.polled hadEvents) pending :=
  ⟨⟨inv.chain, inv.distinct, inv.tail, inv.count⟩, inv.short⟩

/-- Every step submits chains off the front of what is pending and added. -/
theorem step_submits (inv : Inv batcher pending) {event : Event} (owned : Owned batcher event) :
    Submits batcher (batcher.step event).1 (batcher.step event).2 (pending ++ added [event]) := by
  cases event with
  | addSendWr wr tsc answer =>
    obtain ⟨filled, config⟩ := enqueue_filled inv (Submitted.outside owned inv) tsc
    change Submits batcher (batcher.addSendWr wr tsc answer).1 (batcher.addSendWr wr tsc answer).2 (pending ++ [wr])
    unfold DoorbellBatcher.addSendWr
    dsimp only
    split
    · have submits := flushSend_submits filled answer false
      exact ⟨submits.config.trans config, submits.kept⟩
    · rename_i short
      refine ⟨config, [], _, .nil, ⟨filled, ?_⟩, rfl⟩
      exact fun _ => Nat.lt_of_not_le short
  | flushSend answer =>
    rw [show added [.flushSend answer] = [] from rfl, List.append_nil]
    exact flushSend_submits inv.toFilled answer true
  | onPollEnd hadEvents tsc answer =>
    rw [show added [.onPollEnd hadEvents tsc answer] = [] from rfl, List.append_nil]
    change Submits batcher (batcher.onPollEnd hadEvents tsc answer).1 (batcher.onPollEnd hadEvents tsc answer).2 pending
    unfold DoorbellBatcher.onPollEnd
    dsimp only
    split
    · have submits := flushSend_submits (polled_inv inv hadEvents).toFilled answer true
      exact ⟨submits.config, submits.kept⟩
    · exact ⟨rfl, [], pending, .nil, polled_inv inv hadEvents, rfl⟩
  | relink wr pointer =>
    rw [show added [.relink wr pointer] = [] from rfl, List.append_nil]
    refine ⟨rfl, [], pending, .nil, ⟨⟨?_, inv.distinct, inv.tail, inv.count⟩, inv.short⟩, rfl⟩
    exact chain_frame inv.chain (Submitted.outside owned inv) pointer

/-- A run submits chains off the front of what is pending and added. -/
theorem run_submits {events : List Event} (inv : Inv batcher pending) (owned : Meets machine Owned batcher events) :
    ∃ last submissions, run machine batcher events = some (last, submissions) ∧
      Submits batcher last submissions (pending ++ added events) := by
  induction events generalizing batcher pending with
  | nil =>
    refine ⟨batcher, [], rfl, rfl, [], pending, .nil, inv, ?_⟩
    exact (List.append_nil pending).symm
  | cons event rest ih =>
    have taken : machine batcher event = some (batcher.step event) := rfl
    obtain ⟨config, early, middle, spelled, kept, front⟩ := step_submits inv owned.1
    obtain ⟨last, submissions, ran, configs, late, waiting, later, final, back⟩ := ih kept (owned.2 _ _ taken)
    refine ⟨last, _, run_cons_some.mpr ⟨_, _, submissions, taken, ran, rfl⟩, configs.trans config, early ++ late, waiting,
      List.rel_append spelled later, final, ?_⟩
    calc (early ++ late).flatten ++ waiting
      _ = early.flatten ++ (late.flatten ++ waiting) := by rw [List.flatten_append, List.append_assoc]
      _ = pending ++ added [event] ++ added rest := by rw [back, ← List.append_assoc, front]
      _ = pending ++ added (event :: rest) := by
        rw [List.append_assoc, added, added, added, ← List.filterMap_append, List.singleton_append]

/-- The chains handed to the device, in order, and then the pending one list the work requests added, in order, and the
    head, the tail and the count tell what is pending; with a batch of at least one, fewer than a batch are. -/
theorem chains_in_order {config : Config} {tscPerUs : UInt64} {memory : Nat → Option Nat} {events : List Event}
    (owned : Meets machine Owned (.create config tscPerUs memory) events) :
    ∃ last submissions, run machine (.create config tscPerUs memory) events = some (last, submissions) ∧
      ∃ chains pending, List.Forall₂ Spells submissions chains ∧ Chain last.next last.sendHead pending ∧
        chains.flatten ++ pending = added events ∧ last.sendCount = pending.length ∧
        (last.sendHead = none ↔ pending = []) ∧ (last.sendTail = none ↔ pending = []) ∧
        (1 ≤ config.maxBatchSize → last.sendCount < config.maxBatchSize) := by
  obtain ⟨last, submissions, ran, same, chains, pending, spelled, inv, listed⟩ :=
    run_submits (create_inv config tscPerUs memory) owned
  refine ⟨last, submissions, ran, chains, pending, spelled, inv.chain, listed, inv.count, head_none_iff inv.chain, inv.tail_iff, ?_⟩
  have short := inv.short
  rwa [same] at short

theorem submitted_of_chain {chain : List Nat} (spelled : Chain batcher.next batcher.sendHead chain) {wr : Nat}
    (outside : wr ∉ chain) : Submitted batcher wr := by
  intro other same
  rwa [chain_unique same spelled]

/-- A batch of two over memory whose links all lead to work request 9. -/
def twoPerBatch : DoorbellBatcher := .create { maxBatchSize := 2 } 2400 fun _ => some 9

/-- Two work requests that fill a batch, and the first of them again. -/
theorem first_added_again : ∃ last submissions,
    run machine twoPerBatch [.addSendWr 1 0 .ok, .addSendWr 2 5 .ok, .addSendWr 1 8 .ok] = some (last, submissions) ∧
      ∃ chains pending, List.Forall₂ Spells submissions chains ∧ Chain last.next last.sendHead pending ∧
        chains.flatten ++ pending = [1, 2, 1] ∧ last.sendCount = pending.length ∧
        (last.sendHead = none ↔ pending = []) ∧ (last.sendTail = none ↔ pending = []) ∧
        (1 ≤ 2 → last.sendCount < 2) := by
  have owned : Meets machine Owned twoPerBatch [.addSendWr 1 0 .ok, .addSendWr 2 5 .ok, .addSendWr 1 8 .ok] := by
    refine meets_cons rfl (submitted_of_chain .nil (by decide)) ?_
    refine meets_cons rfl (submitted_of_chain (.cons .nil) (by decide : 2 ∉ [1])) ?_
    exact meets_cons rfl (submitted_of_chain .nil (by decide)) (meets_nil _)
  exact chains_in_order owned

/-! ### What the device rejects -/

/-- The caller sees an error, and every answer that it takes for this one rejects the same work requests. -/
def Told (submission : Submission) (chain : List Nat) : Prop :=
  (∃ status, submission.answer.seen submission.reports = some status ∧ status.ok = false) ∧
    ∀ other : Answer, other.seen submission.reports = submission.answer.seen submission.reports →
      other.rejects chain = submission.answer.rejects chain

/-- Each work request on the chain is accepted by the device, or the caller can tell that it is not. -/
def Covered (submission : Submission) (chain : List Nat) : Prop :=
  ∀ wr ∈ chain, wr ∈ submission.answer.accepts chain ∨ Told submission chain

/-- Each work request is on a chain that covers it, or pending. -/
def Accounted (last : DoorbellBatcher) (submissions : List Submission) (waiting : List Nat) : Prop :=
  ∃ chains pending, List.Forall₂ (fun submission chain => Spells submission chain ∧ Covered submission chain)
    submissions chains ∧ Chain last.next last.sendHead pending ∧ chains.flatten ++ pending = waiting

/-- The device accepts what the step submits, or the status of the flush gets to the caller and one work request is
    pending. -/
def Clear (batcher : DoorbellBatcher) : Event → Prop
  | .addSendWr _ _ answer => answer = .ok ∨ batcher.sendCount + 1 < batcher.config.maxBatchSize
  | .flushSend answer => answer = .ok ∨ batcher.sendCount ≤ 1
  | .onPollEnd hadEvents tsc answer =>
    answer = .ok ∨ batcher.sendCount ≤ 1 ∨ (batcher.polled hadEvents).shouldFlush tsc = false
  | .relink .. => True

theorem seen_failed {ret : Int} (nonzero : ret ≠ 0) (accepted : Nat) :
    (Answer.failed ret nonzero accepted).seen true = some (Status.ioError "ibv_post_send failed" ret) := by
  simp [Answer.seen, Answer.status, Answer.ret, nonzero]

theorem rejects_length (chain : List Nat) {ret : Int} (nonzero : ret ≠ 0) (accepted : Nat) :
    ((Answer.failed ret nonzero accepted).rejects chain).length = chain.length - min accepted (chain.length - 1) :=
  List.length_drop

/-- A device that fails the call rejects a work request of the chain and does not accept it. -/
theorem exists_rejected {chain : List Nat} (distinct : chain.Nodup) (some_left : chain ≠ []) {ret : Int}
    (nonzero : ret ≠ 0) (accepted : Nat) :
    ∃ wr ∈ chain, wr ∉ (Answer.failed ret nonzero accepted).accepts chain := by
  have length := List.length_pos_of_ne_nil some_left
  have rejects : (Answer.failed ret nonzero accepted).rejects chain ≠ [] := by
    apply List.ne_nil_of_length_pos
    rw [rejects_length]
    omega
  obtain ⟨wr, rejected⟩ := List.exists_mem_of_ne_nil _ rejects
  refine ⟨wr, List.mem_of_mem_drop rejected, ?_⟩
  intro accepts
  exact List.disjoint_take_drop distinct (Nat.le_refl _) accepts rejected

/-- Without a status, or for more than one work request, an answer that the caller cannot tell from this one rejects
    others. -/
theorem covered_iff {submission : Submission} {chain : List Nat} (distinct : chain.Nodup) (some_left : chain ≠ []) :
    Covered submission chain ↔ submission.answer = .ok ∨ submission.reports = true ∧ chain.length ≤ 1 := by
  obtain ⟨head, next, answer, reports⟩ := submission
  cases answer with
  | ok =>
    refine iff_of_true ?_ (.inl rfl)
    exact fun wr member => .inl member
  | failed ret nonzero accepted =>
    constructor
    · intro covered
      obtain ⟨wr, member, apart⟩ := exists_rejected distinct some_left nonzero accepted
      obtain ⟨⟨status, seen, -⟩, same⟩ := (covered wr member).resolve_left apart
      cases reports with
      | false => cases seen
      | true =>
        have none_accepted := same (.failed ret nonzero 0) rfl
        have all_but_last := same (.failed ret nonzero chain.length) rfl
        have lengths := congrArg List.length (none_accepted.trans all_but_last.symm)
        rw [rejects_length, rejects_length] at lengths
        refine .inr ⟨rfl, ?_⟩
        omega
    · rintro (accepts | ⟨rfl, single⟩)
      · cases accepts
      · intro wr member
        refine .inr ⟨⟨_, seen_failed nonzero accepted, rfl⟩, ?_⟩
        intro other same
        rw [seen_failed] at same
        have all : ∀ count, min count (chain.length - 1) = 0 := by
          intro count
          omega
        cases other with
        | ok => cases same
        | failed ret' nonzero' accepted' =>
          change chain.drop _ = chain.drop _
          rw [all, all]

/-- A submission is good if whatever chain it hands over is covered. -/
def Good (submission : Submission) : Prop := ∀ chain, Spells submission chain → Covered submission chain

theorem flushSend_good_iff (filled : Filled batcher pending) (answer : Answer) (reports : Bool) :
    (∀ submission ∈ (batcher.flushSend answer reports).2, Good submission) ↔
      pending = [] ∨ answer = .ok ∨ reports = true ∧ pending.length ≤ 1 := by
  unfold DoorbellBatcher.flushSend
  by_cases null : batcher.sendHead = none
  · rw [if_pos null]
    refine iff_of_true (List.forall_mem_nil _) (.inl ?_)
    exact (head_none_iff filled.chain).mp null
  · rw [if_neg null]
    have some_left : pending ≠ [] := fun nothing => null ((head_none_iff filled.chain).mpr nothing)
    have covered_iff : Covered ⟨batcher.sendHead, batcher.next, answer, reports⟩ pending ↔ _ :=
      covered_iff filled.distinct some_left
    rw [or_iff_right some_left, ← covered_iff, List.forall_mem_singleton]
    constructor
    · intro good
      exact good pending filled.chain
    · intro covered chain spelled
      rwa [chain_unique spelled filled.chain]

/-- The step is clear where what it submits is covered. -/
theorem step_good_iff (inv : Inv batcher pending) {event : Event} (owned : Owned batcher event) :
    (∀ submission ∈ (batcher.step event).2, Good submission) ↔ Clear batcher event := by
  have empty_small : pending = [] ∨ pending.length ≤ 1 ↔ pending.length ≤ 1 := by
    refine or_iff_right_of_imp ?_
    rintro rfl
    exact Nat.zero_le _
  cases event with
  | addSendWr wr tsc answer =>
    obtain ⟨filled, config⟩ := enqueue_filled inv (Submitted.outside owned inv) tsc
    have count := filled.count
    rw [List.length_append, List.length_singleton, ← inv.count] at count
    change (∀ submission ∈ (batcher.addSendWr wr tsc answer).2, Good submission) ↔
      (answer = .ok ∨ batcher.sendCount + 1 < batcher.config.maxBatchSize)
    unfold DoorbellBatcher.addSendWr
    dsimp only
    rw [count, config]
    split
    · rename_i full
      rw [flushSend_good_iff filled]
      simp [Nat.not_lt.mpr full]
    · rename_i short
      exact iff_of_true (List.forall_mem_nil _) (.inr (Nat.lt_of_not_le short))
  | flushSend answer =>
    rw [Clear, inv.count, ← empty_small, or_left_comm]
    change (∀ submission ∈ (batcher.flushSend answer true).2, Good submission) ↔ _
    rw [flushSend_good_iff inv.toFilled]
    simp
  | onPollEnd hadEvents tsc answer =>
    rw [Clear, inv.count, ← empty_small]
    change (∀ submission ∈ (batcher.onPollEnd hadEvents tsc answer).2, Good submission) ↔ _
    unfold DoorbellBatcher.onPollEnd
    dsimp only
    split
    · rename_i flush
      rw [flushSend_good_iff (polled_inv inv hadEvents).toFilled, flush]
      simp [or_left_comm]
    · rename_i stays
      exact iff_of_true (List.forall_mem_nil _) (.inr (.inr (Bool.not_eq_true _ |>.mp stays)))
  | relink wr pointer => exact iff_of_true (List.forall_mem_nil _) trivial

theorem spelled_covered_iff {submissions : List Submission} {chains : List (List Nat)} :
    List.Forall₂ (fun submission chain => Spells submission chain ∧ Covered submission chain) submissions chains ↔
      (∀ submission ∈ submissions, Good submission) ∧ List.Forall₂ Spells submissions chains := by
  rw [← List.forall₂_and_left]
  constructor
  · apply List.Forall₂.imp
    rintro submission chain ⟨spelled, covered⟩
    refine ⟨?_, spelled⟩
    intro other same
    rwa [chain_unique same spelled]
  · apply List.Forall₂.imp
    rintro submission chain ⟨good, spelled⟩
    exact ⟨spelled, good chain spelled⟩

/-- In a run, each work request added is accepted, pending, or known to its owner as rejected, exactly if every step
    is clear. -/
theorem rejections_told_iff {config : Config} {tscPerUs : UInt64} {memory : Nat → Option Nat} {events : List Event}
    (owned : Meets machine Owned (.create config tscPerUs memory) events) :
    ∃ last submissions, run machine (.create config tscPerUs memory) events = some (last, submissions) ∧
      (Accounted last submissions (added events) ↔ Meets machine Clear (.create config tscPerUs memory) events) := by
  have start := create_inv config tscPerUs memory
  obtain ⟨last, submissions, ran, -, chains, pending, spelled, inv, listed⟩ := run_submits start owned
  refine ⟨last, submissions, ran, ?_⟩
  have good_iff : (∀ submission ∈ submissions, Good submission) ↔
      Meets machine Clear (.create config tscPerUs memory) events := by
    have linked : Linked (.create config tscPerUs memory) := ⟨[], start⟩
    refine outputs_good_iff ?_ ?_ linked owned ran
    · rintro batcher event next now ⟨pending, inv⟩ owned taken
      obtain ⟨rfl, rfl⟩ := Prod.mk.inj (Option.some.inj taken)
      exact step_good_iff inv owned
    · rintro batcher event next now ⟨pending, inv⟩ owned taken
      obtain ⟨rfl, rfl⟩ := Prod.mk.inj (Option.some.inj taken)
      obtain ⟨-, _, pending, -, kept, -⟩ := step_submits inv owned
      exact ⟨pending, kept⟩
  rw [← good_iff]
  constructor
  · rintro ⟨chains, pending, covered, -, -⟩
    exact (spelled_covered_iff.mp covered).1
  · intro good
    exact ⟨chains, pending, spelled_covered_iff.mpr ⟨good, spelled⟩, inv.chain, listed⟩

/-- One work request, whose flush at the end of an idle poll fails. -/
theorem single_rejection_told : ∃ last submissions,
    run machine twoPerBatch [.addSendWr 1 0 .ok, .onPollEnd false 30000 (.failed 12 (by decide) 0)] =
        some (last, submissions) ∧
      Accounted last submissions [1] := by
  have owned : Meets machine Owned twoPerBatch
      [.addSendWr 1 0 .ok, .onPollEnd false 30000 (.failed 12 (by decide) 0)] :=
    meets_cons rfl (submitted_of_chain .nil (by decide)) (meets_cons rfl trivial (meets_nil _))
  have clear : Meets machine Clear twoPerBatch
      [.addSendWr 1 0 .ok, .onPollEnd false 30000 (.failed 12 (by decide) 0)] :=
    meets_cons rfl (.inl rfl) (meets_cons rfl (.inr (.inl (by decide))) (meets_nil _))
  obtain ⟨last, submissions, ran, accounted_iff⟩ := rejections_told_iff owned
  exact ⟨last, submissions, ran, accounted_iff.mpr clear⟩

/-- The second work request fills the batch, the device rejects both, and no caller gets a status. With a batch of
    more, `FlushSend` fails, and its caller cannot tell whether the first work request was accepted. -/
theorem rejected_batch_dropped :
    (∃ last submissions, Meets machine Owned twoPerBatch
        [.addSendWr 1 0 .ok, .addSendWr 2 5 (.failed 12 (by decide) 0)] ∧
      run machine twoPerBatch [.addSendWr 1 0 .ok, .addSendWr 2 5 (.failed 12 (by decide) 0)] =
        some (last, submissions) ∧
      last.sendHead = none ∧ submissions.map (fun submission => submission.answer.seen submission.reports) = [none] ∧
      ¬Accounted last submissions [1, 2]) ∧
    ∃ last submissions, Meets machine Owned (.create {} 2400 fun _ => none)
        [.addSendWr 1 0 .ok, .addSendWr 2 5 .ok, .flushSend (.failed 12 (by decide) 1)] ∧
      run machine (.create {} 2400 fun _ => none)
        [.addSendWr 1 0 .ok, .addSendWr 2 5 .ok, .flushSend (.failed 12 (by decide) 1)] = some (last, submissions) ∧
      ¬Accounted last submissions [1, 2] := by
  have dropped : Meets machine Owned twoPerBatch [.addSendWr 1 0 .ok, .addSendWr 2 5 (.failed 12 (by decide) 0)] :=
    meets_cons rfl (submitted_of_chain .nil (by decide))
      (meets_cons rfl (submitted_of_chain (.cons .nil) (by decide : 2 ∉ [1])) (meets_nil _))
  have untold : Meets machine Owned (.create {} 2400 fun _ => none)
      [.addSendWr 1 0 .ok, .addSendWr 2 5 .ok, .flushSend (.failed 12 (by decide) 1)] :=
    meets_cons rfl (submitted_of_chain .nil (by decide))
      (meets_cons rfl (submitted_of_chain (.cons .nil) (by decide : 2 ∉ [1])) (meets_cons rfl trivial (meets_nil _)))
  refine ⟨⟨_, _, dropped, rfl, rfl, rfl, ?_⟩, ⟨_, _, untold, rfl, ?_⟩⟩
  · rintro ⟨chains, pending, covered, -, -⟩
    have good := (spelled_covered_iff.mp covered).1 _ (List.mem_singleton_self _)
    obtain member | ⟨⟨_, seen, -⟩, -⟩ := good [1, 2] (.cons (.cons .nil)) 1 (by decide)
    · exact absurd member (by decide)
    · cases seen
  · rintro ⟨chains, pending, covered, -, -⟩
    have good := (spelled_covered_iff.mp covered).1 _ (List.mem_singleton_self _)
    obtain member | ⟨-, same⟩ := good [1, 2] (.cons (.cons .nil)) 2 (by decide)
    · exact absurd member (by decide)
    · exact absurd (same (.failed 12 (by decide) 0) rfl) (by decide)

end Rdma.Doorbells
