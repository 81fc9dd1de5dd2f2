import Mathlib.Data.List.Basic

/-!
A queue of at most `bound` items that serves one call after the other
(`Serves`): a push is accepted unless the queue is full, and a pop returns the
item that has waited longest unless it is empty. Whatever is popped is a front of
what was pushed (`Serves.fifo`).
-/
namespace Rdma.BoundedQueues
universe u

variable {α : Type u}

/-- How a call ends. -/
inductive Outcome (α : Type u)
  | pushed (item : α)
  | full
  | popped (item : α)
  | empty
  deriving DecidableEq, Repr

/-- One call on a queue. -/
inductive Serve (bound : Nat) : List α → Outcome α → List α → Prop
  | pushed {queue : List α} (item : α) (room : queue.length < bound) :
      Serve bound queue (.pushed item) (queue ++ [item])
  | full {queue : List α} (length : queue.length = bound) : Serve bound queue .full queue
  | popped (item : α) (rest : List α) : Serve bound (item :: rest) (.popped item) rest
  | empty : Serve bound [] .empty []

/-- A run of calls. -/
inductive Serves (bound : Nat) : List α → List (Outcome α) → List α → Prop
  | nil (queue : List α) : Serves bound queue [] queue
  | cons {queue next last : List α} {outcome : Outcome α} {rest : List (Outcome α)}
      (serve : Serve bound queue outcome next) (serves : Serves bound next rest last) :
      Serves bound queue (outcome :: rest) last

def Outcome.push? : Outcome α → Option α
  | .pushed item => some item
  | .full | .popped _ | .empty => none

def Outcome.pop? : Outcome α → Option α
  | .popped item => some item
  | .full | .pushed _ | .empty => none

/-- The items pushed, in order. -/
def pushes (outcomes : List (Outcome α)) : List α := outcomes.filterMap Outcome.push?

/-- The items popped, in order. -/
def pops (outcomes : List (Outcome α)) : List α := outcomes.filterMap Outcome.pop?

variable {bound : Nat} {queue next last : List α}

theorem Serves.append {front back : List (Outcome α)} (first : Serves bound queue front next)
    (second : Serves bound next back last) : Serves bound queue (front ++ back) last := by
  induction first with
  | nil => exact second
  | cons serve _ ih => exact .cons serve (ih second)

theorem Serve.serves {outcome : Outcome α} (serve : Serve bound queue outcome next) :
    Serves bound queue [outcome] next := .cons serve (.nil next)

/-- One call keeps the bound. -/
theorem Serve.bounded {outcome : Outcome α} (serve : Serve bound queue outcome next) (within : queue.length ≤ bound) :
    next.length ≤ bound := by
  cases serve with
  | pushed item room =>
    rw [List.length_append, List.length_singleton]
    exact room
  | full => exact within
  | popped => exact Nat.le_of_succ_le within
  | empty => exact within

theorem Serves.bounded {outcomes : List (Outcome α)} (serves : Serves bound queue outcomes last)
    (within : queue.length ≤ bound) : last.length ≤ bound := by
  induction serves with
  | nil => exact within
  | cons serve _ ih => exact ih (serve.bounded within)

/-- The items that were there and those pushed are those popped and those that are left. -/
theorem Serves.fifo {outcomes : List (Outcome α)} (serves : Serves bound queue outcomes last) :
    queue ++ pushes outcomes = pops outcomes ++ last := by
  induction serves with
  | nil queue => exact List.append_nil _
  | cons serve _ ih =>
    cases serve with
    | pushed item =>
      rw [List.append_assoc] at ih
      exact ih
    | full => exact ih
    | popped item rest => exact congrArg (item :: ·) ih
    | empty => exact ih

end Rdma.BoundedQueues
