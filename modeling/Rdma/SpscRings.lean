import Mathlib.Tactic.Ring
import Rdma.BitFields
import Rdma.BoundedQueues
import Rdma.Rings
import Rdma.Runs

/-!
The ring buffer between one producer and one consumer (`mpsc_queue.h`), one
access of the shared memory at a time. Each side acts on an index of the other
side that may be out of date, and the cells between the indices hold the items
that are pushed and not popped (`Inv`). So in every interleaving the ring serves
its calls as a queue of at most `Capacity - 1` items, and no cell is written that
holds an item or is being read (`ring_serves`).
-/
namespace Rdma.SpscRings
open Rdma.Arrays Rdma.BitFields Rdma.BoundedQueues Rdma.Rings Rdma.Runs
universe u

/-! ### The two sides -/

/-- The template parameter `Capacity`, which a static assertion checks. -/
structure Capacity where
  size : UInt64
  positive : size ≠ 0
  power : size &&& (size - 1) = 0

/-- The producer in `Push`, with its local variables. -/
inductive Producer (α : Type u)
  | idle
  | loaded (item : α) (head : UInt64)
  | writing (item : α) (head nextHead : UInt64)
  | written (item : α) (nextHead : UInt64)

/-- The consumer in `Pop`, with its local variables. -/
inductive Consumer (α : Type u)
  | idle
  | loaded (tail : UInt64)
  | reading (tail : UInt64)
  | read (tail : UInt64) (item : α)

structure SpscRingBuffer (α : Type u) where
  head : UInt64
  tail : UInt64
  buffer : Cells α
  producer : Producer α
  consumer : Consumer α

/-- The first four are the accesses of `Push` in order, the others those of `Pop`. -/
inductive Event (α : Type u)
  | pushLoadHead (item : α)
  | pushLoadTail
  | pushWrite
  | pushStoreHead
  | popLoadTail
  | popLoadHead
  | popRead
  | popStoreTail

variable {α : Type u} (capacity : Capacity)

/-- An index one further on, `(index + 1) & (Capacity - 1)`. -/
def Capacity.next (index : UInt64) : UInt64 := (index + 1) &&& (capacity.size - 1)

/-- A call that returns makes an output. -/
def step (ring : SpscRingBuffer α) : Event α → Option (SpscRingBuffer α × List (Outcome α))
  | .pushLoadHead item =>
    match ring.producer with
    | .idle => some ({ ring with producer := .loaded item ring.head }, [])
    | _ => none
  | .pushLoadTail =>
    match ring.producer with
    | .loaded item head =>
      let nextHead := capacity.next head
      if nextHead = ring.tail then some ({ ring with producer := .idle }, [.full])
      else some ({ ring with producer := .writing item head nextHead }, [])
    | _ => none
  | .pushWrite =>
    match ring.producer with
    | .writing item head nextHead => do
      let buffer ← ring.buffer.write head.toNat item
      some ({ ring with buffer, producer := .written item nextHead }, [])
    | _ => none
  | .pushStoreHead =>
    match ring.producer with
    | .written item nextHead => some ({ ring with head := nextHead, producer := .idle }, [.pushed item])
    | _ => none
  | .popLoadTail =>
    match ring.consumer with
    | .idle => some ({ ring with consumer := .loaded ring.tail }, [])
    | _ => none
  | .popLoadHead =>
    match ring.consumer with
    | .loaded tail =>
      if tail = ring.head then some ({ ring with consumer := .idle }, [.empty])
      else some ({ ring with consumer := .reading tail }, [])
    | _ => none
  | .popRead =>
    match ring.consumer with
    | .reading tail => do
      let item ← ring.buffer.read tail.toNat
      some ({ ring with consumer := .read tail item }, [])
    | _ => none
  | .popStoreTail =>
    match ring.consumer with
    | .read tail item => some ({ ring with tail := capacity.next tail, consumer := .idle }, [.popped item])
    | _ => none

/-- The constructor; the cells hold anything. -/
def SpscRingBuffer.create (cells : Nat → α) : SpscRingBuffer α where
  head := 0
  tail := 0
  buffer := ⟨capacity.size.toNat, cells⟩
  producer := .idle
  consumer := .idle

def SpscRingBuffer.size (ring : SpscRingBuffer α) : UInt64 :=
  (ring.head - ring.tail + capacity.size) &&& (capacity.size - 1)

/-! ### Indices -/

variable {capacity}

theorem Capacity.pos (capacity : Capacity) : 0 < capacity.size.toNat := by
  apply Nat.pos_of_ne_zero
  intro zero
  exact capacity.positive (UInt64.toNat_inj.mp zero)

theorem Capacity.pred (capacity : Capacity) : (capacity.size - 1).toNat = capacity.size.toNat - 1 := by
  have positive := capacity.pos
  rw [UInt64.toNat_sub_of_le _ _ (by rw [UInt64.le_iff_toNat_le]; exact positive), UInt64.toNat_one]

/-- What the static assertion says. -/
theorem Capacity.isPowerOfTwo (capacity : Capacity) : ∃ width < 64, capacity.size.toNat = 2 ^ width := by
  have positive := capacity.pos
  have bits : capacity.size.toNat &&& (capacity.size.toNat - 1) = 0 := by
    rw [← capacity.pred, ← UInt64.toNat_and, capacity.power]
    rfl
  obtain ⟨width, same⟩ := (Nat.and_sub_one_eq_zero_iff_isPowerOfTwo (Nat.ne_of_gt positive)).mp bits
  refine ⟨width, ?_, same⟩
  have bound := capacity.size.toNat_lt
  rw [same] at bound
  exact (Nat.pow_lt_pow_iff_right (by decide)).mp bound

theorem Capacity.mask (capacity : Capacity) (word : UInt64) :
    (word &&& (capacity.size - 1)).toNat = word.toNat % capacity.size.toNat := by
  obtain ⟨width, -, same⟩ := capacity.isPowerOfTwo
  have positive := capacity.pos
  have whole : (capacity.size - 1).toNat + 1 = capacity.size.toNat := by
    rw [capacity.pred]
    omega
  rw [UInt64.toNat_and, mask_eq_mod width _ (whole.trans same), whole]

/-- The capacity divides the number of indices there are. -/
theorem Capacity.divides (capacity : Capacity) : capacity.size.toNat ∣ 2 ^ 64 := by
  obtain ⟨width, below, same⟩ := capacity.isPowerOfTwo
  rw [same]
  exact Nat.pow_dvd_pow 2 (Nat.le_of_lt below)

theorem Capacity.next_toNat (capacity : Capacity) (index : UInt64) :
    (capacity.next index).toNat = (index.toNat + 1) % capacity.size.toNat := by
  rw [Capacity.next, capacity.mask, UInt64.toNat_add, UInt64.toNat_one, Nat.mod_mod_of_dvd _ capacity.divides]

/-- The head is as far behind the tail as there are items. -/
def Spans (capacity : Capacity) (tail head : UInt64) (count : Nat) : Prop :=
  count < capacity.size.toNat ∧ (tail.toNat + count) % capacity.size.toNat = head.toNat

theorem spans_empty {tail head : UInt64} {count : Nat} (spans : Spans capacity tail head count)
    (inside : tail.toNat < capacity.size.toNat) : tail = head ↔ count = 0 := by
  obtain ⟨below, span⟩ := spans
  constructor
  · rintro rfl
    have same : (tail.toNat + count) % capacity.size.toNat = (tail.toNat + 0) % capacity.size.toNat := by
      rw [span, Nat.add_zero, Nat.mod_eq_of_lt inside]
    have apart : count % capacity.size.toNat = 0 % capacity.size.toNat := Nat.ModEq.add_left_cancel' _ same
    rwa [Nat.mod_eq_of_lt below, Nat.zero_mod] at apart
  · rintro rfl
    rw [Nat.add_zero, Nat.mod_eq_of_lt inside] at span
    exact UInt64.toNat_inj.mp span

theorem spans_full {tail head : UInt64} {count : Nat} (spans : Spans capacity tail head count)
    (inside : tail.toNat < capacity.size.toNat) : capacity.next head = tail ↔ count + 1 = capacity.size.toNat := by
  obtain ⟨below, span⟩ := spans
  have behind : (capacity.next head).toNat = (tail.toNat + (count + 1)) % capacity.size.toNat := by
    rw [capacity.next_toNat, ← span, Nat.mod_add_mod, Nat.add_assoc]
  constructor
  · intro meets
    rw [meets] at behind
    have same : (tail.toNat + (count + 1)) % capacity.size.toNat = (tail.toNat + 0) % capacity.size.toNat := by
      rw [← behind, Nat.add_zero, Nat.mod_eq_of_lt inside]
    have apart : (count + 1) % capacity.size.toNat = 0 % capacity.size.toNat := Nat.ModEq.add_left_cancel' _ same
    rw [Nat.zero_mod] at apart
    by_contra short
    rw [Nat.mod_eq_of_lt (by omega)] at apart
    omega
  · intro full
    rw [full, Nat.add_mod_right, Nat.mod_eq_of_lt inside] at behind
    exact UInt64.toNat_inj.mp behind

/-- `Size` computes the distance of the indices. -/
theorem spans_size {ring : SpscRingBuffer α} {count : Nat} (spans : Spans capacity ring.tail ring.head count) :
    (ring.size capacity).toNat = count := by
  obtain ⟨below, span⟩ := spans
  have bound := ring.tail.toNat_lt
  have distance : (ring.size capacity).toNat =
      (2 ^ 64 - ring.tail.toNat + ring.head.toNat) % capacity.size.toNat := by
    rw [SpscRingBuffer.size, capacity.mask, UInt64.toNat_add, UInt64.toNat_sub, Nat.mod_mod_of_dvd _ capacity.divides,
      Nat.add_mod_right, Nat.mod_mod_of_dvd _ capacity.divides]
  have whole : (2 ^ 64 - ring.tail.toNat + ring.head.toNat) + ring.tail.toNat = 2 ^ 64 + ring.head.toNat := by omega
  have wraps : 2 ^ 64 % capacity.size.toNat = 0 := Nat.mod_eq_zero_of_dvd capacity.divides
  have same : (2 ^ 64 - ring.tail.toNat + ring.head.toNat + ring.tail.toNat) % capacity.size.toNat =
      (count + ring.tail.toNat) % capacity.size.toNat := by
    rw [whole, Nat.add_mod, wraps, Nat.zero_add, Nat.mod_mod, ← span, Nat.mod_mod, Nat.add_comm]
  have cancelled : (2 ^ 64 - ring.tail.toNat + ring.head.toNat) % capacity.size.toNat =
      count % capacity.size.toNat := Nat.ModEq.add_right_cancel' _ same
  rw [distance, cancelled, Nat.mod_eq_of_lt below]

/-! ### The items between the indices -/

/-- What the producer has found out: while it writes there is room, and behind its write the cell holds its item. -/
def Produces (capacity : Capacity) (ring : SpscRingBuffer α) (queue : List α) : Prop :=
  match ring.producer with
  | .idle => True
  | .loaded _ head => head = ring.head
  | .writing _ head nextHead =>
    head = ring.head ∧ nextHead = capacity.next ring.head ∧ queue.length + 1 < capacity.size.toNat
  | .written item nextHead =>
    nextHead = capacity.next ring.head ∧ queue.length + 1 < capacity.size.toNat ∧
      ring.buffer.cell ring.head.toNat = item

/-- What the consumer has found out: while it reads there is an item, and then it has the one that waits longest. -/
def Consumes (ring : SpscRingBuffer α) (queue : List α) : Prop :=
  match ring.consumer with
  | .idle => True
  | .loaded tail => tail = ring.tail
  | .reading tail => tail = ring.tail ∧ queue ≠ []
  | .read tail item => tail = ring.tail ∧ ∃ rest, queue = item :: rest

/-- The cells from the tail on, as far as the head, hold the queue. -/
structure Inv (capacity : Capacity) (ring : SpscRingBuffer α) (queue : List α) : Prop where
  buffer : ring.buffer.size = capacity.size.toNat
  tail : ring.tail.toNat < capacity.size.toNat
  spans : Spans capacity ring.tail ring.head queue.length
  holds : window ring.buffer ring.tail.toNat queue.length = queue
  produces : Produces capacity ring queue
  consumes : Consumes ring queue

theorem create_inv (capacity : Capacity) (cells : Nat → α) : Inv capacity (.create capacity cells) [] := by
  have positive := capacity.pos
  refine ⟨rfl, positive, ⟨positive, ?_⟩, rfl, trivial, trivial⟩
  exact Nat.zero_mod _

variable {ring next : SpscRingBuffer α} {queue : List α}

theorem Inv.head (inv : Inv capacity ring queue) : ring.head.toNat < capacity.size.toNat := by
  rw [← inv.spans.2]
  exact Nat.mod_lt _ capacity.pos

/-- The cell behind the queue is the head's. -/
theorem Inv.behind (inv : Inv capacity ring queue) :
    (ring.tail.toNat + queue.length) % ring.buffer.size = ring.head.toNat := by
  rw [inv.buffer]
  exact inv.spans.2

/-- The head's cell holds no item. -/
theorem Inv.apart (inv : Inv capacity ring queue) {index : Nat} (inside : index < queue.length) :
    (ring.tail.toNat + index) % capacity.size.toNat ≠ ring.head.toNat := by
  rw [← inv.spans.2]
  intro same
  have below := inv.spans.1
  have equal : index % capacity.size.toNat = queue.length % capacity.size.toNat := Nat.ModEq.add_left_cancel' _ same
  rw [Nat.mod_eq_of_lt (by omega), Nat.mod_eq_of_lt below] at equal
  omega

/-- A write to the head's cell leaves the queue alone. -/
theorem Inv.frame (inv : Inv capacity ring queue) (item : α) :
    window (ring.buffer.put ring.head.toNat item) ring.tail.toNat queue.length = queue := by
  have room : queue.length < ring.buffer.size := by
    rw [inv.buffer]
    exact inv.spans.1
  have pushed : window (ring.buffer.put ((ring.tail.toNat + queue.length) % ring.buffer.size) item) ring.tail.toNat
      (queue.length + 1) = window ring.buffer ring.tail.toNat queue.length ++ [item] := window_push _ room item
  rw [inv.behind, window_succ, inv.holds] at pushed
  exact (List.append_inj' pushed rfl).1

/-- The first item lies in the tail's cell. -/
theorem Inv.front (inv : Inv capacity ring queue) {item : α} {rest : List α} (parts : queue = item :: rest) :
    ring.buffer.cell ring.tail.toNat = item ∧
      window ring.buffer ((ring.tail.toNat + 1) % capacity.size.toNat) rest.length = rest := by
  have inside : ring.tail.toNat < ring.buffer.size := by
    rw [inv.buffer]
    exact inv.tail
  have holds := inv.holds
  rw [parts, List.length_cons, window_pop ring.buffer inside, inv.buffer] at holds
  exact List.cons.inj holds

/-- What the consumer has found out holds when an item is added. -/
theorem Consumes.pushed (consumes : Consumes ring queue) (item : α) (consumer : next.consumer = ring.consumer)
    (tail : next.tail = ring.tail) : Consumes next (queue ++ [item]) := by
  unfold Consumes at consumes ⊢
  rw [consumer, tail]
  cases side : ring.consumer with
  | idle => trivial
  | loaded seen =>
    rw [side] at consumes
    exact consumes
  | reading seen =>
    rw [side] at consumes
    exact ⟨consumes.1, by simp⟩
  | read seen first =>
    rw [side] at consumes
    obtain ⟨same, rest, parts⟩ := consumes
    exact ⟨same, rest ++ [item], by rw [parts, List.cons_append]⟩

/-- What the producer has found out holds when an item is taken. -/
theorem Produces.popped {rest : List α} (produces : Produces capacity ring queue) (fewer : rest.length ≤ queue.length)
    (producer : next.producer = ring.producer) (head : next.head = ring.head) (buffer : next.buffer = ring.buffer) :
    Produces capacity next rest := by
  unfold Produces at produces ⊢
  rw [producer, head, buffer]
  cases side : ring.producer with
  | idle => trivial
  | loaded item seen =>
    rw [side] at produces
    exact produces
  | writing item seen nextHead =>
    rw [side] at produces
    exact ⟨produces.1, produces.2.1, by omega⟩
  | written item nextHead =>
    rw [side] at produces
    exact ⟨produces.1, by omega, produces.2.2⟩

/-! ### The steps of the producer -/

theorem loadTail_inv (inv : Inv capacity ring queue) {item : α} {head : UInt64}
    (loaded : ring.producer = .loaded item head) {now : List (Outcome α)}
    (taken : step capacity ring .pushLoadTail = some (next, now)) :
    Inv capacity next queue ∧ Serves (capacity.size.toNat - 1) queue now queue := by
  have produces := inv.produces
  rw [Produces, loaded] at produces
  obtain rfl : head = ring.head := produces
  rw [step, loaded] at taken
  dsimp only at taken
  split at taken
  · rename_i meets
    obtain ⟨rfl, rfl⟩ := Prod.mk.inj (Option.some.inj taken)
    have full := (spans_full inv.spans inv.tail).mp meets
    refine ⟨⟨inv.buffer, inv.tail, inv.spans, inv.holds, trivial, inv.consumes⟩, Serve.serves (.full ?_)⟩
    omega
  · rename_i apart
    obtain ⟨rfl, rfl⟩ := Prod.mk.inj (Option.some.inj taken)
    have below := inv.spans.1
    have room : queue.length + 1 ≠ capacity.size.toNat := fun full => apart ((spans_full inv.spans inv.tail).mpr full)
    exact ⟨⟨inv.buffer, inv.tail, inv.spans, inv.holds, ⟨rfl, rfl, by omega⟩, inv.consumes⟩, .nil queue⟩

theorem write_inv (inv : Inv capacity ring queue) {item : α} {head nextHead : UInt64}
    (writing : ring.producer = .writing item head nextHead) {now : List (Outcome α)}
    (taken : step capacity ring .pushWrite = some (next, now)) :
    Inv capacity next queue ∧ Serves (capacity.size.toNat - 1) queue now queue := by
  have produces := inv.produces
  rw [Produces, writing] at produces
  obtain ⟨rfl, rfl, room⟩ := produces
  have inside : ring.head.toNat < ring.buffer.size := by
    rw [inv.buffer]
    exact inv.head
  rw [step, writing] at taken
  simp only [write_inside inside, Option.bind_eq_bind, Option.bind_some, Option.some.injEq, Prod.mk.injEq] at taken
  obtain ⟨rfl, rfl⟩ := taken
  refine ⟨⟨inv.buffer, inv.tail, inv.spans, inv.frame item, ⟨rfl, room, put_same ..⟩, ?_⟩, .nil queue⟩
  exact inv.consumes

theorem storeHead_inv (inv : Inv capacity ring queue) {item : α} {nextHead : UInt64}
    (written : ring.producer = .written item nextHead) {now : List (Outcome α)}
    (taken : step capacity ring .pushStoreHead = some (next, now)) :
    Inv capacity next (queue ++ [item]) ∧ Serves (capacity.size.toNat - 1) queue now (queue ++ [item]) := by
  have produces := inv.produces
  rw [Produces, written] at produces
  obtain ⟨rfl, room, cell⟩ := produces
  rw [step, written] at taken
  obtain ⟨rfl, rfl⟩ := Prod.mk.inj (Option.some.inj taken)
  refine ⟨⟨inv.buffer, inv.tail, ⟨?_, ?_⟩, ?_, trivial, ?_⟩, Serve.serves (.pushed item (by omega))⟩
  · rw [List.length_append, List.length_singleton]
    exact room
  · rw [List.length_append, List.length_singleton, capacity.next_toNat, ← inv.spans.2, Nat.mod_add_mod, Nat.add_assoc]
  · rw [List.length_append, List.length_singleton, window_succ, inv.holds, inv.behind, cell]
  · exact inv.consumes.pushed item rfl rfl

/-! ### The steps of the consumer -/

theorem loadHead_inv (inv : Inv capacity ring queue) {tail : UInt64} (loaded : ring.consumer = .loaded tail)
    {now : List (Outcome α)} (taken : step capacity ring .popLoadHead = some (next, now)) :
    Inv capacity next queue ∧ Serves (capacity.size.toNat - 1) queue now queue := by
  have consumes := inv.consumes
  rw [Consumes, loaded] at consumes
  obtain rfl : tail = ring.tail := consumes
  have empty_iff := spans_empty inv.spans inv.tail
  rw [List.length_eq_zero_iff] at empty_iff
  rw [step, loaded] at taken
  dsimp only at taken
  split at taken
  · rename_i meets
    obtain ⟨rfl, rfl⟩ := Prod.mk.inj (Option.some.inj taken)
    obtain rfl := empty_iff.mp meets
    exact ⟨⟨inv.buffer, inv.tail, inv.spans, inv.holds, inv.produces, trivial⟩, Serve.serves .empty⟩
  · rename_i apart
    obtain ⟨rfl, rfl⟩ := Prod.mk.inj (Option.some.inj taken)
    refine ⟨⟨inv.buffer, inv.tail, inv.spans, inv.holds, inv.produces, rfl, ?_⟩, .nil queue⟩
    exact fun empty => apart (empty_iff.mpr empty)

theorem read_inv (inv : Inv capacity ring queue) {tail : UInt64} (reading : ring.consumer = .reading tail)
    {now : List (Outcome α)} (taken : step capacity ring .popRead = some (next, now)) :
    Inv capacity next queue ∧ Serves (capacity.size.toNat - 1) queue now queue := by
  have consumes := inv.consumes
  rw [Consumes, reading] at consumes
  obtain ⟨rfl, some_left⟩ := consumes
  have inside : ring.tail.toNat < ring.buffer.size := by
    rw [inv.buffer]
    exact inv.tail
  rw [step, reading] at taken
  simp only [read_inside inside, Option.bind_eq_bind, Option.bind_some, Option.some.injEq, Prod.mk.injEq] at taken
  obtain ⟨rfl, rfl⟩ := taken
  obtain ⟨item, rest, parts⟩ := List.exists_cons_of_ne_nil some_left
  refine ⟨⟨inv.buffer, inv.tail, inv.spans, inv.holds, inv.produces, rfl, rest, ?_⟩, .nil queue⟩
  rw [(inv.front parts).1, parts]

theorem storeTail_inv (inv : Inv capacity ring queue) {tail : UInt64} {item : α}
    (read : ring.consumer = .read tail item) {now : List (Outcome α)}
    (taken : step capacity ring .popStoreTail = some (next, now)) :
    ∃ rest, Inv capacity next rest ∧ Serves (capacity.size.toNat - 1) queue now rest := by
  have consumes := inv.consumes
  rw [Consumes, read] at consumes
  obtain ⟨rfl, rest, parts⟩ := consumes
  rw [step, read] at taken
  obtain ⟨rfl, rfl⟩ := Prod.mk.inj (Option.some.inj taken)
  obtain ⟨-, holds⟩ := inv.front parts
  have fewer : queue.length = rest.length + 1 := by rw [parts, List.length_cons]
  obtain ⟨below, span⟩ := inv.spans
  refine ⟨rest, ⟨inv.buffer, ?_, ⟨by omega, ?_⟩, ?_, ?_, trivial⟩, ?_⟩
  · dsimp only
    rw [capacity.next_toNat]
    exact Nat.mod_lt _ capacity.pos
  · dsimp only
    rw [capacity.next_toNat, Nat.mod_add_mod, ← span, fewer, Nat.add_assoc, Nat.add_comm 1]
  · dsimp only
    rw [capacity.next_toNat]
    exact holds
  · exact inv.produces.popped (by omega) rfl rfl rfl
  · rw [parts]
    exact Serve.serves (.popped item rest)

/-! ### Every interleaving -/

/-- A step of either side serves at most one call. -/
theorem step_inv {event : Event α} {now : List (Outcome α)} (inv : Inv capacity ring queue)
    (taken : step capacity ring event = some (next, now)) :
    ∃ after, Inv capacity next after ∧ Serves (capacity.size.toNat - 1) queue now after := by
  cases event with
  | pushLoadHead item =>
    cases producer : ring.producer with
    | idle =>
      rw [step, producer] at taken
      obtain ⟨rfl, rfl⟩ := Prod.mk.inj (Option.some.inj taken)
      exact ⟨queue, ⟨inv.buffer, inv.tail, inv.spans, inv.holds, rfl, inv.consumes⟩, .nil queue⟩
    | _ => simp [step, producer] at taken
  | pushLoadTail =>
    cases producer : ring.producer with
    | loaded item head => exact ⟨queue, loadTail_inv inv producer taken⟩
    | _ => simp [step, producer] at taken
  | pushWrite =>
    cases producer : ring.producer with
    | writing item head nextHead => exact ⟨queue, write_inv inv producer taken⟩
    | _ => simp [step, producer] at taken
  | pushStoreHead =>
    cases producer : ring.producer with
    | written item nextHead => exact ⟨queue ++ [item], storeHead_inv inv producer taken⟩
    | _ => simp [step, producer] at taken
  | popLoadTail =>
    cases consumer : ring.consumer with
    | idle =>
      rw [step, consumer] at taken
      obtain ⟨rfl, rfl⟩ := Prod.mk.inj (Option.some.inj taken)
      exact ⟨queue, ⟨inv.buffer, inv.tail, inv.spans, inv.holds, inv.produces, rfl⟩, .nil queue⟩
    | _ => simp [step, consumer] at taken
  | popLoadHead =>
    cases consumer : ring.consumer with
    | loaded tail => exact ⟨queue, loadHead_inv inv consumer taken⟩
    | _ => simp [step, consumer] at taken
  | popRead =>
    cases consumer : ring.consumer with
    | reading tail => exact ⟨queue, read_inv inv consumer taken⟩
    | _ => simp [step, consumer] at taken
  | popStoreTail =>
    cases consumer : ring.consumer with
    | read tail item => exact storeTail_inv inv consumer taken
    | _ => simp [step, consumer] at taken

theorem run_inv {last : SpscRingBuffer α} {events : List (Event α)} {outcomes : List (Outcome α)}
    (inv : Inv capacity ring queue) (ran : run (step capacity) ring events = some (last, outcomes)) :
    ∃ after, Inv capacity last after ∧ Serves (capacity.size.toNat - 1) queue outcomes after := by
  induction events generalizing ring queue outcomes with
  | nil =>
    obtain ⟨rfl, rfl⟩ := Prod.mk.inj (Option.some.inj ran)
    exact ⟨queue, inv, .nil queue⟩
  | cons event rest ih =>
    obtain ⟨next, now, later, taken, after, rfl⟩ := run_cons_some.mp ran
    obtain ⟨middle, kept, first⟩ := step_inv inv taken
    obtain ⟨final, holds, second⟩ := ih kept after
    exact ⟨final, holds, first.append second⟩

/-- The cell that the producer is about to write is one of the buffer's, holds no item and is not the one that the
    consumer is about to read, which is one of the buffer's too. -/
structure Safe (capacity : Capacity) (ring : SpscRingBuffer α) (count : Nat) : Prop where
  write : ∀ item head nextHead, ring.producer = .writing item head nextHead →
    head.toNat < ring.buffer.size ∧ (∀ index < count, (ring.tail.toNat + index) % capacity.size.toNat ≠ head.toNat) ∧
      ∀ tail, ring.consumer = .reading tail → tail ≠ head
  read : ∀ tail, ring.consumer = .reading tail → tail.toNat < ring.buffer.size

theorem Inv.safe (inv : Inv capacity ring queue) : Safe capacity ring queue.length := by
  have reads : ∀ tail, ring.consumer = .reading tail → tail = ring.tail ∧ queue ≠ [] := by
    intro tail reading
    have consumes := inv.consumes
    rw [Consumes, reading] at consumes
    exact consumes
  refine ⟨?_, ?_⟩
  · intro item head nextHead writing
    have produces := inv.produces
    rw [Produces, writing] at produces
    obtain ⟨rfl, -, -⟩ := produces
    refine ⟨?_, fun index inside => inv.apart inside, ?_⟩
    · rw [inv.buffer]
      exact inv.head
    · intro tail reading meets
      obtain ⟨rfl, some_left⟩ := reads tail reading
      exact some_left (List.length_eq_zero_iff.mp ((spans_empty inv.spans inv.tail).mp meets))
  · intro tail reading
    obtain ⟨rfl, -⟩ := reads tail reading
    rw [inv.buffer]
    exact inv.tail

/-- In every interleaving the ring serves its calls as a queue of at most `Capacity - 1` items: what is popped is a
    front of what is pushed, a push fails only when the queue is full and a pop only when it is empty. No cell is
    written that holds an item or is being read, and between calls `Size` is the length of the queue. -/
theorem ring_serves {cells : Nat → α} {events : List (Event α)} {last : SpscRingBuffer α}
    {outcomes : List (Outcome α)}
    (ran : run (step capacity) (.create capacity cells) events = some (last, outcomes)) :
    ∃ queue, Serves (capacity.size.toNat - 1) [] outcomes queue ∧ pushes outcomes = pops outcomes ++ queue ∧
      queue.length ≤ capacity.size.toNat - 1 ∧ Safe capacity last queue.length ∧
      (last.producer = .idle → last.consumer = .idle →
        (last.size capacity).toNat + (pops outcomes).length = (pushes outcomes).length) := by
  obtain ⟨queue, inv, serves⟩ := run_inv (create_inv capacity cells) ran
  have fifo : pushes outcomes = pops outcomes ++ queue := serves.fifo
  refine ⟨queue, serves, fifo, serves.bounded (Nat.zero_le _), inv.safe, ?_⟩
  intro _ _
  rw [spans_size inv.spans, fifo, List.length_append, Nat.add_comm]

def fourCells : Capacity := ⟨4, by decide, by decide⟩

/-- The consumer pops one item while the producer pushes another. -/
def popBesidePush : List (Event Nat) :=
  [.pushLoadHead 5, .pushLoadTail, .pushWrite, .pushStoreHead, .pushLoadHead 6, .popLoadTail, .pushLoadTail,
    .popLoadHead, .pushWrite, .popRead, .pushStoreHead, .popStoreTail]

theorem four_cells_serve : ∃ last queue,
    run (step fourCells) (.create fourCells fun _ => 0) popBesidePush =
        some (last, [.pushed 5, .pushed 6, .popped 5]) ∧
      Serves (fourCells.size.toNat - 1) [] [.pushed 5, .pushed 6, .popped 5] queue := by
  have ran : ∃ last, run (step fourCells) (.create fourCells fun _ => 0) popBesidePush =
      some (last, [.pushed 5, .pushed 6, .popped 5]) := ⟨_, rfl⟩
  obtain ⟨last, ran⟩ := ran
  obtain ⟨queue, serves, -⟩ := ring_serves ran
  exact ⟨last, queue, ran, serves⟩

end Rdma.SpscRings
