import Rdma.Chains
import Rdma.Runs

/-!
The queue of cross-thread tasks (`mpsc_queue.h`) and the loop that takes them
(`Reactor::ProcessTasks`), one atomic operation at a time: any threads push
tasks, loading the head, writing the link and comparing and exchanging, while
the reactor takes the whole list, walks it and runs each task. The lists on the
way are chains of distinct nodes (`Linked`), so in every run each push is
executed once (`tasks_run_once`). A batch is walked from its newest task to its
oldest: pushes that an exchange separates run in order, those of one batch the
other way round (`task_order`).
-/
namespace Rdma.MpscQueues
open Rdma.Runs Rdma.Chains

/-! ### The threads -/

/-- A thread in `Push`, with its local variables. -/
inductive Producer
  | idle
  | loaded (node : Nat) (oldHead : Option Nat)
  | linked (node : Nat) (oldHead : Option Nat)
  deriving DecidableEq, Repr

/-- The reactor in `ProcessTasks`, with its local variables. -/
inductive Consumer
  | polling
  | walking (head : Option Nat)
  | ready (head : Nat) (next : Option Nat)
  | running (next : Option Nat)
  deriving DecidableEq, Repr

/-- A push that has taken effect; `ticket` is the number of pushes before it. -/
structure Push where
  producer : Nat
  node : Nat
  ticket : Nat
  deriving DecidableEq, Repr

/-- The last five fields are history variables: the tasks in a push or in the queue whose function has not started, the
    latest push of each node, the pushes between two exchanges, those since the last one, and the pushes executed. -/
structure State where
  head : Option Nat
  next : Nat → Option Nat
  producer : Nat → Producer
  consumer : Consumer
  busy : Nat → Bool
  latest : Nat → Push
  rounds : List (List Push)
  fresh : List Push
  executed : List Push

def State.pushes (state : State) : List Push := state.rounds.flatten ++ state.fresh

/-- `load` to `swap` are the operations of `Push`, where `spurious` is a failure of `compare_exchange_weak` without
    cause; the others are the operations of `ProcessTasks`. -/
inductive Event
  | load (thread node : Nat)
  | link (thread : Nat)
  | swap (thread : Nat) (spurious : Bool)
  | popAll
  | readNext
  | runTask
  | advance
  | endRound
  deriving DecidableEq, Repr

def State.moveTo (state : State) (thread : Nat) (producer : Producer) : State :=
  { state with producer := Function.update state.producer thread producer }

/-- The compare and exchange succeeds. -/
def State.pushed (state : State) (thread node : Nat) : State :=
  { state.moveTo thread .idle with
    head := some node
    latest := Function.update state.latest node ⟨thread, node, state.pushes.length⟩
    fresh := state.fresh ++ [⟨thread, node, state.pushes.length⟩] }

/-- The exchange takes the whole list. -/
def State.taken (state : State) : State :=
  { state with head := none, consumer := .walking state.head, rounds := state.rounds ++ [state.fresh], fresh := [] }

/-- The function of a task starts. -/
def State.started (state : State) (node : Nat) (next : Option Nat) : State :=
  { state with
    consumer := .running next
    busy := Function.update state.busy node false
    executed := state.executed ++ [state.latest node] }

/-- The outputs are the pushes that are executed. -/
def step (state : State) : Event → Option (State × List Push)
  | .load thread node =>
    match state.producer thread with
    | .idle =>
      some ({ state.moveTo thread (.loaded node state.head) with busy := Function.update state.busy node true }, [])
    | _ => none
  | .link thread =>
    match state.producer thread with
    | .loaded node oldHead =>
      some ({ state.moveTo thread (.linked node oldHead) with next := Function.update state.next node oldHead }, [])
    | _ => none
  | .swap thread spurious =>
    match state.producer thread with
    | .linked node oldHead =>
      if state.head = oldHead ∧ spurious = false then some (state.pushed thread node, [])
      else some (state.moveTo thread (.loaded node state.head), [])
    | _ => none
  | .popAll =>
    match state.consumer with
    | .polling => some (state.taken, [])
    | _ => none
  | .readNext =>
    match state.consumer with
    | .walking (some node) => some ({ state with consumer := .ready node (state.next node) }, [])
    | _ => none
  | .runTask =>
    match state.consumer with
    | .ready node next => some (state.started node next, [state.latest node])
    | _ => none
  | .advance =>
    match state.consumer with
    | .running next => some ({ state with consumer := .walking next }, [])
    | _ => none
  | .endRound =>
    match state.consumer with
    | .walking none => some ({ state with consumer := .polling }, [])
    | _ => none

/-- What a step does. -/
inductive Moves (state : State) : Event → State → List Push → Prop
  | loaded {thread node : Nat} (idle : state.producer thread = .idle) :
      Moves state (.load thread node)
        { state.moveTo thread (.loaded node state.head) with busy := Function.update state.busy node true } []
  | linked {thread node : Nat} {oldHead : Option Nat} (loaded : state.producer thread = .loaded node oldHead) :
      Moves state (.link thread)
        { state.moveTo thread (.linked node oldHead) with next := Function.update state.next node oldHead } []
  | pushed {thread node : Nat} (linked : state.producer thread = .linked node state.head) :
      Moves state (.swap thread false) (state.pushed thread node) []
  | failed {thread node : Nat} {oldHead : Option Nat} {spurious : Bool}
      (linked : state.producer thread = .linked node oldHead) :
      Moves state (.swap thread spurious) (state.moveTo thread (.loaded node state.head)) []
  | taken (polling : state.consumer = .polling) : Moves state .popAll state.taken []
  | read {node : Nat} (walking : state.consumer = .walking (some node)) :
      Moves state .readNext { state with consumer := .ready node (state.next node) } []
  | started {node : Nat} {following : Option Nat} (ready : state.consumer = .ready node following) :
      Moves state .runTask (state.started node following) [state.latest node]
  | advanced {following : Option Nat} (running : state.consumer = .running following) :
      Moves state .advance { state with consumer := .walking following } []
  | ended (walking : state.consumer = .walking none) : Moves state .endRound { state with consumer := .polling } []

theorem step_moves {state next : State} {event : Event} {now : List Push}
    (taken : step state event = some (next, now)) : Moves state event next now := by
  cases event with
  | load thread node =>
    cases there : state.producer thread with
    | idle =>
      rw [step, there] at taken
      obtain ⟨rfl, rfl⟩ := Prod.mk.inj (Option.some.inj taken)
      exact .loaded there
    | loaded => simp [step, there] at taken
    | linked => simp [step, there] at taken
  | link thread =>
    cases there : state.producer thread with
    | loaded node oldHead =>
      rw [step, there] at taken
      obtain ⟨rfl, rfl⟩ := Prod.mk.inj (Option.some.inj taken)
      exact .linked there
    | idle => simp [step, there] at taken
    | linked => simp [step, there] at taken
  | swap thread spurious =>
    cases there : state.producer thread with
    | linked node oldHead =>
      rw [step, there] at taken
      dsimp only at taken
      split at taken
      · rename_i succeeds
        obtain ⟨rfl, rfl⟩ := succeeds
        obtain ⟨rfl, rfl⟩ := Prod.mk.inj (Option.some.inj taken)
        exact .pushed there
      · obtain ⟨rfl, rfl⟩ := Prod.mk.inj (Option.some.inj taken)
        exact .failed there
    | idle => simp [step, there] at taken
    | loaded => simp [step, there] at taken
  | popAll =>
    rw [step] at taken
    split at taken
    · rename_i polling
      obtain ⟨rfl, rfl⟩ := Prod.mk.inj (Option.some.inj taken)
      exact .taken polling
    · cases taken
  | readNext =>
    rw [step] at taken
    split at taken
    · rename_i walking
      obtain ⟨rfl, rfl⟩ := Prod.mk.inj (Option.some.inj taken)
      exact .read walking
    · cases taken
  | runTask =>
    rw [step] at taken
    split at taken
    · rename_i ready
      obtain ⟨rfl, rfl⟩ := Prod.mk.inj (Option.some.inj taken)
      exact .started ready
    · cases taken
  | advance =>
    rw [step] at taken
    split at taken
    · rename_i running
      obtain ⟨rfl, rfl⟩ := Prod.mk.inj (Option.some.inj taken)
      exact .advanced running
    · cases taken
  | endRound =>
    rw [step] at taken
    split at taken
    · rename_i walking
      obtain ⟨rfl, rfl⟩ := Prod.mk.inj (Option.some.inj taken)
      exact .ended walking
    · cases taken

/-- A task is pushed again only after its function has started running. -/
def Owned (state : State) : Event → Prop
  | .load _ node => state.busy node = false
  | _ => True

/-- The queue is empty; the links of the tasks are left over from anything. -/
def State.start (next : Nat → Option Nat) : State where
  head := none
  next
  producer _ := .idle
  consumer := .polling
  busy _ := false
  latest node := ⟨0, node, 0⟩
  rounds := []
  fresh := []
  executed := []

/-! ### The lists -/

/-- The task that a thread is pushing. -/
def Producer.holds : Producer → Option Nat
  | .idle => none
  | .loaded node _ | .linked node _ => some node

/-- The tasks that the reactor has taken and not yet started. -/
def Walks (next : Nat → Option Nat) : Consumer → List Nat → Prop
  | .polling, batch => batch = []
  | .walking head, batch => Chain next head batch
  | .ready head following, batch => ∃ rest, batch = head :: rest ∧ Chain next following rest
  | .running following, batch => Chain next following batch

/-- The queue is a chain from the head and the batch one from the reactor, both newest first, and the tasks on them and
    in the hands of the threads are all distinct. -/
structure Linked (state : State) (batch queue : List Nat) : Prop where
  head : Chain state.next state.head queue
  walks : Walks state.next state.consumer batch
  distinct : (batch ++ queue).Nodup
  listed : ∀ node ∈ batch ++ queue, state.busy node = true ∧ (state.latest node).node = node
  held : ∀ thread node, (state.producer thread).holds = some node → state.busy node = true ∧ node ∉ batch ++ queue
  apart : ∀ thread other node, (state.producer thread).holds = some node → (state.producer other).holds = some node →
    thread = other
  links : ∀ thread node oldHead, state.producer thread = .linked node oldHead → state.next node = oldHead

/-- The pushes on the lists and executed are those made: the executed ones and the batch are the rounds so far, each
    turned round, the queue the pushes since, and the tickets count them. -/
structure Accounted (state : State) (batch queue : List Nat) : Prop where
  taken : state.executed ++ batch.map state.latest = (state.rounds.map List.reverse).flatten
  waiting : queue.map state.latest = state.fresh.reverse
  tickets : state.pushes.map (·.ticket) = List.range state.pushes.length

/-- What holds in every state of a run. -/
def Inv (state : State) : Prop := ∃ batch queue, Linked state batch queue ∧ Accounted state batch queue

theorem start_inv (next : Nat → Option Nat) : Inv (.start next) := by
  refine ⟨[], [], ⟨.nil, rfl, List.nodup_nil, ?_, ?_, ?_, ?_⟩, ⟨rfl, rfl, rfl⟩⟩
  · intro node member
    cases member
  · intro thread node holds
    cases holds
  · intro thread other node holds
    cases holds
  · intro thread node oldHead linked
    cases linked

/-! ### The steps of a push -/

variable {state : State} {batch queue : List Nat}

/-- The link of a task that is on neither list does not matter. -/
theorem walks_frame {next : Nat → Option Nat} {consumer : Consumer} {batch : List Nat} (walks : Walks next consumer batch)
    {node : Nat} (outside : node ∉ batch) (pointer : Option Nat) :
    Walks (Function.update next node pointer) consumer batch := by
  cases consumer with
  | polling => exact walks
  | walking head => exact chain_frame walks outside pointer
  | ready head following =>
    obtain ⟨rest, rfl, chain⟩ := walks
    exact ⟨rest, rfl, chain_frame chain (fun member => outside (List.mem_cons_of_mem _ member)) pointer⟩
  | running following => exact chain_frame walks outside pointer

/-- Where a thread is after one thread has moved. -/
theorem moved_is {producer : Nat → Producer} {thread other : Nat} {moved there : Producer}
    (is_there : Function.update producer thread moved other = there) :
    (other = thread ∧ moved = there) ∨ (other ≠ thread ∧ producer other = there) := by
  by_cases same : other = thread
  · subst same
    rw [Function.update_self] at is_there
    exact .inl ⟨rfl, is_there⟩
  · rw [Function.update_of_ne same] at is_there
    exact .inr ⟨same, is_there⟩

/-- What a thread holds after one thread has moved. -/
theorem moved_holds {producer : Nat → Producer} {thread other : Nat} {moved : Producer} {node : Nat}
    (holds : (Function.update producer thread moved other).holds = some node) :
    (other = thread ∧ moved.holds = some node) ∨ (other ≠ thread ∧ (producer other).holds = some node) := by
  rcases moved_is rfl with ⟨same, here⟩ | ⟨differ, there⟩
  · rw [← here] at holds
    exact .inl ⟨same, holds⟩
  · rw [← there] at holds
    exact .inr ⟨differ, holds⟩

/-- The tasks in the hands of the threads stay apart when one thread goes on with the task it holds, or with none. -/
theorem Linked.moved (linked : Linked state batch queue) {thread : Nat} {moved : Producer}
    (keeps : ∀ node, moved.holds = some node → (state.producer thread).holds = some node) :
    (∀ other node, ((state.moveTo thread moved).producer other).holds = some node →
      state.busy node = true ∧ node ∉ batch ++ queue) ∧
    ∀ first second node, ((state.moveTo thread moved).producer first).holds = some node →
      ((state.moveTo thread moved).producer second).holds = some node → first = second := by
  have before : ∀ other node, ((state.moveTo thread moved).producer other).holds = some node →
      (state.producer other).holds = some node := by
    intro other node holds
    rcases moved_holds holds with ⟨rfl, here⟩ | ⟨-, there⟩
    · exact keeps node here
    · exact there
  constructor
  · intro other node holds
    exact linked.held other node (before other node holds)
  · intro first second node one two
    exact linked.apart first second node (before first node one) (before second node two)

theorem load_linked (linked : Linked state batch queue) {thread node : Nat} (idle : state.producer thread = .idle)
    (free : state.busy node = false) :
    Linked { state.moveTo thread (.loaded node state.head) with busy := Function.update state.busy node true }
      batch queue := by
  have stays : ∀ other, state.busy other = true → Function.update state.busy node true other = true := by
    intro other busy
    by_cases same : other = node
    · rw [same, Function.update_self]
    · rwa [Function.update_of_ne same]
  have unlisted : node ∉ batch ++ queue := by
    intro member
    rw [(linked.listed node member).1] at free
    cases free
  have unheld : ∀ other, (state.producer other).holds ≠ some node := by
    intro other holds
    rw [(linked.held other node holds).1] at free
    cases free
  refine ⟨linked.head, linked.walks, linked.distinct, ?_, ?_, ?_, ?_⟩
  · intro other member
    obtain ⟨busy, latest⟩ := linked.listed other member
    exact ⟨stays other busy, latest⟩
  · intro other held holds
    rcases moved_holds holds with ⟨-, here⟩ | ⟨-, there⟩
    · obtain rfl := Option.some.inj here
      exact ⟨Function.update_self .., unlisted⟩
    · obtain ⟨busy, outside⟩ := linked.held other held there
      exact ⟨stays held busy, outside⟩
  · intro first second held one two
    rcases moved_holds one with ⟨rfl, here⟩ | ⟨-, there⟩
    · obtain rfl := Option.some.inj here
      rcases moved_holds two with ⟨rfl, -⟩ | ⟨-, there⟩
      · rfl
      · exact absurd there (unheld second)
    · rcases moved_holds two with ⟨rfl, here⟩ | ⟨-, other⟩
      · obtain rfl := Option.some.inj here
        exact absurd there (unheld first)
      · exact linked.apart first second held there other
  · intro other held oldHead at_link
    rcases moved_is at_link with ⟨-, here⟩ | ⟨-, there⟩
    · cases here
    · exact linked.links other held oldHead there

theorem link_linked (linked : Linked state batch queue) {thread node : Nat} {oldHead : Option Nat}
    (loaded : state.producer thread = .loaded node oldHead) :
    Linked { state.moveTo thread (.linked node oldHead) with next := Function.update state.next node oldHead }
      batch queue := by
  have holds : (state.producer thread).holds = some node := by rw [loaded]; rfl
  have outside := (linked.held thread node holds).2
  have same : ∀ other, (Producer.linked node oldHead).holds = some other → (state.producer thread).holds = some other := by
    intro other here
    rw [← here]
    exact holds
  obtain ⟨kept, apart⟩ := linked.moved same
  refine ⟨chain_frame linked.head (fun member => outside (List.mem_append_right _ member)) oldHead,
    walks_frame linked.walks (fun member => outside (List.mem_append_left _ member)) oldHead, linked.distinct,
    linked.listed, kept, apart, ?_⟩
  · intro other held old at_link
    rcases moved_is at_link with ⟨-, here⟩ | ⟨differ, there⟩
    · obtain ⟨rfl, rfl⟩ := Producer.linked.inj here
      exact Function.update_self ..
    · have other_node : held ≠ node := by
        rintro rfl
        exact differ (linked.apart other thread held (by rw [there]; rfl) holds)
      exact (Function.update_of_ne other_node ..).trans (linked.links other held old there)

/-- A failed compare and exchange: the thread goes back with the head it has seen. -/
theorem retry_linked (linked : Linked state batch queue) {thread node : Nat} {oldHead : Option Nat}
    (at_link : state.producer thread = .linked node oldHead) :
    Linked (state.moveTo thread (.loaded node state.head)) batch queue := by
  have same : ∀ other, (Producer.loaded node state.head).holds = some other →
      (state.producer thread).holds = some other := by
    intro other here
    rw [← here, at_link]
    rfl
  obtain ⟨kept, apart⟩ := linked.moved same
  refine ⟨linked.head, linked.walks, linked.distinct, linked.listed, kept, apart, ?_⟩
  · intro other held old at_link'
    rcases moved_is at_link' with ⟨-, here⟩ | ⟨-, there⟩
    · cases here
    · exact linked.links other held old there

theorem pushed_latest (state : State) (thread node : Nat) :
    (state.pushed thread node).latest node = ⟨thread, node, state.pushes.length⟩ := Function.update_self ..

theorem pushed_latest_other (state : State) (thread : Nat) {node other : Nat} (apart : other ≠ node) :
    (state.pushed thread node).latest other = state.latest other := Function.update_of_ne apart ..

theorem pushed_pushes (state : State) (thread node : Nat) :
    (state.pushed thread node).pushes = state.pushes ++ [⟨thread, node, state.pushes.length⟩] :=
  (List.append_assoc ..).symm

/-- The task goes to the front of the queue, whatever has become of the head in between. -/
theorem pushed_linked (linked : Linked state batch queue) {thread node : Nat}
    (at_link : state.producer thread = .linked node state.head) :
    Linked (state.pushed thread node) batch (node :: queue) := by
  have holds : (state.producer thread).holds = some node := by rw [at_link]; rfl
  obtain ⟨busy, outside⟩ := linked.held thread node holds
  have idle : ∀ other, Producer.idle.holds = some other → (state.producer thread).holds = some other := by
    intro other here
    cases here
  obtain ⟨kept, apart⟩ := linked.moved idle
  have others : ∀ other held, ((state.moveTo thread .idle).producer other).holds = some held → held ≠ node := by
    rintro other held there rfl
    rcases moved_holds there with ⟨-, here⟩ | ⟨differ, there⟩
    · cases here
    · exact differ (linked.apart other thread held there holds)
  refine ⟨?_, linked.walks, ?_, ?_, ?_, apart, ?_⟩
  · refine .cons ?_
    have link : state.next node = state.head := linked.links thread node _ at_link
    exact link ▸ linked.head
  · refine List.nodup_middle.mpr (List.nodup_cons.mpr ⟨outside, linked.distinct⟩)
  · intro other member
    by_cases same : other = node
    · subst same
      refine ⟨busy, ?_⟩
      rw [pushed_latest]
    · have earlier : other ∈ batch ++ queue := by
        rcases List.mem_append.mp member with inBatch | inQueue
        · exact List.mem_append_left _ inBatch
        · exact List.mem_append_right _ ((List.mem_cons.mp inQueue).resolve_left same)
      obtain ⟨busy, latest⟩ := linked.listed other earlier
      refine ⟨busy, ?_⟩
      rw [pushed_latest_other _ _ same]
      exact latest
  · intro other task there
    obtain ⟨busy, outside⟩ := kept other task there
    refine ⟨busy, ?_⟩
    intro member
    rcases List.mem_append.mp member with inBatch | inQueue
    · exact outside (List.mem_append_left _ inBatch)
    · rcases List.mem_cons.mp inQueue with same | inQueue
      · exact others other task there same
      · exact outside (List.mem_append_right _ inQueue)
  · intro other held old at_link'
    rcases moved_is at_link' with ⟨-, here⟩ | ⟨-, there⟩
    · cases here
    · exact linked.links other held old there

/-- The new push waits in front of the others. -/
theorem pushed_accounted (accounted : Accounted state batch queue) {thread node : Nat} (unlisted : node ∉ batch ++ queue) :
    Accounted (state.pushed thread node) batch (node :: queue) := by
  have kept : ∀ list : List Nat, node ∉ list →
      list.map (state.pushed thread node).latest = list.map state.latest := by
    intro list outside
    refine List.map_congr_left fun other member => pushed_latest_other state thread ?_
    rintro rfl
    exact outside member
  refine ⟨?_, ?_, ?_⟩
  · rw [kept batch fun member => unlisted (List.mem_append_left _ member)]
    exact accounted.taken
  · rw [List.map_cons, kept queue fun member => unlisted (List.mem_append_right _ member), pushed_latest,
      accounted.waiting]
    exact (List.reverse_concat ..).symm
  · rw [pushed_pushes, List.map_append, accounted.tickets, List.length_append, List.length_singleton, List.range_succ]
    rfl

/-! ### The steps of the reactor -/

/-- A step of the reactor that changes no list. -/
theorem Linked.turn (linked : Linked state batch queue) {consumer : Consumer} {rest : List Nat}
    (walks : Walks state.next consumer rest) (same : rest = batch) :
    Linked { state with consumer } rest queue := by
  subst same
  exact ⟨linked.head, walks, linked.distinct, linked.listed, linked.held, linked.apart, linked.links⟩

@[simp] theorem taken_pushes (state : State) : state.taken.pushes = state.pushes := by
  simp [State.pushes, State.taken]

/-- The exchange turns the queue into the batch. -/
theorem popAll_inv (linked : Linked state batch queue) (accounted : Accounted state batch queue)
    (polling : state.consumer = .polling) : Inv state.taken := by
  have nothing : batch = [] := by
    have walks := linked.walks
    rw [polling] at walks
    exact walks
  subst nothing
  refine ⟨queue, [], ⟨.nil, linked.head, ?_, ?_, ?_, linked.apart, linked.links⟩, ⟨?_, rfl, ?_⟩⟩
  · rw [List.append_nil]
    exact linked.distinct
  · rw [List.append_nil]
    exact linked.listed
  · rw [List.append_nil]
    exact linked.held
  · have taken := accounted.taken
    rw [List.map_nil, List.append_nil] at taken
    have all : state.executed ++ queue.map state.latest =
        ((state.rounds ++ [state.fresh]).map List.reverse).flatten := by
      rw [List.map_append, List.flatten_append, ← taken, accounted.waiting]
      simp
    exact all
  · rw [taken_pushes]
    exact accounted.tickets

/-- The function of the first task of the batch starts; the task may be pushed again from now on. -/
theorem runTask_inv (linked : Linked state batch queue) (accounted : Accounted state batch queue) {node : Nat}
    {following : Option Nat} (ready : state.consumer = .ready node following) :
    Inv (state.started node following) := by
  obtain ⟨rest, rfl, chain⟩ : ∃ rest, batch = node :: rest ∧ Chain state.next following rest := by
    have walks := linked.walks
    rw [ready] at walks
    exact walks
  have distinct := linked.distinct
  rw [List.cons_append, List.nodup_cons] at distinct
  obtain ⟨once, distinct⟩ := distinct
  refine ⟨rest, queue, ⟨linked.head, chain, distinct, ?_, ?_, linked.apart, linked.links⟩, ⟨?_, accounted.waiting,
    accounted.tickets⟩⟩
  · intro other member
    obtain ⟨busy, latest⟩ := linked.listed other (List.mem_cons_of_mem _ member)
    have differ : other ≠ node := by
      rintro rfl
      exact once member
    exact ⟨(Function.update_of_ne differ ..).trans busy, latest⟩
  · intro thread held holds
    obtain ⟨busy, outside⟩ := linked.held thread held holds
    have differ : held ≠ node := by
      rintro rfl
      exact outside List.mem_cons_self
    exact ⟨(Function.update_of_ne differ ..).trans busy, fun member => outside (List.mem_cons_of_mem _ member)⟩
  · have moved : state.executed ++ [state.latest node] ++ rest.map state.latest =
        state.executed ++ (node :: rest).map state.latest := by simp
    exact moved.trans accounted.taken

/-- Every step keeps the invariant. -/
theorem step_inv {next : State} {event : Event} {now : List Push} (inv : Inv state) (owned : Owned state event)
    (taken : step state event = some (next, now)) : Inv next := by
  obtain ⟨batch, queue, linked, accounted⟩ := inv
  have walks := linked.walks
  cases step_moves taken with
  | loaded idle =>
    exact ⟨batch, queue, load_linked linked idle owned, accounted.taken, accounted.waiting, accounted.tickets⟩
  | linked loaded =>
    exact ⟨batch, queue, link_linked linked loaded, accounted.taken, accounted.waiting, accounted.tickets⟩
  | pushed at_link =>
    have outside := (linked.held _ _ (by rw [at_link]; rfl)).2
    exact ⟨batch, _ :: queue, pushed_linked linked at_link, pushed_accounted accounted outside⟩
  | failed at_link =>
    exact ⟨batch, queue, retry_linked linked at_link, accounted.taken, accounted.waiting, accounted.tickets⟩
  | taken polling => exact popAll_inv linked accounted polling
  | read walking =>
    rw [walking] at walks
    cases walks with
    | cons later =>
      exact ⟨_, queue, linked.turn ⟨_, rfl, later⟩ rfl, accounted.taken, accounted.waiting, accounted.tickets⟩
  | started ready => exact runTask_inv linked accounted ready
  | advanced running =>
    rw [running] at walks
    exact ⟨batch, queue, linked.turn walks rfl, accounted.taken, accounted.waiting, accounted.tickets⟩
  | ended walking =>
    rw [walking] at walks
    cases walks with
    | nil => exact ⟨[], queue, linked.turn rfl rfl, accounted.taken, accounted.waiting, accounted.tickets⟩

theorem run_inv {links : Nat → Option Nat} {events : List Event} {last : State} {executed : List Push}
    (owned : Meets step Owned (.start links) events) (ran : run step (.start links) events = some (last, executed)) :
    Inv last :=
  invariant_of_run (fun _ _ _ _ inv owned taken => step_inv inv owned taken) (start_inv links) owned ran

/-! ### Exactly once -/

theorem reverses_perm (rounds : List (List Push)) : (rounds.map List.reverse).flatten.Perm rounds.flatten := by
  induction rounds with
  | nil => exact List.Perm.refl _
  | cons round rest ih => exact (List.reverse_perm round).append ih

theorem Accounted.distinct (accounted : Accounted state batch queue) : state.pushes.Nodup := by
  apply List.Nodup.of_map (·.ticket)
  rw [accounted.tickets]
  exact List.nodup_range

/-- Each push is executed or waits in one of the lists, once. -/
theorem Accounted.whole (accounted : Accounted state batch queue) :
    (state.executed ++ (batch ++ queue).map state.latest).Perm state.pushes := by
  rw [List.map_append, ← List.append_assoc, accounted.taken, accounted.waiting]
  exact (reverses_perm state.rounds).append (List.reverse_perm state.fresh)

/-- The event is a step of the reactor. -/
def Event.reactor : Event → Bool
  | .load .. | .link _ | .swap .. => false
  | .popAll | .readNext | .runTask | .advance | .endRound => true

/-- The reactor gets to the end of the round by its own steps alone, and takes nothing more from the queue. -/
def Finishes (state : State) : Prop :=
  ∃ rest final executed, (∀ event ∈ rest, event.reactor = true) ∧ run step state rest = some (final, executed) ∧
    final.consumer = .polling ∧ final.head = state.head ∧ final.pushes = state.pushes

theorem Finishes.before {next : State} {event : Event} {now : List Push} (finishes : Finishes next)
    (reactor : event.reactor = true) (taken : step state event = some (next, now)) (head : next.head = state.head)
    (pushes : next.pushes = state.pushes) : Finishes state := by
  obtain ⟨rest, final, executed, reactors, ran, polling, same_head, same_pushes⟩ := finishes
  refine ⟨event :: rest, final, now ++ executed, ?_, run_cons_some.mpr ⟨next, now, executed, taken, ran, rfl⟩, polling,
    same_head.trans head, same_pushes.trans pushes⟩
  intro other member
  rcases List.mem_cons.mp member with rfl | later
  · exact reactor
  · exact reactors other later

/-- The reactor starts the task whose link it has read, and goes on behind it. -/
theorem ready_finishes {node : Nat} {following : Option Nat} (ready : state.consumer = .ready node following)
    (behind : Finishes { state.started node following with consumer := .walking following }) : Finishes state := by
  have started : step state .runTask = some (state.started node following, [state.latest node]) := by rw [step, ready]
  have advanced : step (state.started node following) .advance =
      some ({ state.started node following with consumer := .walking following }, []) := rfl
  exact (behind.before rfl advanced rfl rfl).before rfl started rfl rfl

/-- A walk ends behind the last task of the batch. -/
theorem walk_finishes {head : Option Nat} (chain : Chain state.next head batch)
    (walking : state.consumer = .walking head) : Finishes state := by
  induction batch generalizing state head with
  | nil =>
    cases chain with
    | nil =>
      have ended : step state .endRound = some ({ state with consumer := .polling }, []) := by rw [step, walking]
      refine ⟨[.endRound], _, _, ?_, run_cons_some.mpr ⟨_, _, _, ended, rfl, rfl⟩, rfl, rfl, rfl⟩
      intro event member
      rw [List.mem_singleton.mp member]
      rfl
  | cons node rest ih =>
    cases chain with
    | cons later =>
      have read : step state .readNext = some ({ state with consumer := .ready node (state.next node) }, []) := by
        rw [step, walking]
      have behind : Finishes { state.started node (state.next node) with consumer := .walking (state.next node) } :=
        ih later rfl
      have readied : Finishes { state with consumer := .ready node (state.next node) } := ready_finishes rfl behind
      exact readied.before rfl read rfl rfl

theorem walks_finishes (walks : Walks state.next state.consumer batch) : Finishes state := by
  cases consumer : state.consumer with
  | polling =>
    refine ⟨[], state, [], ?_, rfl, consumer, rfl, rfl⟩
    intro event member
    cases member
  | walking head =>
    rw [consumer] at walks
    exact walk_finishes walks consumer
  | ready node following =>
    rw [consumer] at walks
    obtain ⟨rest, -, chain⟩ := walks
    have behind : Finishes { state.started node following with consumer := .walking following } :=
      walk_finishes (show Chain state.next following rest from chain) rfl
    exact ready_finishes consumer behind
  | running following =>
    rw [consumer] at walks
    have advanced : step state .advance = some ({ state with consumer := .walking following }, []) := by
      rw [step, consumer]
    have behind : Finishes { state with consumer := .walking following } :=
      walk_finishes (show Chain state.next following batch from walks) rfl
    exact behind.before rfl advanced rfl rfl

/-! ### Whole rounds -/

/-- A step adds rounds behind those there are and executes what it outputs. -/
theorem step_grows {next : State} {event : Event} {now : List Push} (taken : step state event = some (next, now)) :
    state.rounds <+: next.rounds ∧ next.executed = state.executed ++ now := by
  cases step_moves taken with
  | loaded => exact ⟨List.prefix_refl _, (List.append_nil _).symm⟩
  | linked => exact ⟨List.prefix_refl _, (List.append_nil _).symm⟩
  | pushed => exact ⟨List.prefix_refl _, (List.append_nil _).symm⟩
  | failed => exact ⟨List.prefix_refl _, (List.append_nil _).symm⟩
  | taken => exact ⟨List.prefix_append .., (List.append_nil _).symm⟩
  | read => exact ⟨List.prefix_refl _, (List.append_nil _).symm⟩
  | started => exact ⟨List.prefix_refl _, rfl⟩
  | advanced => exact ⟨List.prefix_refl _, (List.append_nil _).symm⟩
  | ended => exact ⟨List.prefix_refl _, (List.append_nil _).symm⟩

/-- The rounds of the first state are the first rounds of the second. -/
def Extends (first second : State) : Prop := first.rounds <+: second.rounds

theorem run_rounds {last : State} {events : List Event} {executed : List Push}
    (ran : run step state events = some (last, executed)) : Extends state last := by
  have refl : ∀ first : State, Extends first first := fun first => List.prefix_refl first.rounds
  have trans : ∀ first second third : State, Extends first second → Extends second third → Extends first third :=
    fun _ _ _ one two => List.IsPrefix.trans one two
  exact grows_of_run refl trans (fun _ _ _ _ taken => (step_grows taken).1) ran

theorem run_executed {last : State} {events : List Event} {executed : List Push}
    (ran : run step state events = some (last, executed)) : last.executed = state.executed ++ executed := by
  induction events generalizing state executed with
  | nil =>
    obtain ⟨rfl, rfl⟩ := Prod.mk.inj (Option.some.inj ran)
    exact (List.append_nil _).symm
  | cons event rest ih =>
    obtain ⟨next, now, later, taken, after, rfl⟩ := run_cons_some.mp ran
    rw [ih after, (step_grows taken).2, List.append_assoc]

/-- Between two rounds everything taken has been executed. -/
theorem polling_executed (inv : Inv state) (polling : state.consumer = .polling) :
    state.executed.Perm state.rounds.flatten := by
  obtain ⟨batch, queue, linked, accounted⟩ := inv
  have walks := linked.walks
  rw [polling] at walks
  obtain rfl : batch = [] := walks
  have taken := accounted.taken
  rw [List.map_nil, List.append_nil] at taken
  rw [taken]
  exact reverses_perm _

theorem reactor_inv {last : State} {events : List Event} {executed : List Push} (inv : Inv state)
    (reactor : ∀ event ∈ events, event.reactor = true) (ran : run step state events = some (last, executed)) :
    Inv last := by
  have preserves : ∀ state event next now, Inv state → event.reactor = true → step state event = some (next, now) →
      Inv next := by
    intro state event next now inv reactor taken
    refine step_inv inv ?_ taken
    cases event with
    | load thread node => cases reactor
    | _ => trivial
  exact invariant_of_run preserves inv (meets_of_forall reactor) ran

/-- Left to itself, the reactor ends the round, does another one, and has then executed every push. -/
theorem all_executed (inv : Inv state) :
    ∃ events final executed, (∀ event ∈ events, event.reactor = true) ∧
      run step state events = some (final, executed) ∧ final.executed.Perm state.pushes := by
  obtain ⟨batch, queue, linked, -⟩ := id inv
  obtain ⟨front, idle, early, front_reactor, front_ran, polling, -, front_pushes⟩ := walks_finishes linked.walks
  have exchanged : step idle .popAll = some (idle.taken, []) := by rw [step, polling]
  have idle_inv := reactor_inv inv front_reactor front_ran
  have taken_inv : Inv idle.taken := step_inv idle_inv (show Owned idle .popAll from trivial) exchanged
  obtain ⟨_, _, taken_linked, -⟩ := id taken_inv
  obtain ⟨back, final, late, back_reactor, back_ran, final_polling, final_head, back_pushes⟩ :=
    walks_finishes taken_linked.walks
  have final_inv := reactor_inv taken_inv back_reactor back_ran
  refine ⟨front ++ .popAll :: back, final, early ++ ([] ++ late), ?_, ?_, ?_⟩
  · intro event member
    rcases List.mem_append.mp member with first | later
    · exact front_reactor event first
    · rcases List.mem_cons.mp later with rfl | later
      · rfl
      · exact back_reactor event later
  · refine run_append_some.mpr ⟨idle, early, _, front_ran, ?_, rfl⟩
    exact run_cons_some.mpr ⟨idle.taken, [], late, exchanged, back_ran, rfl⟩
  · have executed := polling_executed final_inv final_polling
    obtain ⟨batch, queue, linked, accounted⟩ := final_inv
    have empty : queue = [] := by
      have chain := linked.head
      rw [final_head] at chain
      exact chain_unique chain .nil
    have nothing : final.fresh = [] := by
      have waiting := accounted.waiting
      rw [empty] at waiting
      exact List.reverse_eq_nil_iff.mp waiting.symm
    rw [← front_pushes, ← taken_pushes, ← back_pushes, State.pushes, nothing, List.append_nil]
    exact executed

/-- In every run the lists of the queue and of the reactor are finite, and each push has been executed or waits in one
    of them, once. A round that starts after a push executes it, and the reactor alone can execute all that wait. -/
theorem tasks_run_once {links : Nat → Option Nat} {events : List Event} {last : State} {executed : List Push}
    (owned : Meets step Owned (.start links) events) (ran : run step (.start links) events = some (last, executed)) :
    (∃ batch queue, Walks last.next last.consumer batch ∧ Chain last.next last.head queue ∧
      (executed ++ (batch ++ queue).map last.latest).Perm last.pushes ∧ last.pushes.Nodup ∧
      ∀ node ∈ batch ++ queue, (last.latest node).node = node) ∧
    (∀ front back middle early, events = front ++ .popAll :: back →
      run step (.start links) front = some (middle, early) → last.consumer = .polling →
      ∀ push ∈ middle.pushes, push ∈ executed) ∧
    ∃ rest final later, (∀ event ∈ rest, event.reactor = true) ∧ run step last rest = some (final, later) ∧
      (executed ++ later).Perm last.pushes := by
  have inv := run_inv owned ran
  have history : last.executed = executed := run_executed ran
  refine ⟨?_, ?_, ?_⟩
  · obtain ⟨batch, queue, linked, accounted⟩ := inv
    refine ⟨batch, queue, linked.walks, linked.head, ?_, accounted.distinct, ?_⟩
    · rw [← history]
      exact accounted.whole
    · intro node member
      exact (linked.listed node member).2
  · rintro front back middle early rfl before polling push member
    obtain ⟨other, _, later, ran_front, ran_back, rfl⟩ := run_append_some.mp ran
    obtain ⟨rfl, -⟩ := Prod.mk.inj (Option.some.inj (before.symm.trans ran_front))
    obtain ⟨next, now, behind, exchanged, after, rfl⟩ := run_cons_some.mp ran_back
    cases step_moves exchanged with
    | taken =>
      have grown : List.IsPrefix middle.taken.rounds last.rounds := run_rounds after
      have inside : push ∈ middle.taken.rounds.flatten := by
        have same := taken_pushes middle
        rw [State.pushes, show middle.taken.fresh = [] from rfl, List.append_nil] at same
        rw [same]
        exact member
      obtain ⟨more, same⟩ := grown
      rw [← history]
      refine (polling_executed inv polling).mem_iff.mpr ?_
      rw [← same, List.flatten_append]
      exact List.mem_append_left _ inside
  · obtain ⟨rest, final, later, reactor, finished, whole⟩ := all_executed inv
    refine ⟨rest, final, later, reactor, finished, ?_⟩
    rw [← history, ← run_executed finished]
    exact whole

/-- A task that pushes itself again while it runs. -/
def repushed : List Event :=
  [.load 0 7, .link 0, .swap 0 false, .popAll, .readNext, .runTask, .load 1 7, .link 1, .swap 1 false]

theorem repushed_owned : Meets step Owned (.start fun _ => none) repushed :=
  meets_cons rfl rfl <| meets_cons rfl trivial <| meets_cons rfl trivial <| meets_cons rfl trivial <|
    meets_cons rfl trivial <| meets_cons rfl trivial <| meets_cons rfl rfl <| meets_cons rfl trivial <|
      meets_cons rfl trivial <| meets_nil _

theorem repushed_task_runs : ∃ last, run step (.start fun _ => none) repushed = some (last, [⟨0, 7, 0⟩]) ∧
    ∃ batch queue, Walks last.next last.consumer batch ∧ Chain last.next last.head queue ∧
      ([(⟨0, 7, 0⟩ : Push)] ++ (batch ++ queue).map last.latest).Perm last.pushes ∧ last.pushes.Nodup ∧
      ∀ node ∈ batch ++ queue, (last.latest node).node = node :=
  ⟨_, rfl, (tasks_run_once repushed_owned rfl).1⟩

/-! ### In which order -/

/-- One exchange takes both pushes. -/
def Together (rounds : List (List Push)) (first second : Push) : Prop :=
  ∃ round ∈ rounds, first ∈ round ∧ second ∈ round

/-- An exchange takes the one push before another takes the other. -/
def Before (rounds : List (List Push)) (first second : Push) : Prop :=
  ∃ front back, rounds = front ++ back ∧ first ∈ front.flatten ∧ second ∈ back.flatten

/-- The pushes are in the order of their tickets. -/
theorem Accounted.sorted (accounted : Accounted state batch queue) :
    state.pushes.Pairwise fun first second => first.ticket < second.ticket := by
  have tickets : (state.pushes.map (·.ticket)).Pairwise (· < ·) := by
    rw [accounted.tickets]
    exact List.pairwise_lt_range
  exact List.pairwise_map.mp tickets

/-- Two elements in the order of a sorted list. -/
theorem pair_sublist {list : List Push} (sorted : list.Pairwise fun first second => first.ticket < second.ticket)
    {first second : Push} (one : first ∈ list) (other : second ∈ list) (earlier : first.ticket < second.ticket) :
    [first, second].Sublist list := by
  obtain ⟨front, back, rfl⟩ := List.append_of_mem one
  obtain ⟨-, -, across⟩ := List.pairwise_append.mp sorted
  rcases List.mem_append.mp other with inFront | inBack
  · have := across second inFront first List.mem_cons_self
    omega
  · rcases List.mem_cons.mp inBack with rfl | inBack
    · omega
    · exact ((List.singleton_sublist.mpr inBack).cons_cons first).trans (List.sublist_append_right ..)

/-- A pair whose second element is not behind the front is in the front. -/
theorem pair_front {front back : List Push} {first second : Push} (pair : [first, second].Sublist (front ++ back))
    (absent : second ∉ back) : [first, second].Sublist front := by
  obtain ⟨left, right, same, inFront, inBack⟩ := List.sublist_append_iff.mp pair
  rcases List.eq_nil_or_concat right with rfl | ⟨others, last, rfl⟩
  · rw [same, List.append_nil]
    exact inFront
  · have ends : [first] ++ [second] = (left ++ others) ++ [last] := by
      rw [List.append_assoc]
      simpa using same
    obtain ⟨-, equal⟩ := List.append_inj' ends rfl
    obtain rfl := List.singleton_inj.mp equal
    exact absurd (inBack.subset (by simp)) absent

/-- What has been executed is a front of the rounds, each turned round. -/
theorem Accounted.executed_front (accounted : Accounted state batch queue) :
    ∃ rest, state.executed ++ rest = (state.rounds.map List.reverse).flatten ∧ (state.executed ++ rest).Nodup := by
  refine ⟨_, accounted.taken, ?_⟩
  rw [accounted.taken]
  refine (reverses_perm state.rounds).nodup_iff.mpr ?_
  exact accounted.distinct.sublist (List.sublist_append_left ..)

/-- A pair of the rounds is executed in order if its second push is executed. -/
theorem Accounted.pair_executed (accounted : Accounted state batch queue) {first second : Push}
    (pair : [first, second].Sublist (state.rounds.map List.reverse).flatten) (done : second ∈ state.executed) :
    [first, second].Sublist state.executed := by
  obtain ⟨rest, front, distinct⟩ := accounted.executed_front
  rw [← front] at pair
  refine pair_front pair fun waiting => ?_
  exact (List.nodup_append.mp distinct).2.2 _ done _ waiting rfl

/-- Pushes that one exchange takes are executed the other way round. -/
theorem Accounted.together_order (accounted : Accounted state batch queue) {first second : Push}
    (together : Together state.rounds first second) (earlier : first.ticket < second.ticket)
    (done : first ∈ state.executed) : [second, first].Sublist state.executed := by
  obtain ⟨round, member, one, other⟩ := together
  have inside : round.Sublist state.pushes :=
    (List.sublist_flatten_of_mem member).trans (List.sublist_append_left ..)
  have pair := (pair_sublist (accounted.sorted.sublist inside) one other earlier).reverse
  have turned : round.reverse ∈ state.rounds.map List.reverse := List.mem_map_of_mem member
  exact accounted.pair_executed (pair.trans (List.sublist_flatten_of_mem turned)) done

/-- Pushes that are taken by one exchange after the other are executed in order. -/
theorem Accounted.before_order (accounted : Accounted state batch queue) {first second : Push}
    (before : Before state.rounds first second) (done : second ∈ state.executed) :
    [first, second].Sublist state.executed := by
  obtain ⟨front, back, same, inFront, inBack⟩ := before
  refine accounted.pair_executed ?_ done
  rw [same, List.map_append, List.flatten_append]
  have one : [first].Sublist (front.map List.reverse).flatten :=
    List.singleton_sublist.mpr ((reverses_perm front).mem_iff.mpr inFront)
  have other : [second].Sublist (back.map List.reverse).flatten :=
    List.singleton_sublist.mpr ((reverses_perm back).mem_iff.mpr inBack)
  exact one.append other

/-- Of two pushes that were taken, one exchange took both or one took the earlier before another took the later. -/
theorem Accounted.together_or_before (accounted : Accounted state batch queue) {first second : Push}
    (pushed : first ∈ state.pushes) (taken : second ∈ state.rounds.flatten) (earlier : first.ticket < second.ticket) :
    Together state.rounds first second ∨ Before state.rounds first second := by
  have sorted := accounted.sorted
  obtain ⟨-, -, across⟩ := List.pairwise_append.mp sorted
  have firstTaken : first ∈ state.rounds.flatten := by
    rcases List.mem_append.mp pushed with inRounds | inFresh
    · exact inRounds
    · have := across second taken first inFresh
      omega
  obtain ⟨round, member, other⟩ := List.mem_flatten.mp taken
  obtain ⟨front, back, same⟩ := List.append_of_mem member
  rw [same, List.flatten_append, List.flatten_cons] at firstTaken
  rcases List.mem_append.mp firstTaken with inFront | behind
  · refine .inr ⟨front, round :: back, same, inFront, ?_⟩
    rw [List.flatten_cons]
    exact List.mem_append_left _ other
  · rcases List.mem_append.mp behind with here | inBack
    · exact .inl ⟨round, member, here, other⟩
    · have apart := (List.pairwise_append.mp sorted).1
      rw [same, List.flatten_append, List.flatten_cons] at apart
      have later := (List.pairwise_append.mp (List.pairwise_append.mp apart).2.1).2.2 second other first inBack
      omega

/-- Of two tasks that were pushed one after the other, by one thread or by two, and that the reactor has taken, the
    earlier runs first if an exchange took it before the other, and the later runs first if one exchange took both. -/
theorem task_order {links : Nat → Option Nat} {events : List Event} {last : State} {executed : List Push}
    (owned : Meets step Owned (.start links) events) (ran : run step (.start links) events = some (last, executed)) :
    ∀ first ∈ last.pushes, ∀ second ∈ last.rounds.flatten, first.ticket < second.ticket →
      (Together last.rounds first second ∨ Before last.rounds first second) ∧
      (Together last.rounds first second → first ∈ executed → [second, first].Sublist executed) ∧
      (Before last.rounds first second → second ∈ executed → [first, second].Sublist executed) := by
  have history : last.executed = executed := run_executed ran
  obtain ⟨batch, queue, -, accounted⟩ := run_inv owned ran
  intro first pushed second taken earlier
  rw [← history]
  exact ⟨accounted.together_or_before pushed taken earlier,
    fun together done => accounted.together_order together earlier done,
    fun before done => accounted.before_order before done⟩

/-- One thread pushes two tasks, and one exchange takes both. -/
def twoPushes : List Event :=
  [.load 0 7, .link 0, .swap 0 false, .load 0 8, .link 0, .swap 0 false, .popAll, .readNext, .runTask, .advance,
    .readNext, .runTask, .advance, .endRound]

theorem twoPushes_owned : Meets step Owned (.start fun _ => none) twoPushes :=
  meets_cons rfl rfl <| meets_cons rfl trivial <| meets_cons rfl trivial <| meets_cons rfl rfl <|
    meets_cons rfl trivial <| meets_cons rfl trivial <| meets_cons rfl trivial <| meets_cons rfl trivial <|
      meets_cons rfl trivial <| meets_cons rfl trivial <| meets_cons rfl trivial <| meets_cons rfl trivial <|
        meets_cons rfl trivial <| meets_cons rfl trivial <| meets_nil _

/-- The task pushed first runs last. -/
theorem newest_task_first : Meets step Owned (.start fun _ => none) twoPushes ∧
    ∃ last, run step (.start fun _ => none) twoPushes = some (last, [⟨0, 8, 1⟩, ⟨0, 7, 0⟩]) ∧
      last.pushes = [⟨0, 7, 0⟩, ⟨0, 8, 1⟩] ∧
      ¬[(⟨0, 7, 0⟩ : Push), ⟨0, 8, 1⟩].Sublist [⟨0, 8, 1⟩, ⟨0, 7, 0⟩] :=
  ⟨twoPushes_owned, _, rfl, rfl, by decide⟩

theorem two_tasks_order : ∃ last, run step (.start fun _ => none) twoPushes = some (last, [⟨0, 8, 1⟩, ⟨0, 7, 0⟩]) ∧
    (Together last.rounds ⟨0, 7, 0⟩ ⟨0, 8, 1⟩ → ⟨0, 7, 0⟩ ∈ [(⟨0, 8, 1⟩ : Push), ⟨0, 7, 0⟩] →
      [(⟨0, 8, 1⟩ : Push), ⟨0, 7, 0⟩].Sublist [⟨0, 8, 1⟩, ⟨0, 7, 0⟩]) :=
  ⟨_, rfl, (task_order twoPushes_owned rfl ⟨0, 7, 0⟩ (by decide) ⟨0, 8, 1⟩ (by decide) (by decide)).2.1⟩

end Rdma.MpscQueues
