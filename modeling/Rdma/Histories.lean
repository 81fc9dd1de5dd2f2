import Mathlib.Data.List.Nodup

/-!
Histories of operations that overlap in time. An operation is invoked, performed
and answered; others see when it is invoked and answered. A history is
linearizable where some order of the operations explains the answers and keeps
apart what did not overlap. Where every operation is performed once between its
invocation and its answer, the order in which they are performed is one
(`linearizable_of_orderly`).
-/
namespace Rdma.Histories
universe u v w x

variable {Id : Type u} {Op : Type v} {Answer : Type w} {State : Type x}

/-- What others see of the operations. -/
inductive Event (Id : Type u) (Op : Type v) (Answer : Type w)
  | invoke (id : Id) (op : Op)
  | respond (id : Id) (answer : Answer)

/-- An operation with its answer. -/
structure Entry (Id : Type u) (Op : Type v) (Answer : Type w) where
  id : Id
  op : Op
  answer : Answer

/-- What happens, also out of sight. -/
inductive Act (Id : Type u) (Op : Type v) (Answer : Type w)
  | sees (event : Event Id Op Answer)
  | perform (entry : Entry Id Op Answer)

def Act.event : Act Id Op Answer → Option (Event Id Op Answer)
  | .sees event => some event
  | .perform _ => none

def Act.entry : Act Id Op Answer → Option (Entry Id Op Answer)
  | .sees _ => none
  | .perform entry => some entry

def history (trace : List (Act Id Op Answer)) : List (Event Id Op Answer) := trace.filterMap Act.event
def performed (trace : List (Act Id Op Answer)) : List (Entry Id Op Answer) := trace.filterMap Act.entry

/-- The machine answers the operations one after the other. -/
def answersOf (spec : State → Op → Answer × State) : State → List Op → List Answer
  | _, [] => []
  | state, op :: rest => (spec state op).1 :: answersOf spec (spec state op).2 rest

def stateAfter (spec : State → Op → Answer × State) (state : State) (ops : List Op) : State :=
  ops.foldl (fun state op => (spec state op).2) state

/-- An order of the operations that explains the history. -/
structure Explains (spec : State → Op → Answer × State) (initial : State) (history : List (Event Id Op Answer))
    (order : List (Entry Id Op Answer)) : Prop where
  once : (order.map Entry.id).Nodup
  legal : answersOf spec initial (order.map Entry.op) = order.map Entry.answer
  invoked : ∀ entry ∈ order, .invoke entry.id entry.op ∈ history
  answered : ∀ id answer, .respond id answer ∈ history → ∃ entry ∈ order, entry.id = id ∧ entry.answer = answer
  keeps : ∀ first second answer op, first ∈ order → second ∈ order →
    [.respond first.id answer, .invoke second.id op].Sublist history → [first, second].Sublist order

def Linearizable (spec : State → Op → Answer × State) (initial : State) (history : List (Event Id Op Answer)) : Prop :=
  ∃ order, Explains spec initial history order

/-- Each operation has its own identity, is performed once after it was invoked and answered once after that. -/
inductive Orderly (spec : State → Op → Answer × State) (initial : State) : State → List (Act Id Op Answer) → Prop
  | start : Orderly spec initial initial []
  | invoke {state trace} (orderly : Orderly spec initial state trace) (id : Id) (op : Op)
    (fresh : ∀ other, .invoke id other ∉ history trace) :
    Orderly spec initial state (trace ++ [.sees (.invoke id op)])
  | perform {state trace} (orderly : Orderly spec initial state trace) (id : Id) (op : Op)
    (invoked : .invoke id op ∈ history trace) (once : id ∉ (performed trace).map Entry.id) :
    Orderly spec initial (spec state op).2 (trace ++ [.perform ⟨id, op, (spec state op).1⟩])
  | respond {state trace} (orderly : Orderly spec initial state trace) (entry : Entry Id Op Answer)
    (done : entry ∈ performed trace) (once : ∀ other, .respond entry.id other ∉ history trace) :
    Orderly spec initial state (trace ++ [.sees (.respond entry.id entry.answer)])

section Traces
variable {spec : State → Op → Answer × State} {initial state : State} {trace : List (Act Id Op Answer)}

@[simp] theorem history_sees (trace : List (Act Id Op Answer)) (event : Event Id Op Answer) :
    history (trace ++ [.sees event]) = history trace ++ [event] := by simp [history, Act.event]

@[simp] theorem history_perform (trace : List (Act Id Op Answer)) (entry : Entry Id Op Answer) :
    history (trace ++ [.perform entry]) = history trace := by simp [history, Act.event]

@[simp] theorem performed_sees (trace : List (Act Id Op Answer)) (event : Event Id Op Answer) :
    performed (trace ++ [.sees event]) = performed trace := by simp [performed, Act.entry]

@[simp] theorem performed_perform (trace : List (Act Id Op Answer)) (entry : Entry Id Op Answer) :
    performed (trace ++ [.perform entry]) = performed trace ++ [entry] := by simp [performed, Act.entry]

theorem answersOf_concat (spec : State → Op → Answer × State) (state : State) (ops : List Op) (op : Op) :
    answersOf spec state (ops ++ [op]) = answersOf spec state ops ++ [(spec (stateAfter spec state ops) op).1] := by
  induction ops generalizing state with
  | nil => rfl
  | cons first rest ih =>
    rw [List.cons_append, answersOf, ih, answersOf, List.cons_append]
    rfl

theorem stateAfter_concat (spec : State → Op → Answer × State) (state : State) (ops : List Op) (op : Op) :
    stateAfter spec state (ops ++ [op]) = (spec (stateAfter spec state ops) op).2 := by
  rw [stateAfter, List.foldl_append]
  rfl

/-- A pair that ends otherwise lies before the last element. -/
theorem pair_sublist_concat {Item : Type*} {front : List Item} {first second last : Item} (apart : second ≠ last) :
    [first, second].Sublist (front ++ [last]) ↔ [first, second].Sublist front := by
  constructor
  · intro within
    obtain ⟨left, right, same, inFront, atEnd⟩ := List.sublist_append_iff.mp within
    cases right with
    | nil =>
      rw [List.append_nil] at same
      rwa [same]
    | cons head tail =>
      obtain ⟨rfl, rfl⟩ : head = last ∧ tail = [] := by
        have short := List.sublist_singleton.mp atEnd
        simpa using short
      have ends := congrArg List.getLast? same
      simp only [List.getLast?_concat] at ends
      exact absurd (by simpa using ends) apart
  · exact fun within => within.trans (List.sublist_append_left ..)

/-- The machine is in the state that the performed operations lead to. -/
theorem Orderly.reached (orderly : Orderly spec initial state trace) :
    stateAfter spec initial ((performed trace).map Entry.op) = state := by
  induction orderly with
  | start => rfl
  | invoke orderly id op fresh ih => rwa [performed_sees]
  | perform orderly id op invoked once ih =>
    rw [performed_perform, List.map_append, List.map_singleton, stateAfter_concat, ih]
  | respond orderly entry done once ih => rwa [performed_sees]

/-- The order in which the operations are performed explains what is seen of them. -/
theorem Orderly.explains (orderly : Orderly spec initial state trace) :
    Explains spec initial (history trace) (performed trace) := by
  induction orderly with
  | start =>
    exact ⟨List.nodup_nil, rfl, fun _ none_ => absurd none_ List.not_mem_nil, fun _ _ none_ => absurd none_ List.not_mem_nil,
      fun _ _ _ _ none_ => absurd none_ List.not_mem_nil⟩
  | @invoke state trace orderly id op fresh ih =>
    rw [history_sees, performed_sees]
    refine ⟨ih.once, ih.legal, fun entry member => List.mem_append_left _ (ih.invoked entry member), ?_, ?_⟩
    · intro other answer seen
      have before := (List.mem_append.mp seen).resolve_right (by simp)
      exact ih.answered other answer before
    · intro first second answer other one two pair
      -- the operation that is invoked now has not been performed
      have apart : second.id ≠ id := by
        rintro rfl
        exact fresh _ (ih.invoked second two)
      exact ih.keeps first second answer other one two
        ((pair_sublist_concat fun same => apart (Event.invoke.inj same).1).mp pair)
  | @perform state trace orderly id op invoked once ih =>
    rw [history_perform, performed_perform]
    refine ⟨?_, ?_, ?_, ?_, ?_⟩
    · rw [List.map_append, List.map_singleton]
      refine List.nodup_append.mpr ⟨ih.once, List.nodup_singleton _, fun one member other last same => once ?_⟩
      have mine : one = id := same.trans (List.mem_singleton.mp last)
      exact mine ▸ member
    · rw [List.map_append, List.map_append, List.map_singleton, List.map_singleton, answersOf_concat, ih.legal,
        orderly.reached]
    · intro entry member
      rcases List.mem_append.mp member with old | new
      · exact ih.invoked entry old
      · obtain rfl := List.mem_singleton.mp new
        exact invoked
    · intro other answer seen
      obtain ⟨entry, member, same⟩ := ih.answered other answer seen
      exact ⟨entry, List.mem_append_left _ member, same⟩
    · intro first second answer other one two pair
      have responded : .respond first.id answer ∈ history trace := pair.subset (by simp)
      obtain ⟨entry, member, same, -⟩ := ih.answered _ _ responded
      -- what has been answered was performed before
      have early : first ∈ performed trace := by
        rcases List.mem_append.mp one with old | new
        · exact old
        · obtain rfl := List.mem_singleton.mp new
          exact absurd (List.mem_map.mpr ⟨entry, member, same⟩) once
      rcases List.mem_append.mp two with old | new
      · exact (ih.keeps first second answer other early old pair).trans (List.sublist_append_left ..)
      · have front : [first].Sublist (performed trace) := List.singleton_sublist.mpr early
        exact front.append (List.singleton_sublist.mpr new)
  | @respond state trace orderly entry done once ih =>
    rw [history_sees, performed_sees]
    refine ⟨ih.once, ih.legal, fun one member => List.mem_append_left _ (ih.invoked one member), ?_, ?_⟩
    · intro other answer seen
      rcases List.mem_append.mp seen with old | new
      · exact ih.answered other answer old
      · obtain ⟨rfl, rfl⟩ := Event.respond.inj (List.mem_singleton.mp new)
        exact ⟨entry, done, rfl, rfl⟩
    · intro first second answer other one two pair
      exact ih.keeps first second answer other one two ((pair_sublist_concat (by simp)).mp pair)

theorem linearizable_of_orderly (orderly : Orderly spec initial state trace) :
    Linearizable spec initial (history trace) := ⟨_, orderly.explains⟩

end Traces

end Rdma.Histories
