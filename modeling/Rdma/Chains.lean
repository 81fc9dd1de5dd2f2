import Mathlib.Data.List.Nodup
import Mathlib.Data.List.Perm.Basic
import Mathlib.Logic.Function.Basic

/-!
Pools of entries on singly linked lists. The entries `0`, …, `size - 1` share
one pointer each, `next`; a free list and some buckets hold the pointers to the
heads of their lists. `Holds` says that the pointers spell out finite lists and
that each entry is on exactly one of them or in hand. Pushing an entry that is
in hand (`Holds.push`) and cutting the front of a list off into the hand
(`Holds.cut`) keep that, whatever lists the entries come from and go to.
-/
namespace Rdma.Chains
universe u

/-- The pointers from the head on go through exactly the entries of the list, in its order. -/
inductive Chain (next : Nat → Option Nat) : Option Nat → List Nat → Prop
  | nil : Chain next none []
  | cons {entry : Nat} {rest : List Nat} : Chain next (next entry) rest → Chain next (some entry) (entry :: rest)

theorem chain_unique {next : Nat → Option Nat} {head : Option Nat} {first second : List Nat}
    (one : Chain next head first) (other : Chain next head second) : first = second := by
  induction one generalizing second with
  | nil =>
    cases other
    rfl
  | cons _ ih =>
    cases other with
    | cons later => rw [ih later]

/-- The pointer of an entry that is not on the list does not matter. -/
theorem chain_frame {next : Nat → Option Nat} {head : Option Nat} {list : List Nat} (chain : Chain next head list)
    {entry : Nat} (apart : entry ∉ list) (pointer : Option Nat) :
    Chain (Function.update next entry pointer) head list := by
  induction chain with
  | nil => exact .nil
  | @cons first rest _ ih =>
    have other : first ≠ entry := fun same => apart (by simp [same])
    have later := ih fun member => apart (List.mem_cons_of_mem _ member)
    rw [← Function.update_of_ne other pointer next] at later
    exact .cons later

/-- An entry behind the last one of a list. -/
theorem chain_snoc {next : Nat → Option Nat} {head : Option Nat} {list : List Nat} (chain : Chain next head list)
    (distinct : list.Nodup) {last entry : Nat} (ends : list.getLast? = some last) (outside : entry ∉ list) :
    Chain (Function.update (Function.update next last (some entry)) entry none) head (list ++ [entry]) := by
  induction chain with
  | nil => cases ends
  | @cons first rest later ih =>
    have apart : first ≠ entry := fun same => outside (by simp [same])
    obtain ⟨once, distinct⟩ := List.nodup_cons.mp distinct
    refine .cons ?_
    rw [Function.update_of_ne apart]
    cases rest with
    | nil =>
      obtain rfl : first = last := Option.some.inj ends
      rw [Function.update_self]
      refine .cons ?_
      rw [Function.update_self]
      exact .nil
    | cons second more =>
      have behind : (second :: more).getLast? = some last := by rw [← ends, List.getLast?_cons_cons]
      have other : first ≠ last := by
        rintro rfl
        exact once (List.mem_of_getLast? behind)
      rw [Function.update_of_ne other]
      exact ih distinct behind fun member => outside (List.mem_cons_of_mem _ member)

/-- The pointers of a pool that lists its entries in order. -/
theorem chain_range {next : Nat → Option Nat} {size : Nat} (positive : 0 < size)
    (linked : ∀ entry < size, next entry = if entry < size - 1 then some (entry + 1) else none) :
    Chain next (some 0) (List.range size) := by
  have from_start : ∀ count start, start + (count + 1) = size →
      Chain next (some start) (List.range' start (count + 1)) := by
    intro count
    induction count with
    | zero =>
      intro start ends
      refine .cons ?_
      rw [linked start (by omega), if_neg (by omega)]
      exact .nil
    | succ count ih =>
      intro start ends
      refine .cons ?_
      rw [linked start (by omega), if_pos (by omega)]
      exact ih (start + 1) (by omega)
  have whole := from_start (size - 1) 0 (by omega)
  rwa [Nat.sub_add_cancel positive, ← List.range_eq_range'] at whole

/-! ### Families of lists -/

section Families
variable {Key : Type u} [DecidableEq Key] {keys : List Key} {key : Key}

theorem flatMap_outside {Value : Type u} (outside : key ∉ keys) (lists : Key → List Value) (list : List Value) :
    keys.flatMap (Function.update lists key list) = keys.flatMap lists := by
  refine List.flatMap_congr fun other member => ?_
  rw [Function.update_of_ne]
  rintro rfl
  exact outside member

/-- The elements of one list of a family, in front of those of the others. -/
theorem flatMap_split {Value : Type u} (distinct : keys.Nodup) (member : key ∈ keys) (lists : Key → List Value)
    (list : List Value) :
    (keys.flatMap (Function.update lists key list)).Perm (list ++ keys.flatMap (Function.update lists key [])) := by
  induction keys with
  | nil => cases member
  | cons first rest ih =>
    obtain ⟨outside, distinct⟩ := List.nodup_cons.mp distinct
    simp only [List.flatMap_cons]
    rcases List.mem_cons.mp member with rfl | later
    · simp only [Function.update_self, flatMap_outside outside, List.nil_append]
      exact List.Perm.refl _
    · have apart : first ≠ key := by
        rintro rfl
        exact outside later
      rw [Function.update_of_ne apart, Function.update_of_ne apart]
      refine ((ih distinct later).append_left _).trans ?_
      rw [← List.append_assoc, ← List.append_assoc]
      exact List.perm_append_comm.append_right _

/-- Moving the front of one list of a family out of it. -/
theorem flatMap_cut {Value : Type u} (distinct : keys.Nodup) (member : key ∈ keys) {lists : Key → List Value}
    {front back : List Value} (parts : lists key = front ++ back) :
    (keys.flatMap lists).Perm (front ++ keys.flatMap (Function.update lists key back)) := by
  have whole := flatMap_split distinct member lists (lists key)
  rw [Function.update_eq_self, parts, List.append_assoc] at whole
  exact whole.trans ((flatMap_split distinct member lists back).symm.append_left front)

theorem flatMap_push {Value : Type u} (distinct : keys.Nodup) (member : key ∈ keys) (lists : Key → List Value)
    (value : Value) :
    (keys.flatMap (Function.update lists key (value :: lists key))).Perm (value :: keys.flatMap lists) := by
  refine (flatMap_split distinct member lists _).trans ?_
  have whole := flatMap_split distinct member lists (lists key)
  rw [Function.update_eq_self] at whole
  exact whole.symm.cons value

end Families

/-! ### Pools -/

variable {Bucket : Type}

/-- How many entries there are, and which buckets beside the free list. -/
structure Layout (Bucket : Type) where
  size : Nat
  buckets : List Bucket
  distinct : buckets.Nodup

/-- The pointers of the entries and of the lists; `none` is the free list. -/
structure Links (Bucket : Type) where
  next : Nat → Option Nat
  head : Option Bucket → Option Nat

def Layout.places (layout : Layout Bucket) : List (Option Bucket) := none :: layout.buckets.map some

theorem Layout.places_distinct (layout : Layout Bucket) : layout.places.Nodup :=
  List.nodup_cons.mpr ⟨by simp, layout.distinct.map fun _ _ same => Option.some.inj same⟩

@[simp] theorem Layout.free_place (layout : Layout Bucket) : none ∈ layout.places := by simp [Layout.places]

@[simp] theorem Layout.bucket_place {layout : Layout Bucket} {bucket : Bucket} :
    some bucket ∈ layout.places ↔ bucket ∈ layout.buckets := by
  simp [Layout.places]

/-- The entries in the buckets. -/
def Layout.pending (layout : Layout Bucket) (lists : Option Bucket → List Nat) : List Nat :=
  layout.buckets.flatMap fun bucket => lists (some bucket)

/-- The pointers spell out the lists, and each entry is on one of them or in hand, once. -/
structure Holds (layout : Layout Bucket) (links : Links Bucket) (lists : Option Bucket → List Nat) (hand : List Nat) :
    Prop where
  chains : ∀ place ∈ layout.places, Chain links.next (links.head place) (lists place)
  whole : (hand ++ layout.places.flatMap lists).Perm (List.range layout.size)

section Counting
variable {layout : Layout Bucket} {links : Links Bucket} {lists : Option Bucket → List Nat} {hand : List Nat}
  {Data : Type} {data : Nat → Data} {accepted reported : List Data}

theorem Holds.once (holds : Holds layout links lists hand) : (hand ++ layout.places.flatMap lists).Nodup :=
  holds.whole.symm.nodup List.nodup_range

/-- An entry in hand is on no list. -/
theorem Holds.apart (holds : Holds layout links lists hand) {entry : Nat} (held : entry ∈ hand) {place : Option Bucket}
    (member : place ∈ layout.places) : entry ∉ lists place := by
  intro listed
  exact List.disjoint_of_nodup_append holds.once held (List.mem_flatMap.mpr ⟨place, member, listed⟩)

theorem Holds.front (holds : Holds layout links lists hand) {place : Option Bucket} (member : place ∈ layout.places)
    {entry : Nat} {rest : List Nat} (parts : lists place = entry :: rest) :
    links.head place = some entry ∧ Chain links.next (links.next entry) rest := by
  have chain := holds.chains place member
  rw [parts] at chain
  generalize links.head place = head at chain
  cases chain with
  | cons later => exact ⟨rfl, later⟩

theorem Holds.empty (holds : Holds layout links lists hand) {place : Option Bucket} (member : place ∈ layout.places)
    (nothing : lists place = []) : links.head place = none := by
  have chain := holds.chains place member
  rw [nothing] at chain
  generalize links.head place = head at chain
  cases chain with
  | nil => rfl

theorem places_flatMap (layout : Layout Bucket) (lists : Option Bucket → List Nat) :
    layout.places.flatMap lists = lists none ++ layout.pending lists := by
  rw [Layout.places, List.flatMap_cons, List.flatMap_map]
  rfl

/-- An entry that is not in hand is free or pending. -/
theorem Holds.length (holds : Holds layout links lists hand) :
    hand.length + ((lists none).length + (layout.pending lists).length) = layout.size := by
  have length := holds.whole.length_eq
  rwa [List.length_append, places_flatMap, List.length_append, List.length_range] at length

/-- What was accepted was reported or is carried by a pending entry, each once. -/
def Accounts (layout : Layout Bucket) (lists : Option Bucket → List Nat) (data : Nat → Data)
    (accepted reported : List Data) : Prop :=
  accepted.Perm (reported ++ (layout.pending lists).map data)

/-- Pending entries move between buckets. -/
theorem Accounts.move (accounts : Accounts layout lists data accepted reported) {moved : Option Bucket → List Nat}
    (same : (layout.pending lists).Perm (layout.pending moved)) : Accounts layout moved data accepted reported :=
  List.Perm.trans accounts ((same.map data).append_left reported)

end Counting

variable [DecidableEq Bucket]

def Links.push (links : Links Bucket) (place : Option Bucket) (entry : Nat) : Links Bucket where
  next := Function.update links.next entry (links.head place)
  head := Function.update links.head place (some entry)

def Links.setHead (links : Links Bucket) (place : Option Bucket) (head : Option Nat) : Links Bucket :=
  { links with head := Function.update links.head place head }

variable {layout : Layout Bucket} {links : Links Bucket} {lists : Option Bucket → List Nat} {hand : List Nat}

theorem Holds.push {entry : Nat} (holds : Holds layout links lists (entry :: hand)) {place : Option Bucket}
    (member : place ∈ layout.places) :
    Holds layout (links.push place entry) (Function.update lists place (entry :: lists place)) hand where
  chains other at_other := by
    have first : entry ∈ entry :: hand := List.mem_cons_self
    by_cases same : other = place
    · subst same
      simp only [Links.push, Function.update_self]
      refine .cons ?_
      rw [Function.update_self]
      exact chain_frame (holds.chains other member) (holds.apart first member) _
    · simp only [Links.push, Function.update_of_ne same]
      exact chain_frame (holds.chains other at_other) (holds.apart first at_other) _
  whole := by
    refine ((flatMap_push layout.places_distinct member lists entry).append_left hand).trans ?_
    exact List.perm_middle.trans holds.whole

theorem Holds.cut (holds : Holds layout links lists hand) {place : Option Bucket} (member : place ∈ layout.places)
    {front back : List Nat} (parts : lists place = front ++ back) {head : Option Nat}
    (chain : Chain links.next head back) :
    Holds layout (links.setHead place head) (Function.update lists place back) (front ++ hand) where
  chains other at_other := by
    by_cases same : other = place
    · subst same
      simp only [Links.setHead, Function.update_self]
      exact chain
    · simp only [Links.setHead, Function.update_of_ne same]
      exact holds.chains other at_other
  whole := by
    rw [List.append_assoc]
    refine List.Perm.trans ?_ holds.whole
    refine List.perm_append_comm_assoc .. |>.trans ?_
    exact (flatMap_cut layout.places_distinct member parts).symm.append_left hand

/-! ### What is pending -/

theorem pending_free (layout : Layout Bucket) (lists : Option Bucket → List Nat) (list : List Nat) :
    layout.pending (Function.update lists none list) = layout.pending lists := by
  simp [Layout.pending]

theorem pending_update (layout : Layout Bucket) (lists : Option Bucket → List Nat) (bucket : Bucket)
    (list : List Nat) :
    layout.pending (Function.update lists (some bucket) list) =
      layout.buckets.flatMap (Function.update (fun bucket => lists (some bucket)) bucket list) := by
  refine List.flatMap_congr fun other _ => ?_
  by_cases same : other = bucket
  · subst same
    rw [Function.update_self, Function.update_self]
  · rw [Function.update_of_ne same, Function.update_of_ne fun equal => same (Option.some.inj equal)]

theorem pending_push (lists : Option Bucket → List Nat) {bucket : Bucket} (member : bucket ∈ layout.buckets)
    (entry : Nat) :
    (layout.pending (Function.update lists (some bucket) (entry :: lists (some bucket)))).Perm
      (entry :: layout.pending lists) := by
  rw [pending_update]
  exact flatMap_push layout.distinct member (fun bucket => lists (some bucket)) entry

theorem pending_cut (lists : Option Bucket → List Nat) {bucket : Bucket} (member : bucket ∈ layout.buckets) :
    (layout.pending lists).Perm
      (lists (some bucket) ++ layout.pending (Function.update lists (some bucket) [])) := by
  rw [pending_update]
  exact flatMap_cut layout.distinct member (List.append_nil _).symm

/-! ### What the entries carry -/

section Accounts
variable {Data : Type} {data : Nat → Data} {accepted reported : List Data}

/-- An entry from the free list goes into a bucket with new data. -/
theorem Accounts.accept (accounts : Accounts layout lists data accepted reported) {entry : Nat}
    (unlisted : entry ∉ layout.pending lists) {rest : List Nat} {bucket : Bucket} (member : bucket ∈ layout.buckets)
    (new : Data) :
    Accounts layout (Function.update (Function.update lists none rest) (some bucket) (entry :: lists (some bucket)))
      (Function.update data entry new) (accepted ++ [new]) reported := by
  have apart : (layout.pending lists).map (Function.update data entry new) = (layout.pending lists).map data :=
    List.map_congr_left fun other listed => by
      rw [Function.update_of_ne]
      rintro rfl
      exact unlisted listed
  have pushed := pending_push (Function.update lists none rest) member entry
  rw [Function.update_of_ne (Option.some_ne_none bucket), pending_free] at pushed
  refine (List.perm_append_comm.trans (accounts.cons new)).trans ?_
  refine List.perm_middle.symm.trans (List.Perm.append_left reported ?_)
  refine List.Perm.trans ?_ (pushed.map _).symm
  rw [List.map_cons, Function.update_self, apart]

/-- The entries of a bucket are reported and leave it. -/
theorem Accounts.report (accounts : Accounts layout lists data accepted reported) {bucket : Bucket}
    (member : bucket ∈ layout.buckets) :
    Accounts layout (Function.update lists (some bucket) []) data accepted
      (reported ++ (lists (some bucket)).map data) := by
  refine List.Perm.trans accounts ?_
  rw [List.append_assoc, ← List.map_append]
  exact ((pending_cut lists member).map data).append_left reported

end Accounts

end Rdma.Chains
