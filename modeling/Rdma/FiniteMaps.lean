import Mathlib.Data.List.Nodup
import Mathlib.Logic.Function.Basic

/-!
Maps with finitely many entries. `Listed` lists the entries of a map, each key
once; writing a key adds an entry (`Listed.insert`), takes one out
(`Listed.erase`) or exchanges one (`Listed.replace`).
-/
namespace Rdma.FiniteMaps
universe u v

variable {Key : Type u} {Value : Type v} {map : Key → Option Value} {entries : List (Key × Value)}

structure Listed (map : Key → Option Value) (entries : List (Key × Value)) : Prop where
  once : (entries.map (·.1)).Nodup
  entry : ∀ {key value}, map key = some value ↔ (key, value) ∈ entries

theorem listed_nil : Listed (fun _ : Key => (none : Option Value)) [] := ⟨List.nodup_nil, by simp⟩

theorem Listed.unlisted (listed : Listed map entries) {key : Key} : map key = none ↔ key ∉ entries.map (·.1) := by
  constructor
  · intro missing member
    obtain ⟨⟨other, value⟩, here, rfl⟩ := List.mem_map.mp member
    rw [listed.entry.mpr here] at missing
    cases missing
  · intro unlisted
    by_contra known
    obtain ⟨value, found⟩ := Option.ne_none_iff_exists'.mp known
    exact unlisted (List.mem_map.mpr ⟨_, listed.entry.mp found, rfl⟩)

/-- A map has one list of entries, but for their order. -/
theorem Listed.perm (listed : Listed map entries) {others : List (Key × Value)} (other : Listed map others) :
    entries.Perm others :=
  (List.perm_ext_iff_of_nodup listed.once.of_map other.once.of_map).mpr fun _ => listed.entry.symm.trans other.entry

section Writes
variable [DecidableEq Key]

theorem Listed.insert (listed : Listed map entries) {key : Key} (fresh : map key = none) (value : Value) :
    Listed (Function.update map key (some value)) ((key, value) :: entries) := by
  have unlisted := listed.unlisted.mp fresh
  refine ⟨List.nodup_cons.mpr ⟨unlisted, listed.once⟩, ?_⟩
  intro other found
  by_cases same : other = key
  · subst same
    have absent : (other, found) ∉ entries := fun member => unlisted (List.mem_map.mpr ⟨_, member, rfl⟩)
    simp [absent, eq_comm]
  · simp [same, listed.entry]

theorem Listed.erase [DecidableEq Value] (listed : Listed map entries) {key : Key} {value : Value}
    (held : map key = some value) : Listed (Function.update map key none) (entries.erase (key, value)) := by
  have member := listed.entry.mp held
  have perm := List.perm_cons_erase member
  have once := (perm.map (·.1)).nodup_iff.mp listed.once
  obtain ⟨gone, rest⟩ := List.nodup_cons.mp once
  refine ⟨rest, ?_⟩
  intro other found
  by_cases same : other = key
  · subst same
    have absent : (other, found) ∉ entries.erase (other, value) := fun left => gone (List.mem_map.mpr ⟨_, left, rfl⟩)
    simp [absent]
  · have kept : (other, found) ∈ entries ↔ (other, found) ∈ entries.erase (key, value) := by
      rw [perm.mem_iff, List.mem_cons]
      simp [same]
    rw [Function.update_of_ne same, listed.entry, kept]

theorem Listed.replace [DecidableEq Value] (listed : Listed map entries) {key : Key} {old : Value}
    (held : map key = some old) (value : Value) :
    Listed (Function.update map key (some value)) ((key, value) :: entries.erase (key, old)) := by
  have taken := (listed.erase held).insert (Function.update_self ..) value
  rwa [Function.update_idem] at taken

/-- What a write adds to the entries, and what it takes out. -/
theorem Listed.length_update [DecidableEq Value] (listed : Listed map entries) {key : Key} {value : Option Value}
    {others : List (Key × Value)} (other : Listed (Function.update map key value) others) :
    others.length + (map key).toList.length = entries.length + value.toList.length := by
  cases held : map key with
  | none =>
    cases value with
    | none =>
      rw [← held, Function.update_eq_self] at other
      rw [(other.perm listed).length_eq]
    | some value => exact (other.perm (listed.insert held value)).length_eq
  | some old =>
    have fewer := List.length_erase_of_mem (listed.entry.mp held)
    have some_ := List.length_pos_of_mem (listed.entry.mp held)
    cases value with
    | none =>
      rw [(other.perm (listed.erase held)).length_eq, Option.toList_some, Option.toList_none, List.length_singleton]
      exact (congrArg (· + 1) fewer).trans (Nat.sub_add_cancel some_)
    | some value =>
      rw [(other.perm (listed.replace held value)).length_eq, List.length_cons, fewer, Nat.sub_add_cancel some_]
      rfl

end Writes

end Rdma.FiniteMaps
