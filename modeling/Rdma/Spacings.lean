import Mathlib.Data.List.Basic

/-!
Items of which some are due. Where each due item has so many others to itself
(`Spaced`), in one sequence or in each of several that are mixed
(`spaced_grouped`), few are due; so a store that gets back no more than the due
items is soon empty (`spaced_bound`).
-/
namespace Rdma.Spacings
universe u v

variable {Item : Type u} {Key : Type v} {interval recent : Nat} {due : Item → Bool} {items : List Item}

/-- Each due item has `interval - 1` others to itself, and there are `recent` others beside those. -/
def Spaced (interval recent : Nat) (due : Item → Bool) (items : List Item) : Prop :=
  (interval - 1) * items.countP due + recent ≤ items.countP fun item => !due item

@[simp] theorem spaced_nil : Spaced interval 0 due [] := by simp [Spaced]

theorem Spaced.skip (spaced : Spaced interval recent due items) {item : Item} (skips : due item = false) {later : Nat}
    (few : later ≤ recent + 1) : Spaced interval later due (items ++ [item]) := by
  have others : (items ++ [item]).countP (fun item => !due item) = items.countP (fun item => !due item) + 1 := by
    simp [skips]
  have same : (items ++ [item]).countP due = items.countP due := by simp [skips]
  rw [Spaced] at spaced ⊢
  rw [others, same]
  omega

theorem Spaced.next (spaced : Spaced interval recent due items) {item : Item} (now : due item = true)
    (apart : interval ≤ recent + 1) : Spaced interval 0 due (items ++ [item]) := by
  have others : (items ++ [item]).countP (fun item => !due item) = items.countP fun item => !due item := by simp [now]
  have more : (items ++ [item]).countP due = items.countP due + 1 := by simp [now]
  rw [Spaced] at spaced ⊢
  rw [others, more, Nat.mul_succ]
  omega

theorem Spaced.weaken (spaced : Spaced interval recent due items) : Spaced interval 0 due items :=
  Nat.le_trans (Nat.add_le_add_left (Nat.zero_le recent) _) spaced

theorem spaced_map {Other : Type v} {name : Other → Item} {others : List Other} :
    Spaced interval recent due (others.map name) ↔ Spaced interval recent (fun other => due (name other)) others := by
  rw [Spaced, Spaced, List.countP_map, List.countP_map]
  rfl

section Groups
variable [DecidableEq Key] (key : Item → Key)

theorem filter_filter_key (one other : Key) :
    (items.filter fun item => !decide (key item = one)).filter (fun item => key item = other) =
      if other = one then [] else items.filter fun item => key item = other := by
  rw [List.filter_filter]
  split
  · rename_i same
    subst same
    exact List.filter_eq_nil_iff.mpr fun item _ => by simp
  · rename_i apart
    refine List.filter_congr fun item _ => ?_
    by_cases mine : key item = other
    · simp [mine, apart]
    · simp [mine]

/-- What holds of the items of each key holds of all items. -/
theorem spaced_grouped (each : ∀ one, Spaced interval 0 due (items.filter fun item => key item = one)) :
    Spaced interval 0 due items := by
  induction size : items.length using Nat.strongRecOn generalizing items with
  | ind count ih =>
    cases shape : items with
    | nil => exact spaced_nil
    | cons item rest =>
      rw [← shape]
      have split (p : Item → Bool) := List.countP_eq_countP_filter_add items p fun other => key other = key item
      have fewer : (items.filter fun other => !decide (key other = key item)).length < count := by
        rw [← size, List.length_filter_lt_length_iff_exists]
        exact ⟨item, by simp [shape], by simp⟩
      have others := ih _ fewer (fun one => by
        rw [filter_filter_key]
        split
        · exact spaced_nil
        · exact each one) rfl
      have mine := each (key item)
      rw [Spaced] at others mine ⊢
      rw [split due, split fun item => !due item, Nat.mul_add]
      omega

end Groups

/-- Where every item takes one of the room, and no more than the due ones give it back. -/
theorem spaced_bound (spaced : Spaced interval recent due items) {held room : Nat}
    (taken : items.length ≤ held + items.countP due) (fits : held ≤ room) :
    (interval - 1) * items.length ≤ interval * room := by
  have all : items.length = items.countP due + items.countP fun item => !due item := by
    simpa using List.length_eq_countP_add_countP due
  have few : items.countP (fun item => !due item) ≤ room := by omega
  rw [Spaced] at spaced
  cases interval with
  | zero => simp
  | succ before =>
    rw [Nat.add_sub_cancel] at spaced ⊢
    calc before * items.length
        = before * items.countP due + before * items.countP (fun item => !due item) := by rw [all, Nat.mul_add]
      _ ≤ items.countP (fun item => !due item) + before * items.countP fun item => !due item := by omega
      _ = (before + 1) * items.countP fun item => !due item := by rw [Nat.succ_mul, Nat.add_comm]
      _ ≤ (before + 1) * room := Nat.mul_le_mul_left _ few

end Rdma.Spacings
