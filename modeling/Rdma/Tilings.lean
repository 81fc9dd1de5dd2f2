import Mathlib.Data.Nat.Notation
import Mathlib.Tactic.Ring

/-!
Ranges that lie end to end. `Tiles` says that the ranges of a list fill
`[start, stop)` in order. Each position in it then lies in exactly one of them,
and no other position in any (`tiles_once`).
-/
namespace Rdma.Tilings
universe u

variable {α : Type u} {offset length : α → ℕ} {start stop : ℕ} {items : List α}

/-- The range of an item is `[offset, offset + length)`. -/
def Tiles (offset length : α → ℕ) : ℕ → List α → ℕ → Prop
  | start, [], stop => start = stop
  | start, item :: items, stop => offset item = start ∧ Tiles offset length (start + length item) items stop

theorem tiles_le (tiles : Tiles offset length start items stop) : start ≤ stop := by
  induction items generalizing start with
  | nil => exact Nat.le_of_eq tiles
  | cons item items ih => exact (Nat.le_add_right ..).trans (ih tiles.2)

/-- No gap and no overlap. -/
theorem tiles_once (tiles : Tiles offset length start items stop) (position : ℕ) :
    (items.countP fun item => offset item ≤ position ∧ position < offset item + length item) =
      if start ≤ position ∧ position < stop then 1 else 0 := by
  induction items generalizing start with
  | nil =>
    obtain rfl : start = stop := tiles
    rw [List.countP_nil, if_neg (by omega)]
  | cons item items ih =>
    obtain ⟨first, rest⟩ := tiles
    have behind := tiles_le rest
    simp only [List.countP_cons, ih rest, first, decide_eq_true_eq]
    by_cases here : start ≤ position ∧ position < start + length item
    · have passed : ¬(start + length item ≤ position ∧ position < stop) := by omega
      rw [if_neg passed, if_pos here, if_pos (by omega)]
    · rw [if_neg here, Nat.add_zero]
      by_cases later : start + length item ≤ position ∧ position < stop
      · rw [if_pos later, if_pos (by omega)]
      · rw [if_neg later, if_neg (by omega)]

end Rdma.Tilings
