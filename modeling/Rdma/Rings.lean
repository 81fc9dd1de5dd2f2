import Mathlib.Data.Nat.ModEq
import Rdma.Arrays

/-!
Circular arrays: `count` consecutive cells from `head` on, wrapping at the
end, hold a list (`window`). Advancing `head` drops the first element
(`window_pop`) and writing the cell behind the last appends one (`window_push`).
-/
namespace Rdma.Rings
open Rdma.Arrays
universe u

variable {α : Type u}

/-- The elements in `count` cells from `head` on. -/
def window (cells : Cells α) (head count : Nat) : List α :=
  (List.range count).map fun k => cells.cell ((head + k) % cells.size)

@[simp] theorem window_zero (cells : Cells α) (head : Nat) : window cells head 0 = [] := rfl

@[simp] theorem window_length (cells : Cells α) (head count : Nat) : (window cells head count).length = count := by
  simp [window]

theorem window_pop (cells : Cells α) {head : Nat} (inside : head < cells.size) (count : Nat) :
    window cells head (count + 1) = cells.cell head :: window cells ((head + 1) % cells.size) count := by
  rw [window, List.range_succ_eq_map, List.map_cons, List.map_map, Nat.add_zero, Nat.mod_eq_of_lt inside]
  congr 1
  refine List.map_congr_left fun k _ => ?_
  have step : (head + (k + 1)) % cells.size = ((head + 1) % cells.size + k) % cells.size := by
    rw [Nat.mod_add_mod, Nat.add_assoc, Nat.add_comm 1 k]
  exact congrArg cells.cell step

theorem window_succ (cells : Cells α) (head count : Nat) :
    window cells head (count + 1) = window cells head count ++ [cells.cell ((head + count) % cells.size)] := by
  rw [window, List.range_succ, List.map_append, List.map_singleton, window]

theorem window_push (cells : Cells α) {head count : Nat} (room : count < cells.size) (value : α) :
    window (cells.put ((head + count) % cells.size) value) head (count + 1) = window cells head count ++ [value] := by
  rw [window, List.range_succ, List.map_append, List.map_singleton, put_size, put_same]
  congr 1
  refine List.map_congr_left fun k member => put_apart cells ?_ value
  have below := List.mem_range.mp member
  intro same
  have apart : k % cells.size = count % cells.size := Nat.ModEq.add_left_cancel' head same
  rw [Nat.mod_eq_of_lt (by omega), Nat.mod_eq_of_lt room] at apart
  omega

end Rdma.Rings
