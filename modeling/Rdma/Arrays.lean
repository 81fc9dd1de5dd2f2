import Mathlib.Logic.Function.Basic
import Mathlib.Data.List.Range

/-!
Arrays of a fixed size with checked access. Reading or writing a cell outside
the array is undefined (`none`), so a computation that stays defined never
leaves its arrays. `put` is the write without the check; a write inside the
array is `put` (`write_inside`). A range is read and written at once by `load` and
`store`; what is written shows in its own range only (`window_paste_apart`). Where cells may be unused, `values` are those in
use, and a write takes one value out and puts one in (`values_put`).
-/
namespace Rdma.Arrays
universe u

/-- An array of `size` cells; `cell` beyond `size` is never read. -/
structure Cells (α : Type u) where
  size : Nat
  cell : Nat → α

variable {α : Type u}

def Cells.read (cells : Cells α) (index : Nat) : Option α :=
  if index < cells.size then some (cells.cell index) else none

def Cells.put (cells : Cells α) (index : Nat) (value : α) : Cells α :=
  { cells with cell := Function.update cells.cell index value }

def Cells.write (cells : Cells α) (index : Nat) (value : α) : Option (Cells α) :=
  if index < cells.size then some (cells.put index value) else none

theorem read_inside {cells : Cells α} {index : Nat} (inside : index < cells.size) :
    cells.read index = some (cells.cell index) := if_pos inside

theorem write_inside {cells : Cells α} {index : Nat} (inside : index < cells.size) (value : α) :
    cells.write index value = some (cells.put index value) := if_pos inside

theorem write_outside {cells : Cells α} {index : Nat} (outside : cells.size ≤ index) (value : α) :
    cells.write index value = none := if_neg (by omega)

theorem read_some {cells : Cells α} {index : Nat} {value : α} (read : cells.read index = some value) :
    index < cells.size ∧ cells.cell index = value := by
  unfold Cells.read at read
  split at read
  · exact ⟨by assumption, by simpa using read⟩
  · cases read

@[simp] theorem put_size (cells : Cells α) (index : Nat) (value : α) : (cells.put index value).size = cells.size := rfl

theorem write_some {cells written : Cells α} {index : Nat} {value : α} (wrote : cells.write index value = some written) :
    index < cells.size ∧ written = cells.put index value := by
  unfold Cells.write at wrote
  split at wrote
  · exact ⟨by assumption, (Option.some.inj wrote).symm⟩
  · cases wrote

theorem write_size {cells written : Cells α} {index : Nat} {value : α} (wrote : cells.write index value = some written) :
    written.size = cells.size := by
  obtain ⟨-, rfl⟩ := write_some wrote
  exact put_size ..

@[simp] theorem put_same (cells : Cells α) (index : Nat) (value : α) : (cells.put index value).cell index = value := by
  simp [Cells.put]

theorem put_apart (cells : Cells α) {index other : Nat} (apart : other ≠ index) (value : α) :
    (cells.put index value).cell other = cells.cell other := by
  simp [Cells.put, apart]

theorem put_put (cells : Cells α) (index : Nat) (first second : α) :
    (cells.put index first).put index second = cells.put index second := by
  simp [Cells.put]

/-- The first `count` cells in order. -/
def Cells.front (cells : Cells α) (count : Nat) : List α := (List.range count).map cells.cell

@[simp] theorem front_zero (cells : Cells α) : cells.front 0 = [] := rfl

@[simp] theorem front_length (cells : Cells α) (count : Nat) : (cells.front count).length = count := by
  simp [Cells.front]

theorem front_succ (cells : Cells α) (count : Nat) :
    cells.front (count + 1) = cells.front count ++ [cells.cell count] := by
  simp [Cells.front, List.range_succ]

/-- A write at or behind the end of the front does not show in it. -/
theorem front_put (cells : Cells α) {count index : Nat} (behind : count ≤ index) (value : α) :
    (cells.put index value).front count = cells.front count := by
  refine List.map_congr_left fun i member => put_apart cells ?_ value
  have := List.mem_range.mp member
  omega

/-! ### Ranges -/

/-- The cells of `[start, start + count)`. -/
def Cells.window (cells : Cells α) (start count : Nat) : List α :=
  (List.range count).map fun i => cells.cell (start + i)

def Cells.load (cells : Cells α) (start count : Nat) : Option (List α) :=
  if start + count ≤ cells.size then some (cells.window start count) else none

def Cells.paste (cells : Cells α) (start count : Nat) (values : Nat → α) : Cells α :=
  { cells with cell := fun i => if start ≤ i ∧ i < start + count then values (i - start) else cells.cell i }

def Cells.store (cells : Cells α) (start count : Nat) (values : Nat → α) : Option (Cells α) :=
  if start + count ≤ cells.size then some (cells.paste start count values) else none

@[simp] theorem window_length (cells : Cells α) (start count : Nat) : (cells.window start count).length = count := by
  simp [Cells.window]

theorem load_inside {cells : Cells α} {start count : Nat} (inside : start + count ≤ cells.size) :
    cells.load start count = some (cells.window start count) := if_pos inside

theorem store_inside {cells : Cells α} {start count : Nat} (inside : start + count ≤ cells.size) (values : Nat → α) :
    cells.store start count values = some (cells.paste start count values) := if_pos inside

theorem store_outside {cells : Cells α} {start count : Nat} (outside : cells.size < start + count)
    (values : Nat → α) : cells.store start count values = none := if_neg (Nat.not_le.mpr outside)

theorem store_some {cells stored : Cells α} {start count : Nat} {values : Nat → α}
    (wrote : cells.store start count values = some stored) :
    start + count ≤ cells.size ∧ stored = cells.paste start count values := by
  unfold Cells.store at wrote
  split at wrote
  · exact ⟨by assumption, (Option.some.inj wrote).symm⟩
  · cases wrote

theorem paste_inside (cells : Cells α) (start : Nat) {count i : Nat} (below : i < count) (values : Nat → α) :
    (cells.paste start count values).cell (start + i) = values i := by
  simp [Cells.paste, below]

theorem paste_outside (cells : Cells α) {start count i : Nat} (values : Nat → α)
    (outside : i < start ∨ start + count ≤ i) : (cells.paste start count values).cell i = cells.cell i :=
  if_neg (by omega)

@[simp] theorem paste_size (cells : Cells α) (start count : Nat) (values : Nat → α) :
    (cells.paste start count values).size = cells.size := rfl

theorem window_getD (cells : Cells α) (start : Nat) {count i : Nat} (inside : i < count) (other : α) :
    (cells.window start count).getD i other = cells.cell (start + i) := by
  simp [Cells.window, inside]

/-- Only the first `count` values are written. -/
theorem store_congr (cells : Cells α) (start : Nat) {count : Nat} {values others : Nat → α}
    (same : ∀ i < count, values i = others i) : cells.store start count values = cells.store start count others := by
  have pasted : cells.paste start count values = cells.paste start count others := by
    refine congrArg (Cells.mk cells.size) (funext fun i => ?_)
    by_cases inside : start ≤ i ∧ i < start + count
    · rw [if_pos inside, if_pos inside, same _ (by omega)]
    · rw [if_neg inside, if_neg inside]
  rw [Cells.store, Cells.store, pasted]

theorem window_paste (cells : Cells α) (start count : Nat) (values : Nat → α) :
    (cells.paste start count values).window start count = (List.range count).map values := by
  refine List.map_congr_left fun i member => ?_
  exact paste_inside cells start (List.mem_range.mp member) values

theorem window_paste_apart (cells : Cells α) {start count other length : Nat} (values : Nat → α)
    (apart : other + length ≤ start ∨ start + count ≤ other) :
    (cells.paste start count values).window other length = cells.window other length := by
  refine List.map_congr_left fun i member => ?_
  have near := List.mem_range.mp member
  exact paste_outside cells values (by omega)

@[simp] theorem paste_zero (cells : Cells α) (start : Nat) (values : Nat → α) : cells.paste start 0 values = cells := by
  refine congrArg (Cells.mk cells.size) (funext fun i => ?_)
  exact if_neg (by omega)

/-- Two ranges that meet are one range. -/
theorem paste_paste (cells : Cells α) (start first second : Nat) (front back : Nat → α) :
    (cells.paste start first front).paste (start + first) second back =
      cells.paste start (first + second) fun i => if i < first then front i else back (i - first) := by
  refine congrArg (Cells.mk cells.size) (funext fun i => ?_)
  simp only [Cells.paste]
  by_cases behind : start + first ≤ i ∧ i < start + first + second
  · rw [if_pos behind, if_pos (by omega), if_neg (by omega), Nat.sub_sub]
  · rw [if_neg behind]
    by_cases inside : start ≤ i ∧ i < start + first
    · rw [if_pos inside, if_pos (by omega), if_pos (by omega)]
    · rw [if_neg inside, if_neg (by omega)]

/-- Two writes that meet are one write. -/
theorem store_store (cells : Cells α) (start first second : Nat) (front back : Nat → α) :
    ((cells.store start first front).bind fun stored => stored.store (start + first) second back) =
      cells.store start (first + second) fun i => if i < first then front i else back (i - first) := by
  by_cases early : start + first ≤ cells.size
  · rw [store_inside early, Option.bind_some]
    by_cases late : start + first + second ≤ cells.size
    · rw [store_inside (by rwa [paste_size]), paste_paste, store_inside (by omega)]
    · rw [store_outside (by rw [paste_size]; omega), store_outside (by omega)]
  · rw [store_outside (by omega), store_outside (by omega)]
    rfl

/-! ### Cells that may be unused -/

theorem filterMap_update {cell : Nat → Option α} {indices : List Nat} {index : Nat} (once : indices.Nodup)
    (member : index ∈ indices) (new : Option α) :
    ((cell index).toList ++ indices.filterMap (Function.update cell index new)).Perm
      (new.toList ++ indices.filterMap cell) := by
  obtain ⟨front, back, rfl⟩ := List.append_of_mem member
  have apart : ∀ other ∈ front ++ back, Function.update cell index new other = cell other := by
    intro other listed
    have fresh : index ∉ front ++ back := (List.nodup_cons.mp (List.perm_middle.nodup_iff.mp once)).1
    refine Function.update_of_ne ?_ _ _
    rintro rfl
    exact fresh listed
  have before : front.filterMap (Function.update cell index new) = front.filterMap cell :=
    List.filterMap_congr fun other listed => apart other (List.mem_append_left _ listed)
  have after : back.filterMap (Function.update cell index new) = back.filterMap cell :=
    List.filterMap_congr fun other listed => apart other (List.mem_append_right _ listed)
  have middle : ∀ value : Nat → Option α, (index :: back).filterMap value = (value index).toList ++ back.filterMap value := by
    intro value
    cases found : value index with
    | none => simp [found]
    | some _ => simp [found]
  rw [List.filterMap_append, List.filterMap_append, middle, middle, before, after, Function.update_self]
  calc (cell index).toList ++ (front.filterMap cell ++ (new.toList ++ back.filterMap cell))
      _ |>.Perm (front.filterMap cell ++ ((cell index).toList ++ (new.toList ++ back.filterMap cell))) :=
        List.perm_append_comm_assoc ..
      _ |>.Perm (front.filterMap cell ++ (new.toList ++ ((cell index).toList ++ back.filterMap cell))) :=
        (List.perm_append_comm_assoc ..).append_left _
      _ |>.Perm (new.toList ++ (front.filterMap cell ++ ((cell index).toList ++ back.filterMap cell))) :=
        List.perm_append_comm_assoc ..

/-- What is in the cells that are in use. -/
def Cells.values (cells : Cells (Option α)) : List α := (List.range cells.size).filterMap cells.cell

/-- Where what is in use has no repeated image, the image tells the cell. -/
theorem values_inj {β : Type u} {cells : Cells (Option α)} {image : α → β} (once : (cells.values.map image).Nodup)
    {index other : Nat} {value copy : α} (inside : index < cells.size) (there : other < cells.size)
    (found : cells.cell index = some value) (copied : cells.cell other = some copy) (same : image value = image copy) :
    index = other := by
  have apart : (List.range cells.size).Pairwise fun i j =>
      ∀ one ∈ cells.cell i, ∀ two ∈ cells.cell j, image one ≠ image two := by
    have pairwise : (cells.values).Pairwise fun one two => image one ≠ image two := List.pairwise_map.mp once
    exact List.pairwise_filterMap.mp pairwise
  have ordered : ∀ {i j : Nat} {one two : α}, i < j → j < cells.size → cells.cell i = some one →
      cells.cell j = some two → image one ≠ image two := by
    intro i j one two before within first second
    have at_ := List.pairwise_iff_getElem.mp apart i j (by simp; omega) (by simpa using within) before
    simp only [List.getElem_range] at at_
    exact at_ one first two second
  rcases Nat.lt_trichotomy index other with before | equal | behind
  · exact absurd same (ordered before there found copied)
  · exact equal
  · exact absurd same.symm (ordered behind inside copied found)

theorem mem_values {cells : Cells (Option α)} {value : α} :
    value ∈ cells.values ↔ ∃ index < cells.size, cells.cell index = some value := by
  simp [Cells.values]

/-- A cell is unused while there are fewer values than cells. -/
theorem values_length_lt {cells : Cells (Option α)} :
    cells.values.length < cells.size ↔ ∃ index < cells.size, cells.cell index = none := by
  have shorter : ((List.range cells.size).filterMap cells.cell).length < (List.range cells.size).length ↔
      ∃ index, ∃ _ : index ∈ List.range cells.size, cells.cell index = none :=
    List.length_filterMap_lt_length_iff_exists
  simpa [Cells.values] using shorter

/-- A write takes out what was in the cell and puts in what is written. -/
theorem values_put {cells : Cells (Option α)} {index : Nat} (inside : index < cells.size) (new : Option α) :
    ((cells.cell index).toList ++ (cells.put index new).values).Perm (new.toList ++ cells.values) :=
  filterMap_update List.nodup_range (List.mem_range.mpr inside) new

end Rdma.Arrays
