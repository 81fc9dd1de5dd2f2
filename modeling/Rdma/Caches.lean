import Mathlib.Logic.Function.Basic
import Mathlib.Data.List.Basic

/-!
Caches of a partial map. A cache keeps cells at places; a key is looked for at
the places of its window, and a cell with the key `hole` holds nothing. A cache
agrees with the map when every cell found under a key has the map's value
(`Agrees`). Writing one cell keeps the agreement as long as no other cell holds
the key that the map changes (`Agrees.write`), and a search that stops at the
first cell fit for the key finds its only copy (`find_of_pairwise`).
-/
namespace Rdma.Caches
universe u v w x

variable {Key : Type u} {Value : Type v} {Place : Type w} {Cell : Type x}

/-- Every cell that a lookup can find under a key other than `hole` has the map's value; a cell has no value where
    `value` is `none`. -/
def Agrees (hole : Key) (window : Key → List Place) (key : Cell → Key) (value : Cell → Option Value)
    (cells : Place → Cell) (map : Key → Option Value) : Prop :=
  ∀ wanted, wanted ≠ hole → ∀ place ∈ window wanted, key (cells place) = wanted →
    (map wanted).isSome ∧ value (cells place) = map wanted

/-- No place of the window other than `place` holds the key. -/
def OnlyAt (window : Key → List Place) (key : Cell → Key) (cells : Place → Cell) (wanted : Key) (place : Place) : Prop :=
  ∀ other ∈ window wanted, key (cells other) = wanted → other = place

variable {hole : Key} {window : Key → List Place} {key : Cell → Key} {value : Cell → Option Value}
  {cells : Place → Cell} {map : Key → Option Value} {place : Place} {cell : Cell}

theorem Agrees.empty (holes : ∀ place, key (cells place) = hole) : Agrees hole window key value cells map :=
  fun _ named place _ found => absurd (found.symm.trans (holes place)) named

/-- The map changes one key, and a write empties the only cell that holds it or gives it the new value. -/
theorem Agrees.write [DecidableEq Key] [DecidableEq Place] (agrees : Agrees hole window key value cells map)
    {changed : Key} (only : OnlyAt window key cells changed place) {new : Option Value}
    (fits : key cell = hole ∨ key cell = changed ∧ new.isSome ∧ value cell = new) :
    Agrees hole window key value (Function.update cells place cell) (Function.update map changed new) := by
  intro wanted named other member found
  by_cases same : other = place
  · subst same
    rw [Function.update_self] at found ⊢
    rcases fits with empty | ⟨rfl, known, holds⟩
    · exact absurd (found.symm.trans empty) named
    · rw [← found, Function.update_self]
      exact ⟨known, holds⟩
  · rw [Function.update_of_ne same] at found ⊢
    have apart : wanted ≠ changed := by
      rintro rfl
      exact same (only other member found)
    rw [Function.update_of_ne apart]
    exact agrees wanted named other member found

/-- No cell holds the key whose value the map changes. -/
theorem Agrees.absent [DecidableEq Key] (agrees : Agrees hole window key value cells map) {changed : Key}
    (absent : ∀ place ∈ window changed, key (cells place) ≠ changed) (new : Option Value) :
    Agrees hole window key value cells (Function.update map changed new) := by
  intro wanted named place member found
  have apart : wanted ≠ changed := by
    rintro rfl
    exact absent place member found
  rw [Function.update_of_ne apart]
  exact agrees wanted named place member found

/-- A cell that agrees with the map may be written anywhere. -/
theorem Agrees.fill [DecidableEq Place] (agrees : Agrees hole window key value cells map) (place : Place)
    (known : (map (key cell)).isSome) (holds : value cell = map (key cell)) :
    Agrees hole window key value (Function.update cells place cell) map := by
  intro wanted named other member found
  by_cases same : other = place
  · subst same
    rw [Function.update_self] at found ⊢
    rw [← found]
    exact ⟨known, holds⟩
  · rw [Function.update_of_ne same] at found ⊢
    exact agrees wanted named other member found

/-- A write that keeps the key and the value of a cell. -/
theorem Agrees.touch [DecidableEq Place] (agrees : Agrees hole window key value cells map)
    (keeps : key cell = key (cells place)) (holds : value cell = value (cells place)) :
    Agrees hole window key value (Function.update cells place cell) map := by
  intro wanted named other member found
  by_cases same : other = place
  · subst same
    rw [Function.update_self] at found ⊢
    rw [holds]
    exact agrees wanted named other member (keeps.symm.trans found)
  · rw [Function.update_of_ne same] at found ⊢
    exact agrees wanted named other member found

/-- A search that stops at no place before one that holds the goal finds that place. -/
theorem find_of_pairwise {places : List Place} {stops goal : Place → Prop} [DecidablePred stops]
    (sees : ∀ place, goal place → stops place)
    (clear : places.Pairwise fun first second => stops first → ¬goal second) {place : Place} (member : place ∈ places)
    (holds : goal place) : places.find? (stops ·) = some place := by
  induction places with
  | nil => cases member
  | cons first rest ih =>
    obtain ⟨before, later⟩ := List.pairwise_cons.mp clear
    by_cases stop : stops first
    · rcases List.mem_cons.mp member with rfl | member
      · exact List.find?_cons_of_pos (decide_eq_true stop)
      · exact absurd holds (before place member stop)
    · rw [List.find?_cons_of_neg (by simpa using stop)]
      rcases List.mem_cons.mp member with rfl | member
      · exact absurd (sees _ holds) stop
      · exact ih later member

end Rdma.Caches
