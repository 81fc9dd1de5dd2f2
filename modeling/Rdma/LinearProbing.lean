import Mathlib.Data.Nat.ModEq
import Mathlib.Logic.Function.Basic

/-!
Open addressing with linear probing. A key is looked for from its home position
on, round the table, until it or an empty position is found. Where each key has
one entry at most and no position between its home and its entry is empty
(`Probed`), the search finds exactly the entries (`find_spec`). Filling the first
empty position of a new key (`Probed.insert`) and writing an entry over one with
the same key (`Probed.replace`) keep that, however full the table is.
-/
namespace Rdma.LinearProbing
universe u v

/-- How many positions there are, where the search for a key starts, and the key of an entry. -/
structure Layout (Key : Type u) (Entry : Type v) where
  size : Nat
  home : Key → Nat
  key : Entry → Key
  inside : ∀ key, home key < size

variable {Key : Type u} {Entry : Type v} {layout : Layout Key Entry} {cell : Nat → Option Entry}

def Layout.probe (layout : Layout Key Entry) (key : Key) (distance : Nat) : Nat :=
  (layout.home key + distance) % layout.size

/-- One entry for a key, and no empty position between the key's home and its entry. -/
structure Probed (layout : Layout Key Entry) (cell : Nat → Option Entry) : Prop where
  unique : ∀ {index other entry copy}, index < layout.size → other < layout.size → cell index = some entry →
    cell other = some copy → layout.key entry = layout.key copy → index = other
  reachable : ∀ {index entry}, index < layout.size → cell index = some entry → ∃ distance < layout.size,
    layout.probe (layout.key entry) distance = index ∧
      ∀ nearer < distance, cell (layout.probe (layout.key entry) nearer) ≠ none

/-- The first position with an empty cell, of as many as are left from the index on. -/
def Layout.vacancy (layout : Layout Key Entry) (cell : Nat → Option Entry) : Nat → Nat → Option Nat
  | 0, _ => none
  | left + 1, index =>
    if (cell index).isNone then some index else layout.vacancy cell left ((index + 1) % layout.size)

/-- The position of the key's entry; the search ends at an empty cell. -/
def Layout.find [DecidableEq Key] (layout : Layout Key Entry) (cell : Nat → Option Entry) (key : Key) :
    Nat → Nat → Option Nat
  | 0, _ => none
  | left + 1, index =>
    match cell index with
    | none => none
    | some entry =>
      if layout.key entry = key then some index else layout.find cell key left ((index + 1) % layout.size)

theorem Layout.positive (layout : Layout Key Entry) (key : Key) : 0 < layout.size :=
  Nat.zero_lt_of_lt (layout.inside key)

theorem probe_lt (layout : Layout Key Entry) (key : Key) (distance : Nat) : layout.probe key distance < layout.size :=
  Nat.mod_lt _ (layout.positive key)

@[simp] theorem probe_zero (layout : Layout Key Entry) (key : Key) : layout.probe key 0 = layout.home key :=
  Nat.mod_eq_of_lt (layout.inside key)

theorem probe_next (layout : Layout Key Entry) (key : Key) (distance : Nat) :
    (layout.probe key distance + 1) % layout.size = layout.probe key (distance + 1) :=
  Nat.mod_add_mod ..

/-- No position is passed twice in one round. -/
theorem probe_inj {key : Key} {distance other : Nat} (first : distance < layout.size) (second : other < layout.size)
    (same : layout.probe key distance = layout.probe key other) : distance = other := by
  have congruent : distance ≡ other [MOD layout.size] := Nat.ModEq.add_left_cancel' (layout.home key) same
  exact congruent.eq_of_lt_of_lt first second

/-- One round passes every position. -/
theorem probe_surj (layout : Layout Key Entry) (key : Key) {index : Nat} (inside : index < layout.size) :
    ∃ distance < layout.size, layout.probe key distance = index := by
  have home := layout.inside key
  by_cases behind : layout.home key ≤ index
  · refine ⟨index - layout.home key, by omega, ?_⟩
    rw [Layout.probe, Nat.add_sub_cancel' behind, Nat.mod_eq_of_lt inside]
  · refine ⟨index + layout.size - layout.home key, by omega, ?_⟩
    rw [Layout.probe, show layout.home key + (index + layout.size - layout.home key) = index + layout.size by omega,
      Nat.add_mod_right, Nat.mod_eq_of_lt inside]

/-! ### The search -/

section Search
variable [DecidableEq Key] {key : Key}

theorem find_some {left index found : Nat} (inside : index < layout.size)
    (finds : layout.find cell key left index = some found) :
    found < layout.size ∧ ∃ entry, cell found = some entry ∧ layout.key entry = key := by
  induction left generalizing index with
  | zero => cases finds
  | succ left ih =>
    rw [Layout.find] at finds
    cases filled : cell index with
    | none =>
      rw [filled] at finds
      cases finds
    | some entry =>
      rw [filled] at finds
      dsimp only at finds
      by_cases same : layout.key entry = key
      · rw [if_pos same] at finds
        obtain rfl := Option.some.inj finds
        exact ⟨inside, entry, filled, same⟩
      · rw [if_neg same] at finds
        exact ih (Nat.mod_lt _ (layout.positive key)) finds

/-- The search passes what has other keys. -/
theorem find_reaches {distance : Nat} {entry : Entry} (filled : cell (layout.probe key distance) = some entry)
    (same : layout.key entry = key)
    (passed : ∀ nearer < distance, ∃ other, cell (layout.probe key nearer) = some other ∧ layout.key other ≠ key)
    {left start : Nat} (behind : start ≤ distance) (enough : distance < start + left) :
    layout.find cell key left (layout.probe key start) = some (layout.probe key distance) := by
  induction left generalizing start with
  | zero => omega
  | succ left ih =>
    rw [Layout.find]
    rcases Nat.eq_or_lt_of_le behind with here | before
    · subst here
      rw [filled]
      exact if_pos same
    · obtain ⟨other, taken, apart⟩ := passed start before
      rw [taken]
      dsimp only
      rw [if_neg apart, probe_next]
      exact ih before (by omega)

/-- The search finds the entry of the key, wherever it is. -/
theorem find_spec (probed : Probed layout cell) {found : Nat} :
    layout.find cell key layout.size (layout.home key) = some found ↔
      found < layout.size ∧ ∃ entry, cell found = some entry ∧ layout.key entry = key := by
  constructor
  · exact find_some (layout.inside key)
  · rintro ⟨inside, entry, filled, rfl⟩
    obtain ⟨distance, within, rfl, full⟩ := probed.reachable inside filled
    rw [← probe_zero layout (layout.key entry)]
    refine find_reaches filled rfl (fun nearer before => ?_) (Nat.zero_le _) (by omega)
    obtain ⟨other, taken⟩ := Option.ne_none_iff_exists'.mp (full nearer before)
    refine ⟨other, taken, fun same => ?_⟩
    have twice := probed.unique (probe_lt ..) (probe_lt ..) taken filled same
    exact absurd (probe_inj (before.trans within) within twice) (Nat.ne_of_lt before)

theorem find_none (probed : Probed layout cell) (missing : layout.find cell key layout.size (layout.home key) = none)
    {index : Nat} {entry : Entry} (inside : index < layout.size) (filled : cell index = some entry) :
    layout.key entry ≠ key := by
  intro same
  rw [(find_spec probed).mpr ⟨inside, entry, filled, same⟩] at missing
  cases missing

end Search

/-! ### Writes -/

theorem vacancy_some {key : Key} {left start found : Nat}
    (finds : layout.vacancy cell left (layout.probe key start) = some found) :
    ∃ distance < start + left, layout.probe key distance = found ∧ cell found = none ∧
      ∀ nearer, start ≤ nearer → nearer < distance → cell (layout.probe key nearer) ≠ none := by
  induction left generalizing start with
  | zero => cases finds
  | succ left ih =>
    rw [Layout.vacancy] at finds
    cases filled : cell (layout.probe key start) with
    | none =>
      rw [filled] at finds
      obtain rfl := Option.some.inj finds
      exact ⟨start, by omega, rfl, filled, fun _ _ _ => by omega⟩
    | some entry =>
      rw [filled] at finds
      dsimp only [Option.isNone_some] at finds
      rw [if_neg Bool.false_ne_true, probe_next] at finds
      obtain ⟨distance, within, here, empty, full⟩ := ih finds
      refine ⟨distance, by omega, here, empty, fun nearer from_ before => ?_⟩
      rcases Nat.eq_or_lt_of_le from_ with first | later
      · subst first
        rw [filled]
        exact Option.some_ne_none entry
      · exact full nearer later before

theorem vacancy_inside {key : Key} {left found : Nat} (finds : layout.vacancy cell left (layout.home key) = some found) :
    found < layout.size ∧ cell found = none := by
  rw [← probe_zero layout] at finds
  obtain ⟨distance, -, rfl, empty, -⟩ := vacancy_some finds
  exact ⟨probe_lt layout key distance, empty⟩

theorem vacancy_none {key : Key} {left start : Nat} (missing : layout.vacancy cell left (layout.probe key start) = none)
    {distance : Nat} (behind : start ≤ distance) (within : distance < start + left) :
    cell (layout.probe key distance) ≠ none := by
  induction left generalizing start with
  | zero => omega
  | succ left ih =>
    rw [Layout.vacancy] at missing
    cases filled : cell (layout.probe key start) with
    | none =>
      rw [filled] at missing
      cases missing
    | some entry =>
      rw [filled] at missing
      dsimp only [Option.isNone_some] at missing
      rw [if_neg Bool.false_ne_true, probe_next] at missing
      rcases Nat.eq_or_lt_of_le behind with here | later
      · rw [← here, filled]
        exact Option.some_ne_none entry
      · exact ih missing later (by omega)

/-- Where no empty position is found, there is none. -/
theorem vacancy_full {key : Key} (missing : layout.vacancy cell layout.size (layout.home key) = none) {index : Nat}
    (inside : index < layout.size) : cell index ≠ none := by
  obtain ⟨distance, within, rfl⟩ := probe_surj layout key inside
  rw [← probe_zero layout] at missing
  exact vacancy_none missing (Nat.zero_le _) (by omega)

/-- The first empty position of a key that has no entry takes one. -/
theorem Probed.insert (probed : Probed layout cell) {index : Nat} {entry : Entry}
    (finds : layout.vacancy cell layout.size (layout.home (layout.key entry)) = some index)
    (missing : ∀ other copy, other < layout.size → cell other = some copy → layout.key copy ≠ layout.key entry) :
    Probed layout (Function.update cell index (some entry)) := by
  rw [← probe_zero layout] at finds
  obtain ⟨distance, within, here, empty, full⟩ := vacancy_some finds
  have kept : ∀ place, cell place ≠ none → Function.update cell index (some entry) place ≠ none := by
    intro place filled
    have apart : place ≠ index := fun same => filled (same ▸ empty)
    rwa [Function.update_of_ne apart]
  constructor
  · intro place other one copy inside there filled copied same
    by_cases first : place = index
    · by_cases second : other = index
      · rw [first, second]
      · rw [first, Function.update_self] at filled
        rw [Function.update_of_ne second] at copied
        obtain rfl := Option.some.inj filled
        exact absurd same.symm (missing other copy there copied)
    · rw [Function.update_of_ne first] at filled
      by_cases second : other = index
      · rw [second, Function.update_self] at copied
        obtain rfl := Option.some.inj copied
        exact absurd same (missing place one inside filled)
      · rw [Function.update_of_ne second] at copied
        exact probed.unique inside there filled copied same
  · intro place one inside filled
    by_cases new : place = index
    · rw [new, Function.update_self] at filled
      obtain rfl := Option.some.inj filled
      exact ⟨distance, by omega, new ▸ here, fun nearer before => kept _ (full nearer (Nat.zero_le _) before)⟩
    · rw [Function.update_of_ne new] at filled
      obtain ⟨far, inRound, there, passed⟩ := probed.reachable inside filled
      exact ⟨far, inRound, there, fun nearer before => kept _ (passed nearer before)⟩

/-- An entry is written over by one with the same key. -/
theorem Probed.replace (probed : Probed layout cell) {index : Nat} {old new : Entry} (filled : cell index = some old)
    (same : layout.key new = layout.key old) : Probed layout (Function.update cell index (some new)) := by
  have keys : ∀ {place one}, Function.update cell index (some new) place = some one →
      ∃ before, cell place = some before ∧ layout.key before = layout.key one := by
    intro place one found
    by_cases here : place = index
    · rw [here, Function.update_self] at found
      obtain rfl := Option.some.inj found
      exact ⟨old, here ▸ filled, same.symm⟩
    · rw [Function.update_of_ne here] at found
      exact ⟨one, found, rfl⟩
  constructor
  · intro place other one copy inside there found copied alike
    obtain ⟨before, at_, first⟩ := keys found
    obtain ⟨early, by_, second⟩ := keys copied
    exact probed.unique inside there at_ by_ (by rw [first, second, alike])
  · intro place one inside found
    obtain ⟨before, at_, first⟩ := keys found
    obtain ⟨distance, within, there, full⟩ := probed.reachable inside at_
    rw [first] at there full
    refine ⟨distance, within, there, fun nearer earlier => ?_⟩
    by_cases here : layout.probe (layout.key one) nearer = index
    · rw [here, Function.update_self]
      exact Option.some_ne_none new
    · rw [Function.update_of_ne here]
      exact full nearer earlier

end Rdma.LinearProbing
