import Mathlib.Data.Nat.Bitwise
import Mathlib.Data.Nat.Size
import Mathlib.Tactic.Ring

/-!
Words made of bit fields, read as numbers: fields that do not overlap add up
(`or_eq_add`), and a mask of low bits is a remainder (`mask_eq_mod`). Repeating
each bit downwards by doubling shifts fills a number's whole length with ones
(`Smeared.ones`), which is how a number is rounded up to a power of two.
-/
namespace Rdma.BitFields

/-- A multiple of `2 ^ width` and a number below `2 ^ width` share no bit. -/
theorem or_eq_add (width : Nat) {high low : Nat} (above : 2 ^ width ∣ high) (below : low < 2 ^ width) :
    high ||| low = high + low := by
  obtain ⟨field, rfl⟩ := above
  rw [Nat.mul_comm, ← Nat.shiftLeft_eq, ← Nat.shiftLeft_add_eq_or_of_lt below]

/-- `mask` holds the `width` lowest bits. -/
theorem mask_eq_mod {mask : Nat} (width word : Nat) (ones : mask + 1 = 2 ^ width) :
    word &&& mask = word % (mask + 1) := by
  rw [ones, ← Nat.and_two_pow_sub_one_eq_mod, ← ones, Nat.add_sub_cancel]

/-- A mask away from the lowest bits. -/
theorem and_shiftLeft (word mask shift : Nat) : word &&& mask <<< shift = (word >>> shift &&& mask) <<< shift := by
  apply Nat.eq_of_testBit_eq
  intro bit
  simp only [Nat.testBit_and, Nat.testBit_shiftLeft, Nat.testBit_shiftRight]
  by_cases high : shift ≤ bit
  · simp [high, Nat.add_sub_cancel' high]
  · simp [high]

/-! ### Rounding up to a power of two -/

/-- Each bit of `word` repeated at the `width` positions from its own down. -/
def Smeared (number width word : Nat) : Prop :=
  ∀ bit, word.testBit bit = true ↔ ∃ distance < width, number.testBit (bit + distance) = true

theorem Smeared.self (number : Nat) : Smeared number 1 number := by
  intro bit
  constructor
  · exact fun set => ⟨0, Nat.one_pos, set⟩
  · rintro ⟨distance, near, set⟩
    obtain rfl : distance = 0 := by omega
    exact set

/-- Shifting by the width and adding the bits doubles it. -/
theorem Smeared.double {number width word : Nat} (smeared : Smeared number width word) :
    Smeared number (2 * width) (word ||| word >>> width) := by
  intro bit
  rw [Nat.testBit_or, Nat.testBit_shiftRight, Bool.or_eq_true, smeared, smeared]
  constructor
  · rintro (⟨distance, near, set⟩ | ⟨distance, near, set⟩)
    · exact ⟨distance, by omega, set⟩
    · refine ⟨width + distance, by omega, ?_⟩
      rwa [← Nat.add_assoc, Nat.add_comm bit width]
  · rintro ⟨distance, near, set⟩
    by_cases close : distance < width
    · exact Or.inl ⟨distance, close, set⟩
    · refine Or.inr ⟨distance - width, by omega, ?_⟩
      rwa [show width + bit + (distance - width) = bit + distance by omega]

/-- A number smeared over its whole length is one less than a power of two. -/
theorem Smeared.ones {number width word : Nat} (smeared : Smeared number width word) (short : number.size ≤ width) :
    word = 2 ^ number.size - 1 := by
  apply Nat.eq_of_testBit_eq
  intro bit
  rw [Nat.testBit_two_pow_sub_one, Bool.eq_iff_iff, smeared, decide_eq_true_iff]
  constructor
  · rintro ⟨distance, near, set⟩
    have below : bit + distance < number.size := by
      by_contra above
      have clear := Nat.testBit_lt_two_pow (Nat.size_le.mp (Nat.le_of_not_lt above))
      rw [clear] at set
      cases set
    omega
  · intro below
    refine ⟨number.size - 1 - bit, by omega, ?_⟩
    rw [show bit + (number.size - 1 - bit) = number.size - 1 by omega]
    by_contra clear
    have top : number < 2 ^ number.size := Nat.lt_size_self number
    have half : number < 2 ^ (number.size - 1) := by
      refine Nat.lt_pow_two_of_testBit number fun position high => ?_
      rcases Nat.eq_or_lt_of_le high with same | above
      · rw [← same]
        exact Bool.eq_false_iff.mpr clear
      · exact Nat.testBit_lt_two_pow (top.trans_le (Nat.pow_le_pow_right Nat.two_pos (by omega)))
    have := Nat.size_le.mpr half
    omega

end Rdma.BitFields
