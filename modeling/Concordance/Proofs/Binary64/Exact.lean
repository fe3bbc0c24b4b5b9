import Concordance.Proofs.Binary64.Bounds

/-!
# Numbers that doubles hold exactly

A number with at most fifty-three binary digits, shifted by a power of two, is a double
(`exists_unitsOfMagnitude_eq`).  So natural numbers below `2 ^ 53` are (`units_ofNat`), and what is
computed from two such numbers is rounded only once.
-/

namespace Concordance.Binary64

/-- **A number of fifty-three binary digits is a double, shifted as far as there is room.** -/
theorem exists_unitsOfMagnitude_eq {c j : Nat} (small : c < 2 ^ 53) (least : 52 ≤ j)
    (most : j ≤ 2045) : ∃ m ≤ infiniteMagnitude, unitsOfMagnitude m = c * 2 ^ j := by
  have infinite : infiniteMagnitude = 2047 * 2 ^ 52 := rfl
  by_cases zero : c = 0
  · exact ⟨0, Nat.zero_le _, by rw [zero, Nat.zero_mul]; rfl⟩
  have digits : c.log2 < 53 := (Nat.log2_lt zero).2 small
  have above : 2 ^ 52 ≤ c * 2 ^ (52 - c.log2) := by
    calc 2 ^ 52 = 2 ^ c.log2 * 2 ^ (52 - c.log2) := by
          rw [← Nat.pow_add, Nat.add_sub_cancel' (by omega)]
      _ ≤ c * 2 ^ (52 - c.log2) := Nat.mul_le_mul_right _ (Nat.log2_self_le zero)
  have below : c * 2 ^ (52 - c.log2) < 2 ^ 53 := by
    calc c * 2 ^ (52 - c.log2) < 2 ^ (c.log2 + 1) * 2 ^ (52 - c.log2) :=
          Nat.mul_lt_mul_of_pos_right Nat.lt_log2_self (Nat.two_pow_pos _)
      _ = 2 ^ 53 := by rw [← Nat.pow_add, show c.log2 + 1 + (52 - c.log2) = 53 by omega]
  refine ⟨(j - (52 - c.log2)) * 2 ^ 52 + c * 2 ^ (52 - c.log2), by omega, ?_⟩
  rw [unitsOfMagnitude_of_significand _ above below, Nat.mul_assoc, ← Nat.pow_add,
    Nat.add_sub_cancel' (by omega)]

lemma unitsOfMagnitude_roundUnits {c j : Nat} (small : c < 2 ^ 53) (least : 52 ≤ j)
    (most : j ≤ 2045) : unitsOfMagnitude (roundUnits (c * 2 ^ j) 1) = c * 2 ^ j := by
  obtain ⟨m, bounded, value⟩ := exists_unitsOfMagnitude_eq small least most
  rw [← value, roundUnits_unitsOfMagnitude bounded]

/-- **Natural numbers below `2 ^ 53` are doubles.** -/
theorem units_ofNat {n : Nat} (small : n < 2 ^ 53) : (ofNat n).units = n * unitsPerOne := by
  have one : ∃ j, 52 ≤ j ∧ j ≤ 2045 ∧ unitsPerOne = 2 ^ j :=
    ⟨1074, by decide, by decide, by decide +kernel⟩
  obtain ⟨j, least, most, power⟩ := one
  rw [units, magnitude_ofNat, power, unitsOfMagnitude_roundUnits small least most]

end Concordance.Binary64
