import Concordance.Proofs.Binary64.Cells
import Concordance.Proofs.Decimal.Magnitude
import Mathlib.Algebra.Order.Field.Power

/-!
# Decimals are correctly rounded

`Decimal.magnitude` computes a power of ten only where it makes a difference, and on either side
of the point in another way.  None of this can be seen from outside: every decimal is rounded to
the magnitude in whose cell its value is (`magnitude_eq_iff`).

* `units` is the value, exactly.
* `units_bounds` brackets it between two powers of ten by its leading digit, which settles the
  decimals that no power of ten is computed for.
-/

namespace Concordance.Decimal

open Binary64

/-- The value of a decimal in multiples of `2 ^ -1074`. -/
def units (d : Decimal) : ℚ := d.significand * 10 ^ d.exponent * unitsPerOne

variable {d : Decimal} {m : Nat}

lemma units_of_significand_eq_zero (zero : d.significand = 0) : d.units = 0 := by
  rw [units, zero, Nat.cast_zero, zero_mul, zero_mul]

/-! ## The leading digit -/

lemma pow_le_of_digitCount {n : Nat} (positive : 0 < n) : 10 ^ (digitCount n - 1) ≤ n := by
  rcases Nat.eq_or_lt_of_le (digitCount_pos n) with one | more
  · rw [← one]
    exact positive
  · refine Nat.le_of_not_lt fun small => ?_
    have few := (lt_pow_iff_digitCount_le (by omega)).1 small
    omega

lemma lt_pow_digitCount (n : Nat) : n < 10 ^ digitCount n :=
  (lt_pow_iff_digitCount_le (digitCount_pos n)).2 (Nat.le_refl _)

/-- **The leading digit says how large a decimal is.** -/
theorem units_bounds (positive : 0 < d.significand) :
    10 ^ (d.top - 1) * (unitsPerOne : ℚ) ≤ d.units ∧ d.units < 10 ^ d.top * unitsPerOne := by
  have one : (0 : ℚ) < unitsPerOne := Nat.cast_pos.2 unitsPerOne_pos
  have scale : (0 : ℚ) < 10 ^ d.exponent := by positivity
  have counted : 0 < digitCount d.significand := digitCount_pos _
  have first : d.top - 1 = (digitCount d.significand - 1 : Nat) + d.exponent := by
    rw [top]
    omega
  have low : (10 ^ (digitCount d.significand - 1) : ℚ) ≤ d.significand := by
    exact_mod_cast pow_le_of_digitCount positive
  have high : (d.significand : ℚ) < 10 ^ digitCount d.significand := by
    exact_mod_cast lt_pow_digitCount d.significand
  rw [first, top, zpow_add₀ (by norm_num), zpow_add₀ (by norm_num), zpow_natCast, zpow_natCast,
    units]
  constructor
  · exact mul_le_mul_of_nonneg_right (mul_le_mul_of_nonneg_right low scale.le) one.le
  · exact mul_lt_mul_of_pos_right (mul_lt_mul_of_pos_right high scale) one

/-! ## Beyond the powers that are computed -/

lemma units_infiniteMagnitude_lt :
    unitsOfMagnitude infiniteMagnitude < 10 ^ 309 * unitsPerOne := by decide +kernel

lemma two_mul_unitsPerOne_le : 2 * unitsPerOne ≤ 10 ^ 330 := by decide +kernel

/-- No cell of a finite magnitude reaches beyond infinity. -/
lemma le_of_cell {v : ℚ} (finite : m < infiniteMagnitude) (cell : Cell m v) :
    v ≤ unitsOfMagnitude infiniteMagnitude := by
  have here : (unitsOfMagnitude m : ℚ) ≤ unitsOfMagnitude infiniteMagnitude :=
    Nat.cast_le.2 (strictMono_unitsOfMagnitude.monotone finite.le)
  have next : (unitsOfMagnitude (m + 1) : ℚ) ≤ unitsOfMagnitude infiniteMagnitude :=
    Nat.cast_le.2 (strictMono_unitsOfMagnitude.monotone finite)
  linarith [cell.high]

lemma not_cell_of_high (positive : 0 < d.significand) (high : 309 < d.top)
    (finite : m < infiniteMagnitude) : ¬ Cell m d.units := by
  intro cell
  have power : (10 ^ 309 : ℚ) ≤ 10 ^ (d.top - 1) := by
    rw [← zpow_natCast]
    exact zpow_le_zpow_right₀ (by norm_num) (by omega)
  have below := le_of_cell finite cell
  have above := (units_bounds positive).1
  have beyond := units_infiniteMagnitude_lt
  -- the numbers are too long to be looked at
  generalize unitsPerOne = one at above beyond
  generalize unitsOfMagnitude infiniteMagnitude = largest at below beyond
  have least : (10 ^ 309 * one : ℚ) ≤ 10 ^ (d.top - 1) * one :=
    mul_le_mul_of_nonneg_right power (Nat.cast_nonneg one)
  have order : (largest : ℚ) < 10 ^ 309 * one := by exact_mod_cast beyond
  exact absurd below (not_le.2 (order.trans_le (least.trans above)))

lemma cell_of_low (positive : 0 < d.significand) (low : d.top < -329) : Cell 0 d.units := by
  have power : (10 ^ d.top : ℚ) ≤ (10 ^ 330)⁻¹ := by
    rw [← zpow_natCast, ← zpow_neg]
    exact zpow_le_zpow_right₀ (by norm_num) (by omega)
  obtain ⟨above, below⟩ := units_bounds positive
  have small := two_mul_unitsPerOne_le
  generalize unitsPerOne = one at above below small
  have least : (0 : ℚ) ≤ 10 ^ (d.top - 1) * one := by positivity
  have half : (10 ^ d.top * one : ℚ) ≤ 1 / 2 := by
    have order : (one * 2 : ℚ) ≤ 10 ^ 330 := by exact_mod_cast (Nat.mul_comm 2 one ▸ small)
    calc (10 ^ d.top * one : ℚ) ≤ (10 ^ 330)⁻¹ * one :=
          mul_le_mul_of_nonneg_right power (Nat.cast_nonneg one)
      _ = one / 10 ^ 330 := inv_mul_eq_div _ _
      _ ≤ 1 / 2 := by
          rw [div_le_div_iff₀ (by positivity) two_pos, one_mul]
          exact order
  have zero : unitsOfMagnitude 0 = 0 := by decide
  have first : unitsOfMagnitude (0 + 1) = 1 := by decide
  refine ⟨?_, ?_, fun odd => by omega⟩
  · rw [Nat.zero_sub, zero]
    push_cast
    linarith
  · rw [zero, first]
    push_cast
    linarith

/-! ## Where they are computed -/

lemma ten_pow_toNat {e : Int} (behind : 0 ≤ e) : ((Nat.pow 10 e.toNat : Nat) : ℚ) = 10 ^ e := by
  obtain ⟨k, rfl⟩ := Int.eq_ofNat_of_zero_le behind
  rw [Int.toNat_natCast, zpow_natCast, Nat.pow_eq]
  norm_cast

lemma ten_pow_toNat_neg {e : Int} (before : e < 0) :
    ((Nat.pow 10 (-e).toNat : Nat) : ℚ) = (10 ^ e)⁻¹ := by
  rw [ten_pow_toNat (by omega), zpow_neg]

/-- The value of a decimal as the quotient that is rounded. -/
lemma units_of_nonneg (behind : 0 ≤ d.exponent) :
    d.units = (d.significand * Nat.pow 10 d.exponent.toNat * unitsPerOne : Nat) / (1 : Nat) := by
  rw [units, Nat.cast_mul, Nat.cast_mul, ten_pow_toNat behind, Nat.cast_one, div_one]

lemma units_of_neg (before : d.exponent < 0) :
    d.units = (d.significand * unitsPerOne : Nat) / (Nat.pow 10 (-d.exponent).toNat : Nat) := by
  rw [units, Nat.cast_mul, ten_pow_toNat_neg before, div_inv_eq_mul]
  ring

/-- **A decimal is rounded to the magnitude in whose cell its value is.** -/
theorem magnitude_eq_iff (finite : m < infiniteMagnitude) : d.magnitude = m ↔ Cell m d.units := by
  have unique : ∀ {v : ℚ}, Cell 0 v → (0 = m ↔ Cell m v) := fun cell =>
    ⟨fun same => same ▸ cell, eq_of_cells cell⟩
  rw [magnitude]
  by_cases zero : d.significand = 0
  · have value : d.units = (unitsOfMagnitude 0 : Nat) := by
      rw [units_of_significand_eq_zero zero, show unitsOfMagnitude 0 = 0 from rfl, Nat.cast_zero]
    rw [if_pos zero, value]
    exact unique (cell_self 0)
  have positive : 0 < d.significand := Nat.pos_of_ne_zero zero
  rw [if_neg zero]
  by_cases high : 309 < d.top
  · rw [if_pos high]
    refine iff_of_false (Nat.ne_of_gt finite) (not_cell_of_high positive high finite)
  rw [if_neg high]
  by_cases low : d.top < -329
  · rw [if_pos low]
    exact unique (cell_of_low positive low)
  rw [if_neg low]
  by_cases behind : 0 ≤ d.exponent
  · rw [if_pos behind, roundUnits_eq_iff finite Nat.one_pos, ← units_of_nonneg behind]
  · have power : 0 < Nat.pow 10 (-d.exponent).toNat := Nat.pow_pos (by decide)
    rw [if_neg behind, roundUnits_eq_iff finite power, ← units_of_neg (Int.not_le.1 behind)]

end Concordance.Decimal
