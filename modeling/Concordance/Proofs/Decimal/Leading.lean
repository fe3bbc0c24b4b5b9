import Concordance.Decimal.Rounded
import Concordance.Proofs.Decimal.Rounding

/-!
# The leading digits of a value

`Decimal.leading` rounds a value to a given number of digits, and no decimal of so many digits is
nearer (`isNearest_leading`).  The grid that it rounds on is laid out by the leading digit, so two
things have to be ruled out: that the digits are one more than were asked for, and that a decimal
off the grid is nearer.  The first happens only at a power of ten, which is on the next grid as
well (`units_leading`).  In the second case the other decimal has its leading digit further back,
and the first number with as many digits as were asked for lies between (`units_le_of_lt`).

* `leadingPlace_bounds` finds the leading digit, and `scaled_eq` moves the point there.
* `IsNearest` and `isNearest_leading` are the result.
* `exponent_leading` bounds the exponent that is written.
-/

namespace Concordance.Decimal

open Binary64

variable {n m : Nat} {d : Decimal}

/-! ## The leading digit of a value -/

lemma ten_zpow_sub (a b : Nat) : (10 : ℚ) ^ ((a : ℤ) - b) = 10 ^ a / 10 ^ b := by
  rw [zpow_sub₀ (by norm_num), zpow_natCast, zpow_natCast]

lemma unitsPerOne_le_ten_pow : unitsPerOne ≤ Nat.pow 10 324 := by decide +kernel

/-- The digits before the point, `324` places on. -/
lemma shifted_pos {units : Nat} (positive : 0 < units) :
    0 < units * Nat.pow 10 324 / unitsPerOne :=
  Nat.div_pos (unitsPerOne_le_ten_pow.trans (Nat.le_mul_of_pos_left _ positive)) unitsPerOne_pos

/-- **The leading digit of a value is where `leadingPlace` says.** -/
theorem leadingPlace_bounds {units : Nat} (positive : 0 < units) :
    10 ^ (leadingPlace units - 1) * (unitsPerOne : ℚ) ≤ units ∧
      (units : ℚ) < 10 ^ leadingPlace units * unitsPerOne := by
  have shifted := shifted_pos positive
  have low := (Nat.le_div_iff_mul_le unitsPerOne_pos).1 (pow_le_of_digitCount shifted)
  have high := (Nat.div_lt_iff_lt_mul unitsPerOne_pos).1 (lt_pow_digitCount
    (units * Nat.pow 10 324 / unitsPerOne))
  have first := digitCount_pos (units * Nat.pow 10 324 / unitsPerOne)
  rw [leadingPlace]
  generalize digitCount (units * Nat.pow 10 324 / unitsPerOne) = count at low high first ⊢
  generalize unitsPerOne = one at low high ⊢
  have before : (count : ℤ) - 324 - 1 = (count - 1 : Nat) - (324 : Nat) := by omega
  have here : (count : ℤ) - 324 = count - (324 : Nat) := rfl
  rw [before, here]
  generalize 324 = shift at low high ⊢
  rw [ten_zpow_sub, ten_zpow_sub, div_mul_eq_mul_div, div_mul_eq_mul_div,
    div_le_iff₀ (by positivity), lt_div_iff₀ (by positivity)]
  exact ⟨by exact_mod_cast low, by exact_mod_cast high⟩

/-- The leading digit of a finite value is near the point. -/
lemma leadingPlace_near {units : Nat} (small : units ≤ largestUnits) :
    -323 ≤ leadingPlace units ∧ leadingPlace units ≤ 309 := by
  have bound : largestUnits * Nat.pow 10 324 < 10 ^ 633 * unitsPerOne := by decide +kernel
  have few : units * Nat.pow 10 324 / unitsPerOne < 10 ^ 633 := by
    refine (Nat.div_lt_iff_lt_mul unitsPerOne_pos).2 (Nat.lt_of_le_of_lt ?_ bound)
    exact Nat.mul_le_mul_right _ small
  have count := (lt_pow_iff_digitCount_le (by decide)).1 few
  have first := digitCount_pos (units * Nat.pow 10 324 / unitsPerOne)
  rw [leadingPlace]
  omega

lemma scaled_snd_pos (units : Nat) (place : Int) : 0 < (scaled units place).2 := by
  have positive := unitsPerOne_pos
  have power : 0 < Nat.pow 10 place.toNat := Nat.pow_pos (by decide)
  rw [scaled]
  generalize unitsPerOne = one at *
  split
  · exact Nat.mul_pos positive power
  · exact positive

/-- **`scaled` measures a value in steps of its grid.** -/
theorem scaled_eq (units : Nat) (place : Int) :
    ((scaled units place).1 / (scaled units place).2 : ℚ) * (10 ^ place * unitsPerOne) = units := by
  have one : (unitsPerOne : ℚ) ≠ 0 := Nat.cast_ne_zero.2 unitsPerOne_pos.ne'
  have power : (10 ^ place : ℚ) ≠ 0 := by positivity
  rw [scaled]
  generalize unitsPerOne = one at *
  by_cases behind : 0 ≤ place
  · rw [if_pos behind, Nat.cast_mul, ten_pow_toNat behind]
    field_simp
  · rw [if_neg behind, Nat.cast_mul, ten_pow_toNat_neg (Int.not_le.1 behind)]
    field_simp

/-! ## The nearest decimal -/

/-- No decimal of at most `n` digits is nearer to a value. -/
structure IsNearest (n : Nat) (v : ℚ) (d : Decimal) : Prop where
  short : d.significand < 10 ^ n
  nearest : ∀ other : Decimal, other.significand < 10 ^ n → |d.units - v| ≤ |other.units - v|

section

variable (n m)

/-- The exponent of the last of `n` digits of a magnitude. -/
def lastPlace : Int := leadingPlace (unitsOfMagnitude m) - n

/-- A magnitude in steps of its last digit. -/
def steps : Nat × Nat := scaled (unitsOfMagnitude m) (lastPlace n m)

/-- Its digits, or ten to their number. -/
def roundedSteps : Nat := divHalfEven (steps n m).1 (steps n m).2

/-- The distance from one to the next. -/
def stepUnits : ℚ := 10 ^ lastPlace n m * unitsPerOne

end

/-- The powers of ten around a value say where its digits end, without counting them. -/
lemma lastPlace_of_bounds {k : Nat}
    (low : 10 ^ k ≤ unitsOfMagnitude m * Nat.pow 10 324 / unitsPerOne)
    (high : unitsOfMagnitude m * Nat.pow 10 324 / unitsPerOne < 10 ^ (k + 1)) :
    lastPlace n m = k - 323 - n := by
  rw [lastPlace, leadingPlace]
  generalize unitsOfMagnitude m * Nat.pow 10 324 / unitsPerOne = shifted at low high ⊢
  have few := (lt_pow_iff_digitCount_le (Nat.succ_pos k)).1 high
  have many := (Nat.pow_lt_pow_iff_right (by decide)).1 (low.trans_lt (lt_pow_digitCount shifted))
  omega

lemma stepUnits_pos : 0 < stepUnits n m := by
  have one : (0 : ℚ) < unitsPerOne := Nat.cast_pos.2 unitsPerOne_pos
  exact mul_pos (by positivity) one

lemma steps_snd_pos : 0 < (steps n m).2 := scaled_snd_pos _ _

lemma steps_eq : ((steps n m).1 / (steps n m).2 : ℚ) * stepUnits n m = unitsOfMagnitude m :=
  scaled_eq _ _

/-- A magnitude has as many digits before its last place as are asked for. -/
lemma steps_bounds (digits : 0 < n) (positive : 0 < m) :
    (10 ^ (n - 1) : ℚ) ≤ (steps n m).1 / (steps n m).2 ∧
      ((steps n m).1 / (steps n m).2 : ℚ) < 10 ^ n := by
  obtain ⟨low, high⟩ := leadingPlace_bounds (unitsOfMagnitude_pos positive)
  have first : leadingPlace (unitsOfMagnitude m) - 1 = (n - 1 : Nat) + lastPlace n m := by
    rw [lastPlace]
    omega
  have last : leadingPlace (unitsOfMagnitude m) = n + lastPlace n m := by
    rw [lastPlace]
    omega
  rw [first, zpow_add₀ (by norm_num), zpow_natCast, mul_assoc, ← stepUnits, ← steps_eq (n := n),
    mul_le_mul_iff_left₀ stepUnits_pos] at low
  rw [last, zpow_add₀ (by norm_num), zpow_natCast, mul_assoc, ← stepUnits, ← steps_eq (n := n),
    mul_lt_mul_iff_left₀ stepUnits_pos] at high
  exact ⟨low, high⟩

lemma roundedSteps_le (digits : 0 < n) (positive : 0 < m) : roundedSteps n m ≤ 10 ^ n := by
  have divisor : (0 : ℚ) < (steps n m).2 := Nat.cast_pos.2 steps_snd_pos
  refine divHalfEven_le steps_snd_pos ?_
  have high := (div_lt_iff₀ divisor).1 (steps_bounds digits positive).2
  exact_mod_cast high.le

/-- Rounding up to `10 ^ n` is the one case in which the digits are not the rounded ones. -/
lemma leading_of_pos (positive : 0 < m) : leading n m =
    if roundedSteps n m < 10 ^ n then ⟨roundedSteps n m, lastPlace n m⟩
    else ⟨roundedSteps n m / 10, lastPlace n m + 1⟩ := by
  rw [leading, if_neg (Nat.ne_of_gt positive), roundedSteps]
  extract_lets units place
  have same : scaled units place = steps n m := rfl
  rw [same, lastPlace]
  generalize steps n m = pair
  obtain ⟨num, den⟩ := pair
  rfl

/-- Its value is that of the rounded steps in both cases. -/
lemma units_leading (digits : 0 < n) (positive : 0 < m) :
    (leading n m).units = roundedSteps n m * stepUnits n m := by
  rw [leading_of_pos positive]
  by_cases few : roundedSteps n m < 10 ^ n
  · rw [if_pos few, units, stepUnits, mul_assoc]
  · have all : roundedSteps n m = 10 * 10 ^ (n - 1) := by
      rw [← Nat.pow_succ', Nat.succ_eq_add_one, Nat.sub_add_cancel digits]
      exact Nat.le_antisymm (roundedSteps_le digits positive) (Nat.le_of_not_lt few)
    rw [if_neg few, units, all, Nat.mul_div_cancel_left _ (by decide), zpow_add₀ (by norm_num),
      stepUnits]
    push_cast
    ring

lemma significand_leading_lt (digits : 0 < n) (m : Nat) : (leading n m).significand < 10 ^ n := by
  have all : 0 < 10 ^ n := Nat.pow_pos (by decide)
  rcases Nat.eq_zero_or_pos m with rfl | positive
  · exact all
  have most := roundedSteps_le digits positive
  rw [leading_of_pos positive]
  by_cases few : roundedSteps n m < 10 ^ n
  · rwa [if_pos few]
  · rw [if_neg few]
    change roundedSteps n m / 10 < 10 ^ n
    omega

/-- Two multiples of a step are as far apart as their factors. -/
lemma abs_mul_sub_mul {a b s : ℚ} (positive : 0 < s) : |a * s - b * s| = |a - b| * s := by
  rw [← sub_mul, abs_mul, abs_of_pos positive]

/-- A decimal on the grid is a multiple of its step. -/
lemma units_of_le {place : Int} (onGrid : place ≤ d.exponent) :
    d.units = (d.significand * 10 ^ (d.exponent - place).toNat : Nat)
      * (10 ^ place * unitsPerOne) := by
  have behind : 0 ≤ d.exponent - place := by omega
  have parts : (10 ^ d.exponent : ℚ) = 10 ^ (d.exponent - place) * 10 ^ place := by
    rw [← zpow_add₀ (by norm_num), sub_add_cancel]
  rw [units, parts, ← ten_pow_toNat behind, Nat.pow_eq, Nat.cast_mul]
  ring

/-- A short decimal off the grid is below the first digit. -/
lemma units_le_of_lt (digits : 0 < n) {place : Int} (short : d.significand < 10 ^ n)
    (offGrid : d.exponent < place) :
    d.units ≤ (10 ^ (n - 1) : Nat) * (10 ^ place * unitsPerOne) := by
  have one : (0 : ℚ) ≤ unitsPerOne := Nat.cast_nonneg _
  have digit : (d.significand : ℚ) ≤ 10 ^ n := by exact_mod_cast short.le
  have power : (10 ^ d.exponent : ℚ) ≤ 10 ^ (place - 1) :=
    zpow_le_zpow_right₀ (by norm_num) (by omega)
  have same : (n : ℤ) + (place - 1) = (n - 1 : Nat) + place := by omega
  have moved : (10 ^ n * 10 ^ (place - 1) : ℚ) = (10 ^ (n - 1) : Nat) * 10 ^ place := by
    rw [Nat.cast_pow, ← zpow_natCast, ← zpow_natCast, Nat.cast_ofNat, ← zpow_add₀ (by norm_num),
      ← zpow_add₀ (by norm_num), same]
  rw [← mul_assoc, ← moved, units]
  exact mul_le_mul_of_nonneg_right (mul_le_mul digit power (by positivity) (by positivity)) one

/-- **No decimal of so many digits is nearer than the leading ones.** -/
theorem isNearest_leading (digits : 0 < n) (m : Nat) :
    IsNearest n (unitsOfMagnitude m) (leading n m) := by
  refine ⟨significand_leading_lt digits m, fun other short => ?_⟩
  rcases Nat.eq_zero_or_pos m with rfl | positive
  · have value : (leading n 0).units = 0 := units_of_significand_eq_zero rfl
    have zero : unitsOfMagnitude 0 = 0 := by decide
    rw [value, zero, Nat.cast_zero, sub_zero, abs_zero]
    exact abs_nonneg _
  have nearest := abs_divHalfEven_sub_le (steps n m).1 (steps_snd_pos (n := n) (m := m))
  have scale := stepUnits_pos (n := n) (m := m)
  rw [units_leading digits positive, ← steps_eq (n := n), abs_mul_sub_mul scale]
  rcases le_or_gt (lastPlace n m) other.exponent with onGrid | offGrid
  · rw [units_of_le onGrid, ← stepUnits, abs_mul_sub_mul scale]
    exact mul_le_mul_of_nonneg_right (nearest _) scale.le
  · -- the first multiple with as many digits lies between the two
    have first := (steps_bounds digits positive).1
    have below := units_le_of_lt digits short offGrid
    rw [← stepUnits] at below
    calc |(roundedSteps n m : ℚ) - (steps n m).1 / (steps n m).2| * stepUnits n m
        ≤ |((10 ^ (n - 1) : Nat) : ℚ) - (steps n m).1 / (steps n m).2| * stepUnits n m :=
          mul_le_mul_of_nonneg_right (nearest _) scale.le
      _ = (steps n m).1 / (steps n m).2 * stepUnits n m
            - (10 ^ (n - 1) : Nat) * stepUnits n m := by
          rw [abs_sub_comm, abs_of_nonneg, sub_mul]
          push_cast
          linarith
      _ ≤ (steps n m).1 / (steps n m).2 * stepUnits n m - other.units := by linarith
      _ ≤ |other.units - (steps n m).1 / (steps n m).2 * stepUnits n m| := by
          rw [abs_sub_comm]
          exact le_abs_self _

/-- The exponent that is written is small. -/
lemma exponent_leading (finite : m < infiniteMagnitude) :
    ((leading n m).exponent + n - 1).natAbs < 65536 := by
  rcases Nat.eq_zero_or_pos m with rfl | positive
  · change ((1 : ℤ) - n + n - 1).natAbs < 65536
    omega
  have small : unitsOfMagnitude m ≤ largestUnits :=
    strictMono_unitsOfMagnitude.monotone (Nat.le_sub_one_of_lt finite)
  obtain ⟨low, high⟩ := leadingPlace_near small
  rw [leading_of_pos positive]
  by_cases few : roundedSteps n m < 10 ^ n
  · rw [if_pos few]
    change (lastPlace n m + n - 1).natAbs < 65536
    rw [lastPlace]
    omega
  · rw [if_neg few]
    change (lastPlace n m + 1 + n - 1).natAbs < 65536
    rw [lastPlace]
    omega

end Concordance.Decimal
