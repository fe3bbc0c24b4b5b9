import Concordance.Proofs.Binary64.Arithmetic

/-!
# How large roundings are

A quotient that is not above the largest finite value is rounded to a finite magnitude, and one
that is not below one to no magnitude below that of one.  So natural numbers that a word holds are
finite doubles (`isFinite_ofNat`), and a finite double divided by a double from one on stays
finite (`isFinite_div`).
-/

namespace Concordance

lemma divHalfEven_le {num den k : Nat} (positive : 0 < den) (bound : num ≤ k * den) :
    divHalfEven num den ≤ k := by
  have quotient : num / den ≤ k := Nat.div_le_of_le_mul (by rwa [Nat.mul_comm])
  have whole := Nat.div_add_mod num den
  simp only [divHalfEven]
  by_cases top : num / den = k
  · have remainder : num % den = 0 := by
      rw [top, Nat.mul_comm den k] at whole
      omega
    rw [remainder, if_pos (by omega)]
    exact quotient
  · have parity : num / den % 2 ≤ 1 := by omega
    split
    · exact quotient
    · split <;> omega

lemma le_divHalfEven (num den : Nat) : num / den ≤ divHalfEven num den := by
  simp only [divHalfEven]
  split
  · exact Nat.le_refl _
  · split <;> omega

namespace Binary64

variable {x y : Binary64} {num den : Nat}

lemma unitsPerOne_pos : 0 < unitsPerOne := by decide +kernel

lemma roundUnits_zero (den : Nat) : roundUnits 0 den = 0 := by
  simp [roundUnits, divHalfEven]

/-- The value of the largest finite double. -/
def largestUnits : Nat := unitsOfMagnitude (infiniteMagnitude - 1)

lemma largestUnits_eq : largestUnits = (2 ^ 53 - 1) * 2 ^ 2045 := by decide +kernel

lemma largestUnits_lt : largestUnits < 2 ^ 2098 := by decide +kernel

lemma units_le (finite : x.isFinite = true) : x.units ≤ largestUnits :=
  strictMono_unitsOfMagnitude.monotone (Nat.le_sub_one_of_lt (isFinite_iff.1 finite))

lemma shift_le (bound : num / den ≤ largestUnits) : (num / den).log2 - 52 ≤ 2045 := by
  by_cases zero : num / den = 0
  · rw [zero, Nat.log2_zero]
    omega
  · have := (Nat.log2_lt zero).2 (Nat.lt_of_le_of_lt bound largestUnits_lt)
    omega

/-- A shifted quotient has at most fifty-three binary digits. -/
lemma lt_shifted (positive : 0 < den) :
    num < 2 ^ 53 * (den * 2 ^ ((num / den).log2 - 52)) := by
  have size : num / den < 2 ^ (53 + ((num / den).log2 - 52)) :=
    Nat.lt_of_lt_of_le Nat.lt_log2_self (Nat.pow_le_pow_right (by decide) (by omega))
  calc num < 2 ^ (53 + ((num / den).log2 - 52)) * den := (Nat.div_lt_iff_lt_mul positive).1 size
    _ = 2 ^ 53 * (den * 2 ^ ((num / den).log2 - 52)) := by ring

/-- **What is not above the largest finite double is rounded to a finite one.** -/
theorem roundUnits_lt (positive : 0 < den) (bound : num ≤ largestUnits * den) :
    roundUnits num den < infiniteMagnitude := by
  have quotient : num / den ≤ largestUnits :=
    Nat.div_le_of_le_mul (by rwa [Nat.mul_comm])
  have shift := shift_le quotient
  have infinite : infiniteMagnitude = 2047 * 2 ^ 52 := rfl
  have scaled : 0 < den * 2 ^ ((num / den).log2 - 52) :=
    Nat.mul_pos positive (Nat.two_pow_pos _)
  refine Nat.lt_of_le_of_lt (Nat.min_le_right _ _) ?_
  simp only [Nat.pow_eq]
  by_cases top : (num / den).log2 - 52 = 2045
  · -- the largest exponent leaves no room for a carry
    have significand : divHalfEven num (den * 2 ^ ((num / den).log2 - 52)) ≤ 2 ^ 53 - 1 := by
      refine divHalfEven_le scaled ?_
      rw [top, ← Nat.mul_assoc, Nat.mul_right_comm, ← largestUnits_eq]
      exact bound
    omega
  · have significand : divHalfEven num (den * 2 ^ ((num / den).log2 - 52)) ≤ 2 ^ 53 :=
      divHalfEven_le scaled (Nat.le_of_lt (lt_shifted positive))
    omega

lemma log2_le_log2 {m n : Nat} (nonzero : m ≠ 0) (h : m ≤ n) : m.log2 ≤ n.log2 :=
  (Nat.le_log2 (by omega)).2 (Nat.le_trans (Nat.log2_self_le nonzero) h)

/-- The magnitude of one. -/
def unitMagnitude : Nat := 1023 * 2 ^ 52

/-- **What is not below one is rounded to no magnitude below that of one.** -/
theorem le_roundUnits (bound : unitsPerOne ≤ num / den) : unitMagnitude ≤ roundUnits num den := by
  have one : 1074 ≤ unitsPerOne.log2 := by decide +kernel
  have positive : num / den ≠ 0 := by
    intro zero
    rw [zero] at bound
    exact absurd bound (by decide +kernel)
  have exponent : 1074 ≤ (num / den).log2 :=
    Nat.le_trans one (log2_le_log2 (by decide +kernel) bound)
  have significand : 2 ^ 52 ≤ divHalfEven num (den * 2 ^ ((num / den).log2 - 52)) := by
    refine Nat.le_trans ?_ (le_divHalfEven _ _)
    rw [← Nat.div_div_eq_div_mul, Nat.le_div_iff_mul_le (Nat.two_pow_pos _), ← Nat.pow_add,
      show 52 + ((num / den).log2 - 52) = (num / den).log2 by omega]
    exact Nat.log2_self_le positive
  refine Nat.le_min.2 ⟨by decide, ?_⟩
  simp only [unitMagnitude, Nat.pow_eq]
  omega

lemma unitsPerOne_le_of_magnitude {m : Nat} (h : unitMagnitude ≤ m) :
    unitsPerOne ≤ unitsOfMagnitude m := by
  have one : unitsPerOne = unitsOfMagnitude unitMagnitude := by decide +kernel
  rw [one]
  exact strictMono_unitsOfMagnitude.monotone h

/-! ## Natural numbers -/

lemma magnitude_ofNat (n : Nat) : (ofNat n).magnitude = roundUnits (n * unitsPerOne) 1 :=
  magnitude_ofUnits _ _ _

lemma isFinite_ofNat {n : Nat} (small : n < UInt64.size) : (ofNat n).isFinite = true := by
  have bound : UInt64.size * unitsPerOne ≤ largestUnits := by decide +kernel
  rw [isFinite_iff, magnitude_ofNat]
  refine roundUnits_lt Nat.one_pos ?_
  rw [Nat.mul_one]
  exact Nat.le_trans (Nat.mul_le_mul_right _ (Nat.le_of_lt small)) bound

lemma isZero_ofNat {n : Nat} (positive : 0 < n) : (ofNat n).isZero = false := by
  have one : unitsPerOne ≤ n * unitsPerOne / 1 := by
    rw [Nat.div_one]
    exact Nat.le_mul_of_pos_left _ positive
  have large := le_roundUnits one
  have unit : 0 < unitMagnitude := by decide
  rw [isZero, magnitude_ofNat]
  exact decide_eq_false (by omega)

/-! ## Quotients and products -/

/-- A product of finite doubles is the exact one, rounded. -/
lemma mul_eq_ofUnits (hx : x.isFinite = true) (hy : y.isFinite = true) :
    x * y = ofUnits (x.isNegative != y.isNegative) (x.units * y.units) unitsPerOne := by
  change mul x y = _
  simp only [mul, isNaN_of_isFinite hx, isNaN_of_isFinite hy, isInfinite_of_isFinite hx,
    isInfinite_of_isFinite hy, Bool.or_self, Bool.false_eq_true, if_false]

/-- A quotient of finite doubles is the exact one, rounded. -/
lemma div_eq_ofUnits (hx : x.isFinite = true) (hy : y.isFinite = true)
    (nonzero : y.isZero = false) :
    x / y = ofUnits (x.isNegative != y.isNegative) (x.units * unitsPerOne) y.units := by
  change div x y = _
  simp only [div, isNaN_of_isFinite hx, isNaN_of_isFinite hy, isInfinite_of_isFinite hx,
    isInfinite_of_isFinite hy, nonzero, Bool.or_self, Bool.false_eq_true, if_false]

/-- A quotient of a finite double by one that is not below one is finite. -/
lemma isFinite_div (hx : x.isFinite = true) (hy : y.isFinite = true)
    (large : unitMagnitude ≤ y.magnitude) : (x / y).isFinite = true := by
  have divisor : unitsPerOne ≤ y.units := unitsPerOne_le_of_magnitude large
  have one := unitsPerOne_pos
  have unit : 0 < unitMagnitude := by decide
  have nonzero : y.isZero = false := decide_eq_false (by omega)
  rw [div_eq_ofUnits hx hy nonzero, isFinite_iff, magnitude_ofUnits]
  refine roundUnits_lt (by omega) ?_
  exact Nat.mul_le_mul (units_le hx) divisor

lemma isNaN_mul_eq_false (hx : x.isFinite = true) (hy : y.isFinite = true) :
    (x * y).isNaN = false := by
  rw [mul_eq_ofUnits hx hy]
  exact isNaN_ofUnits _ _ _

end Binary64
end Concordance
