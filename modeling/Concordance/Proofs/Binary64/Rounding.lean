import Concordance.Binary64.Rounding
import Mathlib.Tactic.Ring

/-!
# Two laws of the one rounding

Everything that is said later about numbers that come back from their text rests on two facts
about `roundUnits`.

* `roundUnits_mul`: it depends on the value of a quotient and not on how the quotient is written,
  so a decimal may shift its point.
* `roundUnits_unitsOfMagnitude`: the value of a magnitude is rounded to that magnitude.
-/

namespace Concordance

/-! ## Quotients -/

/-- A quotient is rounded by its value. -/
lemma divHalfEven_mul (num den : Nat) {k : Nat} (positive : 0 < k) :
    divHalfEven (num * k) (den * k) = divHalfEven num den := by
  have quotient : num * k / (den * k) = num / den := Nat.mul_div_mul_right num den positive
  have remainder : num * k % (den * k) = num % den * k := Nat.mul_mod_mul_right k num den
  have below : 2 * (num % den * k) < den * k ↔ 2 * (num % den) < den := by
    rw [← Nat.mul_assoc, Nat.mul_lt_mul_right positive]
  have above : den * k < 2 * (num % den * k) ↔ den < 2 * (num % den) := by
    rw [← Nat.mul_assoc, Nat.mul_lt_mul_right positive]
  simp only [divHalfEven, quotient, remainder, below, above]

/-- An integer is rounded to itself. -/
lemma divHalfEven_mul_self (n : Nat) {den : Nat} (positive : 0 < den) :
    divHalfEven (n * den) den = n := by
  have remainder : n * den % den = 0 := Nat.mul_mod_left n den
  simp only [divHalfEven, remainder, Nat.mul_div_cancel n positive, Nat.mul_zero, if_pos positive]

namespace Binary64

/-! ## Magnitudes -/

/-- **Rounding depends on the value alone.** -/
theorem roundUnits_mul (num den : Nat) {k : Nat} (positive : 0 < k) :
    roundUnits (num * k) (den * k) = roundUnits num den := by
  have quotient : num * k / (den * k) = num / den := Nat.mul_div_mul_right num den positive
  have shifted : ∀ shift, den * k * Nat.pow 2 shift = den * Nat.pow 2 shift * k := fun shift =>
    Nat.mul_right_comm den k (Nat.pow 2 shift)
  simp only [roundUnits, quotient, shifted, divHalfEven_mul _ _ positive]

/-- The units of a magnitude with a hidden bit have `52 + k` binary digits behind the first. -/
lemma log2_shifted {fraction : Nat} (k : Nat) (small : fraction < 2 ^ 52) :
    ((2 ^ 52 + fraction) * 2 ^ k).log2 = 52 + k := by
  have positive : 0 < 2 ^ k := Nat.two_pow_pos k
  have nonzero : (2 ^ 52 + fraction) * 2 ^ k ≠ 0 :=
    Nat.mul_ne_zero (by omega) (Nat.ne_of_gt positive)
  rw [Nat.log2_eq_iff nonzero]
  constructor
  · rw [Nat.pow_add]
    exact Nat.mul_le_mul_right _ (Nat.le_add_right _ _)
  · rw [Nat.add_right_comm, Nat.pow_add]
    refine Nat.mul_lt_mul_of_pos_right ?_ positive
    omega

lemma log2_lt_of_subnormal {n : Nat} (small : n < 2 ^ 52) : n.log2 < 52 := by
  by_cases zero : n = 0
  · rw [zero, Nat.log2_zero]
    decide
  · exact (Nat.log2_lt zero).2 small

/-- **The value of a magnitude is rounded to it**, up to that of infinity. -/
theorem roundUnits_unitsOfMagnitude {m : Nat} (bounded : m ≤ infiniteMagnitude) :
    roundUnits (unitsOfMagnitude m) 1 = m := by
  have small : m % 2 ^ 52 < 2 ^ 52 := Nat.mod_lt _ (by decide)
  have whole := Nat.div_add_mod m (2 ^ 52)
  have capped : Nat.min infiniteMagnitude m = m := Nat.min_eq_right bounded
  simp only [roundUnits, unitsOfMagnitude, Nat.pow_eq, Nat.div_one, Nat.one_mul]
  by_cases subnormal : m / 2 ^ 52 = 0
  · have fraction : m % 2 ^ 52 = m := by omega
    have unshifted : m.log2 - 52 = 0 := by
      have := log2_lt_of_subnormal (fraction ▸ small)
      omega
    have exact := divHalfEven_mul_self m Nat.one_pos
    rw [Nat.mul_one] at exact
    rw [if_pos subnormal, fraction, unshifted, Nat.zero_mul, Nat.zero_add, Nat.pow_zero, exact,
      capped]
  · obtain ⟨k, exponent⟩ : ∃ k, m / 2 ^ 52 = k + 1 := Nat.exists_eq_succ_of_ne_zero subnormal
    have shift : ((2 ^ 52 + m % 2 ^ 52) * 2 ^ k).log2 - 52 = k := by
      rw [log2_shifted k small]
      omega
    have rounded := divHalfEven_mul_self (2 ^ 52 + m % 2 ^ 52) (Nat.two_pow_pos k)
    have carried : k * 2 ^ 52 + (2 ^ 52 + m % 2 ^ 52) = m := by omega
    rw [if_neg subnormal, exponent, Nat.add_sub_cancel, shift, rounded, carried, capped]

end Binary64
end Concordance
