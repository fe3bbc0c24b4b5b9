import Concordance.Binary64.Order
import Mathlib.Algebra.Order.Group.Int
import Mathlib.Order.Monotone.Odd
import Mathlib.Tactic.Lemma
import Mathlib.Tactic.Ring

/-!
# Values are in the order of words

A magnitude counts significands, and at two kinds of borders the count goes on although the value
is put together differently: behind the largest subnormal there is a hidden bit, and behind a full
fraction there is the next exponent.  `unitsOfMagnitude_eq` holds on both sides of both borders, so
the next magnitude is always that of the next significand and its value is larger
(`strictMono_unitsOfMagnitude`).

With a sign in front the value is an odd function of the place on the line of doubles.  So the
values of words are in the order of their places (`signedUnits_lt_iff`), and both zeros have one
value.
-/

namespace Concordance.Binary64

variable {x y : Binary64}

/-! ## Magnitudes -/

/-- The units of a significand with its hidden bit beside an exponent. -/
lemma unitsOfMagnitude_of_significand {q : Nat} (k : Nat) (least : 2 ^ 52 ≤ q) (most : q < 2 ^ 53) :
    unitsOfMagnitude (k * 2 ^ 52 + q) = q * 2 ^ k := by
  have exponent : (k * 2 ^ 52 + q) / 2 ^ 52 = k + 1 := by omega
  have fraction : (k * 2 ^ 52 + q) % 2 ^ 52 = q - 2 ^ 52 := by omega
  have hidden : 2 ^ 52 + (q - 2 ^ 52) = q := by omega
  simp only [unitsOfMagnitude, Nat.pow_eq, exponent, fraction]
  rw [if_neg (Nat.succ_ne_zero k), hidden, Nat.add_sub_cancel]

/-- The units of a significand beside an exponent, also where it has no hidden bit and where it
is carried. -/
lemma unitsOfMagnitude_eq {k q : Nat} (least : k = 0 ∨ 2 ^ 52 ≤ q) (most : q ≤ 2 ^ 53) :
    unitsOfMagnitude (k * 2 ^ 52 + q) = q * 2 ^ k := by
  rcases Nat.lt_or_ge q (2 ^ 52) with subnormal | normal
  · obtain rfl : k = 0 := by omega
    have exponent : q / 2 ^ 52 = 0 := Nat.div_eq_of_lt subnormal
    have fraction : q % 2 ^ 52 = q := Nat.mod_eq_of_lt subnormal
    simp only [unitsOfMagnitude, Nat.pow_eq, Nat.zero_mul, Nat.zero_add, exponent, fraction,
      if_true, Nat.pow_zero, Nat.mul_one]
  · rcases Nat.lt_or_ge q (2 ^ 53) with below | carried
    · exact unitsOfMagnitude_of_significand k normal below
    · obtain rfl : q = 2 ^ 53 := by omega
      have next : k * 2 ^ 52 + 2 ^ 53 = (k + 1) * 2 ^ 52 + 2 ^ 52 := by ring
      rw [next, unitsOfMagnitude_of_significand _ (Nat.le_refl _) (by decide)]
      ring

/-- Every magnitude is a significand beside an exponent. -/
lemma exists_significand (m : Nat) :
    ∃ k q, m = k * 2 ^ 52 + q ∧ (k = 0 ∨ 2 ^ 52 ≤ q) ∧ q < 2 ^ 53 := by
  rcases Nat.lt_or_ge m (2 ^ 53) with small | large
  · exact ⟨0, m, by omega, .inl rfl, small⟩
  · exact ⟨m / 2 ^ 52 - 1, m % 2 ^ 52 + 2 ^ 52, by omega, by omega, by omega⟩

/-- **Larger magnitudes have larger values.** -/
theorem strictMono_unitsOfMagnitude : StrictMono unitsOfMagnitude := by
  refine strictMono_nat_of_lt_succ fun m => ?_
  obtain ⟨k, q, rfl, least, most⟩ := exists_significand m
  rw [Nat.add_assoc, unitsOfMagnitude_eq least most.le, unitsOfMagnitude_eq (by omega) most]
  exact Nat.mul_lt_mul_of_pos_right (Nat.lt_succ_self q) (Nat.two_pow_pos k)

/-! ## Words -/

/-- The value at a place on the line of doubles, in multiples of `2 ^ -1074`. -/
def unitsAt (place : Int) : Int := place.sign * unitsOfMagnitude place.natAbs

lemma unitsAt_neg (place : Int) : unitsAt (-place) = -unitsAt place := by
  simp [unitsAt]

lemma unitsAt_natCast (m : Nat) : unitsAt m = unitsOfMagnitude m := by
  cases m with
  | zero => rfl
  | succ m =>
      rw [unitsAt, Int.sign_natCast_of_ne_zero (Nat.succ_ne_zero m), Int.natAbs_natCast, Int.one_mul]

theorem unitsAt_lt_iff {a b : Int} : unitsAt a < unitsAt b ↔ a < b := by
  have increasing : StrictMono unitsAt := by
    refine strictMono_of_odd_strictMonoOn_nonneg unitsAt_neg ?_
    intro a nonneg b nonneg' below
    obtain ⟨m, rfl⟩ := Int.eq_ofNat_of_zero_le nonneg
    obtain ⟨n, rfl⟩ := Int.eq_ofNat_of_zero_le nonneg'
    rw [unitsAt_natCast, unitsAt_natCast]
    exact Int.ofNat_lt.2 (strictMono_unitsOfMagnitude (Int.ofNat_lt.1 below))
  exact increasing.lt_iff_lt

lemma signedUnits_eq (x : Binary64) : x.signedUnits = unitsAt x.position := by
  rw [signedUnits, position]
  split
  · rw [unitsAt_neg, unitsAt_natCast, units]
  · rw [unitsAt_natCast, units]

/-- **The values of doubles are in the order of their places.** -/
theorem signedUnits_lt_iff : x.signedUnits < y.signedUnits ↔ x.position < y.position := by
  rw [signedUnits_eq, signedUnits_eq, unitsAt_lt_iff]

lemma signedUnits_le_iff : x.signedUnits ≤ y.signedUnits ↔ x.position ≤ y.position := by
  rw [← Int.not_lt, signedUnits_lt_iff, Int.not_lt]

end Concordance.Binary64
