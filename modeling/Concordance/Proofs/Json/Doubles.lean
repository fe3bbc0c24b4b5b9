import Concordance.Json.Number
import Concordance.Proofs.Binary64.Bounds
import Concordance.Proofs.Decimal.Digits

/-!
# Literals stand for finite doubles

A literal is read with a significand that fits into a word, which is then divided or multiplied by
powers of ten.  Quotients stay finite because the powers are not below one, and a product that
does not stay finite is refused.  So whatever digits and exponent a document holds, the double
that is read is a finite one (`isFinite_of_toBinary64?`).
-/

namespace Concordance.Json.Number

open Binary64

lemma absorb_lt {significand : Nat} (small : significand < significandBound) (ds : List Nat) :
    (absorb significand ds).1 < significandBound := by
  induction ds generalizing significand with
  | nil => exact small
  | cons d rest ih =>
      rw [absorb]
      split
      · exact ih ‹_›
      · exact small

lemma magnitude_powerOfTen {n : Nat} (small : n ≤ 308) :
    (powerOfTen n).magnitude = roundUnits (Nat.pow 10 n * unitsPerOne) 1 := by
  have count : Decimal.digitCount 1 = 1 := Decimal.digitCount_of_lt (by decide)
  have top : (⟨1, n⟩ : Decimal).top = 1 + n := by simp only [Decimal.top, count]; rfl
  have value : (⟨1, n⟩ : Decimal).magnitude = roundUnits (Nat.pow 10 n * unitsPerOne) 1 := by
    rw [Decimal.magnitude, top]
    simp only [Int.toNat_natCast, Nat.one_mul]
    rw [if_neg (by omega), if_neg (by omega), if_neg (by omega), if_pos (by omega)]
  rw [powerOfTen, Decimal.toBinary64, value,
    magnitude_ofMagnitude _ (roundUnits_lt_signWeight _ _)]

lemma isFinite_powerOfTen {n : Nat} (small : n ≤ 308) : (powerOfTen n).isFinite = true := by
  have bound : ∀ k ≤ 308, Nat.pow 10 k * unitsPerOne ≤ largestUnits := by decide +kernel
  rw [isFinite_iff, magnitude_powerOfTen small]
  refine roundUnits_lt Nat.one_pos ?_
  rw [Nat.mul_one]
  exact bound n small

lemma unitMagnitude_le_powerOfTen {n : Nat} (small : n ≤ 308) :
    unitMagnitude ≤ (powerOfTen n).magnitude := by
  rw [magnitude_powerOfTen small]
  refine le_roundUnits ?_
  rw [Nat.div_one]
  exact Nat.le_mul_of_pos_left _ (Nat.pow_pos (by decide))

lemma isZero_powerOfTen {n : Nat} (small : n ≤ 308) : (powerOfTen n).isZero = false := by
  have large := unitMagnitude_le_powerOfTen small
  have unit : 0 < unitMagnitude := by decide
  exact decide_eq_false (by omega)

lemma isFinite_div_powerOfTen {f : Binary64} (finite : f.isFinite = true) {n : Nat}
    (small : n ≤ 308) : (f / powerOfTen n).isFinite = true :=
  isFinite_div finite (isFinite_powerOfTen small) (unitMagnitude_le_powerOfTen small)

/-- Scaling refuses what is not finite. -/
lemma isFinite_of_scale? {f x : Binary64} {e : Int} (finite : f.isFinite = true)
    (h : scale? f e = some x) : x.isFinite = true := by
  fun_induction scale? f e with
  | case1 => exact Option.some.inj h ▸ finite
  | case2 f e _ _ ih => exact ih (isFinite_div_powerOfTen finite (Nat.le_refl 308)) h
  | case3 f e _ _ =>
      exact Option.some.inj h ▸ isFinite_div_powerOfTen finite (by omega)
  | case4 => cases h
  | case5 f e _ _ _ product bounded =>
      have number : product.isNaN = false :=
        isNaN_mul_eq_false finite (isFinite_powerOfTen (by omega))
      rw [← Option.some.inj h, isFinite_eq, number, Bool.eq_false_of_not_eq_true bounded]
      rfl
  | case6 => exact Option.some.inj h ▸ finite
  | case7 => cases h

lemma isFinite_of_size? {n : Number} {x : Binary64} (h : n.size? = some x) :
    x.isFinite = true := by
  have whole := absorb_lt (by decide : 0 < significandBound) n.whole
  have both := absorb_lt whole n.fraction
  have zero : Binary64.zero.isFinite = true := by decide
  simp only [size?] at h
  split at h
  · exact Option.some.inj h ▸ isFinite_ofNat whole
  split at h
  · exact Option.some.inj h ▸ zero
  split at h
  · split at h
    · exact Option.some.inj h ▸ zero
    · cases h
  · exact isFinite_of_scale? (isFinite_ofNat both) h

/-- **Every double that a literal stands for is finite.** -/
theorem isFinite_of_toBinary64? {n : Number} {x : Binary64} (h : n.toBinary64? = some x) :
    x.isFinite = true := by
  obtain ⟨f, size, rfl⟩ := Option.map_eq_some_iff.1 h
  have finite := isFinite_of_size? size
  split
  · exact (isFinite_neg f).trans finite
  · exact finite

end Concordance.Json.Number
