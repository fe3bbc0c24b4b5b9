import Concordance.Decimal.Shortest
import Concordance.Proofs.Binary64.Rounding
import Concordance.Proofs.Decimal.Digits
import Mathlib.Tactic.SplitIfs

/-!
# The shortest decimal of a double has its magnitude

The search of `Decimal.shortest` tests every candidate by rounding it, so a decimal that it finds
reads back for no other reason.  Two things are left.  The zeros at the end of a significand may
go into the exponent (`magnitude_trimmed`), because rounding depends on the value alone.  And
the exact value, which stands behind the search, is rounded to the magnitude that it is the value
of (`magnitude_exact`).  So nothing here asks how many digits are enough.

* `magnitude_shortest` is the result.
* `top_shortest` bounds the exponent that is written.
-/

namespace Concordance.Decimal

open Binary64

/-! ## Zeros at the end -/

lemma top_ten_mul {s : Nat} (e : Int) (positive : 0 < s) :
    top ⟨10 * s, e⟩ = top ⟨s, e + 1⟩ := by
  rw [top, top, digitCount_ten_mul positive]
  simp only
  omega

/-- A zero at the end may go into the exponent. -/
lemma magnitude_ten_mul {s : Nat} (e : Int) (positive : 0 < s) :
    magnitude ⟨10 * s, e⟩ = magnitude ⟨s, e + 1⟩ := by
  have power : ∀ k, Nat.pow 10 (k + 1) = Nat.pow 10 k * 10 := fun _ => rfl
  have ten : 0 < 10 := by decide
  rw [magnitude, magnitude, top_ten_mul e positive]
  simp only
  rw [if_neg (by omega : ¬ 10 * s = 0), if_neg (by omega : ¬ s = 0)]
  congr 2
  -- the point is behind the digits, at the last one, or before it
  rcases Int.lt_trichotomy e (-1) with below | rfl | above
  · have digit : (-e).toNat = (-(e + 1)).toNat + 1 := by omega
    have moved : 10 * s * unitsPerOne = s * unitsPerOne * 10 := by ring
    rw [if_neg (by omega), if_neg (by omega), digit, power, moved, roundUnits_mul _ _ ten]
  · have moved : 10 * s * unitsPerOne = s * Nat.pow 10 0 * unitsPerOne * 10 := by
      rw [Nat.pow_eq]
      ring
    rw [if_neg (by omega), if_pos (by omega), moved]
    exact roundUnits_mul _ 1 ten
  · have digit : (e + 1).toNat = e.toNat + 1 := by omega
    have moved : 10 * s * Nat.pow 10 e.toNat * unitsPerOne
        = s * (Nat.pow 10 e.toNat * 10) * unitsPerOne := by ring
    rw [if_pos (by omega), if_pos (by omega), digit, power, moved]

lemma magnitude_mul_pow {s : Nat} (positive : 0 < s) (k : Nat) (e : Int) :
    magnitude ⟨s * 10 ^ k, e⟩ = magnitude ⟨s, e + k⟩ := by
  induction k generalizing e with
  | zero => rw [Nat.pow_zero, Nat.mul_one, Int.natCast_zero, Int.add_zero]
  | succ k ih =>
      have digits : 0 < s * 10 ^ k := Nat.mul_pos positive (Nat.pow_pos (by decide))
      have place : e + 1 + k = e + (k + 1 : Nat) := by omega
      rw [show s * 10 ^ (k + 1) = 10 * (s * 10 ^ k) by ring, magnitude_ten_mul e digits, ih, place]

/-- **Zeros at the end make no difference to what a decimal is rounded to.** -/
theorem magnitude_trimmed (d : Decimal) : d.trimmed.magnitude = d.magnitude := by
  fun_induction trimmed d with
  | case1 d h ih =>
      obtain ⟨significand, exponent⟩ := d
      simp only at h ih
      have whole : significand = 10 * (significand / 10) := by omega
      rw [ih, ← magnitude_ten_mul exponent (by omega), ← whole]
  | case2 d h => rfl

/-! ## The exact value -/

lemma leastSignificand_pos : 0 < leastSignificand := by decide +kernel

lemma ten_pow_eq : Nat.pow 10 (-(-1074 : Int)).toNat = leastSignificand * unitsPerOne := by
  decide +kernel

/-- A multiple of `2 ^ -1074` is the same multiple of `5 ^ 1074 * 10 ^ -1074`. -/
lemma roundUnits_leastSignificand (n : Nat) :
    roundUnits (n * leastSignificand * unitsPerOne) (leastSignificand * unitsPerOne)
      = roundUnits n 1 := by
  have positive : 0 < leastSignificand * unitsPerOne := by decide +kernel
  have scaled := roundUnits_mul n 1 positive
  rwa [Nat.one_mul, ← Nat.mul_assoc] at scaled

lemma unitsOfMagnitude_pos {m : Nat} (positive : 0 < m) : 0 < unitsOfMagnitude m := by
  simp only [unitsOfMagnitude, Nat.pow_eq]
  split
  · omega
  · exact Nat.mul_pos (by omega) (Nat.two_pow_pos _)

lemma unitsOfMagnitude_lt {m n : Nat} (bounded : m / 2 ^ 52 + 52 ≤ n) :
    unitsOfMagnitude m < 2 ^ n := by
  have fraction : m % 2 ^ 52 < 2 ^ 52 := Nat.mod_lt _ (by decide)
  simp only [unitsOfMagnitude, Nat.pow_eq]
  split
  · exact Nat.lt_of_lt_of_le fraction (Nat.pow_le_pow_right (by decide) (by omega))
  · have significand : 2 ^ 52 + m % 2 ^ 52 < 2 ^ 53 := by omega
    have exponent : 53 + (m / 2 ^ 52 - 1) ≤ n := by omega
    calc (2 ^ 52 + m % 2 ^ 52) * 2 ^ (m / 2 ^ 52 - 1)
        < 2 ^ 53 * 2 ^ (m / 2 ^ 52 - 1) :=
          Nat.mul_lt_mul_of_pos_right significand (Nat.two_pow_pos _)
      _ = 2 ^ (53 + (m / 2 ^ 52 - 1)) := (Nat.pow_add 2 53 _).symm
      _ ≤ 2 ^ n := Nat.pow_le_pow_right (by decide) exponent

lemma two_pow_mul_leastSignificand_le : 2 ^ 2098 * leastSignificand ≤ 10 ^ 1383 := by
  decide +kernel

lemma le_leastSignificand : 10 ^ 744 ≤ leastSignificand := by decide +kernel

/-- So many digits, the last of them `1074` places behind the point, begin where powers of ten
are computed. -/
lemma top_of_bounds {s : Nat} (least : 10 ^ 744 ≤ s) (most : s < 10 ^ 1383) :
    -329 ≤ top ⟨s, -1074⟩ ∧ top ⟨s, -1074⟩ ≤ 309 := by
  have many : 744 < digitCount s :=
    Nat.lt_of_not_le fun few =>
      Nat.not_lt.2 least ((lt_pow_iff_digitCount_le (by decide)).2 few)
  have few : digitCount s ≤ 1383 := (lt_pow_iff_digitCount_le (by decide)).1 most
  simp only [top]
  omega

lemma top_exact {m : Nat} (positive : 0 < m) (finite : m < infiniteMagnitude) :
    -329 ≤ (exact m).top ∧ (exact m).top ≤ 309 := by
  have one : 0 < unitsOfMagnitude m := unitsOfMagnitude_pos positive
  have bounded : m / 2 ^ 52 + 52 ≤ 2098 := by
    have : infiniteMagnitude = 2047 * 2 ^ 52 := rfl
    omega
  have small := Nat.mul_lt_mul_of_pos_right (unitsOfMagnitude_lt bounded) leastSignificand_pos
  have least := Nat.le_trans le_leastSignificand (Nat.le_mul_of_pos_left leastSignificand one)
  have most := Nat.lt_of_lt_of_le small two_pow_mul_leastSignificand_le
  exact top_of_bounds least most

/-- A decimal with digits behind the point, where powers of ten are computed. -/
lemma magnitude_of_neg {s : Nat} {e : Int} (digit : 0 < s) (behind : e < 0)
    (near : -329 ≤ top ⟨s, e⟩ ∧ top ⟨s, e⟩ ≤ 309) :
    magnitude ⟨s, e⟩ = roundUnits (s * unitsPerOne) (Nat.pow 10 (-e).toNat) := by
  rw [magnitude]
  simp only
  rw [if_neg (by omega), if_neg (by omega), if_neg (by omega), if_neg (by omega)]

/-- **The exact value is rounded to its magnitude.** -/
theorem magnitude_exact {m : Nat} (positive : 0 < m) (finite : m < infiniteMagnitude) :
    (exact m).magnitude = m := by
  have digit := Nat.mul_pos (unitsOfMagnitude_pos positive) leastSignificand_pos
  have near := top_exact positive finite
  rw [exact] at near ⊢
  rw [magnitude_of_neg digit (by decide) near, ten_pow_eq, roundUnits_leastSignificand,
    roundUnits_unitsOfMagnitude finite.le]

/-! ## The search -/

/-- Of two decimals one is taken only if it passes the test. -/
lemma magnitude_of_tested {m : Nat} {first second d : Decimal}
    (taken : (if first.magnitude = m then some first
      else if second.magnitude = m then some second else none) = some d) : d.magnitude = m := by
  by_cases reads : first.magnitude = m
  · rw [if_pos reads] at taken
    rwa [← Option.some.inj taken]
  · rw [if_neg reads] at taken
    by_cases other : second.magnitude = m
    · rw [if_pos other] at taken
      rwa [← Option.some.inj taken]
    · rw [if_neg other] at taken
      cases taken

lemma magnitude_of_onGrid? {tie : Tie} {m : Nat} {place : Int} {d : Decimal}
    (found : onGrid? tie m place = some d) : d.magnitude = m :=
  magnitude_of_tested found

/-- **The shortest decimal of a finite magnitude is rounded to it.** -/
theorem magnitude_shortest (tie : Tie) {m : Nat} (finite : m < infiniteMagnitude) :
    (shortest tie m).magnitude = m := by
  by_cases zero : m = 0
  · subst zero
    rfl
  · have positive : 0 < m := Nat.pos_of_ne_zero zero
    rw [shortest, if_neg zero]
    simp only [magnitude_trimmed]
    cases search : (List.range 17).findSome? fun n : Nat =>
        onGrid? tie m (leadingPlace (unitsOfMagnitude m) - (n + 1)) with
    | none => exact magnitude_exact positive finite
    | some d =>
        obtain ⟨n, _, found⟩ := List.exists_of_findSome?_eq_some search
        exact magnitude_of_onGrid? found

/-- The only shortest decimal without a digit above zero is zero itself. -/
lemma shortest_eq_zero {tie : Tie} {m : Nat} (finite : m < infiniteMagnitude)
    (zero : (shortest tie m).significand = 0) : shortest tie m = ⟨0, 0⟩ := by
  have rounded := magnitude_shortest tie finite
  rw [magnitude, if_pos zero] at rounded
  rw [← rounded, shortest, if_pos rfl]

/-! ## How large it is -/

/-- No decimal is rounded beyond infinity. -/
lemma magnitude_le (d : Decimal) : d.magnitude ≤ infiniteMagnitude := by
  unfold magnitude
  split_ifs
  · exact Nat.zero_le _
  · exact Nat.le_refl _
  · exact Nat.zero_le _
  · exact Nat.min_le_left _ _
  · exact Nat.min_le_left _ _

/-- What is rounded neither to zero nor to infinity has its leading digit near the point. -/
lemma top_of_magnitude {d : Decimal} (positive : 0 < d.magnitude)
    (finite : d.magnitude < infiniteMagnitude) : -329 ≤ d.top ∧ d.top ≤ 309 := by
  rw [magnitude] at positive finite
  by_cases zero : d.significand = 0
  · rw [if_pos zero] at positive
    exact absurd positive (Nat.lt_irrefl 0)
  rw [if_neg zero] at positive finite
  by_cases high : 309 < d.top
  · rw [if_pos high] at finite
    exact absurd finite (Nat.lt_irrefl _)
  rw [if_neg high] at positive finite
  by_cases low : d.top < -329
  · rw [if_pos low] at positive
    exact absurd positive (Nat.lt_irrefl 0)
  exact ⟨Int.not_lt.1 low, Int.not_lt.1 high⟩

/-- **The leading digit of a shortest decimal is near the point.** -/
theorem top_shortest (tie : Tie) {m : Nat} (finite : m < infiniteMagnitude) :
    -329 ≤ (shortest tie m).top ∧ (shortest tie m).top ≤ 309 := by
  by_cases zero : m = 0
  · have one : (shortest tie m).top = 1 := by
      rw [shortest, if_pos zero, top, digitCount_of_lt (by decide)]
      rfl
    omega
  · refine top_of_magnitude ?_ ?_
    · rw [magnitude_shortest tie finite]
      exact Nat.pos_of_ne_zero zero
    · rwa [magnitude_shortest tie finite]

end Concordance.Decimal
