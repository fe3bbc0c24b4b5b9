import Concordance.Binary64.Order
import Mathlib.Tactic.Lemma

/-!
# A word is its sign and its magnitude

`Binary64.ofMagnitude` puts a word together from the two parts that `isNegative` and `magnitude`
take out of it.  Texts of doubles are written and read part by part, so this is what is left to
say of a word once both parts are back.

The place of a number on the line of doubles gives both parts back too, except for the sign of a
zero.  So numbers that are equal are one word, or they are both zeros (`eq_iff`).
-/

namespace Concordance.Binary64

/-- **A word is put together from its sign and its magnitude.** -/
theorem ofMagnitude_magnitude (x : Binary64) : ofMagnitude x.isNegative x.magnitude = x := by
  have weight : signWeight = 9223372036854775808 := rfl
  have bound := x.bits.toNat_lt
  have whole : x.magnitude + (if x.isNegative then signWeight else 0) = x.bits.toNat := by
    by_cases negative : signWeight ≤ x.bits.toNat
    · rw [isNegative, decide_eq_true negative, if_pos rfl, magnitude, weight]
      omega
    · have positive : x.bits.toNat < signWeight := Nat.lt_of_not_le negative
      rw [isNegative, decide_eq_false negative, if_neg Bool.false_ne_true, magnitude,
        Nat.mod_eq_of_lt positive, Nat.add_zero]
  rw [ofMagnitude, whole, UInt64.ofNat_toNat]

/-- A word that is a number has at most the magnitude of infinity. -/
lemma magnitude_le_of_isNaN_eq_false {x : Binary64} (number : x.isNaN = false) :
    x.magnitude ≤ infiniteMagnitude :=
  Nat.le_of_not_lt (of_decide_eq_false number)

lemma isZero_iff {x : Binary64} : x.isZero = true ↔ x.magnitude = 0 := decide_eq_true_iff

lemma zero_ne_neg_zero : zero ≠ -zero := by decide

/-- There are two zeros, one for each sign. -/
lemma isZero_iff_eq {x : Binary64} : x.isZero = true ↔ x = zero ∨ x = -zero := by
  constructor
  · intro isZero
    have parts := ofMagnitude_magnitude x
    rw [isZero_iff.1 isZero] at parts
    cases negative : x.isNegative with
    | false =>
        rw [negative] at parts
        exact .inl parts.symm
    | true =>
        rw [negative] at parts
        exact .inr parts.symm
  · rintro (rfl | rfl) <;> decide

lemma isNaN_of_isZero {x : Binary64} (isZero : x.isZero = true) : x.isNaN = false := by
  rw [isNaN, isZero_iff.1 isZero]
  rfl

/-- Words at one place have one magnitude, and one sign unless they are zeros. -/
lemma position_eq_iff {x y : Binary64} :
    x.position = y.position ↔ x = y ∨ x.isZero = true ∧ y.isZero = true := by
  constructor
  · intro same
    by_cases isZero : x.magnitude = 0
    · have other : y.magnitude = 0 := by
        simp only [position] at same
        split at same <;> split at same <;> omega
      exact .inr ⟨isZero_iff.2 isZero, isZero_iff.2 other⟩
    · have parts : x.isNegative = y.isNegative ∧ x.magnitude = y.magnitude := by
        unfold position at same
        cases sign : x.isNegative <;> cases sign' : y.isNegative <;>
          simp only [sign, sign', ↓reduceIte, Bool.false_eq_true, reduceCtorEq, true_and,
            false_and] at same ⊢ <;> omega
      refine .inl ?_
      rw [← ofMagnitude_magnitude x, ← ofMagnitude_magnitude y, parts.1, parts.2]
  · rintro (rfl | ⟨isZero, isZero'⟩)
    · rfl
    · simp [position, isZero_iff.1 isZero, isZero_iff.1 isZero']

/-- **Numbers that are equal are one word, or both are zeros.** -/
theorem eq_iff {x y : Binary64} :
    x.eq y = true ↔
      x.isNaN = false ∧ y.isNaN = false ∧ (x = y ∨ x.isZero = true ∧ y.isZero = true) := by
  simp [eq, position_eq_iff, and_assoc]

lemma isNaN_of_lt {x y : Binary64} (below : x.lt y = true) : y.isNaN = false := by
  simp only [lt, Bool.and_eq_true, Bool.not_eq_true'] at below
  exact below.1.2

/-- What is not above zero is a zero, below zero, or no number. -/
lemma of_not_above_zero {x : Binary64} (h : zero.lt x = false) :
    x.isZero = true ∨ x.lt zero = true ∨ x.isNaN = true := by
  by_cases number : x.isNaN = true
  · exact .inr (.inr number)
  · have origin : zero.position = 0 := rfl
    have known : zero.isNaN = false := rfl
    have isNumber : x.isNaN = false := eq_false_of_ne_true number
    simp only [lt, origin, known, isNumber, Bool.not_false, Bool.true_and, decide_eq_false_iff_not,
      decide_eq_true_eq] at h ⊢
    rcases Int.lt_or_eq_of_le (Int.not_lt.1 h) with below | level
    · exact .inr (.inl below)
    · exact .inl ((position_eq_iff.1 (level.trans origin.symm)).elim (fun same => same ▸ rfl)
        And.left)

end Concordance.Binary64
