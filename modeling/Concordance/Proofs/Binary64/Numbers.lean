import Concordance.Proofs.Binary64.Arithmetic
import Mathlib.Data.EReal.Operations
import Mathlib.Tactic.FieldSimp
import Mathlib.Tactic.NormNum

/-!
# The numbers that doubles stand for

`number?` reads a word as IEEE 754 does: a sign, a power of two and a fraction of fifty-two bits,
with a one before the fraction unless the exponent is the least, and the largest exponent for the
infinities and for what is no number.  The result is an extended real, and no comparison of words
goes into it.

Comparing words comes to comparing these numbers: `lt_iff_of_number?` and `eq_iff_of_number?`.  The
way between the two is the value in multiples of `2 ^ -1074`, in which an infinity is a number
like others, beyond all finite ones; `extended` turns that one number into an infinity and keeps
the order up to there.
-/

namespace Concordance.Binary64

variable {x y : Binary64}

/-! ## Reading a word -/

/-- The real number that a magnitude below that of infinity stands for. -/
noncomputable def realOfMagnitude (m : ℕ) : ℝ :=
  let exponent : ℕ := m / 2 ^ 52
  let fraction : ℝ := (m % 2 ^ 52 : ℕ) / 2 ^ 52
  if exponent = 0 then fraction * 2 ^ (-1022 : ℤ)
  else (1 + fraction) * 2 ^ ((exponent : ℤ) - 1023)

/-- The size of the number that a magnitude stands for. -/
noncomputable def size (m : ℕ) : EReal :=
  if m = infiniteMagnitude then ⊤ else realOfMagnitude m

/-- The number that a word stands for, if it stands for one. -/
noncomputable def number? (x : Binary64) : Option EReal :=
  if x.isNaN then none else some (if x.isNegative then -size x.magnitude else size x.magnitude)

/-! ## Values in multiples of `2 ^ -1074` -/

lemma realOfMagnitude_eq (m : ℕ) :
    realOfMagnitude m = unitsOfMagnitude m * (2 : ℝ) ^ (-1074 : ℤ) := by
  have least : (2 : ℝ) ^ (-1022 : ℤ) = 2 ^ 52 * 2 ^ (-1074 : ℤ) := by
    rw [← zpow_natCast, ← zpow_add₀ two_ne_zero]
    norm_num
  simp only [realOfMagnitude, unitsOfMagnitude, Nat.pow_eq]
  split
  · rw [least]
    field_simp
  · rename_i normal
    have power : (2 : ℝ) ^ (((m / 2 ^ 52 : ℕ) : ℤ) - 1023)
        = 2 ^ (m / 2 ^ 52 - 1) * 2 ^ (-1022 : ℤ) := by
      rw [← zpow_natCast, ← zpow_add₀ two_ne_zero]
      congr 1
      omega
    rw [power, least]
    push_cast
    field_simp
    norm_num

/-- The value of an infinity in multiples of `2 ^ -1074`, as if it were the next finite double. -/
def infiniteUnits : ℤ := unitsOfMagnitude infiniteMagnitude

lemma infiniteUnits_pos : 0 < infiniteUnits :=
  Int.natCast_pos.2 (strictMono_unitsOfMagnitude (by decide : 0 < infiniteMagnitude))

/-- The number with a value in multiples of `2 ^ -1074`, where the value of an infinity is
infinite. -/
noncomputable def extended (n : ℤ) : EReal :=
  if n = infiniteUnits then ⊤ else if n = -infiniteUnits then ⊥
  else ((n * 2 ^ (-1074 : ℤ) : ℝ) : EReal)

lemma extended_neg (n : ℤ) : extended (-n) = -extended n := by
  have positive := infiniteUnits_pos
  simp only [extended, neg_inj]
  by_cases top : n = infiniteUnits
  · rw [if_neg (by omega), if_pos top, if_pos top, EReal.neg_top]
  · by_cases bottom : n = -infiniteUnits
    · rw [if_pos (by omega), if_neg top, if_pos bottom, EReal.neg_bot]
    · rw [if_neg (by omega), if_neg top, if_neg top, if_neg bottom]
      rw [Int.cast_neg, neg_mul, EReal.coe_neg]

lemma extended_unitsOfMagnitude (m : ℕ) : extended (unitsOfMagnitude m) = size m := by
  have positive := infiniteUnits_pos
  have same : (unitsOfMagnitude m : ℤ) = infiniteUnits ↔ m = infiniteMagnitude := by
    rw [infiniteUnits, Int.ofNat_inj, strictMono_unitsOfMagnitude.injective.eq_iff]
  rw [extended, size]
  by_cases infinite : m = infiniteMagnitude
  · rw [if_pos (same.2 infinite), if_pos infinite]
  · rw [if_neg (mt same.1 infinite), if_neg (by omega), if_neg infinite, realOfMagnitude_eq,
      Int.cast_natCast]

/-- From one infinity to the other, larger values are those of larger numbers. -/
theorem extended_lt_iff {m n : ℤ} (hm : -infiniteUnits ≤ m ∧ m ≤ infiniteUnits)
    (hn : -infiniteUnits ≤ n ∧ n ≤ infiniteUnits) : extended m < extended n ↔ m < n := by
  have increasing : StrictMonoOn extended (Set.Icc (-infiniteUnits) infiniteUnits) := by
    rintro m ⟨low, -⟩ n ⟨-, high⟩ below
    have scale : (0 : ℝ) < 2 ^ (-1074 : ℤ) := zpow_pos two_pos _
    rw [extended, extended, if_neg (by omega : m ≠ infiniteUnits)]
    by_cases bottom : m = -infiniteUnits <;> by_cases top : n = infiniteUnits
    · rw [if_pos bottom, if_pos top]
      exact bot_lt_top
    · rw [if_pos bottom, if_neg top, if_neg (by omega)]
      exact EReal.bot_lt_coe _
    · rw [if_neg bottom, if_pos top]
      exact EReal.coe_lt_top _
    · rw [if_neg bottom, if_neg top, if_neg (by omega), EReal.coe_lt_coe_iff]
      exact mul_lt_mul_of_pos_right (Int.cast_lt.2 below) scale
  exact increasing.lt_iff_lt hm hn

/-! ## Numbers of words -/

lemma signedUnits_bounds (number : x.isNaN = false) :
    -infiniteUnits ≤ x.signedUnits ∧ x.signedUnits ≤ infiniteUnits := by
  have bound : x.units ≤ unitsOfMagnitude infiniteMagnitude :=
    strictMono_unitsOfMagnitude.monotone (isNaN_eq_false_iff.1 number)
  rw [signedUnits, infiniteUnits]
  split <;> omega

/-- The number of a word is that of its value. -/
lemma number?_eq (number : x.isNaN = false) : x.number? = some (extended x.signedUnits) := by
  rw [number?, number, if_neg Bool.false_ne_true, signedUnits, units]
  split
  · rw [extended_neg, extended_unitsOfMagnitude]
  · rw [extended_unitsOfMagnitude]

lemma number?_eq_none_iff : x.number? = none ↔ x.isNaN = true := by
  simp [number?]

lemma number?_zero : zero.number? = some 0 := by
  have positive := infiniteUnits_pos
  have value : zero.signedUnits = 0 := by decide
  rw [number?_eq rfl, value, extended, if_neg (by omega), if_neg (by omega), Int.cast_zero, zero_mul,
    EReal.coe_zero]

section

variable {v w : EReal} (hx : x.number? = some v) (hy : y.number? = some w)
include hx

lemma isNaN_of_number? : x.isNaN = false := by
  refine eq_false_of_ne_true fun noNumber => ?_
  rw [number?_eq_none_iff.2 noNumber] at hx
  cases hx

lemma eq_extended_of_number? : v = extended x.signedUnits := by
  rw [number?_eq (isNaN_of_number? hx)] at hx
  exact (Option.some.inj hx).symm

include hy

/-- **Words that stand for numbers are compared as these numbers.** -/
theorem lt_iff_of_number? : x.lt y = true ↔ v < w := by
  have number := isNaN_of_number? hx
  have number' := isNaN_of_number? hy
  rw [eq_extended_of_number? hx, eq_extended_of_number? hy,
    extended_lt_iff (signedUnits_bounds number) (signedUnits_bounds number'), signedUnits_lt_iff]
  simp [lt, number, number']

lemma le_iff_of_number? : x.le y = true ↔ v ≤ w := by
  rw [← not_lt, ← lt_iff_of_number? hy hx]
  simp [le, lt, isNaN_of_number? hx, isNaN_of_number? hy]

/-- **Words that stand for numbers are equal if these numbers are.** -/
theorem eq_iff_of_number? : x.eq y = true ↔ v = w := by
  have both : x.eq y = true ↔ x.le y = true ∧ y.le x = true := by
    simp [eq, le, isNaN_of_number? hx, isNaN_of_number? hy, Int.le_antisymm_iff]
  rw [both, le_iff_of_number? hx hy, le_iff_of_number? hy hx, ← le_antisymm_iff]

end

end Concordance.Binary64
