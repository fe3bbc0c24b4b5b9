import Concordance.Proofs.Binary64.Exact
import Mathlib.Algebra.Order.Field.Rat
import Mathlib.Algebra.Order.Group.Abs
import Mathlib.Data.Rat.Cast.Order
import Mathlib.Tactic.FieldSimp
import Mathlib.Tactic.Linarith
import Mathlib.Tactic.NormNum
import Mathlib.Tactic.Positivity

/-!
# What is rounded to a magnitude

The numbers that are rounded to one magnitude make up its cell: everything between the middles of
the two gaps beside it, and a middle as well if the magnitude is even.

* `abs_sub_divHalfEven_le` is the cell of an integer, and `abs_divHalfEven_sub_le` says that none
  is nearer.
* `eq_of_cells` keeps the cells of two magnitudes apart.
* `roundUnits_eq_iff` says that `roundUnits` finds the cell.  A quotient is shifted before it is
  rounded, so at a power of two the two gaps come from different shifts; in `low_of_significand`
  and `high_of_significand` these are the significands at either end.
* `cell_of_nearer` says what a magnitude with equal gaps has and a power of two has not: whatever
  is nearer than a number in its cell is in its cell.
-/

namespace Concordance

/-! ## Integers -/

lemma cast_div_eq_add (num : Nat) {den : Nat} (positive : 0 < den) :
    (num / den : ℚ) = (num / den : Nat) + (num % den : Nat) / den := by
  have divisor : (den : ℚ) ≠ 0 := Nat.cast_ne_zero.2 positive.ne'
  rw [eq_comm, eq_div_iff divisor, add_mul, div_mul_cancel₀ _ divisor, mul_comm]
  exact_mod_cast Nat.div_add_mod num den

/-- **An integer differs from what is rounded to it by at most a half**, and by less if it is
odd. -/
theorem abs_sub_divHalfEven_le (num : Nat) {den : Nat} (positive : 0 < den) :
    |(num / den : ℚ) - divHalfEven num den| ≤ 1 / 2 ∧
      (divHalfEven num den % 2 = 1 → |(num / den : ℚ) - divHalfEven num den| < 1 / 2) := by
  have divisor : (0 : ℚ) < den := Nat.cast_pos.2 positive
  have below : (num % den : Nat) / (den : ℚ) < 1 := by
    rw [div_lt_one divisor]
    exact_mod_cast Nat.mod_lt num positive
  have least : (0 : ℚ) ≤ (num % den : Nat) / (den : ℚ) := by positivity
  rw [cast_div_eq_add num positive]
  simp only [divHalfEven]
  rcases Nat.lt_trichotomy (2 * (num % den)) den with less | half | more
  · have remainder : (num % den : Nat) / (den : ℚ) < 1 / 2 := by
      rw [div_lt_div_iff₀ divisor two_pos]
      exact_mod_cast (by omega : num % den * 2 < 1 * den)
    rw [if_pos less, add_sub_cancel_left, abs_of_nonneg least]
    exact ⟨remainder.le, fun _ => remainder⟩
  · have remainder : (num % den : Nat) / (den : ℚ) = 1 / 2 := by
      rw [div_eq_div_iff divisor.ne' two_ne_zero]
      exact_mod_cast (by omega : num % den * 2 = 1 * den)
    rw [if_neg (by omega), if_neg (by omega), remainder]
    rcases Nat.mod_two_eq_zero_or_one (num / den) with even | odd
    · rw [even]
      refine ⟨?_, fun odd => by omega⟩
      norm_num
    · rw [odd]
      refine ⟨?_, fun odd => by omega⟩
      push_cast
      norm_num
  · have remainder : 1 / 2 < (num % den : Nat) / (den : ℚ) := by
      rw [div_lt_div_iff₀ two_pos divisor]
      exact_mod_cast (by omega : 1 * den < num % den * 2)
    rw [if_neg (by omega), if_pos more]
    have distance :
        |(num / den : Nat) + (num % den : Nat) / (den : ℚ) - ((num / den + 1 : Nat) : ℚ)| < 1 / 2 := by
      push_cast
      rw [abs_lt]
      constructor <;> linarith
    exact ⟨distance.le, fun _ => distance⟩

/-- **No integer is nearer to a quotient than what it is rounded to.** -/
theorem abs_divHalfEven_sub_le (num : Nat) {den : Nat} (positive : 0 < den) (other : Nat) :
    |(divHalfEven num den : ℚ) - num / den| ≤ |(other : ℚ) - num / den| := by
  obtain ⟨half, _⟩ := abs_sub_divHalfEven_le num positive
  rw [abs_sub_comm] at half
  by_cases same : other = divHalfEven num den
  · rw [same]
  · have apart : (1 : ℚ) ≤ |(other : ℚ) - divHalfEven num den| := by
      have whole : (1 : ℤ) ≤ |(other : ℤ) - divHalfEven num den| := by
        refine Int.one_le_abs (sub_ne_zero.2 ?_)
        exact_mod_cast same
      exact_mod_cast whole
    have detour := abs_sub_le (other : ℚ) (num / den) (divHalfEven num den)
    rw [abs_sub_comm (num / den : ℚ)] at detour
    linarith

namespace Binary64

/-! ## Cells -/

/-- The numbers that are rounded to a magnitude, in multiples of `2 ^ -1074`. -/
structure Cell (m : Nat) (v : ℚ) : Prop where
  low : (unitsOfMagnitude (m - 1) + unitsOfMagnitude m : ℚ) ≤ 2 * v
  high : 2 * v ≤ unitsOfMagnitude m + unitsOfMagnitude (m + 1)
  /-- An odd magnitude leaves the middles to its neighbours. -/
  inner : m % 2 = 1 → (unitsOfMagnitude (m - 1) + unitsOfMagnitude m : ℚ) < 2 * v ∧
    2 * v < unitsOfMagnitude m + unitsOfMagnitude (m + 1)

/-- No number is in two cells. -/
lemma not_cell_of_lt {m n : Nat} {v : ℚ} (h : m < n) (first : Cell m v) : ¬ Cell n v := by
  intro second
  have below := strictMono_unitsOfMagnitude.monotone (by omega : m ≤ n - 1)
  have above := strictMono_unitsOfMagnitude.monotone (by omega : m + 1 ≤ n)
  have order : (unitsOfMagnitude m + unitsOfMagnitude (m + 1) : ℚ)
      ≤ unitsOfMagnitude (n - 1) + unitsOfMagnitude n := by
    exact_mod_cast Nat.add_le_add below above
  rcases Nat.lt_or_ge (m + 1) n with apart | next
  · have strict : (unitsOfMagnitude (m + 1) : ℚ) < unitsOfMagnitude n := by
      exact_mod_cast strictMono_unitsOfMagnitude apart
    have before : (unitsOfMagnitude m : ℚ) ≤ unitsOfMagnitude (n - 1) := by exact_mod_cast below
    linarith [first.high, second.low]
  · -- of two neighbours one is odd
    rcases Nat.mod_two_eq_zero_or_one m with even | odd
    · linarith [first.high, (second.inner (by omega)).1]
    · linarith [(first.inner odd).2, second.low]

lemma eq_of_cells {m n : Nat} {v : ℚ} (first : Cell m v) (second : Cell n v) : m = n := by
  rcases Nat.lt_trichotomy m n with less | same | more
  · exact absurd second (not_cell_of_lt less first)
  · exact same
  · exact absurd first (not_cell_of_lt more second)

/-! ## Rounding -/

section

variable {k q : Nat} {w : ℚ} (least : k = 0 ∨ 2 ^ 52 ≤ q) (most : q ≤ 2 ^ 53)
  (near : |w - q| ≤ 1 / 2) (odd : q % 2 = 1 → |w - q| < 1 / 2)

include least most near odd

/-- A significand is above the lower end of its cell.  The least significand of a shift has a
shorter gap below it, and nothing in that gap has this shift. -/
lemma low_of_significand (low : k = 0 ∧ 0 ≤ w ∨ 2 ^ 52 ≤ w) :
    (unitsOfMagnitude (k * 2 ^ 52 + q - 1) + unitsOfMagnitude (k * 2 ^ 52 + q) : ℚ)
        ≤ 2 * (w * 2 ^ k) ∧
      (q % 2 = 1 → (unitsOfMagnitude (k * 2 ^ 52 + q - 1) + unitsOfMagnitude (k * 2 ^ 52 + q) : ℚ)
        < 2 * (w * 2 ^ k)) := by
  have scale : (0 : ℚ) < 2 ^ k := by positivity
  have value : (unitsOfMagnitude (k * 2 ^ 52 + q) : ℚ) = q * 2 ^ k := by
    exact_mod_cast unitsOfMagnitude_eq least most
  by_cases inside : k = 0 ∧ 1 ≤ q ∨ 2 ^ 52 < q
  · have below : (unitsOfMagnitude (k * 2 ^ 52 + q - 1) : ℚ) = (q - 1) * 2 ^ k := by
      obtain ⟨p, rfl⟩ : ∃ p, q = p + 1 := ⟨q - 1, by omega⟩
      rw [← Nat.add_assoc, Nat.add_sub_cancel, unitsOfMagnitude_eq (by omega) (by omega)]
      push_cast
      ring
    have middle : ((q - 1) * 2 ^ k + q * 2 ^ k : ℚ) = (2 * q - 1) * 2 ^ k := by ring
    rw [value, below, middle, ← mul_assoc, mul_le_mul_iff_left₀ scale, mul_lt_mul_iff_left₀ scale]
    refine ⟨?_, fun h => ?_⟩
    · linarith [(abs_le.1 near).1]
    · linarith [(abs_lt.1 (odd h)).1]
  · have least : (q : ℚ) ≤ w := by
      rcases low with ⟨rfl, positive⟩ | normal
      · obtain rfl : q = 0 := by omega
        simpa using positive
      · have small : (q : ℚ) ≤ 2 ^ 52 := by exact_mod_cast (by omega : q ≤ 2 ^ 52)
        exact small.trans normal
    have below : (unitsOfMagnitude (k * 2 ^ 52 + q - 1) : ℚ)
        ≤ unitsOfMagnitude (k * 2 ^ 52 + q) := by
      exact_mod_cast strictMono_unitsOfMagnitude.monotone (Nat.sub_le _ 1)
    have bound : (q * 2 ^ k : ℚ) ≤ w * 2 ^ k := mul_le_mul_of_nonneg_right least scale.le
    refine ⟨by linarith, fun h => ?_⟩
    omega

/-- A significand is below the upper end of its cell. -/
lemma high_of_significand (high : w ≤ 2 ^ 53) :
    2 * (w * 2 ^ k)
        ≤ (unitsOfMagnitude (k * 2 ^ 52 + q) + unitsOfMagnitude (k * 2 ^ 52 + q + 1) : ℚ) ∧
      (q % 2 = 1 → 2 * (w * 2 ^ k)
        < (unitsOfMagnitude (k * 2 ^ 52 + q) + unitsOfMagnitude (k * 2 ^ 52 + q + 1) : ℚ)) := by
  have scale : (0 : ℚ) < 2 ^ k := by positivity
  have value : (unitsOfMagnitude (k * 2 ^ 52 + q) : ℚ) = q * 2 ^ k := by
    exact_mod_cast unitsOfMagnitude_eq least most
  by_cases inside : q < 2 ^ 53
  · have above : (unitsOfMagnitude (k * 2 ^ 52 + q + 1) : ℚ) = (q + 1) * 2 ^ k := by
      have next := unitsOfMagnitude_eq (k := k) (q := q + 1) (by omega) inside
      rw [← Nat.add_assoc] at next
      exact_mod_cast next
    have middle : (q * 2 ^ k + (q + 1) * 2 ^ k : ℚ) = (2 * q + 1) * 2 ^ k := by ring
    rw [value, above, middle, ← mul_assoc, mul_le_mul_iff_left₀ scale, mul_lt_mul_iff_left₀ scale]
    refine ⟨?_, fun h => ?_⟩
    · linarith [(abs_le.1 near).2]
    · linarith [(abs_lt.1 (odd h)).2]
  · have carried : (q : ℚ) = 2 ^ 53 := by exact_mod_cast (by omega : q = 2 ^ 53)
    have above : (unitsOfMagnitude (k * 2 ^ 52 + q) : ℚ)
        ≤ unitsOfMagnitude (k * 2 ^ 52 + q + 1) := by
      exact_mod_cast strictMono_unitsOfMagnitude.monotone (Nat.le_succ _)
    have bound : w * 2 ^ k ≤ q * 2 ^ k := by
      rw [carried]
      exact mul_le_mul_of_nonneg_right high scale.le
    refine ⟨by linarith, fun h => ?_⟩
    omega

end

variable {num den : Nat}

/-- The magnitude that a quotient would be rounded to if there were no infinity. -/
def unbounded (num den : Nat) : Nat :=
  ((num / den).log2 - 52) * 2 ^ 52 + divHalfEven num (den * 2 ^ ((num / den).log2 - 52))

lemma roundUnits_eq_min (num den : Nat) :
    roundUnits num den = Min.min infiniteMagnitude (unbounded num den) := rfl

/-- A quotient that is shifted at all has its hidden bit. -/
lemma le_shifted (positive : 0 < den) (shift : 0 < (num / den).log2 - 52) :
    2 ^ 52 * (den * 2 ^ ((num / den).log2 - 52)) ≤ num := by
  have nonzero : num / den ≠ 0 := by
    intro zero
    rw [zero, Nat.log2_zero] at shift
    omega
  calc 2 ^ 52 * (den * 2 ^ ((num / den).log2 - 52))
      = 2 ^ (52 + ((num / den).log2 - 52)) * den := by ring
    _ = 2 ^ (num / den).log2 * den := by rw [Nat.add_sub_cancel' (by omega)]
    _ ≤ num := (Nat.le_div_iff_mul_le positive).1 (Nat.log2_self_le nonzero)

/-- **A quotient is in the cell of the magnitude that it is rounded to.** -/
theorem cell_unbounded (positive : 0 < den) : Cell (unbounded num den) (num / den) := by
  have size : num < 2 ^ 53 * (den * 2 ^ ((num / den).log2 - 52)) := lt_shifted positive
  have hidden : 0 < (num / den).log2 - 52 → 2 ^ 52 * (den * 2 ^ ((num / den).log2 - 52)) ≤ num :=
    le_shifted positive
  rw [unbounded]
  generalize (num / den).log2 - 52 = k at size hidden ⊢
  have scaled : 0 < den * 2 ^ k := Nat.mul_pos positive (Nat.two_pow_pos k)
  have divisor : (0 : ℚ) < (den * 2 ^ k : Nat) := by exact_mod_cast scaled
  have value : (num / den : ℚ) = num / (den * 2 ^ k : Nat) * 2 ^ k := by
    push_cast
    rw [div_mul_eq_mul_div, mul_div_mul_right _ _ (by positivity)]
  have most : divHalfEven num (den * 2 ^ k) ≤ 2 ^ 53 := divHalfEven_le scaled size.le
  have high : (num / (den * 2 ^ k : Nat) : ℚ) ≤ 2 ^ 53 := by
    rw [div_le_iff₀ divisor]
    exact_mod_cast size.le
  have low : (k = 0 ∨ 2 ^ 52 ≤ divHalfEven num (den * 2 ^ k)) ∧
      (k = 0 ∧ (0 : ℚ) ≤ num / (den * 2 ^ k : Nat) ∨
        (2 : ℚ) ^ 52 ≤ num / (den * 2 ^ k : Nat)) := by
    rcases Nat.eq_zero_or_pos k with unshifted | shifted
    · exact ⟨.inl unshifted, .inl ⟨unshifted, by positivity⟩⟩
    · have quotient : 2 ^ 52 ≤ num / (den * 2 ^ k) :=
        (Nat.le_div_iff_mul_le scaled).2 (hidden shifted)
      refine ⟨.inr (quotient.trans (le_divHalfEven _ _)), .inr ?_⟩
      rw [le_div_iff₀ divisor]
      exact_mod_cast hidden shifted
  obtain ⟨near, odd⟩ := abs_sub_divHalfEven_le num scaled
  obtain ⟨below, strictlyBelow⟩ := low_of_significand low.1 most near odd low.2
  obtain ⟨above, strictlyAbove⟩ := high_of_significand low.1 most near odd high
  rw [value]
  exact ⟨below, above, fun h => ⟨strictlyBelow (by omega), strictlyAbove (by omega)⟩⟩

/-- **A quotient is rounded to the magnitude in whose cell it is.** -/
theorem roundUnits_eq_iff {m : Nat} (finite : m < infiniteMagnitude) (positive : 0 < den) :
    roundUnits num den = m ↔ Cell m (num / den) := by
  have own : Cell (unbounded num den) (num / den) := cell_unbounded positive
  rw [roundUnits_eq_min]
  constructor
  · intro rounded
    have below : unbounded num den = m := by omega
    exact below ▸ own
  · intro cell
    rw [eq_of_cells own cell, Nat.min_eq_right finite.le]

/-! ## Gaps -/

/-- Whether the neighbours of a magnitude are equally far.  Powers of two have their lower
neighbour at half the distance, down to the least number with a hidden bit. -/
def IsEvenlySpaced (m : Nat) : Prop :=
  unitsOfMagnitude (m - 1) + unitsOfMagnitude (m + 1) = 2 * unitsOfMagnitude m

instance (m : Nat) : Decidable (IsEvenlySpaced m) :=
  inferInstanceAs (Decidable (_ = _))

/-- Between equal gaps a cell reaches half a gap to either side. -/
lemma cell_iff_of_evenlySpaced {m : Nat} {v : ℚ} (even : IsEvenlySpaced m) :
    Cell m v ↔ 2 * |v - unitsOfMagnitude m| ≤ unitsOfMagnitude (m + 1) - unitsOfMagnitude m ∧
      (m % 2 = 1 →
        2 * |v - unitsOfMagnitude m| < unitsOfMagnitude (m + 1) - unitsOfMagnitude m) := by
  have gaps : (unitsOfMagnitude (m - 1) + unitsOfMagnitude (m + 1) : ℚ)
      = 2 * unitsOfMagnitude m := by exact_mod_cast even
  have closed : 2 * |v - unitsOfMagnitude m| ≤ unitsOfMagnitude (m + 1) - unitsOfMagnitude m ↔
      (unitsOfMagnitude (m - 1) + unitsOfMagnitude m : ℚ) ≤ 2 * v ∧
        2 * v ≤ unitsOfMagnitude m + unitsOfMagnitude (m + 1) := by
    rw [← le_div_iff₀' two_pos, abs_le]
    constructor <;> rintro ⟨below, above⟩ <;> constructor <;> linarith
  have inner : 2 * |v - unitsOfMagnitude m| < unitsOfMagnitude (m + 1) - unitsOfMagnitude m ↔
      (unitsOfMagnitude (m - 1) + unitsOfMagnitude m : ℚ) < 2 * v ∧
        2 * v < unitsOfMagnitude m + unitsOfMagnitude (m + 1) := by
    rw [← lt_div_iff₀' two_pos, abs_lt]
    constructor <;> rintro ⟨below, above⟩ <;> constructor <;> linarith
  rw [closed, inner]
  exact ⟨fun cell => ⟨⟨cell.low, cell.high⟩, cell.inner⟩, fun h => ⟨h.1.1, h.1.2, h.2⟩⟩

/-- **Between equal gaps, what is nearer than a number of the cell is in the cell.** -/
theorem cell_of_nearer {m : Nat} {v w : ℚ} (even : IsEvenlySpaced m) (cell : Cell m v)
    (nearer : |w - unitsOfMagnitude m| ≤ |v - unitsOfMagnitude m|) : Cell m w := by
  obtain ⟨near, inner⟩ := (cell_iff_of_evenlySpaced even).1 cell
  refine (cell_iff_of_evenlySpaced even).2 ⟨by linarith, fun odd => ?_⟩
  linarith [inner odd]

/-- A magnitude is in its own cell. -/
lemma cell_self (m : Nat) : Cell m (unitsOfMagnitude m) := by
  have below : (unitsOfMagnitude (m - 1) : ℚ) ≤ unitsOfMagnitude m := by
    exact_mod_cast strictMono_unitsOfMagnitude.monotone (Nat.sub_le m 1)
  have above : (unitsOfMagnitude m : ℚ) < unitsOfMagnitude (m + 1) := by
    exact_mod_cast strictMono_unitsOfMagnitude (Nat.lt_succ_self m)
  refine ⟨by linarith, by linarith, fun odd => ⟨?_, by linarith⟩⟩
  have strict : (unitsOfMagnitude (m - 1) : ℚ) < unitsOfMagnitude m := by
    exact_mod_cast strictMono_unitsOfMagnitude (by omega : m - 1 < m)
  linarith

end Binary64
end Concordance
