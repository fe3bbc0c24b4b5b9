import Concordance.Binary64.Arithmetic
import Concordance.Binary64.Order
import Concordance.Proofs.Binary64.Rounding
import Concordance.Proofs.Binary64.Units
import Concordance.Proofs.Binary64.Words

/-!
# Which results are numbers

Distances are differences, roots and sums, and each of these operations has operands for which it
delivers no number.  This module says where that does not happen, and where what is delivered is
not below zero; `zero.le x` says both of a double at once.

* `zero_le_sub` is the difference of two finite doubles in order.  It rests on the order of the
  exact values (`signedUnits_le_iff`) and may overflow.
* `zero_le_add`, `isNaN_sqrt_or_zero_le` and `isNaN_div_eq_false` are the other operations.
* In the other direction, a result that is finite has finite operands: `isFinite_of_add`,
  `isFinite_of_mul_self`, `isFinite_of_sqrt`.
* `zero_le_least` and `largest_spec` are the two folds over lists of distances.
-/

namespace Concordance.Binary64

variable {x y z : Binary64}

/-! ## Words -/

lemma infiniteMagnitude_lt_signWeight : infiniteMagnitude < signWeight := by decide

lemma toNat_bits_ofMagnitude (negative : Bool) {m : Nat} (small : m < signWeight) :
    (ofMagnitude negative m).bits.toNat = m + if negative then signWeight else 0 := by
  have weight : signWeight = 9223372036854775808 := rfl
  refine UInt64.toNat_ofNat_of_lt' ?_
  rw [UInt64.size]
  split <;> omega

lemma magnitude_ofMagnitude (negative : Bool) {m : Nat} (small : m < signWeight) :
    (ofMagnitude negative m).magnitude = m := by
  rw [magnitude, toNat_bits_ofMagnitude negative small]
  cases negative with
  | false => exact Nat.mod_eq_of_lt small
  | true =>
      rw [if_pos rfl, Nat.add_mod_right]
      exact Nat.mod_eq_of_lt small

lemma isNegative_ofMagnitude (negative : Bool) {m : Nat} (small : m < signWeight) :
    (ofMagnitude negative m).isNegative = negative := by
  rw [isNegative, toNat_bits_ofMagnitude negative small]
  cases negative with
  | false => exact decide_eq_false (Nat.not_le.2 small)
  | true => exact decide_eq_true (Nat.le_add_left _ _)

lemma magnitude_lt (x : Binary64) : x.magnitude < signWeight := Nat.mod_lt _ (by decide)

lemma isFinite_iff : x.isFinite = true ↔ x.magnitude < infiniteMagnitude := decide_eq_true_iff

lemma isNaN_eq_false_iff : x.isNaN = false ↔ x.magnitude ≤ infiniteMagnitude := by
  rw [isNaN, decide_eq_false_iff_not, Nat.not_lt]

lemma isNaN_of_isFinite (finite : x.isFinite = true) : x.isNaN = false :=
  isNaN_eq_false_iff.2 (Nat.le_of_lt (isFinite_iff.1 finite))

lemma isInfinite_of_isFinite (finite : x.isFinite = true) : x.isInfinite = false :=
  decide_eq_false (Nat.ne_of_lt (isFinite_iff.1 finite))

/-- A double is finite, infinite or no number. -/
lemma isFinite_eq (x : Binary64) : x.isFinite = (!x.isNaN && !x.isInfinite) := by
  rw [Bool.eq_iff_iff, isFinite_iff, Bool.and_eq_true, Bool.not_eq_true', Bool.not_eq_true',
    isNaN_eq_false_iff, isInfinite, decide_eq_false_iff_not]
  omega

lemma magnitude_neg (x : Binary64) : (neg x).magnitude = x.magnitude :=
  magnitude_ofMagnitude _ x.magnitude_lt

lemma isNegative_neg (x : Binary64) : (neg x).isNegative = !x.isNegative :=
  isNegative_ofMagnitude _ x.magnitude_lt

lemma isFinite_neg (x : Binary64) : (neg x).isFinite = x.isFinite := by
  rw [isFinite, magnitude_neg, isFinite]

lemma signedUnits_neg (x : Binary64) : (neg x).signedUnits = -x.signedUnits := by
  rw [signedUnits, signedUnits, units, units, magnitude_neg, isNegative_neg]
  cases x.isNegative with
  | false => rfl
  | true => exact (Int.neg_neg _).symm

/-! ## Numbers in order -/

lemma zero_le_iff : zero.le x = true ↔ x.isNaN = false ∧ 0 ≤ x.position := by
  have number : zero.isNaN = false := by decide
  have origin : zero.position = 0 := by decide
  rw [le, number, origin]
  simp

lemma position_of_not_isNegative (positive : x.isNegative = false) : x.position = x.magnitude := by
  rw [position, positive]
  rfl

lemma position_of_isNegative (negative : x.isNegative = true) : x.position = -x.magnitude := by
  rw [position, negative]
  rfl

lemma zero_le_of_not_isNegative (number : x.isNaN = false) (positive : x.isNegative = false) :
    zero.le x = true := by
  refine zero_le_iff.2 ⟨number, ?_⟩
  rw [position_of_not_isNegative positive]
  exact Int.natCast_nonneg _

/-- What is not below zero has no minus sign, zero apart. -/
lemma magnitude_eq_zero_of_isNegative (size : zero.le x = true) (negative : x.isNegative = true) :
    x.magnitude = 0 := by
  have place := (zero_le_iff.1 size).2
  rw [position_of_isNegative negative] at place
  omega

/-- Between finite doubles there are finite doubles only. -/
lemma isFinite_of_le_of_le (above : x.le y = true) (below : y.le z = true)
    (low : x.isFinite = true) (high : z.isFinite = true) : y.isFinite = true := by
  simp only [le, Bool.and_eq_true, decide_eq_true_eq] at above below
  rw [isFinite_iff] at low high ⊢
  have bounds := And.intro above.2 below.2
  simp only [position] at bounds
  split at bounds <;> split at bounds <;> split at bounds <;> omega

lemma zero_le_signedUnits (size : zero.le x = true) : 0 ≤ x.signedUnits := by
  have origin : zero.position = 0 := by decide
  have value : zero.signedUnits = 0 := by decide
  rw [← value, signedUnits_le_iff, origin]
  exact (zero_le_iff.1 size).2

/-! ## Rounding -/

lemma roundUnits_le (num den : Nat) : roundUnits num den ≤ infiniteMagnitude :=
  Nat.min_le_left _ _

lemma roundUnits_lt_signWeight (num den : Nat) : roundUnits num den < signWeight :=
  Nat.lt_of_le_of_lt (roundUnits_le num den) infiniteMagnitude_lt_signWeight

section

variable (negative : Bool) (num den : Nat)

lemma magnitude_ofUnits : (ofUnits negative num den).magnitude = roundUnits num den :=
  magnitude_ofMagnitude negative (roundUnits_lt_signWeight num den)

lemma isNegative_ofUnits : (ofUnits negative num den).isNegative = negative :=
  isNegative_ofMagnitude negative (roundUnits_lt_signWeight num den)

lemma isNaN_ofUnits : (ofUnits negative num den).isNaN = false := by
  rw [isNaN_eq_false_iff, magnitude_ofUnits]
  exact roundUnits_le num den

end

lemma isNaN_nan : nan.isNaN = true := by decide

lemma isFinite_nan : nan.isFinite = false := by decide

/-! ## Sums and differences -/

/-- Finite doubles have a sum, which may be infinite. -/
lemma isNaN_add_eq_false (hx : x.isFinite = true) (hy : y.isFinite = true) :
    (x + y).isNaN = false := by
  change (add x y).isNaN = false
  rw [add, isNaN_of_isFinite hx, isNaN_of_isFinite hy, isInfinite_of_isFinite hx,
    isInfinite_of_isFinite hy]
  simp only [Bool.or_self, Bool.false_eq_true, if_false]
  split
  · rw [isNaN_eq_false_iff, magnitude_ofMagnitude _ (by decide)]
    exact Nat.zero_le _
  · exact isNaN_ofUnits _ _ _

lemma zero_le_add_of_finite (hx : x.isFinite = true) (hy : y.isFinite = true)
    (sum : 0 ≤ x.signedUnits + y.signedUnits) : zero.le (x + y) = true := by
  have number := isNaN_add_eq_false hx hy
  refine zero_le_iff.2 ⟨number, ?_⟩
  change 0 ≤ (add x y).position
  rw [add, isNaN_of_isFinite hx, isNaN_of_isFinite hy, isInfinite_of_isFinite hx,
    isInfinite_of_isFinite hy]
  simp only [Bool.or_self, Bool.false_eq_true, if_false]
  split
  · rw [position, magnitude_ofMagnitude _ (by decide)]
    split <;> simp
  · have positive : decide (x.signedUnits + y.signedUnits < 0) = false :=
      decide_eq_false (Int.not_lt.2 sum)
    rw [positive, position_of_not_isNegative (isNegative_ofUnits _ _ _)]
    exact Int.natCast_nonneg _

/-- **The difference of finite doubles in order is a number that is not below zero**, though it
may be infinite. -/
theorem zero_le_sub (hx : x.isFinite = true) (hy : y.isFinite = true) (order : y.le x = true) :
    zero.le (x - y) = true := by
  have places : y.position ≤ x.position := by
    simp only [le, Bool.and_eq_true, decide_eq_true_eq] at order
    exact order.2
  have values := signedUnits_le_iff.2 places
  refine zero_le_add_of_finite (y := neg y) hx (by rwa [isFinite_neg]) ?_
  rw [signedUnits_neg]
  omega

lemma isNaN_sub_eq_false (hx : x.isFinite = true) (hy : y.isFinite = true) :
    (x - y).isNaN = false :=
  isNaN_add_eq_false (y := neg y) hx (by rwa [isFinite_neg])

/-- Only one of the two infinities is not below zero. -/
lemma isNegative_of_isInfinite (size : zero.le x = true) (infinite : x.isInfinite = true) :
    x.isNegative = false := by
  refine Bool.eq_false_iff.2 fun negative => ?_
  have origin := magnitude_eq_zero_of_isNegative size negative
  rw [isInfinite, origin] at infinite
  exact absurd infinite (by decide)

/-- **Sums of numbers that are not below zero are numbers that are not below zero.** -/
theorem zero_le_add (hx : zero.le x = true) (hy : zero.le y = true) : zero.le (x + y) = true := by
  have numbers := And.intro (zero_le_iff.1 hx).1 (zero_le_iff.1 hy).1
  cases infinite : x.isInfinite with
  | true =>
      have same : x + y = x := by
        change add x y = x
        rw [add, numbers.1, numbers.2, infinite, isNegative_of_isInfinite hx infinite]
        cases infinite' : y.isInfinite with
        | true =>
            rw [isNegative_of_isInfinite hy infinite']
            rfl
        | false => rfl
      rwa [same]
  | false =>
      cases infinite' : y.isInfinite with
      | true =>
          have same : x + y = y := by
            change add x y = y
            rw [add, numbers.1, numbers.2, infinite, infinite']
            rfl
          rwa [same]
      | false =>
          have finite : x.isFinite = true := by
            rw [isFinite_eq, numbers.1, infinite]
            rfl
          have finite' : y.isFinite = true := by
            rw [isFinite_eq, numbers.2, infinite']
            rfl
          exact zero_le_add_of_finite finite finite'
            (Int.add_nonneg (zero_le_signedUnits hx) (zero_le_signedUnits hy))

/-- A finite sum has finite terms. -/
lemma isFinite_of_add (h : (x + y).isFinite = true) : x.isFinite = true ∧ y.isFinite = true := by
  change (add x y).isFinite = true at h
  rw [add] at h
  split at h
  · rw [isFinite_nan] at h
    cases h
  rename_i numbers
  rw [Bool.or_eq_true, not_or, Bool.not_eq_true, Bool.not_eq_true] at numbers
  split at h
  · rename_i infinite
    split at h
    · rw [isFinite_nan] at h
      cases h
    · rw [isFinite_eq, infinite, Bool.not_true, Bool.and_false] at h
      cases h
  rename_i bounded
  split at h
  · rename_i infinite
    rw [isFinite_eq, infinite, Bool.not_true, Bool.and_false] at h
    cases h
  rename_i bounded'
  rw [isFinite_eq, isFinite_eq, numbers.1, numbers.2, Bool.eq_false_of_not_eq_true bounded,
    Bool.eq_false_of_not_eq_true bounded']
  exact ⟨rfl, rfl⟩

lemma isFinite_of_sub (h : (x - y).isFinite = true) : x.isFinite = true :=
  (isFinite_of_add (y := neg y) h).1

/-! ## Products and roots -/

lemma isFinite_of_mul_self (h : (x * x).isFinite = true) : x.isFinite = true := by
  change (mul x x).isFinite = true at h
  simp only [mul, Bool.or_self] at h
  split at h
  · rw [isFinite_nan] at h
    cases h
  rename_i number
  split at h
  · split at h
    · rw [isFinite_nan] at h
      cases h
    · rw [isFinite_iff, magnitude_ofMagnitude _ infiniteMagnitude_lt_signWeight] at h
      exact absurd h (Nat.lt_irrefl _)
  · rename_i bounded
    rw [isFinite_eq, Bool.eq_false_of_not_eq_true number, Bool.eq_false_of_not_eq_true bounded]
    rfl

lemma isFinite_of_sqrt (h : (sqrt x).isFinite = true) : x.isFinite = true := by
  rw [sqrt] at h
  split at h
  · rw [isFinite_nan] at h
    cases h
  rename_i number
  split at h
  · exact h
  split at h
  · rw [isFinite_nan] at h
    cases h
  split at h
  · exact h
  · rename_i bounded
    rw [isFinite_eq, Bool.eq_false_of_not_eq_true number, Bool.eq_false_of_not_eq_true bounded]
    rfl

/-- A root is no number, or it is not below zero. -/
lemma isNaN_sqrt_or_zero_le (x : Binary64) : (sqrt x).isNaN = true ∨ zero.le (sqrt x) = true := by
  rw [sqrt]
  split
  · exact .inl isNaN_nan
  rename_i number
  have isNumber := Bool.eq_false_of_not_eq_true number
  split
  · rename_i isZero
    have origin : x.magnitude = 0 := of_decide_eq_true isZero
    refine .inr (zero_le_iff.2 ⟨isNumber, ?_⟩)
    rw [position, origin]
    split <;> simp
  split
  · exact .inl isNaN_nan
  rename_i positive
  split
  · exact .inr (zero_le_of_not_isNegative isNumber (Bool.eq_false_of_not_eq_true positive))
  · exact .inr (zero_le_of_not_isNegative (isNaN_ofUnits _ _ _) (isNegative_ofUnits _ _ _))

lemma zero_le_abs (number : x.isNaN = false) : zero.le x.abs = true := by
  have bound := isNaN_eq_false_iff.1 number
  refine zero_le_of_not_isNegative ?_ (isNegative_ofMagnitude false x.magnitude_lt)
  rwa [isNaN_eq_false_iff, abs, magnitude_ofMagnitude _ x.magnitude_lt]

/-- A number that is not below zero has a quotient by a finite positive one. -/
lemma isNaN_div_eq_false (size : x.isNaN = false) (finite : y.isFinite = true)
    (nonzero : y.isZero = false) : (x / y).isNaN = false := by
  change (div x y).isNaN = false
  have top : ∀ negative, (ofMagnitude negative infiniteMagnitude).isNaN = false := by
    intro negative
    rw [isNaN_eq_false_iff, magnitude_ofMagnitude _ infiniteMagnitude_lt_signWeight]
  simp only [div, size, isNaN_of_isFinite finite, isInfinite_of_isFinite finite, nonzero,
    Bool.or_self, Bool.false_eq_true, if_false]
  split
  · exact top _
  · exact isNaN_ofUnits _ _ _

/-! ## Folds -/

/-- The least of numbers that are not below zero is not below zero. -/
lemma zero_le_least {xs : List Binary64} (sizes : ∀ x ∈ xs, zero.le x = true) :
    zero.le (least xs) = true := by
  have start : ∀ acc, zero.le acc = true → zero.le (xs.foldl min acc) = true := by
    induction xs with
    | nil => exact fun acc size => size
    | cons x rest ih =>
        intro acc size
        obtain ⟨first, others⟩ := List.forall_mem_cons.1 sizes
        refine ih others _ ?_
        rw [min]
        split
        · exact size
        · exact first
  exact start infinity (by decide)

lemma zero_le_foldl_add {xs : List Binary64} (sizes : ∀ x ∈ xs, zero.le x = true)
    {acc : Binary64} (size : zero.le acc = true) : zero.le (xs.foldl add acc) = true := by
  induction xs generalizing acc with
  | nil => exact size
  | cons x rest ih =>
      obtain ⟨first, others⟩ := List.forall_mem_cons.1 sizes
      exact ih others (zero_le_add size first)

lemma le_refl (number : x.isNaN = false) : x.le x = true := by
  rw [le, number]
  simp

lemma le_trans (h : x.le y = true) (h' : y.le z = true) : x.le z = true := by
  simp only [le, Bool.and_eq_true, decide_eq_true_eq] at h h' ⊢
  exact ⟨⟨h.1.1, h'.1.2⟩, Int.le_trans h.2 h'.2⟩

/-- Of two numbers the larger one is kept. -/
lemma max_spec (hx : x.isNaN = false) (hy : y.isNaN = false) :
    (max x y = x ∨ max x y = y) ∧ x.le (max x y) = true ∧ y.le (max x y) = true := by
  rw [max, hy, Bool.false_or]
  split
  · rename_i below
    simp only [lt, Bool.and_eq_true, decide_eq_true_eq] at below
    refine ⟨.inl rfl, le_refl hx, ?_⟩
    simp only [le, Bool.and_eq_true, decide_eq_true_eq]
    exact ⟨below.1, Int.le_of_lt below.2⟩
  · rename_i above
    simp only [lt, hx, hy, Bool.not_false, Bool.and_self, Bool.true_and, decide_eq_true_eq] at above
    refine ⟨.inr rfl, ?_, le_refl hy⟩
    simp only [le, hx, hy, Bool.not_false, Bool.and_self, Bool.true_and, decide_eq_true_eq]
    exact Int.not_lt.1 above

lemma foldl_max_spec {xs : List Binary64} (numbers : ∀ x ∈ xs, x.isNaN = false) {acc : Binary64}
    (number : acc.isNaN = false) :
    (xs.foldl max acc = acc ∨ xs.foldl max acc ∈ xs) ∧ acc.le (xs.foldl max acc) = true ∧
      ∀ x ∈ xs, x.le (xs.foldl max acc) = true := by
  induction xs generalizing acc with
  | nil => exact ⟨.inl rfl, le_refl number, fun x member => absurd member List.not_mem_nil⟩
  | cons x rest ih =>
      obtain ⟨first, others⟩ := List.forall_mem_cons.1 numbers
      obtain ⟨kept, above, above'⟩ := max_spec number first
      have still : (max acc x).isNaN = false := by
        rcases kept with same | same <;> rw [same]
        · exact number
        · exact first
      obtain ⟨found, behind, bounds⟩ := ih others still
      rw [List.foldl_cons]
      refine ⟨?_, le_trans above behind, List.forall_mem_cons.2 ⟨le_trans above' behind, bounds⟩⟩
      rcases found with same | member
      · rcases kept with same' | same'
        · exact .inl (same.trans same')
        · exact .inr (List.mem_cons.2 (.inl (same.trans same')))
      · exact .inr (List.mem_cons_of_mem _ member)

/-- **The largest of numbers that are not below zero is one of them and bounds them all.** -/
theorem largest_spec {xs : List Binary64} (nonempty : xs ≠ [])
    (sizes : ∀ x ∈ xs, zero.le x = true) :
    xs.foldl max negInfinity ∈ xs ∧ ∀ x ∈ xs, x.le (xs.foldl max negInfinity) = true := by
  have numbers : ∀ x ∈ xs, x.isNaN = false := fun x member => (zero_le_iff.1 (sizes x member)).1
  obtain ⟨found, _, bounds⟩ := foldl_max_spec numbers (by decide : negInfinity.isNaN = false)
  refine ⟨found.resolve_left fun same => ?_, bounds⟩
  -- the start of the fold is below every member, so it is not what is left
  obtain ⟨x, rest, rfl⟩ := List.exists_cons_of_ne_nil nonempty
  have size := sizes x List.mem_cons_self
  have below := bounds x List.mem_cons_self
  rw [same] at below
  exact absurd (le_trans size below) (by decide)

end Concordance.Binary64
