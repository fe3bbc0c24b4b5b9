import Concordance.Decimal.Reader
import Mathlib.Tactic.Ring

/-!
# The digits of a number

`Decimal.digits` is seen through the number of digits and through the text that they make.

* `lt_pow_iff_digitCount_le` ties the number of digits to the powers of ten.
* `ofDigitChars_natText` reads the text of a number back, and `isDigit_of_mem_natText` says that
  it holds digits only; `natText_eq_toString` compares it with the text of the core library.
* `extend` is how a reader of digits goes on from a number, and `goOn` how it does on a text.  The
  number never falls on the way (`le_extend`, `le_goOn`), so a reader that minds a bound at every
  digit minds it at the end.
-/

namespace Concordance.Decimal

/-! ## How many there are -/

lemma digits_of_lt {n : Nat} (small : n < 10) : digits n = [n] := by
  rw [digits, if_pos small]

lemma digits_of_le {n : Nat} (large : 10 ≤ n) : digits n = digits (n / 10) ++ [n % 10] := by
  rw [digits, if_neg (Nat.not_lt.2 large)]

lemma digitCount_of_lt {n : Nat} (small : n < 10) : digitCount n = 1 := by
  rw [digitCount, digits_of_lt small, List.length_singleton]

lemma digitCount_of_le {n : Nat} (large : 10 ≤ n) : digitCount n = digitCount (n / 10) + 1 := by
  rw [digitCount, digits_of_le large, List.length_append, List.length_singleton, digitCount]

lemma digitCount_pos (n : Nat) : 0 < digitCount n := List.length_pos_iff.2 (digits_ne_nil n)

/-- A zero behind a number is one more digit. -/
lemma digitCount_ten_mul {n : Nat} (positive : 0 < n) : digitCount (10 * n) = digitCount n + 1 := by
  rw [digitCount_of_le (by omega), Nat.mul_div_cancel_left n (by decide)]

/-- **A number has at most `k` digits exactly if it is below `10 ^ k`.** -/
theorem lt_pow_iff_digitCount_le {n k : Nat} (positive : 0 < k) :
    n < 10 ^ k ↔ digitCount n ≤ k := by
  induction k generalizing n with
  | zero => exact absurd positive (Nat.lt_irrefl 0)
  | succ k ih =>
      by_cases small : n < 10
      · rw [digitCount_of_lt small]
        refine ⟨fun _ => positive, fun _ => Nat.lt_of_lt_of_le small ?_⟩
        exact Nat.le_self_pow (Nat.succ_ne_zero k) 10
      · have large : 10 ≤ n := Nat.le_of_not_lt small
        rw [digitCount_of_le large, Nat.add_le_add_iff_right, Nat.pow_succ,
          ← Nat.div_lt_iff_lt_mul (by decide)]
        by_cases one : k = 0
        · subst one
          have first := digitCount_pos (n / 10)
          have nonzero : 0 < n / 10 := by omega
          omega
        · exact ih (Nat.pos_of_ne_zero one)

/-! ## Their text -/

lemma isDigit_iff {c : Char} : c.isDigit = true ↔ 48 ≤ c.toNat ∧ c.toNat ≤ 57 := by
  simp only [Char.isDigit, Bool.and_eq_true, decide_eq_true_eq]
  exact Iff.rfl

lemma ne_of_isDigit {c other : Char} (digit : c.isDigit = true) (h : other.isDigit = false) :
    c ≠ other := by
  rintro rfl
  exact Bool.false_ne_true (h.symm.trans digit)

lemma isDigit_digitChar : ∀ d < 10, (digitChar d).isDigit = true := by decide

lemma digitValue_digitChar : ∀ d < 10, digitValue (digitChar d) = d := by decide

lemma natText_ne_nil (n : Nat) : natText n ≠ [] := by
  rw [natText, Ne, List.map_eq_nil_iff]
  exact digits_ne_nil n

lemma length_natText (n : Nat) : (natText n).length = digitCount n := List.length_map _

lemma isDigit_of_mem_natText {n : Nat} {c : Char} (h : c ∈ natText n) : c.isDigit = true := by
  obtain ⟨d, member, rfl⟩ := List.mem_map.1 h
  exact isDigit_digitChar d (lt_ten_of_mem_digits member)

/-- The text of a natural number begins with a digit. -/
lemma natText_eq_cons (n : Nat) : ∃ c rest, natText n = c :: rest ∧ c.isDigit = true := by
  obtain ⟨c, rest, split⟩ := List.exists_cons_of_ne_nil (natText_ne_nil n)
  exact ⟨c, rest, split, isDigit_of_mem_natText (split ▸ List.mem_cons_self)⟩

lemma map_digitValue_natText (n : Nat) : (natText n).map digitValue = digits n := by
  rw [natText, List.map_map]
  refine (List.map_congr_left fun d member => ?_).trans (List.map_id _)
  exact digitValue_digitChar d (lt_ten_of_mem_digits member)

/-- **The text of a number is read as that number.** -/
theorem ofDigitChars_natText (n : Nat) : ofDigitChars (natText n) = n := by
  rw [ofDigitChars, map_digitValue_natText, ofDigits_digits]

lemma digitChar_eq : ∀ d < 10, digitChar d = Nat.digitChar d := by decide

lemma natText_eq_toDigits (n : Nat) : natText n = Nat.toDigits 10 n := by
  induction n using Nat.strongRecOn with
  | ind n ih =>
      rw [Nat.toDigits_eq_if (by decide), natText]
      by_cases small : n < 10
      · rw [if_pos small, digits_of_lt small, List.map_singleton, digitChar_eq n small]
      · have last : n % 10 < 10 := Nat.mod_lt n (by decide)
        rw [if_neg small, digits_of_le (Nat.le_of_not_lt small), List.map_append,
          List.map_singleton, digitChar_eq _ last, ← ih (n / 10) (by omega), natText]

/-- **The text of a number is its usual text.** -/
theorem natText_eq_toString (n : Nat) : natText n = (toString n).toList := by
  rw [natText_eq_toDigits, Nat.toString_eq_repr, Nat.toList_repr]

/-! ## Reading digit by digit -/

/-- The number whose digits are those of `acc` and then others. -/
def extend (acc : Nat) (ds : List Nat) : Nat := ds.foldl (fun acc d => 10 * acc + d) acc

lemma extend_cons (acc d : Nat) (rest : List Nat) :
    extend acc (d :: rest) = extend (10 * acc + d) rest := rfl

lemma ofDigits_append (ds others : List Nat) :
    ofDigits (ds ++ others) = extend (ofDigits ds) others := by
  rw [ofDigits, List.foldl_append, extend, ofDigits]

/-- More digits make no smaller number. -/
lemma le_extend (acc : Nat) (ds : List Nat) : acc ≤ extend acc ds := by
  induction ds generalizing acc with
  | nil => exact Nat.le_refl acc
  | cons d rest ih =>
      have step : acc ≤ 10 * acc + d := by omega
      rw [extend_cons]
      exact Nat.le_trans step (ih _)

lemma extend_replicate (acc k : Nat) : extend acc (List.replicate k 0) = acc * 10 ^ k := by
  induction k generalizing acc with
  | zero => exact (Nat.mul_one acc).symm
  | succ k ih =>
      rw [List.replicate_succ, extend_cons, ih]
      ring

/-- Zeros in front make no difference. -/
lemma ofDigits_replicate_append (k : Nat) (ds : List Nat) :
    ofDigits (List.replicate k 0 ++ ds) = ofDigits ds := by
  have zeros : ofDigits (List.replicate k 0) = 0 := (extend_replicate 0 k).trans (Nat.zero_mul _)
  rw [ofDigits_append, zeros, extend, ofDigits]

/-- The number whose digits are those of `acc` and then those of a text. -/
def goOn (acc : Nat) (cs : List Char) : Nat :=
  cs.foldl (fun acc c => 10 * acc + digitValue c) acc

lemma goOn_cons (acc : Nat) (c : Char) (rest : List Char) :
    goOn acc (c :: rest) = goOn (10 * acc + digitValue c) rest := by
  rw [goOn, List.foldl_cons, goOn]

lemma ofDigitChars_eq_goOn (cs : List Char) : ofDigitChars cs = goOn 0 cs := by
  rw [ofDigitChars, ofDigits, List.foldl_map, goOn]

lemma goOn_natText (n : Nat) : goOn 0 (natText n) = n := by
  rw [← ofDigitChars_eq_goOn, ofDigitChars_natText]

lemma le_goOn (acc : Nat) (cs : List Char) : acc ≤ goOn acc cs := by
  have digits : goOn acc cs = extend acc (cs.map digitValue) := by
    rw [goOn, extend, List.foldl_map]
  rw [digits]
  exact le_extend acc _

end Concordance.Decimal
