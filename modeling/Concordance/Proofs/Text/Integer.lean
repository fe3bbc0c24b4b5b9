import Concordance.Proofs.Decimal.Digits
import Concordance.Proofs.Text.Fields
import Concordance.Text.Integer

/-!
# Integers are read back from their texts

A reader of a fixed range looks at the limit after each digit.  The number that it holds never
falls (`Decimal.le_goOn`), so it is within the limit all the way if it is at the end
(`readDigits_of_le`).  What remains is the sign: no text of a natural number begins with one.
-/

namespace Concordance.Text

open Decimal

/-! ## Digits -/

/-- Digits are read one after the other as long as their number is within the limit. -/
lemma foldlM_appendDigit {limit : Nat} {beyond : IntegerFault} {cs : List Char} {acc : Nat}
    (digits : ∀ c ∈ cs, c.isDigit = true) (within : goOn acc cs ≤ limit) :
    cs.foldlM (appendDigit limit beyond) acc = .ok (goOn acc cs) := by
  induction cs generalizing acc with
  | nil => rfl
  | cons c rest ih =>
      obtain ⟨digit, others⟩ := List.forall_mem_cons.1 digits
      rw [goOn_cons] at within ⊢
      have so_far : 10 * acc + digitValue c ≤ limit := Nat.le_trans (le_goOn _ rest) within
      have step : appendDigit limit beyond acc c = .ok (10 * acc + digitValue c) := by
        rw [appendDigit, digitValue?, if_pos digit]
        exact if_pos so_far
      rw [List.foldlM_cons, step]
      exact ih others within

/-- **The text of a number within the limit is read as that number.** -/
theorem readDigits_of_le {n limit : Nat} (within : n ≤ limit) (beyond : IntegerFault) :
    readDigits limit beyond (natText n) = .ok n := by
  rw [readDigits, foldlM_appendDigit (fun c => isDigit_of_mem_natText), goOn_natText]
  rwa [goOn_natText]

/-! ## Signs -/

lemma readNatural_of_digit {c : Char} (digit : c.isDigit = true) (rest : List Char) :
    readNatural (c :: rest) = readDigits (UInt64.size - 1) .tooLarge (c :: rest) := by
  have plus := ne_of_isDigit digit (by decide : '+'.isDigit = false)
  unfold readNatural
  split <;> simp_all

/-- **A natural number that fits into a word is read back.** -/
theorem readNatural_natText {n : Nat} (fits : n < UInt64.size) :
    readNatural (natText n) = .ok n := by
  obtain ⟨c, rest, split, digit⟩ := natText_eq_cons n
  rw [split, readNatural_of_digit digit, ← split]
  exact readDigits_of_le (Nat.le_sub_one_of_lt fits) _

lemma readInteger_of_digit {c : Char} (digit : c.isDigit = true) (rest : List Char) :
    readInteger (c :: rest)
      = (readDigits Int64.maxValue.toInt.toNat .tooLarge (c :: rest)).map Int64.ofNat := by
  have plus := ne_of_isDigit digit (by decide : '+'.isDigit = false)
  have minus := ne_of_isDigit digit (by decide : '-'.isDigit = false)
  unfold readInteger
  split <;> simp_all

lemma readInteger_of_minus {c : Char} (rest : List Char) :
    readInteger ('-' :: c :: rest) = (readDigits (-Int64.minValue.toInt).toNat .tooSmall
      (c :: rest)).map fun n => Int64.ofInt (-n) := rfl

/-- **Every integer is read back**, from the least to the largest. -/
theorem readInteger_intText (n : Int64) : readInteger (intText n.toInt) = .ok n := by
  have least : (-Int64.minValue.toInt).toNat = 2 ^ 63 := rfl
  have largest : Int64.maxValue.toInt.toNat = 2 ^ 63 - 1 := rfl
  have low := n.le_toInt
  have high := n.toInt_lt
  obtain ⟨c, rest, split, digit⟩ := natText_eq_cons n.toInt.natAbs
  rw [intText]
  by_cases negative : n.toInt < 0
  · have value : -(n.toInt.natAbs : Int) = n.toInt := by omega
    rw [if_pos negative, split, readInteger_of_minus, ← split, readDigits_of_le (by omega)]
    change Except.ok (Int64.ofInt (-(n.toInt.natAbs : Int))) = .ok n
    rw [value, Int64.ofInt_toInt]
  · have value : (n.toInt.natAbs : Int) = n.toInt := by omega
    rw [if_neg negative, split, readInteger_of_digit digit, ← split,
      readDigits_of_le (by omega)]
    change Except.ok (Int64.ofNat n.toInt.natAbs) = .ok n
    rw [← Int64.ofInt_eq_ofNat, value, Int64.ofInt_toInt]

/-! ## The texts are fields -/

lemma isBlank_of_isDigit {c : Char} (digit : c.isDigit = true) : isBlank c = false := by
  have range := isDigit_iff.1 digit
  rw [Bool.eq_false_iff, Ne, isBlank, inRanges, List.any_eq_true]
  rintro ⟨⟨first, last⟩, member, inside⟩
  simp only [Bool.and_eq_true, decide_eq_true_eq] at inside
  have apart : ∀ range ∈ blankRanges, range.2 < 48 ∨ 57 < range.1 := by decide
  have := apart _ member
  simp only at this
  omega

lemma isField_natText (n : Nat) : IsField (natText n) :=
  ⟨natText_ne_nil n, fun _ member => isBlank_of_isDigit (isDigit_of_mem_natText member)⟩

lemma isField_intText (n : Int) : IsField (intText n) := by
  have digits := isField_natText n.natAbs
  rw [intText]
  split
  · exact ⟨List.cons_ne_nil _ _, List.forall_mem_cons.2 ⟨by decide, digits.solid⟩⟩
  · exact digits

end Concordance.Text
