import Concordance.Proofs.Decimal.Leading
import Concordance.Proofs.Decimal.Reader

/-!
# What is left of a double in a fixed number of digits

A text with a fixed number of digits holds the nearest decimal of so many digits, and reading it
rounds that decimal again.  What comes out need not be the double that was written, and this
module says when it is.

* `readUnsigned?_pointed` reads digits back with the point where it was, zeros at the front and at
  the end included, so `ofText?_roundedScientificText` reads the leading digits and nothing else.
* `Kept` and `kept_keepDigits` compare what is read with what was written, and
  `eq_of_kept_ofInt` are the integers that sixteen digits cannot lose.
-/

namespace Concordance

namespace Decimal

open Binary64

/-! ## Digits with a point among them -/

variable {places s : Nat}

/-- Digits with zeros in front, at least one more than there are places. -/
def padded (places s : Nat) : List Char :=
  List.replicate (places + 1 - (natText s).length) '0' ++ natText s

lemma pointed_eq (places s : Nat) : pointed places s =
    if places = 0 then padded places s
    else (padded places s).take ((padded places s).length - places) ++
      '.' :: (padded places s).drop ((padded places s).length - places) := rfl

lemma isDigit_of_mem_padded {c : Char} (member : c ∈ padded places s) : c.isDigit = true := by
  rcases List.mem_append.1 member with zero | digit
  · rw [List.eq_of_mem_replicate zero]
    decide
  · exact isDigit_of_mem_natText digit

lemma lt_length_padded (places s : Nat) : places < (padded places s).length := by
  rw [padded, List.length_append, List.length_replicate]
  omega

/-- Zeros in front make no difference. -/
lemma ofDigitChars_padded (places s : Nat) : ofDigitChars (padded places s) = s := by
  have zero : digitValue '0' = 0 := by decide
  rw [ofDigitChars, padded, List.map_append, List.map_replicate, zero, ofDigits_replicate_append,
    ← ofDigitChars, ofDigitChars_natText]

/-- **Digits are read back with the point where it was.** -/
theorem readUnsigned?_pointed (places s : Nat) {e : Int} (small : e.natAbs < 65536) :
    readUnsigned? (pointed places s ++ 'e' :: intText e) = some ⟨s, e - places⟩ := by
  have exponent := readExponent?_intText small
  have letter : 'e'.isDigit = false := by decide
  have long := lt_length_padded places s
  have nonempty : ∀ k, 0 < k → ((padded places s).take k).isEmpty = false := by
    intro k positive
    rw [List.isEmpty_eq_false_iff, ← List.length_pos_iff, List.length_take]
    omega
  have value := ofDigitChars_padded places s
  rw [pointed_eq]
  by_cases noPlaces : places = 0
  · have digits : ∀ c ∈ padded places s, c.isDigit = true := fun c => isDigit_of_mem_padded
    have whole := spanDigits_append_cons digits letter (intText e)
    rw [if_pos noPlaces, readUnsigned?_of_parts whole _ rfl exponent, List.append_nil, value,
      noPlaces]
    · rfl
    · simpa using nonempty (padded places s).length (by omega)
  · have front : ∀ c ∈ (padded places s).take ((padded places s).length - places),
        c.isDigit = true := fun c member => isDigit_of_mem_padded (List.mem_of_mem_take member)
    have back : ∀ c ∈ (padded places s).drop ((padded places s).length - places),
        c.isDigit = true := fun c member => isDigit_of_mem_padded (List.mem_of_mem_drop member)
    have whole := spanDigits_append_cons front (by decide : '.'.isDigit = false)
      ((padded places s).drop ((padded places s).length - places) ++ 'e' :: intText e)
    have fraction := spanDigits_append_cons back letter (intText e)
    have count : ((padded places s).drop ((padded places s).length - places)).length = places := by
      rw [List.length_drop]
      omega
    rw [if_neg noPlaces, List.append_assoc, List.cons_append,
      readUnsigned?_of_parts whole (nonempty _ (by omega)) fraction exponent,
      List.take_append_drop, value, count]

/-! ## The texts are fields -/

open Text

lemma isField_pointed (places s : Nat) : IsField (pointed places s) := by
  have long := lt_length_padded places s
  have digits : ∀ c ∈ padded places s, isBlank c = false := fun c member =>
    isBlank_of_isDigit (isDigit_of_mem_padded member)
  rw [pointed_eq]
  by_cases noPlaces : places = 0
  · rw [if_pos noPlaces]
    exact ⟨List.length_pos_iff.1 (by omega), digits⟩
  · rw [if_neg noPlaces]
    refine ⟨List.append_ne_nil_of_right_ne_nil _ (List.cons_ne_nil _ _), ?_⟩
    refine List.forall_mem_append.2 ⟨fun c member => digits c (List.mem_of_mem_take member), ?_⟩
    exact List.forall_mem_cons.2 ⟨by decide, fun c member =>
      digits c (List.mem_of_mem_drop member)⟩

/-- The text begins with a digit. -/
lemma pointed_eq_cons (places s : Nat) :
    ∃ c rest, pointed places s = c :: rest ∧ c.isDigit = true := by
  have long := lt_length_padded places s
  have positive : 0 < (padded places s).length := by omega
  obtain ⟨c, rest, split⟩ := List.exists_cons_of_length_pos positive
  have member : c ∈ padded places s := split ▸ List.mem_cons_self
  have digit : c.isDigit = true := isDigit_of_mem_padded member
  rw [pointed_eq]
  by_cases noPlaces : places = 0
  · exact ⟨c, rest, by rw [if_pos noPlaces, split], digit⟩
  · obtain ⟨k, before⟩ : ∃ k, (padded places s).length - places = k + 1 :=
      ⟨(padded places s).length - places - 1, by omega⟩
    refine ⟨c, rest.take k ++ '.' :: rest.drop k, ?_, digit⟩
    rw [if_neg noPlaces, before, split]
    rfl

end Decimal

namespace Binary64

open Decimal Text

variable {x : Binary64} (places : Nat)

/-- A word that a text with a fixed number of digits is read as. -/
def keepDigits (n : Nat) (x : Binary64) : Binary64 :=
  if x.isFinite then (leading n x.magnitude).toBinary64 x.isNegative else x.canonical

lemma roundedScientificText_of_isFinite (finite : x.isFinite = true) :
    x.roundedScientificText places = (if x.isNegative then ['-'] else []) ++
      (pointed places (leading (places + 1) x.magnitude).significand ++
        'e' :: intText ((leading (places + 1) x.magnitude).exponent + places)) := by
  rw [roundedScientificText, signedText, if_pos finite]

lemma roundedScientificText_of_not_isFinite (special : x.isFinite = false) :
    x.roundedScientificText places = x.scientificText := by
  rw [roundedScientificText, signedText, special]
  rfl

/-- **A text with a fixed number of digits is read as its decimal, rounded again**, and as the
word itself if there is no decimal. -/
theorem ofText?_roundedScientificText (x : Binary64) :
    ofText? (x.roundedScientificText places) = some (x.keepDigits (places + 1)) := by
  cases finite : x.isFinite with
  | false =>
      rw [roundedScientificText_of_not_isFinite places finite, ofText?_scientificText, keepDigits,
        finite]
      rfl
  | true =>
      have small : ((leading (places + 1) x.magnitude).exponent + places).natAbs < 65536 := by
        have bound := exponent_leading (n := places + 1) (isFinite_iff.1 finite)
        push_cast at bound
        rwa [← add_assoc, add_sub_cancel_right] at bound
      obtain ⟨c, rest, split, digit⟩ :=
        pointed_eq_cons places (leading (places + 1) x.magnitude).significand
      have read := readUnsigned?_pointed places (leading (places + 1) x.magnitude).significand small
      rw [add_sub_cancel_right] at read
      rw [roundedScientificText_of_isFinite places finite, ofText?]
      rw [split, List.cons_append] at read ⊢
      rw [splitSign_signed _ (ne_of_isDigit digit (by decide)) (ne_of_isDigit digit (by decide))]
      simp only [readMagnitude?_of_digit digit, read, Option.map_some, keepDigits, finite, if_true]
      rfl

lemma isField_roundedScientificText (x : Binary64) : IsField (x.roundedScientificText places) := by
  cases finite : x.isFinite with
  | false =>
      rw [roundedScientificText_of_not_isFinite places finite]
      exact isField_scientificText x
  | true =>
      obtain ⟨nonempty, solid⟩ :=
        isField_pointed places (leading (places + 1) x.magnitude).significand
      rw [roundedScientificText_of_isFinite places finite]
      refine isField_signed ⟨List.append_ne_nil_of_left_ne_nil nonempty _, ?_⟩ _
      exact List.forall_mem_append.2 ⟨solid, List.forall_mem_cons.2
        ⟨by decide, (isField_intText _).solid⟩⟩

lemma isField_fixedText (x : Binary64) : IsField (x.fixedText places) := by
  rw [fixedText, signedText]
  cases x.isFinite with
  | false => exact isField_scientificText x
  | true => exact isField_signed (isField_pointed places _) _

/-! ## What is kept -/

variable {n : Nat} {d : Decimal}

lemma toBinary64_eq_iff : d.toBinary64 x.isNegative = x ↔ d.magnitude = x.magnitude := by
  have small : d.magnitude < signWeight :=
    (magnitude_le d).trans_lt infiniteMagnitude_lt_signWeight
  constructor
  · intro same
    rw [← same, toBinary64, magnitude_ofMagnitude _ small]
  · intro same
    rw [toBinary64, same, ofMagnitude_magnitude]

/-- A decimal is rounded to a finite word if it is in its cell. -/
lemma toBinary64_eq_iff_cell (finite : x.isFinite = true) :
    d.toBinary64 x.isNegative = x ↔ Cell x.magnitude d.units := by
  rw [toBinary64_eq_iff, magnitude_eq_iff (isFinite_iff.1 finite)]

/-- What is read of a word whose text has `n` digits. -/
structure Kept (n : Nat) (x y : Binary64) : Prop where
  nan : x.isNaN = true → y = .nan
  infinite : x.isInfinite = true → y = x
  /-- A finite word becomes the double nearest to a nearest decimal, which is the same word if the
  decimal has not left its cell. -/
  nearest : x.isFinite = true → ∃ d : Decimal, IsNearest n x.units d ∧
    y = d.toBinary64 x.isNegative ∧ (y = x ↔ Cell x.magnitude d.units)
  /-- It is unchanged if its value is a decimal of so many digits. -/
  of_decimal : x.isFinite = true →
    (∃ d : Decimal, d.significand < 10 ^ n ∧ d.units = x.units) → y = x
  /-- Unless its neighbours are at different distances, it is unchanged exactly if some decimal
  of so many digits stands for it. -/
  same_iff : x.isFinite = true → IsEvenlySpaced x.magnitude →
    (y = x ↔ ∃ d : Decimal, d.significand < 10 ^ n ∧ d.toBinary64 x.isNegative = x)

lemma keepDigits_of_isFinite (finite : x.isFinite = true) :
    x.keepDigits n = (leading n x.magnitude).toBinary64 x.isNegative := if_pos finite

lemma keepDigits_of_not_isFinite (special : x.isFinite = false) :
    x.keepDigits n = x.canonical := by
  rw [keepDigits, special]
  rfl

/-- A nearest decimal of a number that is a decimal itself is that number. -/
lemma units_of_isNearest {v : ℚ} {other : Decimal} (nearest : IsNearest n v d)
    (short : other.significand < 10 ^ n) (same : other.units = v) : d.units = v := by
  have distance := nearest.nearest other short
  rw [same, sub_self, abs_zero, abs_nonpos_iff] at distance
  exact sub_eq_zero.1 distance

/-- **What a fixed number of digits keeps of a word.** -/
theorem kept_keepDigits (positive : 0 < n) (x : Binary64) : Kept n x (x.keepDigits n) := by
  have near := isNearest_leading positive x.magnitude
  constructor
  · intro number
    have special : x.isFinite = false := by rw [isFinite_eq, number]; rfl
    rw [keepDigits_of_not_isFinite special, canonical, if_pos number]
  · intro infinite
    have special : x.isFinite = false := by rw [isFinite_eq, infinite, Bool.and_comm]; rfl
    have number : x.isNaN = false :=
      isNaN_eq_false_iff.2 (Nat.le_of_eq (of_decide_eq_true infinite))
    rw [keepDigits_of_not_isFinite special, canonical, number]
    rfl
  · intro finite
    rw [keepDigits_of_isFinite finite]
    exact ⟨_, near, rfl, toBinary64_eq_iff_cell finite⟩
  · rintro finite ⟨other, short, same⟩
    rw [keepDigits_of_isFinite finite, toBinary64_eq_iff_cell finite,
      units_of_isNearest near short same]
    exact cell_self _
  · intro finite even
    rw [keepDigits_of_isFinite finite]
    constructor
    · intro same
      exact ⟨_, near.short, same⟩
    · rintro ⟨other, short, same⟩
      rw [toBinary64_eq_iff_cell finite] at same ⊢
      exact cell_of_nearer even same (near.nearest other short)

/-- Equal gaps are needed: fourteen digits stand for `2 ^ 149`, but the nearest sixteen digits are
below it, where the gap is the shorter one. -/
example : (⟨71362384635298, 31⟩ : Decimal).toBinary64 false = ⟨0x4940000000000000⟩ ∧
    keepDigits 16 ⟨0x4940000000000000⟩ ≠ ⟨0x4940000000000000⟩ := by
  have place : lastPlace 16 0x4940000000000000 = 29 :=
    lastPlace_of_bounds (k := 368) (by decide +kernel) (by decide +kernel)
  have rounded : roundedSteps 16 0x4940000000000000 = 7136238463529799 := by
    rw [roundedSteps, steps, place]
    decide +kernel
  have digits : leading 16 0x4940000000000000 = ⟨7136238463529799, 29⟩ := by
    rw [leading_of_pos (by decide), rounded, place]
    decide
  have word : (⟨0x4940000000000000⟩ : Binary64).magnitude = 0x4940000000000000 := by decide
  rw [keepDigits_of_isFinite (by decide), word, digits]
  decide +kernel

lemma magnitude_ofInt (i : Int) : (ofInt i).magnitude = (ofNat i.natAbs).magnitude := by
  rw [ofInt, ofNat, magnitude_ofUnits, magnitude_ofUnits]

/-- **Integers below `2 ^ 53` are kept by sixteen digits.** -/
theorem eq_of_kept_ofInt {i : Int} {y : Binary64} (small : i.natAbs < 2 ^ 53)
    (kept : Kept 16 (ofInt i) y) : y = ofInt i := by
  have finite : (ofInt i).isFinite = true := by
    have word : i.natAbs < UInt64.size := small.trans (by decide)
    rw [isFinite_iff, magnitude_ofInt, ← isFinite_iff]
    exact isFinite_ofNat word
  refine kept.of_decimal finite ⟨⟨i.natAbs, 0⟩, small.trans (by decide), ?_⟩
  rw [Binary64.units, magnitude_ofInt, ← Binary64.units, units_ofNat small, Decimal.units,
    zpow_zero, mul_one, Nat.cast_mul]

end Binary64
end Concordance
