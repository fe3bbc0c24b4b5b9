import Concordance.Json.Decoding
import Concordance.Proofs.Binary64.Exact
import Concordance.Proofs.Decimal.Magnitude
import Concordance.Proofs.Json.Doubles
import Concordance.Proofs.Json.Literals

/-!
# What a double comes back as

A double is written with the shortest digits that the nearest double to them gives back, but a
literal is not read to the nearest double: its digits make one double, a power of ten another, and
the two are multiplied or divided.  What comes back (`Binary64.reread?`) may therefore be a
neighbour of what was written.

Where the digits and the power of ten are doubles themselves, there is only one rounding, and it is
the one that the digits were chosen for.  Such literals are called short (`Number.IsShort`), and
doubles with short literals come back as they are (`Binary64.reread?_of_isShort`).
-/

namespace Concordance
namespace Json
namespace Number

open Binary64
open Decimal (ofDigits digitCount extend extend_cons le_extend toBinary64)

/-! ## The number that a literal stands for -/

/-- The number that a literal stands for, before it is rounded. -/
def decimal (n : Number) : Decimal :=
  ⟨ofDigits (n.whole ++ n.fraction), n.exponent.getD 0 - n.fraction.length⟩

/-- A literal whose digits and whose power of ten are doubles. -/
structure IsShort (n : Number) : Prop where
  digits : n.decimal.significand < 2 ^ 53
  power : n.decimal.exponent.natAbs ≤ 22

/-- All digits are taken while they fit. -/
lemma absorb_of_lt {acc : Nat} {ds : List Nat} (fits : extend acc ds < significandBound) :
    absorb acc ds = (extend acc ds, 0) := by
  induction ds generalizing acc with
  | nil => rfl
  | cons d rest ih =>
      have first : 10 * acc + d < significandBound := Nat.lt_of_le_of_lt (le_extend _ rest) fits
      rw [absorb, if_pos first, ih fits, extend_cons]

/-! ## One rounding -/

/-- Near the point, a decimal is rounded from its power of ten. -/
lemma magnitude_of_short {s : Nat} {p : Int} (small : s < 2 ^ 53) (near : p.natAbs ≤ 22) :
    Decimal.magnitude ⟨s, p⟩ = if 0 ≤ p then roundUnits (s * Nat.pow 10 p.toNat * unitsPerOne) 1
      else roundUnits (s * unitsPerOne) (Nat.pow 10 (-p).toNat) := by
  by_cases zero : s = 0
  · rw [zero]
    simp only [Decimal.magnitude, Nat.zero_mul, roundUnits_zero, if_true, ite_self]
  have count : digitCount s ≤ 16 :=
    (Decimal.lt_pow_iff_digitCount_le (by decide)).1 (Nat.lt_trans small (by decide))
  have first := Decimal.digitCount_pos s
  rw [Decimal.magnitude, Decimal.top]
  simp only
  rw [if_neg zero, if_neg (by omega), if_neg (by omega)]

lemma units_powerOfTen {k : Nat} (small : k ≤ 22) :
    (powerOfTen k).units = Nat.pow 10 k * unitsPerOne := by
  have exact : ∀ k ≤ 22, unitsOfMagnitude (roundUnits (Nat.pow 10 k * unitsPerOne) 1)
      = Nat.pow 10 k * unitsPerOne := by decide +kernel
  rw [units, magnitude_powerOfTen (by omega)]
  exact exact k small

lemma magnitude_lt_signWeight (d : Decimal) : d.magnitude < signWeight :=
  Nat.lt_of_le_of_lt d.magnitude_le infiniteMagnitude_lt_signWeight

lemma isNegative_powerOfTen (k : Nat) : (powerOfTen k).isNegative = false :=
  isNegative_ofMagnitude false (magnitude_lt_signWeight _)

lemma isNegative_ofNat (n : Nat) : (ofNat n).isNegative = false := isNegative_ofUnits _ _ _

lemma ofNat_div_powerOfTen {s k : Nat} (small : s < 2 ^ 53) (near : k ≤ 22) :
    ofNat s / powerOfTen k = ofUnits false (s * unitsPerOne) (Nat.pow 10 k) := by
  have finite : (ofNat s).isFinite = true := isFinite_ofNat (Nat.lt_trans small (by decide))
  have factor : (powerOfTen k).isFinite = true := isFinite_powerOfTen (by omega)
  have nonzero : (powerOfTen k).isZero = false := isZero_powerOfTen (by omega)
  rw [div_eq_ofUnits finite factor nonzero, units_ofNat small, units_powerOfTen near,
    isNegative_ofNat, isNegative_powerOfTen, ofUnits, roundUnits_mul _ _ unitsPerOne_pos]
  rfl

lemma ofNat_mul_powerOfTen {s k : Nat} (small : s < 2 ^ 53) (near : k ≤ 22) :
    ofNat s * powerOfTen k = ofUnits false (s * Nat.pow 10 k * unitsPerOne) 1 := by
  have finite : (ofNat s).isFinite = true := isFinite_ofNat (Nat.lt_trans small (by decide))
  have factor : (powerOfTen k).isFinite = true := isFinite_powerOfTen (by omega)
  have moved : s * unitsPerOne * (Nat.pow 10 k * unitsPerOne)
      = s * Nat.pow 10 k * unitsPerOne * unitsPerOne := by ring
  have once := roundUnits_mul (s * Nat.pow 10 k * unitsPerOne) 1 unitsPerOne_pos
  rw [Nat.one_mul] at once
  rw [mul_eq_ofUnits finite factor, units_ofNat small, units_powerOfTen near, isNegative_ofNat,
    isNegative_powerOfTen, moved, ofUnits, once]
  rfl

/-- Such a product does not overflow. -/
lemma isInfinite_ofNat_mul_powerOfTen {s k : Nat} (small : s < 2 ^ 53) (near : k ≤ 22) :
    (ofNat s * powerOfTen k).isInfinite = false := by
  have room : 2 ^ 53 * 10 ^ 22 * unitsPerOne ≤ largestUnits := by decide +kernel
  have power : Nat.pow 10 k ≤ 10 ^ 22 := Nat.pow_le_pow_right (by decide) near
  refine isInfinite_of_isFinite ?_
  rw [ofNat_mul_powerOfTen small near, isFinite_iff, magnitude_ofUnits]
  refine roundUnits_lt Nat.one_pos ?_
  rw [Nat.mul_one]
  exact Nat.le_trans (Nat.mul_le_mul_right _ (Nat.mul_le_mul small.le power)) room

/-- **Scaling by an exact power of ten rounds once.** -/
theorem scale?_of_short {s : Nat} {p : Int} (small : s < 2 ^ 53) (near : p.natAbs ≤ 22) :
    scale? (ofNat s) p = some (toBinary64 false ⟨s, p⟩) := by
  rw [scale?, if_neg (by omega), toBinary64, magnitude_of_short small near]
  by_cases behind : p < 0
  · rw [if_pos behind, if_neg (by omega), ofNat_div_powerOfTen small (by omega)]
    rfl
  · have power : p.toNat ≤ 22 := by omega
    rw [if_neg behind, if_pos (show p ≤ 308 by omega), if_pos (show 0 ≤ p by omega)]
    simp only [isInfinite_ofNat_mul_powerOfTen small power, Bool.false_eq_true, if_false]
    rw [ofNat_mul_powerOfTen small power]
    rfl

lemma ofNat_eq_toBinary64 {s : Nat} (small : s < 2 ^ 53) : ofNat s = toBinary64 false ⟨s, 0⟩ := by
  rw [toBinary64, magnitude_of_short small (by decide), if_pos (Int.le_refl 0)]
  simp only [Int.toNat_zero, Nat.pow_eq, Nat.pow_zero, Nat.mul_one]
  rfl

lemma neg_toBinary64 (d : Decimal) : -(toBinary64 false d) = toBinary64 true d := by
  have small := magnitude_lt_signWeight d
  change neg (ofMagnitude false d.magnitude) = _
  rw [neg, isNegative_ofMagnitude false small, magnitude_ofMagnitude false small]
  rfl

/-- All digits of a short literal are taken, and its exponents are added. -/
lemma size?_of_isShort {n : Number} (short : n.IsShort)
    (near : (n.exponent.getD 0).natAbs ≤ exponentBound.toNat) :
    n.size? = some (n.decimal.toBinary64 false) := by
  have room : 2 ^ 53 < significandBound := by decide
  have bound : exponentBound = 2147483647 := by decide
  have digits := short.digits
  have power := short.power
  have both : extend (ofDigits n.whole) n.fraction = n.decimal.significand :=
    (Decimal.ofDigits_append _ _).symm
  have part := le_extend (ofDigits n.whole) n.fraction
  have front : absorb 0 n.whole = (ofDigits n.whole, 0) :=
    absorb_of_lt (Nat.lt_of_le_of_lt (Nat.le_trans part both.le) (Nat.lt_trans digits room))
  have all : absorb (ofDigits n.whole) n.fraction = (n.decimal.significand, 0) :=
    both ▸ absorb_of_lt (both ▸ Nat.lt_trans digits room)
  have place : ((0 : Nat) : Int) - (n.fraction.length - (0 : Nat)) + n.exponent.getD 0
      = n.decimal.exponent := by
    change _ = n.exponent.getD 0 - (n.fraction.length : Int)
    omega
  simp only [size?, front, all, place]
  by_cases integer : (n.fraction.isEmpty && n.exponent.isNone && (0 : Nat) == 0) = true
  · obtain ⟨⟨noFraction, plain⟩, _⟩ : (n.fraction = [] ∧ n.exponent = none) ∧ _ := by
      simpa only [Bool.and_eq_true, List.isEmpty_iff, Option.isNone_iff_eq_none] using integer
    have value : n.decimal = ⟨ofDigits n.whole, 0⟩ := by
      rw [decimal, noFraction, plain, List.append_nil]
      rfl
    rw [value] at digits ⊢
    rw [if_pos integer, ofNat_eq_toBinary64 digits]
  · rw [if_neg integer, if_neg (by omega), if_neg (by omega), scale?_of_short digits power]

/-- **A short literal is read to the nearest double.** -/
theorem toBinary64?_of_isShort {n : Number} (short : n.IsShort)
    (near : (n.exponent.getD 0).natAbs ≤ exponentBound.toNat) :
    n.toBinary64? = some (n.decimal.toBinary64 n.negative) := by
  rw [toBinary64?, size?_of_isShort short near, Option.map_some]
  cases n.negative with
  | true => exact congrArg some (neg_toBinary64 _)
  | false => rfl

/-! ## The literal of a double -/

lemma decimal_eq {n : Number} {d : Decimal}
    (digits : ofDigits (n.whole ++ n.fraction) = d.significand)
    (place : n.exponent.getD 0 - n.fraction.length = d.exponent) : n.decimal = d := by
  rw [decimal, digits, place]

/-- A literal stands for the decimal that it was made of, or for the same with zeros behind. -/
lemma Layout.magnitude {negative : Bool} {d : Decimal} {n : Number} (layout : Layout negative d n)
    (positive : 0 < d.significand) : n.decimal.magnitude = d.magnitude := by
  have top : d.top = (Decimal.digits d.significand).length + d.exponent := rfl
  have count : 0 < (Decimal.digits d.significand).length := Decimal.digitCount_pos d.significand
  have parts : ∀ k, ofDigits ((Decimal.digits d.significand).take k ++
      (Decimal.digits d.significand).drop k) = d.significand := fun k => by
    rw [List.take_append_drop, Decimal.ofDigits_digits]
  cases layout with
  | before integral =>
      -- the zeros up to the point, and the one behind it
      have zeros : ofDigits
          (Decimal.digits d.significand ++ List.replicate d.exponent.toNat 0 ++ [0])
          = d.significand * 10 ^ (d.exponent.toNat + 1) := by
        rw [List.append_assoc, ← List.replicate_succ', Decimal.ofDigits_append,
          Decimal.ofDigits_digits, Decimal.extend_replicate]
      have place : (-1 : Int) + (d.exponent.toNat + 1 : Nat) = d.exponent := by omega
      have moved := Decimal.magnitude_mul_pow positive (d.exponent.toNat + 1) (-1)
      rw [place] at moved
      rw [← moved]
      exact congrArg _ (decimal_eq zeros rfl)
  | between =>
      rw [decimal_eq (parts _)]
      simp only [Option.getD_none, List.length_drop]
      omega
  | behind =>
      rw [decimal_eq]
      · simp only
        rw [← List.append_assoc, ← List.replicate_one, List.replicate_append_replicate,
          Decimal.ofDigits_replicate_append, Decimal.ofDigits_digits]
      · simp only [Option.getD_none, List.length_append, List.length_replicate]
        omega
  | scientific =>
      rw [decimal_eq (parts 1)]
      simp only [Option.getD_some, List.length_drop]
      omega

lemma Layout.negative_eq {negative : Bool} {d : Decimal} {n : Number}
    (layout : Layout negative d n) : n.negative = negative := by
  cases layout <;> rfl

/-- An exponent near the point is one that is added to that of the digits. -/
lemma Layout.exponent_le {negative : Bool} {d : Decimal} {n : Number}
    (layout : Layout negative d n) (near : -329 ≤ d.top ∧ d.top ≤ 309) :
    (n.exponent.getD 0).natAbs ≤ exponentBound.toNat := by
  have bound : exponentBound.toNat = 2147483647 := by decide
  rw [bound]
  cases layout with
  | scientific =>
      change (d.top - 1).natAbs ≤ _
      omega
  | _ => exact Nat.zero_le _

/-- The literal of a decimal stands for the same number, if zero has no exponent. -/
lemma magnitude_decimal_ofDecimal (negative : Bool) {d : Decimal}
    (normal : d.significand = 0 → d = ⟨0, 0⟩) :
    (ofDecimal negative d).decimal.magnitude = d.magnitude := by
  by_cases zero : d.significand = 0
  · rw [normal zero, ofDecimal_zero]
    rfl
  · exact (layout_ofDecimal negative d).magnitude (Nat.pos_of_ne_zero zero)

lemma isWritten_of_ofBinary64? {x : Binary64} {literal : Number}
    (h : ofBinary64? x = some literal) : literal.IsWritten := by
  rw [ofBinary64?] at h
  split at h
  · rename_i finite
    rw [← Option.some.inj h]
    exact isWritten_ofDecimal _ (Decimal.shortest_eq_zero (isFinite_iff.1 finite))
  · cases h

end Number
end Json

/-- What a double comes back as from its literal, if from anything. -/
def Binary64.reread? (x : Binary64) : Option Binary64 := (Json.Value.ofBinary64 x).toBinary64?

open Json in
/-- **A double with a short literal comes back as it is.** -/
theorem Binary64.reread?_of_isShort {x : Binary64} {literal : Number}
    (h : Number.ofBinary64? x = some literal) (short : literal.IsShort) : x.reread? = some x := by
  have value : Value.ofBinary64 x = .number literal := by rw [Value.ofBinary64, h]
  rw [Number.ofBinary64?] at h
  split at h
  · rename_i finite
    obtain rfl := Option.some.inj h
    have bounded := isFinite_iff.1 finite
    have layout := Number.layout_ofDecimal x.isNegative (Decimal.shortest .toEven x.magnitude)
    have near := layout.exponent_le (Decimal.top_shortest .toEven bounded)
    rw [Binary64.reread?, value, Value.toBinary64?, Number.toBinary64?_of_isShort short near,
      layout.negative_eq, Decimal.toBinary64,
      Number.magnitude_decimal_ofDecimal _ (Decimal.shortest_eq_zero bounded),
      Decimal.magnitude_shortest .toEven bounded, ofMagnitude_magnitude]
  · cases h

end Concordance
