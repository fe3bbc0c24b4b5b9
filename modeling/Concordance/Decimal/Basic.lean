import Concordance.Binary64.Rounding
import Concordance.Decimal.Digits

/-!
# Decimal numbers and the doubles nearest to them

A `Decimal` is `significand * 10 ^ exponent`.  `Decimal.magnitude` is the magnitude of the
double nearest to it, correctly rounded for every significand and exponent.
-/

namespace Concordance

/-- The number `significand * 10 ^ exponent`. -/
structure Decimal where
  significand : Nat
  exponent : Int
  deriving DecidableEq, Repr

namespace Decimal

/-- The place of the leading digit: a decimal other than zero lies in
`[10 ^ (top - 1), 10 ^ top)`. -/
def top (d : Decimal) : Int := digitCount d.significand + d.exponent

/-- The magnitude of the double nearest to a decimal, even in a tie.  From `10 ^ 309` on it is
infinity, and below `10 ^ -330` it is zero, so the power of ten is computed only in between. -/
def magnitude (d : Decimal) : Nat :=
  if d.significand = 0 then 0
  else if 309 < d.top then Binary64.infiniteMagnitude
  else if d.top < -329 then 0
  else if 0 ≤ d.exponent then
    Binary64.roundUnits (d.significand * Nat.pow 10 d.exponent.toNat * Binary64.unitsPerOne) 1
  else
    Binary64.roundUnits (d.significand * Binary64.unitsPerOne) (Nat.pow 10 (-d.exponent).toNat)

/-- The double nearest to a decimal, with the given sign. -/
def toBinary64 (negative : Bool) (d : Decimal) : Binary64 :=
  Binary64.ofMagnitude negative d.magnitude

/-- The same number with the zeros at the end of its significand moved to the exponent. -/
def trimmed (d : Decimal) : Decimal :=
  if h : d.significand ≠ 0 ∧ d.significand % 10 = 0 then
    trimmed ⟨d.significand / 10, d.exponent + 1⟩
  else d
termination_by d.significand
decreasing_by omega

end Decimal
end Concordance
