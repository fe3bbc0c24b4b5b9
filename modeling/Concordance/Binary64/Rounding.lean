import Concordance.Binary64.Basic

/-!
# Rounding to the nearest double

The one rounding of the library.  A quotient of natural numbers, in multiples of `2 ^ -1074`,
goes to the nearest magnitude, and a quotient half way between two goes to the even one.

Up to `2 ^ 53` the doubles are the integers of this scale.  Above, a quotient with `52 + k`
binary digits behind the first is divided by `2 ^ k` before it is rounded; what comes out is
the significand with its hidden bit, and adding `k * 2 ^ 52` puts the exponent beside it.  A
significand that rounds up to `2 ^ 53` carries into the exponent by itself.

* `divHalfEven` rounds a quotient to the nearest natural number.
* `roundUnits` rounds a quotient to the nearest magnitude, or to that of infinity.
-/

namespace Concordance

/-- The natural number nearest to `num / den`; a half goes to the even neighbour. -/
def divHalfEven (num den : Nat) : Nat :=
  let quotient := num / den
  let remainder := num % den
  if 2 * remainder < den then quotient
  else if den < 2 * remainder then quotient + 1
  else quotient + quotient % 2

namespace Binary64

/-- The magnitude nearest to `num / den` multiples of `2 ^ -1074`, even in a tie; infinite from
half a step above the largest double on. -/
def roundUnits (num den : Nat) : Nat :=
  let shift := (num / den).log2 - 52
  Nat.min infiniteMagnitude (shift * Nat.pow 2 52 + divHalfEven num (den * Nat.pow 2 shift))

/-- The double nearest to `num / den` multiples of `2 ^ -1074`, with the given sign. -/
def ofUnits (negative : Bool) (num den : Nat) : Binary64 :=
  ofMagnitude negative (roundUnits num den)

/-- The multiples of `2 ^ -1074` in one. -/
def unitsPerOne : Nat := Nat.pow 2 1074

/-- The double nearest to a natural number. -/
def ofNat (n : Nat) : Binary64 := ofUnits false (n * unitsPerOne) 1

/-- The double nearest to an integer; zero is positive. -/
def ofInt (n : Int) : Binary64 := ofUnits (decide (n < 0)) (n.natAbs * unitsPerOne) 1

end Binary64
end Concordance
