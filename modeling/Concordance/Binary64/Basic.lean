/-!
# Binary floating-point words

A `Binary64` is a 64-bit word of the IEEE 754 double-precision format.  The word itself is
kept, since material keys tell two NaN words apart.

* `magnitude` is the word without its sign bit.  Magnitudes of numbers are ordered as the
  absolute values they stand for, and infinity has the largest of them.
* `units` is the absolute value of a finite word as a multiple of `2 ^ -1074`, the least
  positive double, so that every finite value is an exact integer.
-/

namespace Concordance

/-- A double-precision word, kept bit for bit. -/
structure Binary64 where
  /-- The sign bit, eleven exponent bits and fifty-two fraction bits, from the top. -/
  bits : UInt64
  deriving DecidableEq, Repr, Inhabited

namespace Binary64

/-- The weight of the sign bit. -/
def signWeight : Nat := Nat.pow 2 63

/-- The magnitude of infinity; larger magnitudes are not numbers. -/
def infiniteMagnitude : Nat := 2047 * Nat.pow 2 52

/-- The word without its sign bit. -/
def magnitude (x : Binary64) : Nat := x.bits.toNat % signWeight

/-- Whether the sign bit is set; zeros and NaN words carry a sign too. -/
def isNegative (x : Binary64) : Bool := decide (signWeight ≤ x.bits.toNat)

/-- Builds the word with the given sign bit and magnitude. -/
def ofMagnitude (negative : Bool) (magnitude : Nat) : Binary64 :=
  ⟨UInt64.ofNat (magnitude + if negative then signWeight else 0)⟩

/-- Whether the word is no number at all. -/
def isNaN (x : Binary64) : Bool := decide (infiniteMagnitude < x.magnitude)

/-- Whether the word is one of the two infinities. -/
def isInfinite (x : Binary64) : Bool := decide (x.magnitude = infiniteMagnitude)

/-- Whether the word is an ordinary number: no NaN and no infinity. -/
def isFinite (x : Binary64) : Bool := decide (x.magnitude < infiniteMagnitude)

/-- Whether the word is one of the two zeros. -/
def isZero (x : Binary64) : Bool := decide (x.magnitude = 0)

/-- Positive zero. -/
def zero : Binary64 := ⟨0⟩

/-- Positive infinity. -/
def infinity : Binary64 := ofMagnitude false infiniteMagnitude

/-- Negative infinity. -/
def negInfinity : Binary64 := ofMagnitude true infiniteMagnitude

/-- The NaN word that arithmetic delivers and the text `nan` stands for. -/
def nan : Binary64 := ⟨0x7ff8000000000000⟩

/-- The same word with the other sign bit. -/
def neg (x : Binary64) : Binary64 := ofMagnitude (!x.isNegative) x.magnitude

/-- The same word with the sign bit cleared. -/
def abs (x : Binary64) : Binary64 := ofMagnitude false x.magnitude

instance : Neg Binary64 := ⟨neg⟩

/-- The value of a magnitude in multiples of `2 ^ -1074`: the fraction of a subnormal as it
stands, the fraction of a normal one with its hidden bit, shifted by the exponent. -/
def unitsOfMagnitude (m : Nat) : Nat :=
  let exponent := m / Nat.pow 2 52
  let fraction := m % Nat.pow 2 52
  if exponent = 0 then fraction else (Nat.pow 2 52 + fraction) * Nat.pow 2 (exponent - 1)

/-- The absolute value of a finite word in multiples of `2 ^ -1074`. -/
def units (x : Binary64) : Nat := unitsOfMagnitude x.magnitude

/-- The value of a finite word in multiples of `2 ^ -1074`; both zeros have value `0`. -/
def signedUnits (x : Binary64) : Int :=
  if x.isNegative then -(x.units : Int) else x.units

end Binary64
end Concordance
