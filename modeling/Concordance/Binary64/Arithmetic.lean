import Concordance.Binary64.Rounding

/-!
# Arithmetic on doubles

Each operation computes its exact result on integers and rounds it once, as IEEE 754 asks.
Where there is no numeric result (`∞ - ∞`, `0 * ∞`, `0 / 0`, a root of a negative number) it
is `nan`.
-/

namespace Concordance.Binary64

/-- The sum.  A sum of exactly zero is negative only when both operands are negative. -/
def add (x y : Binary64) : Binary64 :=
  if x.isNaN || y.isNaN then nan
  else if x.isInfinite then
    if y.isInfinite && (x.isNegative != y.isNegative) then nan else x
  else if y.isInfinite then y
  else
    let sum := x.signedUnits + y.signedUnits
    if sum = 0 then ofMagnitude (x.isNegative && y.isNegative) 0
    else ofUnits (decide (sum < 0)) sum.natAbs 1

/-- The difference: the sum with the negated second operand. -/
def sub (x y : Binary64) : Binary64 := add x (neg y)

/-- The product. -/
def mul (x y : Binary64) : Binary64 :=
  let negative := x.isNegative != y.isNegative
  if x.isNaN || y.isNaN then nan
  else if x.isInfinite || y.isInfinite then
    if x.isZero || y.isZero then nan else ofMagnitude negative infiniteMagnitude
  else ofUnits negative (x.units * y.units) unitsPerOne

/-- The quotient; a number other than zero divided by zero is infinite. -/
def div (x y : Binary64) : Binary64 :=
  let negative := x.isNegative != y.isNegative
  if x.isNaN || y.isNaN then nan
  else if x.isInfinite then
    if y.isInfinite then nan else ofMagnitude negative infiniteMagnitude
  else if y.isInfinite then ofMagnitude negative 0
  else if y.isZero then
    if x.isZero then nan else ofMagnitude negative infiniteMagnitude
  else ofUnits negative (x.units * unitsPerOne) y.units

/-- The square root.  The integer root has more than five hundred digits, far more than the
result keeps, so a half added for a root that is not exact stands on the right side of every
rounding border. -/
def sqrt (x : Binary64) : Binary64 :=
  if x.isNaN then nan
  else if x.isZero then x
  else if x.isNegative then nan
  else if x.isInfinite then x
  else
    let square := x.units * unitsPerOne
    let root := square.sqrt
    ofUnits false (2 * root + if root * root = square then 0 else 1) 2

instance : Add Binary64 := ⟨add⟩
instance : Sub Binary64 := ⟨sub⟩
instance : Mul Binary64 := ⟨mul⟩
instance : Div Binary64 := ⟨div⟩

end Concordance.Binary64
