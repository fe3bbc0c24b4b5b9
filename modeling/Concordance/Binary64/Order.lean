import Concordance.Binary64.Basic

/-!
# Comparing doubles

Every comparison with a NaN is false.  All others are read off `position`, the place of a
word on the line of numbers: the magnitude with the sign of the word.  Both zeros stand at
position `0`, so they are equal here although their words differ.

`min` and `max` leave an operand out that is not a number.  Of two equal operands, which differ
only if they are the two zeros, they return the second.
-/

namespace Concordance.Binary64

/-- The place of a number on the line of doubles. -/
def position (x : Binary64) : Int :=
  if x.isNegative then -(x.magnitude : Int) else x.magnitude

/-- Strictly less, as numbers. -/
def lt (x y : Binary64) : Bool :=
  !x.isNaN && !y.isNaN && decide (x.position < y.position)

/-- Less or equal, as numbers. -/
def le (x y : Binary64) : Bool :=
  !x.isNaN && !y.isNaN && decide (x.position ≤ y.position)

/-- What is below a number is below every larger one; no NaN is among the three. -/
theorem lt_of_lt_of_le {x y z : Binary64} (below : x.lt y = true) (larger : y.le z = true) :
    x.lt z = true := by
  simp only [lt, le, Bool.and_eq_true, decide_eq_true_eq] at *
  obtain ⟨⟨number, _⟩, before⟩ := below
  obtain ⟨⟨_, number'⟩, notBehind⟩ := larger
  exact ⟨⟨number, number'⟩, Int.lt_of_lt_of_le before notBehind⟩

/-- Equal as numbers: `0.0` equals `-0.0`, and a NaN does not equal itself. -/
def eq (x y : Binary64) : Bool :=
  !x.isNaN && !y.isNaN && decide (x.position = y.position)

/-- The smaller of two numbers, or the one that is a number. -/
def min (x y : Binary64) : Binary64 :=
  if y.isNaN || lt x y then x else y

/-- The larger of two numbers, or the one that is a number. -/
def max (x y : Binary64) : Binary64 :=
  if y.isNaN || lt y x then x else y

/-- The least number of a list, the last of those that are equal to it; infinity when the list
holds no number. -/
def least (xs : List Binary64) : Binary64 := xs.foldl min infinity

end Concordance.Binary64
