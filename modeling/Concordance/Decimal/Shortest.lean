import Concordance.Decimal.Basic

/-!
# The shortest decimal that reads back

The decimal written for a double is one with the fewest digits among those whose nearest
double it is, and of these the nearest to the exact value.

The multiples of `10 ^ (top - n)` are the decimals of `n` digits near a value with leading
digit at `top`.  Two of them enclose the value.  For `n = 1, 2, …` the two are rounded to
doubles again (`Decimal.magnitude`), and the first `n` at which one comes back decides.
When both come back, the nearer is taken, and where the value is half way between them, the
`Tie` rule says which.

No double needs more than seventeen digits.  The exact value stands behind the search, so that
what is written reads back whatever the search finds.
-/

namespace Concordance

/-- Which of two equally near decimals is written. -/
inductive Tie where
  /-- The larger one. -/
  | up
  /-- The one whose last digit is even. -/
  | toEven
  deriving DecidableEq, Repr

namespace Decimal

/-- The significand of the least positive double, `2 ^ -1074 = 5 ^ 1074 * 10 ^ -1074`. -/
def leastSignificand : Nat := Nat.pow 5 1074

/-- The exact value of a finite magnitude. -/
def exact (magnitude : Nat) : Decimal :=
  ⟨Binary64.unitsOfMagnitude magnitude * leastSignificand, -1074⟩

/-- The place of the leading digit of `units` multiples of `2 ^ -1074`.  Times `10 ^ 324` the
least positive double has its leading digit before the point, so no digit is lost. -/
def leadingPlace (units : Nat) : Int :=
  digitCount (units * Nat.pow 10 324 / Binary64.unitsPerOne) - 324

/-- The quotient `units * 2 ^ -1074 / 10 ^ place` as numerator and denominator. -/
def scaled (units : Nat) (place : Int) : Nat × Nat :=
  if 0 ≤ place then (units, Binary64.unitsPerOne * Nat.pow 10 place.toNat)
  else (units * Nat.pow 10 (-place).toNat, Binary64.unitsPerOne)

/-- Of the two multiples of `10 ^ place` that enclose the value of a magnitude, the one to
write: it must read back, and of two that do the nearer is taken. -/
def onGrid? (tie : Tie) (magnitude : Nat) (place : Int) : Option Decimal :=
  let (num, den) := scaled (Binary64.unitsOfMagnitude magnitude) place
  let below : Decimal := ⟨num / den, place⟩
  let above : Decimal := ⟨num / den + 1, place⟩
  let twice := 2 * (num % den)
  let preferAbove := decide (den < twice) ||
    (decide (twice = den) && (tie == .up || below.significand % 2 == 1))
  let first := if preferAbove then above else below
  let second := if preferAbove then below else above
  if first.magnitude = magnitude then some first
  else if second.magnitude = magnitude then some second
  else none

/-- The shortest decimal whose nearest double has the given finite magnitude. -/
def shortest (tie : Tie) (magnitude : Nat) : Decimal :=
  if magnitude = 0 then ⟨0, 0⟩
  else
    let place := leadingPlace (Binary64.unitsOfMagnitude magnitude)
    let found := (List.range 17).findSome? fun n : Nat =>
      onGrid? tie magnitude (place - (n + 1))
    (found.getD (exact magnitude)).trimmed

end Decimal
end Concordance
