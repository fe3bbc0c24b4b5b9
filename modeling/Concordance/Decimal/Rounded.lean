import Concordance.Decimal.Style

/-!
# Doubles written to a fixed number of digits

Here the exact value of the double is rounded to a given number of digits, a half to the even
digit, and zeros at the end are kept.

* `Binary64.fixedText` has a given number of digits behind the point.
* `Binary64.roundedScientificText` has a given number of digits behind the point and an
  exponent.
-/

namespace Concordance

namespace Decimal

/-- Digits of a significand with `places` of them behind the point, at least one before it. -/
def pointed (places significand : Nat) : List Char :=
  let digits := natText significand
  let padded := List.replicate (places + 1 - digits.length) '0' ++ digits
  let before := padded.length - places
  if places = 0 then padded else padded.take before ++ '.' :: padded.drop before

/-- The multiple of `10 ^ (top - n)` nearest to a value whose leading digit is at `top`: its
`n` leading digits.  Rounding up to `10 ^ n` moves the leading digit by one place. -/
def leading (n magnitude : Nat) : Decimal :=
  if magnitude = 0 then ⟨0, 1 - n⟩
  else
    let units := Binary64.unitsOfMagnitude magnitude
    let place := leadingPlace units - n
    let (num, den) := scaled units place
    let rounded := divHalfEven num den
    if rounded < Nat.pow 10 n then ⟨rounded, place⟩ else ⟨rounded / 10, place + 1⟩

end Decimal

namespace Binary64

/-- Writes a finite word by `write`, behind its sign, and any other word as `Style.scientific`
does. -/
def signedText (x : Binary64) (write : Nat → List Char) : List Char :=
  if x.isFinite then (if x.isNegative then ['-'] else []) ++ write x.magnitude
  else x.scientificText

/-- The value rounded to `places` digits behind the point. -/
def fixedText (places : Nat) (x : Binary64) : List Char :=
  x.signedText fun m =>
    Decimal.pointed places (divHalfEven (unitsOfMagnitude m * Nat.pow 10 places) unitsPerOne)

/-- The value rounded to `places` digits behind the point, with an exponent. -/
def roundedScientificText (places : Nat) (x : Binary64) : List Char :=
  x.signedText fun m =>
    let d := Decimal.leading (places + 1) m
    Decimal.pointed places d.significand ++ 'e' :: Decimal.intText (d.exponent + places)

end Binary64
end Concordance
