import Concordance.Decimal.Shortest

/-!
# How a double is written

The texts of doubles with the fewest digits are written by `Style.text`.  A `Style` holds what
they differ in: which numbers are written without an exponent, and whether an integer keeps a
`.0`.  Of two equally near shortest decimals, texts have the larger one.

* `Style.scientific` always has an exponent: `1.5e-7`, `0e0`.
* `Style.positional` never has one: `0.00000015`, `100000000000000000000`.
* `Style.literal` is positional from `1e-4` to below `1e16`, and keeps `.0` there.
-/

namespace Concordance

/-- The decisions a format takes about the text of a double. -/
structure Style where
  /-- Whether a decimal with its leading digit at this place is written without an exponent;
  the units digit has place `1`. -/
  isPositional : Int → Bool
  /-- Whether an integer written without an exponent ends in `.0`. -/
  keepsPoint : Bool

namespace Style

/-- One digit before the point, and always an exponent. -/
def scientific : Style where
  isPositional := fun _ => false
  keepsPoint := false

/-- Never an exponent, and no point in an integer. -/
def positional : Style where
  isPositional := fun _ => true
  keepsPoint := false

/-- As numbers stand in a program text: a point in every number without an exponent. -/
def literal : Style where
  isPositional := fun top => decide (-3 ≤ top) && decide (top ≤ 16)
  keepsPoint := true

/-- Digits with the point after the first one, and the exponent of the first digit. -/
def exponentText (d : Decimal) : List Char :=
  let mantissa := match Decimal.natText d.significand with
    | [] => []
    | [first] => [first]
    | first :: rest => first :: '.' :: rest
  mantissa ++ 'e' :: Decimal.intText (d.top - 1)

/-- Digits with the point at its place, filled up with zeros on either side. -/
def positionalText (keepsPoint : Bool) (d : Decimal) : List Char :=
  let digits := Decimal.natText d.significand
  if 0 ≤ d.exponent then
    digits ++ List.replicate d.exponent.toNat '0' ++ if keepsPoint then ['.', '0'] else []
  else if 0 < d.top then digits.take d.top.toNat ++ '.' :: digits.drop d.top.toNat
  else '0' :: '.' :: List.replicate (-d.top).toNat '0' ++ digits

/-- The text of a decimal. -/
def decimalText (style : Style) (d : Decimal) : List Char :=
  if style.isPositional d.top then positionalText style.keepsPoint d else exponentText d

/-- The text of a double.  A NaN has no sign; a negative zero has one. -/
def text (style : Style) (x : Binary64) : List Char :=
  if x.isNaN then ['N', 'a', 'N']
  else
    (if x.isNegative then ['-'] else []) ++
      if x.isInfinite then ['i', 'n', 'f']
      else style.decimalText (Decimal.shortest .up x.magnitude)

end Style

namespace Binary64

/-- The text with an exponent, as it stands in traces and reports. -/
def scientificText (x : Binary64) : List Char := Style.scientific.text x

/-- The text without an exponent, as it stands in tables and messages. -/
def positionalText (x : Binary64) : List Char := Style.positional.text x

/-- The text with a point or an exponent, as it stands in logs and lists of coordinates. -/
def literalText (x : Binary64) : List Char := Style.literal.text x

end Binary64
end Concordance
