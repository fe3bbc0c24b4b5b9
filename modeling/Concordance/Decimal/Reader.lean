import Concordance.Decimal.Basic

/-!
# Reading a double from text

A float text is an optional sign before one of

* `inf`, `infinity` or `nan`, in any mixture of letter case, or
* digits with at most one point among them, at least one digit in all, and then possibly an
  exponent: `e` or `E`, an optional sign, at least one digit.

The value is correctly rounded: too large a number is infinite and too small a one is zero.
A sign before `nan` sets the sign bit of the word.
-/

namespace Concordance.Decimal

/-- The digits at the start of a text, and what follows them. -/
def spanDigits (cs : List Char) : List Char × List Char := cs.span Char.isDigit

/-- The number a list of digit characters stands for. -/
def ofDigitChars (cs : List Char) : Nat := ofDigits (cs.map digitValue)

/-- Splits an optional sign off a text; the answer says whether it was `-`. -/
def splitSign : List Char → Bool × List Char
  | '-' :: rest => (true, rest)
  | '+' :: rest => (false, rest)
  | cs => (false, cs)

/-- The number a written exponent stands for.  It stops growing at `65536`, beyond all
exponents that make a difference. -/
def exponentOfDigits (cs : List Char) : Nat :=
  cs.foldl (fun acc c => if acc < 65536 then 10 * acc + digitValue c else acc) 0

/-- Reads the exponent at the end of a float text; no text at all stands for exponent zero. -/
def readExponent? : List Char → Option Int
  | [] => some 0
  | c :: rest =>
    if c = 'e' ∨ c = 'E' then
      let (negative, rest) := splitSign rest
      if rest.isEmpty || !rest.all Char.isDigit then none
      else some (if negative then -(exponentOfDigits rest : Int) else exponentOfDigits rest)
    else none

/-- Splits the digits behind a point off a text; there are none without a point. -/
def splitFraction : List Char → List Char × List Char
  | '.' :: rest => spanDigits rest
  | cs => ([], cs)

/-- Reads a decimal number without a sign. -/
def readUnsigned? (cs : List Char) : Option Decimal :=
  let (whole, rest) := spanDigits cs
  let (fraction, rest) := splitFraction rest
  if whole.isEmpty && fraction.isEmpty then none
  else (readExponent? rest).map fun exponent =>
    ⟨ofDigitChars (whole ++ fraction), exponent - fraction.length⟩

/-- Whether a text is a word that is given in small letters, in any letter case. -/
def isWord (word cs : List Char) : Bool := cs.map Char.toLower == word

/-- Reads a magnitude: a number, or one of the words for what is no finite number. -/
def readMagnitude? (cs : List Char) : Option Nat :=
  if isWord ['i', 'n', 'f'] cs || isWord ['i', 'n', 'f', 'i', 'n', 'i', 't', 'y'] cs then
    some Binary64.infiniteMagnitude
  else if isWord ['n', 'a', 'n'] cs then some Binary64.nan.magnitude
  else (readUnsigned? cs).map magnitude

end Concordance.Decimal

namespace Concordance

/-- Reads a double from its text. -/
def Binary64.ofText? (cs : List Char) : Option Binary64 :=
  let (negative, rest) := Decimal.splitSign cs
  (Decimal.readMagnitude? rest).map (Binary64.ofMagnitude negative)

end Concordance
