import Concordance.Decimal.Digits

/-!
# Reading integers of a fixed range

An integer text is an optional sign and at least one ASCII digit; leading zeros are allowed.
The sign `-` is refused where no negative number fits.  Characters are read from the left, and
the first that is no digit, or that carries the number out of its range, decides the fault.

* `readNatural` reads the numbers below `2 ^ 64`.
* `readInteger` reads the numbers from `-2 ^ 63` to below `2 ^ 63`.
-/

namespace Concordance

/-- Why a text is no integer of the range that was asked for. -/
inductive IntegerFault where
  | empty
  | invalidDigit
  | tooLarge
  | tooSmall
  deriving DecidableEq, Repr

namespace IntegerFault

/-- The wording of a fault. -/
def message : IntegerFault → String
  | empty => "cannot parse integer from empty string"
  | invalidDigit => "invalid digit found in string"
  | tooLarge => "number too large to fit in target type"
  | tooSmall => "number too small to fit in target type"

end IntegerFault

namespace Text

/-- Appends a digit to a number, as long as it stays within `limit`. -/
def appendDigit (limit : Nat) (beyond : IntegerFault) (acc : Nat) (c : Char) :
    Except IntegerFault Nat :=
  match Decimal.digitValue? c with
  | none => .error .invalidDigit
  | some d => if 10 * acc + d ≤ limit then .ok (10 * acc + d) else .error beyond

/-- Reads digits to a number within `limit`; `beyond` is the fault of a larger one. -/
def readDigits (limit : Nat) (beyond : IntegerFault) (cs : List Char) : Except IntegerFault Nat :=
  cs.foldlM (appendDigit limit beyond) 0

/-- Reads a natural number below `2 ^ 64`. -/
def readNatural : List Char → Except IntegerFault Nat
  | [] => .error .empty
  | ['+'] => .error .invalidDigit
  | '+' :: digits => readDigits (UInt64.size - 1) .tooLarge digits
  | digits => readDigits (UInt64.size - 1) .tooLarge digits

/-- Reads an integer from `-2 ^ 63` to below `2 ^ 63`. -/
def readInteger : List Char → Except IntegerFault Int64
  | [] => .error .empty
  | ['+'] => .error .invalidDigit
  | ['-'] => .error .invalidDigit
  | '+' :: digits => (readDigits Int64.maxValue.toInt.toNat .tooLarge digits).map Int64.ofNat
  | '-' :: digits =>
    (readDigits (-Int64.minValue.toInt).toNat .tooSmall digits).map fun n => Int64.ofInt (-n)
  | digits => (readDigits Int64.maxValue.toInt.toNat .tooLarge digits).map Int64.ofNat

end Text
end Concordance
