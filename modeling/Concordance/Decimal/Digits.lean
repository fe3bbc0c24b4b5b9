/-!
# Decimal digits

Natural numbers as lists of decimal digits, most significant first, and as text.

* `digits` and `ofDigits` turn a number into its digits and back (`ofDigits_digits`).
* `natText` and `intText` are the plain texts of numbers, without a sign for a natural number
  and with `-` before a negative integer.
-/

namespace Concordance.Decimal

/-- The decimal digits of a number, most significant first; zero has the one digit `0`. -/
def digits (n : Nat) : List Nat :=
  if n < 10 then [n] else digits (n / 10) ++ [n % 10]
termination_by n
decreasing_by omega

/-- The number with the given digits, most significant first. -/
def ofDigits (ds : List Nat) : Nat := ds.foldl (fun acc d => 10 * acc + d) 0

/-- How many decimal digits a number has; one for zero. -/
def digitCount (n : Nat) : Nat := (digits n).length

/-- The character of a digit below ten. -/
def digitChar (d : Nat) : Char := Char.ofNat (48 + d)

/-- The value of an ASCII digit; other digits of Unicode are no digits here. -/
def digitValue? (c : Char) : Option Nat :=
  if c.isDigit then some (c.toNat - 48) else none

/-- The value of a character that is known to be a digit. -/
def digitValue (c : Char) : Nat := c.toNat - 48

/-- The plain text of a natural number. -/
def natText (n : Nat) : List Char := (digits n).map digitChar

/-- The plain text of an integer. -/
def intText (n : Int) : List Char :=
  if n < 0 then '-' :: natText n.natAbs else natText n.natAbs

theorem digits_ne_nil (n : Nat) : digits n ≠ [] := by
  rw [digits]; split <;> simp

theorem ofDigits_append_singleton (ds : List Nat) (d : Nat) :
    ofDigits (ds ++ [d]) = 10 * ofDigits ds + d := by
  simp [ofDigits]

/-- A number is the number with its digits. -/
theorem ofDigits_digits (n : Nat) : ofDigits (digits n) = n := by
  induction n using Nat.strongRecOn with
  | ind n ih =>
    rw [digits]
    split
    · simp [ofDigits]
    · rw [ofDigits_append_singleton, ih (n / 10) (by omega)]
      omega

/-- Every digit is below ten. -/
theorem lt_ten_of_mem_digits {n d : Nat} (h : d ∈ digits n) : d < 10 := by
  induction n using Nat.strongRecOn with
  | ind n ih =>
    rw [digits] at h
    split at h
    · simp only [List.mem_singleton] at h; omega
    · rcases List.mem_append.1 h with h | h
      · exact ih (n / 10) (by omega) h
      · simp only [List.mem_singleton] at h; omega

end Concordance.Decimal
