/-!
# Blanks, words and pieces

Blanks are the characters with the Unicode property `White_Space`.  Such a property is given by the
ranges of code points that have it, ends included.

* `inRanges` looks a character up in ranges.
* `trim` drops the blanks at both ends of a text.
* `words` cuts a text at its blanks and leaves empty pieces out.
* `pieces` cuts a list at every element of a kind; `flatten_pieces` says that nothing but those
  elements is lost.
-/

namespace Concordance.Text

/-- Whether the code point of a character lies in one of the ranges. -/
def inRanges (ranges : List (Nat × Nat)) (c : Char) : Bool :=
  ranges.any fun (first, last) => decide (first ≤ c.toNat) && decide (c.toNat ≤ last)

/-- The code points with the property `White_Space`. -/
def blankRanges : List (Nat × Nat) :=
  [(0x9, 0xd), (0x20, 0x20), (0x85, 0x85), (0xa0, 0xa0), (0x1680, 0x1680), (0x2000, 0x200a),
    (0x2028, 0x2029), (0x202f, 0x202f), (0x205f, 0x205f), (0x3000, 0x3000)]

/-- Whether a character is white space. -/
def isBlank (c : Char) : Bool := inRanges blankRanges c

/-- The blanks of ASCII are blanks. -/
theorem isBlank_of_isWhitespace {c : Char} (h : c.isWhitespace = true) : isBlank c = true := by
  simp only [Char.isWhitespace, Bool.or_eq_true, decide_eq_true_eq] at h
  rcases h with ((h | h) | h) | h <;> subst h <;> decide

/-- A text without the blanks at its ends. -/
def trim (cs : List Char) : List Char :=
  ((cs.dropWhile isBlank).reverse.dropWhile isBlank).reverse

/-- Cuts a list at every element that satisfies `cut`, which belongs to no piece.  There is one
piece more than there are cuts. -/
def pieces {α : Type} (cut : α → Bool) : List α → List (List α)
  | [] => [[]]
  | a :: rest =>
    if cut a then [] :: pieces cut rest
    else match pieces cut rest with
      | [] => [[a]]
      | first :: others => (a :: first) :: others

theorem pieces_ne_nil {α : Type} (cut : α → Bool) (as : List α) : pieces cut as ≠ [] := by
  cases as with
  | nil => simp [pieces]
  | cons a rest =>
    rw [pieces]
    split
    · simp
    · split <;> simp

/-- The pieces hold all elements but the cuts, in order. -/
theorem flatten_pieces {α : Type} (cut : α → Bool) (as : List α) :
    (pieces cut as).flatten = as.filter fun a => !cut a := by
  induction as with
  | nil => rfl
  | cons a rest ih =>
    rw [pieces]
    by_cases h : cut a = true
    · simp [h, ih]
    · rcases hp : pieces cut rest with _ | ⟨first, others⟩
      · exact absurd hp (pieces_ne_nil cut rest)
      · rw [hp] at ih
        simp_all

/-- The longest pieces of a text without blanks. -/
def words (cs : List Char) : List (List Char) := (pieces isBlank cs).filter (· ≠ [])

end Concordance.Text
