import Concordance.Json.Text
import Mathlib.Tactic.Lemma
import Mathlib.Tactic.SplitIfs

/-!
# Strings are read back

A text is written between quotes, with quotes, backslashes and controls escaped, and is read up to
the quote that stands unescaped.  The three ways of writing a character are followed one by one
(`readUnits?_unitText`); the characters themselves may be any.
-/

namespace Concordance.Json

/-! ## Base sixteen -/

lemma hexValue?_hexDigit : ∀ d < 16, hexValue? (Text.hexDigit d) = some d := by decide

/-- A control is read back from its four digits. -/
lemma unitOfDigits?_fourDigits {code : Nat} (small : code < 0x20) :
    unitOfDigits? (Text.hexDigit (code / 0x1000 % 16)) (Text.hexDigit (code / 0x100 % 16))
        (Text.hexDigit (code / 0x10 % 16)) (Text.hexDigit (code % 16))
      = some (.char (Char.ofNat code)) := by
  have value : ((code / 0x1000 % 16 * 16 + code / 0x100 % 16) * 16 + code / 0x10 % 16) * 16
      + code % 16 = code := by omega
  have whole : isSurrogate code = false := by
    rw [isSurrogate, decide_eq_false (by omega), Bool.false_and]
  simp only [unitOfDigits?, hexValue?_hexDigit _ (Nat.mod_lt _ (by decide : 16 > 0)),
    Option.bind_eq_bind, Option.bind_some, value, whole]
  rfl

/-! ## Characters -/

/-- The characters that have a letter behind a backslash, with their letters. -/
def shortEscapes : List (Char × Char) :=
  [('\"', '\"'), ('\\', '\\'), ('\x08', 'b'), ('\x0c', 'f'), ('\n', 'n'), ('\r', 'r'), ('\t', 't')]

lemma mem_shortEscapes {c letter : Char} (h : shortEscape? c = some letter) :
    (c, letter) ∈ shortEscapes := by
  unfold shortEscape? at h
  split_ifs at h <;> cases h <;> simp [shortEscapes, *]

/-- No escape by one letter is mistaken for one by four digits. -/
lemma ofShortEscape?_shortEscape? {c letter : Char} (h : shortEscape? c = some letter) :
    ofShortEscape? letter = some c ∧ letter ≠ 'u' := by
  have known : ∀ pair ∈ shortEscapes, ofShortEscape? pair.2 = some pair.1 ∧ pair.2 ≠ 'u' := by
    decide
  exact known _ (mem_shortEscapes h)

lemma ne_of_shortEscape?_eq_none {c : Char} (h : shortEscape? c = none) : c ≠ '\"' ∧ c ≠ '\\' := by
  constructor <;> rintro rfl <;> exact absurd h (by decide)

/-- A character is read off the text that stands for it, whatever stands behind. -/
lemma readUnits?_unitText (c : Char) (rest : List Char) :
    readUnits? (unitText (.char c) ++ rest) = consUnit (.char c) (readUnits? rest) := by
  rw [unitText]
  split
  · rename_i letter known
    obtain ⟨named, apart⟩ := ofShortEscape?_shortEscape? known
    simp only [List.cons_append, List.nil_append]
    rw [readUnits?, named]
    rintro _ _ _ _ _ rfl _
    exact apart rfl
  · rename_i plain
    obtain ⟨quote, backslash⟩ := ne_of_shortEscape?_eq_none plain
    split
    · rename_i control
      simp only [List.cons_append, fourDigits, List.nil_append]
      rw [readUnits?, unitOfDigits?_fourDigits control, Char.ofNat_toNat]
    · rename_i printable
      rw [List.cons_append, List.nil_append, readUnits?, if_neg (not_or.2 ⟨backslash, printable⟩)]
      · exact quote
      · rintro _ _ _ _ _ rfl
        exact absurd rfl backslash
      · rintro _ _ rfl
        exact absurd rfl backslash

/-! ## Texts -/

/-- **A text is read back up to its closing quote.** -/
theorem readUnits?_unitsText (cs rest : List Char) :
    readUnits? (unitsText (unitsOfText cs) ++ '\"' :: rest) = some (unitsOfText cs, rest) := by
  induction cs with
  | nil => rfl
  | cons c cs ih =>
      have first : unitsText (unitsOfText (c :: cs)) ++ '\"' :: rest =
          unitText (.char c) ++ (unitsText (unitsOfText cs) ++ '\"' :: rest) := by
        rw [← List.append_assoc]
        rfl
      rw [first, readUnits?_unitText, ih]
      rfl

@[simp] lemma textOfUnits?_unitsOfText (cs : List Char) :
    textOfUnits? (unitsOfText cs) = some cs := by
  induction cs with
  | nil => rfl
  | cons c cs ih =>
      change (textOfUnits? (unitsOfText cs)).map (c :: ·) = _
      rw [ih, Option.map_some]

end Concordance.Json
