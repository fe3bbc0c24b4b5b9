import Concordance.Decimal.Reader
import Concordance.Decimal.Style
import Concordance.Proofs.Binary64.Words
import Concordance.Proofs.Decimal.Magnitude
import Concordance.Proofs.Text.Integer
import Mathlib.Data.List.TakeDrop

/-!
# A double is read back from its text

The text with an exponent holds all that its decimal is made of: `readUnsigned?_exponentText`
gives back significand and exponent and not only the value.  With the magnitude of the shortest
decimal this settles the finite doubles.  The words `inf` and `NaN` are told apart from numbers
by their first letter.

`ofText?_scientificText` is the round trip.  All words that are no number share one text, so what
comes back is `canonical`.
-/

namespace Concordance

/-- The word that a text can bring back: every NaN becomes the one that the text stands for. -/
def Binary64.canonical (x : Binary64) : Binary64 := if x.isNaN then .nan else x

namespace Decimal

/-! ## Digits at the front -/

/-- Digits end where a character is no digit. -/
lemma spanDigits_append_cons {ds : List Char} (digits : ∀ c ∈ ds, c.isDigit = true) {c : Char}
    (stop : c.isDigit = false) (rest : List Char) :
    spanDigits (ds ++ c :: rest) = (ds, c :: rest) := by
  have stops : ¬ c.isDigit = true := by rw [stop]; exact Bool.false_ne_true
  rw [spanDigits, List.span_eq_takeWhile_dropWhile, List.takeWhile_append_of_pos digits,
    List.dropWhile_append_of_pos digits, List.takeWhile_cons_of_neg stops,
    List.dropWhile_cons_of_neg stops, List.append_nil]

/-- What begins with no sign has none to split off. -/
lemma splitSign_of_ne {c : Char} (plus : c ≠ '+') (minus : c ≠ '-') (rest : List Char) :
    splitSign (c :: rest) = (false, c :: rest) := by
  unfold splitSign
  split <;> simp_all

/-! ## Exponents -/

/-- As long as the number stays below `65536`, no digit of an exponent is ignored. -/
lemma foldl_capped {cs : List Char} {acc : Nat} (small : goOn acc cs < 65536) :
    cs.foldl (fun acc c => if acc < 65536 then 10 * acc + digitValue c else acc) acc
      = goOn acc cs := by
  induction cs generalizing acc with
  | nil => rfl
  | cons c rest ih =>
      rw [goOn_cons] at small ⊢
      have next : 10 * acc + digitValue c ≤ goOn (10 * acc + digitValue c) rest := le_goOn _ rest
      rw [List.foldl_cons, if_pos (by omega), ih small]

lemma exponentOfDigits_natText {n : Nat} (small : n < 65536) :
    exponentOfDigits (natText n) = n := by
  rw [exponentOfDigits, foldl_capped (by rwa [goOn_natText]), goOn_natText]

lemma all_isDigit_natText (n : Nat) : (natText n).all Char.isDigit = true :=
  List.all_eq_true.2 fun _ => isDigit_of_mem_natText

/-- An exponent is read back with its sign. -/
lemma readExponent?_intText {e : Int} (small : e.natAbs < 65536) :
    readExponent? ('e' :: intText e) = some e := by
  obtain ⟨c, rest, split, digit⟩ := natText_eq_cons e.natAbs
  have letter : ('e' : Char) = 'e' ∨ ('e' : Char) = 'E' := .inl rfl
  have full : (natText e.natAbs).isEmpty = false := by rw [split]; rfl
  rw [readExponent?, if_pos letter, intText]
  by_cases negative : e < 0
  · rw [if_pos negative]
    simp only [splitSign, full, all_isDigit_natText, exponentOfDigits_natText small]
    simp only [Bool.not_true, Bool.or_false, Bool.false_eq_true, if_false, if_true,
      Option.some.injEq]
    omega
  · have unsigned : splitSign (natText e.natAbs) = (false, natText e.natAbs) := by
      rw [split]
      exact splitSign_of_ne (ne_of_isDigit digit (by decide)) (ne_of_isDigit digit (by decide)) rest
    rw [if_neg negative, unsigned]
    simp only [full, all_isDigit_natText, exponentOfDigits_natText small]
    simp only [Bool.not_true, Bool.or_false, Bool.false_eq_true, if_false, Option.some.injEq]
    omega

/-! ## Decimals -/

lemma exponentText_of_one {d : Decimal} {c : Char} (one : natText d.significand = [c]) :
    Style.exponentText d = [c] ++ 'e' :: intText (d.top - 1) := by
  rw [Style.exponentText, one]

lemma exponentText_of_many {d : Decimal} {c second : Char} {rest : List Char}
    (many : natText d.significand = c :: second :: rest) :
    Style.exponentText d
      = [c] ++ '.' :: ((second :: rest) ++ 'e' :: intText (d.top - 1)) := by
  rw [Style.exponentText, many]
  rfl

/-- The parts of a text decide what is read. -/
lemma readUnsigned?_of_parts {cs whole rest fraction last : List Char} {e : Int}
    (front : spanDigits cs = (whole, rest)) (nonempty : whole.isEmpty = false)
    (middle : splitFraction rest = (fraction, last)) (exponent : readExponent? last = some e) :
    readUnsigned? cs = some ⟨ofDigitChars (whole ++ fraction), e - fraction.length⟩ := by
  rw [readUnsigned?, front]
  simp only [middle, nonempty, exponent, Bool.false_and, Bool.false_eq_true, if_false,
    Option.map_some]

/-- **A decimal is read back digit by digit**, and not only as the number that it is. -/
theorem readUnsigned?_exponentText {d : Decimal} (near : (d.top - 1).natAbs < 65536) :
    readUnsigned? (Style.exponentText d) = some d := by
  have value := ofDigitChars_natText d.significand
  have count : ((natText d.significand).length : Int) + d.exponent = d.top := by
    rw [length_natText, top]
  obtain ⟨c, rest, split, digit⟩ := natText_eq_cons d.significand
  have first : ∀ a ∈ [c], a.isDigit = true := List.forall_mem_singleton.2 digit
  rw [split, List.length_cons] at count
  rw [split] at value
  cases rest with
  | nil =>
      have whole := spanDigits_append_cons first (by decide : 'e'.isDigit = false)
        (intText (d.top - 1))
      have exponent : d.top - 1 - (([] : List Char).length : Int) = d.exponent := by omega
      rw [exponentText_of_one split,
        readUnsigned?_of_parts whole rfl rfl (readExponent?_intText near), List.append_nil, value,
        exponent]
  | cons second rest =>
      have others : ∀ a ∈ second :: rest, a.isDigit = true := fun a member =>
        isDigit_of_mem_natText (split ▸ List.mem_cons_of_mem c member)
      have whole := spanDigits_append_cons first (by decide : '.'.isDigit = false)
        ((second :: rest) ++ 'e' :: intText (d.top - 1))
      have fraction := spanDigits_append_cons others (by decide : 'e'.isDigit = false)
        (intText (d.top - 1))
      have exponent : d.top - 1 - ((second :: rest).length : Int) = d.exponent := by omega
      rw [exponentText_of_many split,
        readUnsigned?_of_parts whole rfl fraction (readExponent?_intText near),
        List.singleton_append, value, exponent]

/-! ## Words -/

/-- A number has a digit where a word has a letter. -/
lemma isWord_of_digit {letter c : Char} (word : letter.isDigit = false) (letters : List Char)
    (digit : c.isDigit = true) (rest : List Char) :
    isWord (letter :: letters) (c :: rest) = false := by
  have small : ¬ (c.val ≥ 'A'.val ∧ c.val ≤ 'Z'.val) := by
    rintro ⟨capital, _⟩
    have range := isDigit_iff.1 digit
    exact absurd (Nat.le_trans (UInt32.le_iff_toNat_le.1 capital) range.2) (by decide)
  have lower : c.toLower = c := dif_neg small
  rw [isWord, List.map_cons, lower, List.cons_beq_cons,
    beq_false_of_ne (ne_of_isDigit digit word), Bool.false_and]

lemma readMagnitude?_of_digit {c : Char} (digit : c.isDigit = true) (rest : List Char) :
    readMagnitude? (c :: rest) = (readUnsigned? (c :: rest)).map magnitude := by
  rw [readMagnitude?, isWord_of_digit (by decide) _ digit, isWord_of_digit (by decide) _ digit,
    isWord_of_digit (by decide) _ digit]
  rfl

/-- The text of a decimal begins with a digit. -/
lemma exponentText_eq_cons (d : Decimal) :
    ∃ c rest, Style.exponentText d = c :: rest ∧ c.isDigit = true := by
  obtain ⟨c, rest, split, digit⟩ := natText_eq_cons d.significand
  cases rest with
  | nil => exact ⟨c, _, exponentText_of_one split, digit⟩
  | cons second rest => exact ⟨c, _, exponentText_of_many split, digit⟩

/-- The shortest decimal of a finite magnitude is read as that magnitude. -/
lemma readMagnitude?_shortest (tie : Tie) {m : Nat} (finite : m < Binary64.infiniteMagnitude) :
    readMagnitude? (Style.exponentText (shortest tie m)) = some m := by
  obtain ⟨low, high⟩ := top_shortest tie finite
  obtain ⟨c, rest, split, digit⟩ := exponentText_eq_cons (shortest tie m)
  rw [split, readMagnitude?_of_digit digit, ← split, readUnsigned?_exponentText (by omega),
    Option.map_some, magnitude_shortest tie finite]

end Decimal

namespace Binary64

open Decimal

/-! ## Doubles -/

lemma splitSign_signed (negative : Bool) {c : Char} (plus : c ≠ '+') (minus : c ≠ '-')
    (rest : List Char) :
    splitSign ((if negative then ['-'] else []) ++ c :: rest) = (negative, c :: rest) := by
  cases negative with
  | true => rfl
  | false => exact splitSign_of_ne plus minus rest

/-- What stands behind the sign of a word that is no NaN. -/
lemma scientificText_of_number {x : Binary64} (number : x.isNaN = false) :
    ∃ c rest, x.scientificText = (if x.isNegative then ['-'] else []) ++ c :: rest ∧
      c ≠ '+' ∧ c ≠ '-' ∧ readMagnitude? (c :: rest) = some x.magnitude := by
  rw [scientificText, Style.text, number]
  by_cases infinite : x.magnitude = infiniteMagnitude
  · refine ⟨'i', ['n', 'f'], ?_, by decide, by decide, ?_⟩
    · rw [isInfinite, decide_eq_true infinite]
      rfl
    · rw [infinite]
      rfl
  · have finite : x.magnitude < infiniteMagnitude :=
      Nat.lt_of_le_of_ne (magnitude_le_of_isNaN_eq_false number) infinite
    obtain ⟨c, rest, split, digit⟩ := exponentText_eq_cons (shortest .up x.magnitude)
    refine ⟨c, rest, ?_, ne_of_isDigit digit (by decide), ne_of_isDigit digit (by decide), ?_⟩
    · rw [isInfinite, decide_eq_false infinite, ← split]
      rfl
    · rw [← split, readMagnitude?_shortest .up finite]

/-- **Every word that is no NaN is read back from its text**, bit for bit, and a NaN is read as
the one that its text stands for. -/
theorem ofText?_scientificText (x : Binary64) : ofText? x.scientificText = some x.canonical := by
  cases number : x.isNaN with
  | true =>
      rw [scientificText, Style.text, number, canonical, if_pos number]
      rfl
  | false =>
      obtain ⟨c, rest, text, plus, minus, read⟩ := scientificText_of_number number
      rw [ofText?, text, splitSign_signed _ plus minus]
      simp only [read, Option.map_some, ofMagnitude_magnitude, canonical, number,
        Bool.false_eq_true, if_false]

/-! ## The texts are fields -/

open Text

lemma isField_exponentText (d : Decimal) : IsField (Style.exponentText d) := by
  obtain ⟨c, rest, split, digit⟩ := natText_eq_cons d.significand
  have solid := (isField_natText d.significand).solid
  have exponent : ∀ a ∈ 'e' :: intText (d.top - 1), isBlank a = false :=
    List.forall_mem_cons.2 ⟨by decide, (isField_intText (d.top - 1)).solid⟩
  rw [split] at solid
  cases rest with
  | nil =>
      rw [exponentText_of_one split]
      exact ⟨List.cons_ne_nil _ _, List.forall_mem_append.2 ⟨solid, exponent⟩⟩
  | cons second rest =>
      obtain ⟨first, others⟩ := List.forall_mem_cons.1 solid
      rw [exponentText_of_many split]
      refine ⟨List.cons_ne_nil _ _, List.forall_mem_cons.2 ⟨first, List.forall_mem_cons.2 ⟨?_, ?_⟩⟩⟩
      · decide
      · exact List.forall_mem_append.2 ⟨others, exponent⟩

lemma isField_signed {cs : List Char} (field : IsField cs) (negative : Bool) :
    IsField ((if negative then ['-'] else []) ++ cs) := by
  cases negative with
  | true => exact ⟨List.cons_ne_nil _ _, List.forall_mem_cons.2 ⟨by decide, field.solid⟩⟩
  | false => exact field

lemma isField_scientificText (x : Binary64) : IsField x.scientificText := by
  rw [scientificText, Style.text]
  split
  · exact isField_of_any (List.cons_ne_nil _ _) (by decide)
  · refine isField_signed ?_ _
    split
    · exact isField_of_any (List.cons_ne_nil _ _) (by decide)
    · exact isField_exponentText _

lemma isField_positionalDecimal (d : Decimal) : IsField (Style.positionalText false d) := by
  obtain ⟨nonempty, solid⟩ := isField_natText d.significand
  have zeros : ∀ n : Nat, ∀ c ∈ List.replicate n '0', isBlank c = false := by
    intro n c member
    rw [List.eq_of_mem_replicate member]
    decide
  rw [Style.positionalText]
  split
  · rw [if_neg Bool.false_ne_true, List.append_nil]
    exact ⟨List.append_ne_nil_of_left_ne_nil nonempty _, List.forall_mem_append.2 ⟨solid, zeros _⟩⟩
  split
  · refine ⟨by simp, List.forall_mem_append.2 ⟨?_, List.forall_mem_cons.2 ⟨by decide, ?_⟩⟩⟩
    · exact fun c member => solid c (List.mem_of_mem_take member)
    · exact fun c member => solid c (List.mem_of_mem_drop member)
  · refine ⟨List.cons_ne_nil _ _, List.forall_mem_append.2 ⟨?_, solid⟩⟩
    exact List.forall_mem_cons.2 ⟨by decide, List.forall_mem_cons.2 ⟨by decide, zeros _⟩⟩

lemma isField_positionalText (x : Binary64) : IsField x.positionalText := by
  rw [positionalText, Style.text]
  split
  · exact isField_of_any (List.cons_ne_nil _ _) (by decide)
  · refine isField_signed ?_ _
    split
    · exact isField_of_any (List.cons_ne_nil _ _) (by decide)
    · exact isField_positionalDecimal _

end Binary64
end Concordance
