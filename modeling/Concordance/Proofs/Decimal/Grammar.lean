import Concordance.Proofs.Decimal.Reader
import Concordance.Proofs.Text.Numerals
import Mathlib.Data.List.TakeWhile

/-!
# Which texts are doubles

The grammar of float texts as a relation between a text and the double that it stands for: a sign
or none, then a word in any letter case, or digits with a point or none and an exponent or none.

* `FloatText` is the relation.  The value of a number is said with `Decimal.magnitude`, the
  magnitude nearest to a decimal.
* `ofText?_eq_some_iff` says that the reader accepts these texts and no others.  From the text to
  the parts, each step of the reader splits a front off (`spanDigits_eq`, `splitSign_eq_iff`);
  from the parts to the text, it has to stop where the part ends (`spanDigits_append`).
-/

namespace Concordance

namespace Decimal

open Text

/-- A text behind a sign or without one, and whether the sign is a minus. -/
inductive Signed : Bool → List Char → List Char → Prop
  | unsigned {cs : List Char} : Signed false cs cs
  | plus {cs : List Char} : Signed false cs ('+' :: cs)
  | minus {cs : List Char} : Signed true cs ('-' :: cs)

/-- An exponent, or nothing for the exponent zero. -/
inductive ExponentText : List Char → Int → Prop
  | none : ExponentText [] 0
  | some {letter : Char} {negative : Bool} {ds cs : List Char}
      (known : letter = 'e' ∨ letter = 'E') (sign : Signed negative ds cs) (digits : IsDigits ds) :
      ExponentText (letter :: cs)
        (if negative then -(exponentOfDigits ds : Int) else exponentOfDigits ds)

/-- A decimal number without a sign. -/
inductive UnsignedText : List Char → Decimal → Prop
  | whole {whole last : List Char} {e : Int} (digits : IsDigits whole)
      (exponent : ExponentText last e) :
      UnsignedText (whole ++ last) ⟨ofDigitChars whole, e⟩
  | point {whole fraction last : List Char} {e : Int} (digits : IsDigits (whole ++ fraction))
      (exponent : ExponentText last e) :
      UnsignedText (whole ++ '.' :: (fraction ++ last))
        ⟨ofDigitChars (whole ++ fraction), e - fraction.length⟩

/-- A number or a word without a sign, with the magnitude of its double. -/
inductive MagnitudeText : List Char → Nat → Prop
  | infinite {cs : List Char} (word : cs.map Char.toLower = ['i', 'n', 'f'] ∨
      cs.map Char.toLower = ['i', 'n', 'f', 'i', 'n', 'i', 't', 'y']) :
      MagnitudeText cs Binary64.infiniteMagnitude
  | nan {cs : List Char} (word : cs.map Char.toLower = ['n', 'a', 'n']) :
      MagnitudeText cs Binary64.nan.magnitude
  | number {cs : List Char} {d : Decimal} (unsigned : UnsignedText cs d) :
      MagnitudeText cs d.magnitude

/-! ## Signs -/

lemma Signed.of_splitSign {cs rest : List Char} {negative : Bool}
    (h : splitSign cs = (negative, rest)) : Signed negative rest cs := by
  unfold splitSign at h
  split at h
  · cases h
    exact .minus
  · cases h
    exact .plus
  · cases h
    exact .unsigned

/-- A sign is split off if none follows it. -/
lemma Signed.splitSign {negative : Bool} {c : Char} {rest cs : List Char}
    (h : Signed negative (c :: rest) cs) (plus : c ≠ '+') (minus : c ≠ '-') :
    splitSign cs = (negative, c :: rest) := by
  cases h with
  | unsigned => exact splitSign_of_ne plus minus rest
  | plus => rfl
  | minus => rfl

/-! ## Digits at the front -/

/-- A front of digits and the rest, which begins with none. -/
lemma spanDigits_eq {cs front rest : List Char} (h : spanDigits cs = (front, rest)) :
    cs = front ++ rest ∧ (∀ c ∈ front, c.isDigit = true) ∧
      ∀ c ∈ rest.head?, c.isDigit = false := by
  rw [spanDigits, List.span_eq_takeWhile_dropWhile, Prod.mk.injEq] at h
  obtain ⟨rfl, rfl⟩ := h
  refine ⟨List.takeWhile_append_dropWhile.symm, fun c member => ?_, fun c first => ?_⟩
  · exact List.mem_takeWhile_imp member
  · have stop := List.head?_dropWhile_not Char.isDigit cs
    rwa [Option.mem_def.1 first] at stop

/-- Digits end where the rest begins with none. -/
lemma spanDigits_append {front rest : List Char} (digits : ∀ c ∈ front, c.isDigit = true)
    (stop : ∀ c ∈ rest.head?, c.isDigit = false) : spanDigits (front ++ rest) = (front, rest) := by
  cases rest with
  | nil =>
      rw [List.append_nil, spanDigits, List.span_eq_takeWhile_dropWhile,
        List.takeWhile_eq_self_iff.2 digits, List.dropWhile_eq_nil_iff.2 digits]
  | cons c rest => exact spanDigits_append_cons digits (stop c rfl) rest

lemma splitFraction_of_ne {cs : List Char} (point : cs.head? ≠ some '.') :
    splitFraction cs = ([], cs) := by
  unfold splitFraction
  split
  · exact absurd rfl point
  · rfl

/-! ## Exponents -/

lemma readExponent?_eq_some_iff {cs : List Char} {e : Int} :
    readExponent? cs = some e ↔ ExponentText cs e := by
  constructor
  · intro h
    cases cs with
    | nil =>
        obtain rfl := Option.some.inj h
        exact .none
    | cons letter rest =>
        rw [readExponent?] at h
        split at h
        · rename_i known
          rcases split : splitSign rest with ⟨negative, ds⟩
          simp only [split] at h
          split at h
          · cases h
          · rename_i valid
            have digits : IsDigits ds := by
              rw [Bool.or_eq_true, not_or, List.isEmpty_iff, Bool.not_eq_true', Bool.not_eq_false,
                List.all_eq_true] at valid
              exact ⟨valid.1, valid.2⟩
            obtain rfl := Option.some.inj h
            exact .some known (.of_splitSign split) digits
        · cases h
  · rintro (_ | ⟨known, sign, digits⟩)
    · rfl
    · obtain ⟨c, rest, rfl, digit⟩ := digits.eq_cons
      have all : (c :: rest).all Char.isDigit = true := List.all_eq_true.2 digits.digits
      rw [readExponent?, if_pos known, sign.splitSign (ne_of_isDigit digit (by decide))
        (ne_of_isDigit digit (by decide))]
      simp only [List.isEmpty_cons, all, Bool.not_true, Bool.or_false, Bool.false_eq_true, if_false]

/-- An exponent begins with a letter. -/
lemma ExponentText.stop {cs : List Char} {e : Int} (h : ExponentText cs e) :
    ∀ c ∈ cs.head?, c.isDigit = false ∧ c ≠ '.' := by
  intro c first
  cases h with
  | none => cases first
  | some known _ _ =>
      obtain rfl := Option.some.inj first
      rcases known with rfl | rfl <;> decide

/-! ## Numbers -/

/-- **Decimals of the grammar are read digit by digit**, and nothing else is read. -/
theorem readUnsigned?_eq_some_iff {cs : List Char} {d : Decimal} :
    readUnsigned? cs = some d ↔ UnsignedText cs d := by
  constructor
  · intro h
    rcases front : spanDigits cs with ⟨whole, rest⟩
    rcases middle : splitFraction rest with ⟨fraction, last⟩
    simp only [readUnsigned?, front, middle] at h
    split at h
    · cases h
    · rename_i digit
      obtain ⟨e, read, rfl⟩ := Option.map_eq_some_iff.1 h
      obtain ⟨rfl, wholeDigits, _⟩ := spanDigits_eq front
      have exponent := readExponent?_eq_some_iff.1 read
      have nonempty : whole ++ fraction ≠ [] := by
        intro empty
        obtain ⟨rfl, rfl⟩ := List.append_eq_nil_iff.1 empty
        exact digit rfl
      unfold splitFraction at middle
      split at middle
      · obtain ⟨rfl, fractionDigits, _⟩ := spanDigits_eq middle
        exact .point ⟨nonempty, List.forall_mem_append.2 ⟨wholeDigits, fractionDigits⟩⟩ exponent
      · cases middle
        rw [List.append_nil] at nonempty ⊢
        rw [List.length_nil, Int.natCast_zero, Int.sub_zero]
        exact .whole ⟨nonempty, wholeDigits⟩ exponent
  · rintro (⟨digits, exponent⟩ | ⟨digits, exponent⟩)
    · rename_i whole last e
      have front := spanDigits_append digits.digits fun c first => (exponent.stop c first).1
      have point : last.head? ≠ some '.' := fun first => (exponent.stop '.' first).2 rfl
      have some_digit : whole.isEmpty = false := List.isEmpty_eq_false_iff.2 digits.nonempty
      rw [readUnsigned?_of_parts front some_digit (splitFraction_of_ne point)
        (readExponent?_eq_some_iff.2 exponent), List.append_nil, List.length_nil, Int.natCast_zero,
        Int.sub_zero]
    · rename_i whole fraction last e
      obtain ⟨wholeDigits, fractionDigits⟩ := List.forall_mem_append.1 digits.digits
      have front := spanDigits_append_cons wholeDigits (by decide : '.'.isDigit = false)
        (fraction ++ last)
      have middle : splitFraction ('.' :: (fraction ++ last)) = (fraction, last) :=
        spanDigits_append fractionDigits fun c first => (exponent.stop c first).1
      have some_digit : ¬ (whole.isEmpty && fraction.isEmpty) = true := by
        rw [Bool.and_eq_true, List.isEmpty_iff, List.isEmpty_iff, ← List.append_eq_nil_iff]
        exact digits.nonempty
      simp only [readUnsigned?, front, middle]
      rw [if_neg some_digit, readExponent?_eq_some_iff.2 exponent]
      rfl

/-! ## Magnitudes -/

/-- A number begins with a digit or a point. -/
lemma UnsignedText.eq_cons {cs : List Char} {d : Decimal} (h : UnsignedText cs d) :
    ∃ c rest, cs = c :: rest ∧ (c.isDigit = true ∨ c = '.') := by
  cases h with
  | whole digits _ =>
      obtain ⟨c, rest, rfl, digit⟩ := digits.eq_cons
      exact ⟨c, _, rfl, .inl digit⟩
  | @point whole fraction last e digits _ =>
      cases whole with
      | nil => exact ⟨'.', _, rfl, .inr rfl⟩
      | cons c rest => exact ⟨c, _, rfl, .inl (digits.digits c List.mem_cons_self)⟩

lemma isWord_of_point {letter : Char} (word : letter ≠ '.') (letters rest : List Char) :
    isWord (letter :: letters) ('.' :: rest) = false := by
  have lower : '.'.toLower = '.' := rfl
  rw [isWord, List.map_cons, lower, List.cons_beq_cons, beq_false_of_ne word.symm, Bool.false_and]

lemma UnsignedText.readMagnitude? {cs : List Char} {d : Decimal} (h : UnsignedText cs d) :
    readMagnitude? cs = some d.magnitude := by
  have read := readUnsigned?_eq_some_iff.2 h
  obtain ⟨c, rest, rfl, digit | rfl⟩ := h.eq_cons
  · rw [readMagnitude?_of_digit digit, read, Option.map_some]
  · rw [Decimal.readMagnitude?, isWord_of_point (by decide), isWord_of_point (by decide),
      isWord_of_point (by decide), read]
    rfl

lemma readMagnitude?_eq_some_iff {cs : List Char} {m : Nat} :
    readMagnitude? cs = some m ↔ MagnitudeText cs m := by
  constructor
  · intro h
    rw [readMagnitude?] at h
    split at h
    · rename_i word
      obtain rfl := Option.some.inj h
      rw [Bool.or_eq_true, isWord, isWord, beq_iff_eq, beq_iff_eq] at word
      exact .infinite word
    · split at h
      · rename_i word
        obtain rfl := Option.some.inj h
        exact .nan (beq_iff_eq.1 word)
      · obtain ⟨d, read, rfl⟩ := Option.map_eq_some_iff.1 h
        exact .number (readUnsigned?_eq_some_iff.1 read)
  · rintro (word | word | unsigned)
    · rw [readMagnitude?, if_pos]
      rwa [Bool.or_eq_true, isWord, isWord, beq_iff_eq, beq_iff_eq]
    · rw [readMagnitude?, isWord, isWord, isWord, word]
      rfl
    · exact unsigned.readMagnitude?

/-- No magnitude begins with a sign. -/
lemma MagnitudeText.eq_cons {cs : List Char} {m : Nat} (h : MagnitudeText cs m) :
    ∃ c rest, cs = c :: rest ∧ c ≠ '+' ∧ c ≠ '-' := by
  have letter : ∀ first others, cs.map Char.toLower = first :: others → first ≠ '+' →
      first ≠ '-' → ∃ c rest, cs = c :: rest ∧ c ≠ '+' ∧ c ≠ '-' := by
    intro first others word plus minus
    obtain ⟨c, rest, rfl, rfl, _⟩ := List.map_eq_cons_iff.1 word
    refine ⟨c, rest, rfl, ?_, ?_⟩
    · rintro rfl
      exact plus rfl
    · rintro rfl
      exact minus rfl
  rcases h with (word | word) | word | unsigned
  · exact letter _ _ word (by decide) (by decide)
  · exact letter _ _ word (by decide) (by decide)
  · exact letter _ _ word (by decide) (by decide)
  · obtain ⟨c, rest, rfl, digit | rfl⟩ := unsigned.eq_cons
    · exact ⟨c, rest, rfl, ne_of_isDigit digit (by decide), ne_of_isDigit digit (by decide)⟩
    · exact ⟨'.', rest, rfl, by decide, by decide⟩

end Decimal

namespace Binary64

open Decimal

/-- The texts of doubles, each with the word that it stands for. -/
inductive FloatText : List Char → Binary64 → Prop
  | signed {negative : Bool} {cs body : List Char} {m : Nat} (sign : Signed negative body cs)
      (magnitude : MagnitudeText body m) : FloatText cs (ofMagnitude negative m)

/-- **The texts of doubles are read, and nothing else.** -/
theorem ofText?_eq_some_iff {cs : List Char} {x : Binary64} :
    ofText? cs = some x ↔ FloatText cs x := by
  constructor
  · intro h
    rcases split : splitSign cs with ⟨negative, rest⟩
    simp only [ofText?, split] at h
    obtain ⟨m, read, rfl⟩ := Option.map_eq_some_iff.1 h
    exact .signed (.of_splitSign split) (readMagnitude?_eq_some_iff.1 read)
  · rintro ⟨sign, magnitude⟩
    have read := readMagnitude?_eq_some_iff.2 magnitude
    obtain ⟨c, rest, rfl, plus, minus⟩ := magnitude.eq_cons
    rw [ofText?, sign.splitSign plus minus]
    simp only [read, Option.map_some]

end Binary64
end Concordance
