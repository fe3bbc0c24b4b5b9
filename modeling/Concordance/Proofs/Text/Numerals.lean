import Concordance.Proofs.Text.Integer

/-!
# Which texts are integers

A reader of a fixed range refuses a text as soon as it can, and its answers name many faults.  What
it accepts is simpler: an optional sign and at least one digit, with a number in the range.

* `NaturalText` and `IntegerText` relate the accepted texts to their numbers.
* `readDigits_eq_ok_iff` says that the limit, though it is looked at after each digit, bounds the
  number and nothing else.
* `readNatural_eq_ok_iff` and `readInteger_eq_ok_iff` say that the readers accept these texts and
  no others.
-/

namespace Concordance.Text

open Decimal

/-- A text of ASCII digits, at least one. -/
structure IsDigits (cs : List Char) : Prop where
  nonempty : cs ≠ []
  digits : ∀ c ∈ cs, c.isDigit = true

/-- The texts of the natural numbers below `2 ^ 64`. -/
inductive NaturalText : List Char → Nat → Prop
  | unsigned {ds : List Char} (digits : IsDigits ds) (fits : ofDigitChars ds < UInt64.size) :
      NaturalText ds (ofDigitChars ds)
  | plus {ds : List Char} (digits : IsDigits ds) (fits : ofDigitChars ds < UInt64.size) :
      NaturalText ('+' :: ds) (ofDigitChars ds)

/-- The texts of the integers from `-2 ^ 63` to below `2 ^ 63`. -/
inductive IntegerText : List Char → Int64 → Prop
  | unsigned {ds : List Char} {i : Int64} (digits : IsDigits ds)
      (value : i.toInt = ofDigitChars ds) : IntegerText ds i
  | plus {ds : List Char} {i : Int64} (digits : IsDigits ds)
      (value : i.toInt = ofDigitChars ds) : IntegerText ('+' :: ds) i
  | minus {ds : List Char} {i : Int64} (digits : IsDigits ds)
      (value : i.toInt = -ofDigitChars ds) : IntegerText ('-' :: ds) i

lemma IsDigits.eq_cons {cs : List Char} (h : IsDigits cs) :
    ∃ c rest, cs = c :: rest ∧ c.isDigit = true := by
  obtain ⟨c, rest, rfl⟩ := List.exists_cons_of_ne_nil h.nonempty
  exact ⟨c, rest, rfl, h.digits c List.mem_cons_self⟩

/-! ## Digits -/

lemma appendDigit_eq_ok_iff {limit acc n : Nat} {beyond : IntegerFault} {c : Char} :
    appendDigit limit beyond acc c = .ok n ↔
      c.isDigit = true ∧ 10 * acc + digitValue c = n ∧ n ≤ limit := by
  rw [appendDigit, digitValue?]
  by_cases digit : c.isDigit = true
  · simp only [digit, if_true, true_and, digitValue]
    constructor
    · intro h
      split at h
      · cases h
        exact ⟨rfl, ‹_›⟩
      · cases h
    · rintro ⟨rfl, within⟩
      exact if_pos within
  · simp only [digit, Bool.false_eq_true, if_false, false_and, reduceCtorEq]

lemma foldlM_appendDigit_eq_ok_iff {limit acc n : Nat} {beyond : IntegerFault} {cs : List Char}
    (start : acc ≤ limit) :
    cs.foldlM (appendDigit limit beyond) acc = .ok n ↔
      (∀ c ∈ cs, c.isDigit = true) ∧ goOn acc cs = n ∧ n ≤ limit := by
  constructor
  · intro h
    induction cs generalizing acc with
    | nil =>
        cases h
        exact ⟨fun _ member => absurd member List.not_mem_nil, rfl, start⟩
    | cons c rest ih =>
        rw [List.foldlM_cons] at h
        cases step : appendDigit limit beyond acc c with
        | error fault =>
            rw [step] at h
            cases h
        | ok next =>
            rw [step] at h
            obtain ⟨digit, rfl, within⟩ := appendDigit_eq_ok_iff.1 step
            obtain ⟨others, value, bound⟩ := ih within h
            exact ⟨List.forall_mem_cons.2 ⟨digit, others⟩, by rw [goOn_cons, value], bound⟩
  · rintro ⟨digits, rfl, within⟩
    exact foldlM_appendDigit digits within

/-- **Digits are read to a number exactly if they are digits and the number is within the
limit.** -/
theorem readDigits_eq_ok_iff {limit n : Nat} {beyond : IntegerFault} {cs : List Char} :
    readDigits limit beyond cs = .ok n ↔
      (∀ c ∈ cs, c.isDigit = true) ∧ ofDigitChars cs = n ∧ n ≤ limit := by
  rw [readDigits, foldlM_appendDigit_eq_ok_iff (Nat.zero_le limit), ofDigitChars_eq_goOn]

/-! ## Signs -/

section

variable {limit n : Nat} {beyond : IntegerFault} {cs : List Char}

lemma IsDigits.readDigits (h : IsDigits cs) (value : ofDigitChars cs = n) (within : n ≤ limit) :
    readDigits limit beyond cs = .ok n :=
  readDigits_eq_ok_iff.2 ⟨h.digits, value, within⟩

lemma isDigits_of_readDigits (nonempty : cs ≠ []) (h : readDigits limit beyond cs = .ok n) :
    IsDigits cs ∧ ofDigitChars cs = n ∧ n ≤ limit := by
  obtain ⟨digits, value, within⟩ := readDigits_eq_ok_iff.1 h
  exact ⟨⟨nonempty, digits⟩, value, within⟩

end

/-- **The natural numbers that a word holds are read, and nothing else.** -/
theorem readNatural_eq_ok_iff {cs : List Char} {n : Nat} :
    readNatural cs = .ok n ↔ NaturalText cs n := by
  have below : UInt64.size - 1 + 1 = UInt64.size := rfl
  constructor
  · intro h
    unfold readNatural at h
    split at h
    · cases h
    · cases h
    · obtain ⟨digits, rfl, within⟩ := isDigits_of_readDigits (by rintro rfl; contradiction) h
      exact .plus digits (by omega)
    · obtain ⟨digits, rfl, within⟩ := isDigits_of_readDigits (by rintro rfl; contradiction) h
      exact .unsigned digits (by omega)
  · rintro (⟨digits, fits⟩ | ⟨digits, fits⟩)
    · obtain ⟨c, rest, rfl, digit⟩ := digits.eq_cons
      rw [readNatural_of_digit digit]
      exact digits.readDigits rfl (by omega)
    · obtain ⟨c, rest, rfl, digit⟩ := digits.eq_cons
      change Text.readDigits (UInt64.size - 1) .tooLarge (c :: rest) = _
      exact digits.readDigits rfl (by omega)

lemma map_eq_ok_iff {ε α β : Type} {x : Except ε α} {f : α → β} {b : β} :
    x.map f = .ok b ↔ ∃ a, x = .ok a ∧ f a = b := by
  cases x with
  | error e => simp [Except.map]
  | ok a => simp [Except.map]

/-- The reader of negative numbers goes on with an integer where it has read a natural number. -/
lemma intCast_eq_ok_iff {ε : Type} {x : Except ε Nat} {i : Int} :
    (do let n ← x; pure (n : Int)) = Except.ok i ↔ ∃ n, x = .ok n ∧ (n : Int) = i := by
  cases x with
  | error e => simp [bind, Except.bind]
  | ok n => simp [bind, Except.bind, pure, Except.pure]

lemma toInt_ofNat_of_le {n : Nat} (within : n ≤ Int64.maxValue.toInt.toNat) :
    (Int64.ofNat n).toInt = n := by
  have largest : Int64.maxValue.toInt.toNat = 2 ^ 63 - 1 := rfl
  exact Int64.toInt_ofNat_of_lt (by omega)

lemma toInt_ofInt_neg_of_le {n : Nat} (within : n ≤ (-Int64.minValue.toInt).toNat) :
    (Int64.ofInt (-n)).toInt = -n := by
  have least : (-Int64.minValue.toInt).toNat = 2 ^ 63 := rfl
  exact Int64.toInt_ofInt_of_le (by omega) (by omega)

/-- **The integers of the range are read, and nothing else.** -/
theorem readInteger_eq_ok_iff {cs : List Char} {i : Int64} :
    readInteger cs = .ok i ↔ IntegerText cs i := by
  have least : (-Int64.minValue.toInt).toNat = 2 ^ 63 := rfl
  have largest : Int64.maxValue.toInt.toNat = 2 ^ 63 - 1 := rfl
  have low := i.le_toInt
  have high := i.toInt_lt
  constructor
  · intro h
    unfold readInteger at h
    split at h
    · cases h
    · cases h
    · cases h
    · obtain ⟨n, read, rfl⟩ := map_eq_ok_iff.1 h
      obtain ⟨digits, rfl, within⟩ := isDigits_of_readDigits (by rintro rfl; contradiction) read
      exact .plus digits (toInt_ofNat_of_le within)
    · obtain ⟨_, lifted, rfl⟩ := map_eq_ok_iff.1 h
      obtain ⟨n, read, rfl⟩ := intCast_eq_ok_iff.1 lifted
      obtain ⟨digits, rfl, within⟩ := isDigits_of_readDigits (by rintro rfl; contradiction) read
      exact .minus digits (toInt_ofInt_neg_of_le within)
    · obtain ⟨n, read, rfl⟩ := map_eq_ok_iff.1 h
      obtain ⟨digits, rfl, within⟩ := isDigits_of_readDigits (by rintro rfl; contradiction) read
      exact .unsigned digits (toInt_ofNat_of_le within)
  · rintro (⟨digits, value⟩ | ⟨digits, value⟩ | ⟨digits, value⟩)
    · obtain ⟨c, rest, rfl, digit⟩ := digits.eq_cons
      rw [readInteger_of_digit digit, digits.readDigits rfl (by omega)]
      exact congrArg Except.ok (by rw [← Int64.ofInt_eq_ofNat, ← value, Int64.ofInt_toInt])
    · obtain ⟨c, rest, rfl, digit⟩ := digits.eq_cons
      change (Text.readDigits Int64.maxValue.toInt.toNat .tooLarge (c :: rest)).map _ = _
      rw [digits.readDigits rfl (by omega)]
      exact congrArg Except.ok (by rw [← Int64.ofInt_eq_ofNat, ← value, Int64.ofInt_toInt])
    · obtain ⟨c, rest, rfl, digit⟩ := digits.eq_cons
      rw [readInteger_of_minus, digits.readDigits rfl (by omega)]
      change Except.ok (Int64.ofInt (-(ofDigitChars (c :: rest) : Int))) = _
      rw [← value, Int64.ofInt_toInt]

end Concordance.Text
