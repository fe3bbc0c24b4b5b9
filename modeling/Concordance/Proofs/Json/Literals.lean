import Concordance.Json.Number
import Concordance.Proofs.Decimal.Grammar

/-!
# Number literals are read back

A literal ends where no digit, point or exponent goes on, so a reader needs to know what stands
behind it (`Number.Ends`).  The literals that are written have at least one digit before the point
and no zero in front of others (`Number.IsWritten`); these are read back with all their parts.

* `Number.read?_text` reads a written literal off a text.
* `Number.Layout` names the forms that the literal of a decimal has.
* `Number.isWritten_ofInt` and `Number.isWritten_ofDecimal` say which literals are written.
-/

namespace Concordance.Json.Number

open Decimal (digits digitChar)

/-- A text that does not go on with a literal. -/
def Ends (rest : List Char) : Prop :=
  ∀ c ∈ rest.head?, c.isDigit = false ∧ c ≠ '.' ∧ c ≠ 'e' ∧ c ≠ 'E'

/-- A literal as it is written. -/
structure IsWritten (n : Number) : Prop where
  small : ∀ d ∈ n.whole ++ n.fraction, d < 10
  nonempty : n.whole ≠ []
  /-- No zero stands in front of other digits. -/
  leading : n.whole.head? = some 0 → n.whole = [0]

variable {n : Number} {ds : List Nat} {rest : List Char}

/-! ## Digits -/

lemma isDigit_of_mem_digitsText (small : ∀ d ∈ ds, d < 10) :
    ∀ c ∈ digitsText ds, c.isDigit = true := by
  intro c member
  obtain ⟨d, known, rfl⟩ := List.mem_map.1 member
  exact Decimal.isDigit_digitChar d (small d known)

lemma map_digitValue_digitsText (small : ∀ d ∈ ds, d < 10) :
    (digitsText ds).map Decimal.digitValue = ds := by
  rw [digitsText, List.map_map]
  refine (List.map_congr_left fun d member => ?_).trans (List.map_id _)
  exact Decimal.digitValue_digitChar d (small d member)

/-- Digits are taken up to what is no digit. -/
lemma takeSomeDigits?_digitsText (small : ∀ d ∈ ds, d < 10) (nonempty : ds ≠ [])
    (stop : ∀ c ∈ rest.head?, c.isDigit = false) :
    takeSomeDigits? (digitsText ds ++ rest) = some (ds, rest) := by
  have spanned := Decimal.spanDigits_append (isDigit_of_mem_digitsText small) stop
  rw [Decimal.spanDigits, List.span_eq_takeWhile_dropWhile, Prod.mk.injEq] at spanned
  have taken : takeDigits (digitsText ds ++ rest) = (ds, rest) := by
    rw [takeDigits, spanned.1, spanned.2, map_digitValue_digitsText small]
  rw [takeSomeDigits?, taken, if_neg (by rwa [List.isEmpty_iff])]

/-! ## Parts of a literal -/

lemma takeWhole?_digitsText (written : n.IsWritten)
    (stop : ∀ c ∈ rest.head?, c.isDigit = false) :
    takeWhole? (digitsText n.whole ++ rest) = some (n.whole, rest) := by
  have small : ∀ d ∈ n.whole, d < 10 := fun d member =>
    written.small d (List.mem_append_left _ member)
  obtain ⟨d, others, whole⟩ := List.exists_cons_of_ne_nil written.nonempty
  by_cases zero : d = 0
  · have alone := written.leading (by rw [whole, zero, List.head?_cons])
    rw [alone]
    rfl
  · have taken := takeSomeDigits?_digitsText small written.nonempty stop
    have below : ∀ d < 10, d ≠ 0 → digitChar d ≠ '0' := by decide
    have nonzero := below d (small d (whole ▸ List.mem_cons_self)) zero
    rw [whole] at taken ⊢
    rw [← taken, digitsText, List.map_cons, List.cons_append, takeWhole?]
    intro _ first
    exact nonzero (List.cons.inj first).1

/-- A point and the digits behind it, if there are any. -/
def fractionText (ds : List Nat) : List Char := if ds.isEmpty then [] else '.' :: digitsText ds

/-- An exponent, if there is one. -/
def optionalText : Option Int → List Char
  | none => []
  | some e => exponentText e

lemma text_append (n : Number) (rest : List Char) :
    n.text ++ rest = (if n.negative then ['-'] else []) ++
      (digitsText n.whole ++ (fractionText n.fraction ++ (optionalText n.exponent ++ rest))) := by
  simp only [text, List.append_assoc]
  cases n.exponent <;> rfl

lemma takeFraction?_fractionText (small : ∀ d ∈ ds, d < 10)
    (stop : ∀ c ∈ rest.head?, c.isDigit = false ∧ c ≠ '.') :
    takeFraction? (fractionText ds ++ rest) = some (ds, rest) := by
  cases ds with
  | nil =>
      cases rest with
      | nil => rfl
      | cons c rest =>
          rw [fractionText, List.isEmpty_nil, if_pos rfl, List.nil_append, takeFraction?]
          rintro _ ⟨⟩
          exact (stop _ rfl).2 rfl
  | cons d others =>
      exact takeSomeDigits?_digitsText small (List.cons_ne_nil d others)
        fun c first => (stop c first).1

lemma takeExponent?_exponentText (e : Int) (stop : ∀ c ∈ rest.head?, c.isDigit = false) :
    takeExponent? (exponentText e ++ rest) = some (some e, rest) := by
  have taken : takeSomeDigits? (Decimal.natText e.natAbs ++ rest)
      = some (digits e.natAbs, rest) :=
    takeSomeDigits?_digitsText (fun _ => Decimal.lt_ten_of_mem_digits)
      (Decimal.digits_ne_nil _) stop
  by_cases negative : e < 0
  · rw [exponentText, if_pos negative, List.cons_append, List.cons_append, takeExponent?,
      if_pos (.inl rfl)]
    simp only [takeSign, taken, Option.map_some, Decimal.ofDigits_digits, if_true]
    congr 3
    omega
  · rw [exponentText, if_neg negative, List.cons_append, List.cons_append, takeExponent?,
      if_pos (.inl rfl)]
    simp only [takeSign, taken, Option.map_some, Decimal.ofDigits_digits, Bool.false_eq_true,
      if_false]
    congr 3
    omega

lemma takeExponent?_optionalText (exponent : Option Int) (ends : Ends rest) :
    takeExponent? (optionalText exponent ++ rest) = some (exponent, rest) := by
  cases exponent with
  | some e => exact takeExponent?_exponentText e fun c first => (ends c first).1
  | none =>
      cases rest with
      | nil => rfl
      | cons c rest =>
          obtain ⟨_, _, lower, upper⟩ := ends c rfl
          rw [optionalText, List.nil_append, takeExponent?, if_neg (not_or.2 ⟨lower, upper⟩)]

lemma optionalText_stop (exponent : Option Int) (ends : Ends rest) :
    ∀ c ∈ (optionalText exponent ++ rest).head?, c.isDigit = false ∧ c ≠ '.' := by
  cases exponent with
  | none => exact fun c first => ⟨(ends c first).1, (ends c first).2.1⟩
  | some e =>
      rintro c ⟨⟩
      decide

lemma fractionText_stop (ds : List Nat) (stop : ∀ c ∈ rest.head?, c.isDigit = false) :
    ∀ c ∈ (fractionText ds ++ rest).head?, c.isDigit = false := by
  cases ds with
  | nil => exact stop
  | cons d others =>
      rintro c ⟨⟩
      decide

/-! ## Literals -/

/-- A written literal begins with a digit behind its sign. -/
lemma IsWritten.digitsText_eq_cons (written : n.IsWritten) :
    ∃ c others, digitsText n.whole = c :: others ∧ c.isDigit = true := by
  obtain ⟨d, others, whole⟩ := List.exists_cons_of_ne_nil written.nonempty
  refine ⟨digitChar d, digitsText others, by rw [whole]; rfl, Decimal.isDigit_digitChar d ?_⟩
  exact written.small d (List.mem_append_left _ (whole ▸ List.mem_cons_self))

lemma takeMinus_of_digit {c : Char} (digit : c.isDigit = true) (rest : List Char) :
    takeMinus (c :: rest) = (false, c :: rest) := by
  rw [takeMinus]
  rintro _ ⟨⟩
  exact absurd digit (by decide)

lemma IsWritten.text_eq_cons (written : n.IsWritten) :
    ∃ c others, n.text = c :: others ∧ (c = '-' ∨ c.isDigit = true) := by
  obtain ⟨c, others, first, digit⟩ := written.digitsText_eq_cons
  have whole := text_append n []
  rw [List.append_nil, first] at whole
  cases sign : n.negative with
  | true => exact ⟨'-', _, by rw [whole, sign]; rfl, .inl rfl⟩
  | false => exact ⟨c, _, by rw [whole, sign]; rfl, .inr digit⟩

/-- **A written literal is read back, whatever ends it.** -/
theorem read?_text (written : n.IsWritten) (ends : Ends rest) :
    read? (n.text ++ rest) = some (n, rest) := by
  have lastStop := optionalText_stop n.exponent ends
  have behindStop := fractionText_stop n.fraction fun c first => (lastStop c first).1
  have front := takeWhole?_digitsText written behindStop
  have middle := takeFraction?_fractionText
    (fun d member => written.small d (List.mem_append_right _ member)) lastStop
  have back := takeExponent?_optionalText n.exponent ends
  have signed : takeMinus (n.text ++ rest) = (n.negative, digitsText n.whole ++
      (fractionText n.fraction ++ (optionalText n.exponent ++ rest))) := by
    obtain ⟨c, others, first, digit⟩ := written.digitsText_eq_cons
    rw [text_append, first]
    cases n.negative with
    | true => rfl
    | false => exact takeMinus_of_digit digit _
  rw [read?, signed]
  simp only [front, middle, back, Option.map_some]

/-! ## What is written -/

/-- The digits of a number begin with a zero only for zero. -/
lemma digits_head (n : Nat) (zero : (digits n).head? = some 0) : n = 0 := by
  induction n using Nat.strongRecOn with
  | ind n ih =>
      by_cases small : n < 10
      · rw [Decimal.digits_of_lt small] at zero
        exact Option.some.inj zero
      · obtain ⟨d, others, parted⟩ := List.exists_cons_of_ne_nil (Decimal.digits_ne_nil (n / 10))
        rw [Decimal.digits_of_le (Nat.le_of_not_lt small), parted] at zero
        have front := ih (n / 10) (by omega) (by rw [parted]; exact zero)
        omega

lemma isWritten_ofInt (n : Int) : (ofInt n).IsWritten where
  small d member := by
    rw [ofInt, List.append_nil] at member
    exact Decimal.lt_ten_of_mem_digits member
  nonempty := Decimal.digits_ne_nil _
  leading zero := by
    have absolute := digits_head _ zero
    change digits n.natAbs = [0]
    rw [absolute, Decimal.digits_of_lt (by decide)]

/-- An integer is what its literal stands for. -/
@[simp] lemma toInt?_ofInt (n : Int) : (ofInt n).toInt? = some n := by
  simp only [toInt?, ofInt, List.isEmpty_nil, Option.isNone_none, Bool.and_true, if_true,
    Decimal.ofDigits_digits, decide_eq_true_eq]
  split
  · rw [if_neg (by omega)]
    congr 1
    omega
  · congr 1
    omega

lemma isWritten_of_head? {d : Nat} (first : n.whole.head? = some d) (nonzero : d ≠ 0)
    (small : ∀ d ∈ n.whole ++ n.fraction, d < 10) : n.IsWritten where
  small := small
  nonempty empty := by
    rw [empty] at first
    cases first
  leading zero := absurd (Option.some.inj (first.symm.trans zero)) nonzero

/-- The four forms that the literal of a decimal has. -/
inductive Layout (negative : Bool) (d : Decimal) : Number → Prop
  /-- All digits stand before the point, with zeros up to it. -/
  | before (integral : 0 ≤ d.exponent) : Layout negative d
      ⟨negative, digits d.significand ++ List.replicate d.exponent.toNat 0, [0], none⟩
  /-- The point stands between the digits. -/
  | between (split : d.exponent < 0) (first : 0 < d.top) : Layout negative d
      ⟨negative, (digits d.significand).take d.top.toNat, (digits d.significand).drop d.top.toNat,
        none⟩
  /-- All digits stand behind the point, with zeros from it on. -/
  | behind (split : d.exponent < 0) (first : d.top ≤ 0) : Layout negative d
      ⟨negative, [0], List.replicate (-d.top).toNat 0 ++ digits d.significand, none⟩
  /-- One digit stands before the point, and an exponent follows. -/
  | scientific : Layout negative d
      ⟨negative, (digits d.significand).take 1, (digits d.significand).drop 1, some (d.top - 1)⟩

lemma layout_ofDecimal (negative : Bool) (d : Decimal) :
    Layout negative d (ofDecimal negative d) := by
  simp only [ofDecimal]
  split
  · split
    · exact .before ‹_›
    · split
      · exact .between (by omega) ‹_›
      · exact .behind (by omega) (by omega)
  · exact .scientific

/-- A number above zero is written without a zero too many. -/
lemma Layout.isWritten {negative : Bool} {d : Decimal} (layout : Layout negative d n)
    (nonzero : d.significand ≠ 0) : n.IsWritten := by
  obtain ⟨first, others, parted⟩ :=
    List.exists_cons_of_ne_nil (Decimal.digits_ne_nil d.significand)
  have leading : first ≠ 0 := by
    rintro rfl
    exact nonzero (digits_head _ (by rw [parted]; rfl))
  have small : ∀ digit ∈ digits d.significand, digit < 10 := fun _ =>
    Decimal.lt_ten_of_mem_digits
  have parts : ∀ k, ∀ digit ∈ (digits d.significand).take k ++ (digits d.significand).drop k,
      digit < 10 := fun k digit member => small digit (by rwa [List.take_append_drop] at member)
  cases layout with
  | before =>
      refine isWritten_of_head? (d := first) (by rw [parted]; rfl) leading ?_
      intro digit member
      simp only [List.mem_append, List.mem_replicate, List.mem_singleton] at member
      rcases member with (known | ⟨_, rfl⟩) | rfl
      · exact small digit known
      · decide
      · decide
  | between =>
      refine isWritten_of_head? (d := first) ?_ leading (parts _)
      rw [List.head?_take, if_neg (by omega), parted]
      rfl
  | behind =>
      refine ⟨?_, List.cons_ne_nil _ _, fun _ => rfl⟩
      intro digit member
      simp only [List.mem_append, List.mem_replicate, List.mem_singleton] at member
      rcases member with rfl | ⟨_, rfl⟩ | known
      · decide
      · decide
      · exact small digit known
  | scientific =>
      refine isWritten_of_head? (d := first) ?_ leading (parts 1)
      rw [parted]
      rfl

lemma ofDecimal_zero (negative : Bool) :
    ofDecimal negative ⟨0, 0⟩ = ⟨negative, [0], [0], none⟩ := by
  cases negative <;> decide +kernel

/-- The literal of a decimal is written, if zero has no exponent. -/
lemma isWritten_ofDecimal (negative : Bool) {d : Decimal}
    (normal : d.significand = 0 → d = ⟨0, 0⟩) : (ofDecimal negative d).IsWritten := by
  by_cases zero : d.significand = 0
  · rw [normal zero, ofDecimal_zero]
    exact ⟨by simp, by simp, fun _ => rfl⟩
  · exact (layout_ofDecimal negative d).isWritten zero

end Concordance.Json.Number
