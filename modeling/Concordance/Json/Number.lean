import Concordance.Binary64.Arithmetic
import Concordance.Decimal.Shortest

/-!
# Numbers in JSON

A `Json.Number` is a number literal: digits, and possibly a fraction and an exponent.

* `Json.Number.text` writes a literal and `Json.Number.read?` reads one off a text.
* `Json.Number.toBinary64?` is the double that a literal stands for.  It keeps as many leading
  digits as a 64-bit word holds and scales them by powers of ten in double arithmetic, so the
  result may differ from the nearest double.
* `Json.Number.ofBinary64?` is the literal for a double: the shortest digits that read back,
  without an exponent from `1e-5` to below `1e16`.
-/

namespace Concordance.Json

/-- A number literal.  No digits behind the point stand for a literal without a point. -/
structure Number where
  negative : Bool
  whole : List Nat
  fraction : List Nat
  exponent : Option Int
  deriving DecidableEq, Repr

namespace Number

/-! ## Literals as text -/

/-- The digits of a list as text. -/
def digitsText (ds : List Nat) : List Char := ds.map Decimal.digitChar

/-- The text of an exponent, which always has a sign. -/
def exponentText (e : Int) : List Char :=
  'e' :: (if e < 0 then '-' else '+') :: Decimal.natText e.natAbs

/-- The text of a literal. -/
def text (n : Number) : List Char :=
  (if n.negative then ['-'] else []) ++ digitsText n.whole ++
    (if n.fraction.isEmpty then [] else '.' :: digitsText n.fraction) ++
    match n.exponent with
    | none => []
    | some e => exponentText e

/-- Takes the digits at the start of a text off it, as values. -/
def takeDigits (cs : List Char) : List Nat × List Char :=
  ((cs.takeWhile Char.isDigit).map Decimal.digitValue, cs.dropWhile Char.isDigit)

/-- Takes digits off a text, at least one. -/
def takeSomeDigits? (cs : List Char) : Option (List Nat × List Char) :=
  if (takeDigits cs).1.isEmpty then none else some (takeDigits cs)

/-- Takes the digits before the point off a text: a single zero, or digits that begin with
another one. -/
def takeWhole? : List Char → Option (List Nat × List Char)
  | '0' :: rest => some ([0], rest)
  | cs => takeSomeDigits? cs

/-- Takes a point and the digits behind it off a text, where there is a point. -/
def takeFraction? : List Char → Option (List Nat × List Char)
  | '.' :: rest => takeSomeDigits? rest
  | cs => some ([], cs)

/-- Takes a sign off a text, where there is one; the answer says whether it was `-`. -/
def takeSign : List Char → Bool × List Char
  | '-' :: rest => (true, rest)
  | '+' :: rest => (false, rest)
  | cs => (false, cs)

/-- Takes an exponent off a text, where there is one. -/
def takeExponent? : List Char → Option (Option Int × List Char)
  | [] => some (none, [])
  | c :: rest =>
    if c = 'e' ∨ c = 'E' then
      (takeSomeDigits? (takeSign rest).2).map fun (ds, rest') =>
        let size : Int := Decimal.ofDigits ds
        (some (if (takeSign rest).1 then -size else size), rest')
    else some (none, c :: rest)

/-- Takes a minus sign off a text, where there is one. -/
def takeMinus : List Char → Bool × List Char
  | '-' :: rest => (true, rest)
  | cs => (false, cs)

/-- Reads a literal off the start of a text, and gives what follows it. -/
def read? (cs : List Char) : Option (Number × List Char) :=
  match takeWhole? (takeMinus cs).2 with
  | none => none
  | some (whole, cs₁) =>
    match takeFraction? cs₁ with
    | none => none
    | some (fraction, cs₂) =>
      (takeExponent? cs₂).map fun (exponent, cs₃) =>
        (⟨(takeMinus cs).1, whole, fraction, exponent⟩, cs₃)

theorem takeSomeDigits?_length {cs rest : List Char} {ds : List Nat}
    (h : takeSomeDigits? cs = some (ds, rest)) : rest.length < cs.length := by
  have both : (cs.takeWhile Char.isDigit).length + (cs.dropWhile Char.isDigit).length =
      cs.length := by
    rw [← List.length_append, List.takeWhile_append_dropWhile]
  rw [takeSomeDigits?] at h
  by_cases hn : (takeDigits cs).1.isEmpty = true
  · rw [if_pos hn] at h; cases h
  · rw [if_neg hn] at h
    have after : cs.dropWhile Char.isDigit = rest := congrArg Prod.snd (Option.some.inj h)
    have taken : cs.takeWhile Char.isDigit ≠ [] := by
      intro empty; simp [takeDigits, empty] at hn
    have := List.length_pos_iff.2 taken
    rw [← after]
    omega

theorem takeSign_length (cs : List Char) : (takeSign cs).2.length ≤ cs.length := by
  unfold takeSign; split <;> simp

/-- What follows a literal is shorter than the literal with it. -/
theorem read?_length {cs rest : List Char} {n : Number} (h : read? cs = some (n, rest)) :
    rest.length < cs.length := by
  have minus : (takeMinus cs).2.length ≤ cs.length := by unfold takeMinus; split <;> simp
  rw [read?] at h
  split at h
  · simp at h
  · rename_i whole cs₁ h₁
    have first : cs₁.length < (takeMinus cs).2.length := by
      unfold takeWhole? at h₁
      split at h₁
      · rename_i heq
        simp only [Option.some.injEq, Prod.mk.injEq] at h₁
        simp [heq, ← h₁.2]
      · exact takeSomeDigits?_length h₁
    split at h
    · simp at h
    · rename_i fraction cs₂ h₂
      have second : cs₂.length ≤ cs₁.length := by
        unfold takeFraction? at h₂
        split at h₂
        · have := takeSomeDigits?_length h₂
          simp only [List.length_cons]; omega
        · simp_all
      obtain ⟨⟨exponent, cs₃⟩, h₃, hp⟩ := Option.map_eq_some_iff.1 h
      simp only [Prod.mk.injEq] at hp
      have third : cs₃.length ≤ cs₂.length := by
        unfold takeExponent? at h₃
        split at h₃
        · simp_all
        · rename_i c r
          split at h₃
          · obtain ⟨⟨ds, r'⟩, h₄, hq⟩ := Option.map_eq_some_iff.1 h₃
            have := takeSomeDigits?_length h₄
            have := takeSign_length r
            simp only [Prod.mk.injEq] at hq
            simp only [List.length_cons, ← hq.2]; omega
          · simp_all
      rw [← hp.2]
      omega

/-! ## Integers -/

/-- The literal of an integer. -/
def ofInt (n : Int) : Number := ⟨decide (n < 0), Decimal.digits n.natAbs, [], none⟩

/-- The integer that a literal without fraction and exponent stands for.  Negative zero is no
integer. -/
def toInt? (n : Number) : Option Int :=
  if n.fraction.isEmpty && n.exponent.isNone then
    let size := Decimal.ofDigits n.whole
    if n.negative then if size = 0 then none else some (-size) else some size
  else none

/-! ## Doubles -/

/-- The bound of a 64-bit significand. -/
def significandBound : Nat := UInt64.size

/-- Appends digits to a significand as long as it stays below its bound, and gives the number
of digits left over. -/
def absorb (significand : Nat) : List Nat → Nat × Nat
  | [] => (significand, 0)
  | d :: rest =>
    if 10 * significand + d < significandBound then absorb (10 * significand + d) rest
    else (significand, rest.length + 1)

/-- The double nearest to a power of ten. -/
def powerOfTen (n : Nat) : Binary64 := Decimal.toBinary64 false ⟨1, n⟩

/-- Scales a double that is not negative by a power of ten.  Exponents of more than `308` are
taken off in steps of `308`; a result beyond the doubles is refused. -/
def scale? (f : Binary64) (exponent : Int) : Option Binary64 :=
  if exponent < -308 then
    if f.isZero then some f else scale? (f / powerOfTen 308) (exponent + 308)
  else if exponent < 0 then some (f / powerOfTen (-exponent).toNat)
  else if exponent ≤ 308 then
    let product := f * powerOfTen exponent.toNat
    if product.isInfinite then none else some product
  else if f.isZero then some f
  else none
termination_by (-exponent).toNat
decreasing_by omega

/-- The largest exponent that is added to the one of the digits; beyond it the sign of the
exponent alone decides. -/
def exponentBound : Int := Int32.maxValue.toInt

/-- The size of the double that a literal stands for. -/
def size? (n : Number) : Option Binary64 :=
  let (significand, dropped) := absorb 0 n.whole
  if n.fraction.isEmpty && n.exponent.isNone && dropped == 0 then some (.ofNat significand)
  else
    let (significand, left) := absorb significand n.fraction
    let place : Int := dropped - (n.fraction.length - left)
    let exponent := n.exponent.getD 0
    if exponent < -exponentBound then some .zero
    else if exponentBound < exponent then if significand = 0 then some .zero else none
    else scale? (.ofNat significand) (place + exponent)

/-- The double that a literal stands for; numbers beyond the doubles are refused. -/
def toBinary64? (n : Number) : Option Binary64 :=
  n.size?.map fun f => if n.negative then -f else f

/-- The literal of a decimal with the given sign. -/
def ofDecimal (negative : Bool) (d : Decimal) : Number :=
  let digits := Decimal.digits d.significand
  if -4 ≤ d.top ∧ d.top ≤ 16 then
    if 0 ≤ d.exponent then ⟨negative, digits ++ List.replicate d.exponent.toNat 0, [0], none⟩
    else if 0 < d.top then ⟨negative, digits.take d.top.toNat, digits.drop d.top.toNat, none⟩
    else ⟨negative, [0], List.replicate (-d.top).toNat 0 ++ digits, none⟩
  else ⟨negative, digits.take 1, digits.drop 1, some (d.top - 1)⟩

/-- The literal of a double that is finite. -/
def ofBinary64? (x : Binary64) : Option Number :=
  if x.isFinite then some (ofDecimal x.isNegative (Decimal.shortest .toEven x.magnitude))
  else none

end Number
end Concordance.Json
