import Concordance.Text.Quoted

/-!
# Strings in JSON

A string is kept as its units: characters, and surrogates, which only an escape can name.  A
string with an unpaired surrogate is well formed but stands for no text.

* `Json.unitsText` writes units and `Json.readUnits?` reads them up to the closing quote.
* `Json.textOfUnits?` is the text that units stand for.
-/

namespace Concordance.Json

/-- A unit of a string. -/
inductive StringUnit where
  | char (c : Char)
  /-- A code point from `D800` to `DFFF`, written by its number. -/
  | surrogate (code : Nat)
  deriving DecidableEq, Repr

/-- Whether a code point is a surrogate of the first or second half of a pair. -/
def isSurrogate (code : Nat) : Bool := decide (0xd800 ≤ code) && decide (code < 0xe000)

/-- The units of a text. -/
def unitsOfText (cs : List Char) : List StringUnit := cs.map .char

/-- The text that units stand for.  A surrogate of the first half must stand before one of the
second half, with which it makes one character. -/
def textOfUnits? : List StringUnit → Option (List Char)
  | [] => some []
  | .char c :: rest => (textOfUnits? rest).map (c :: ·)
  | .surrogate high :: .surrogate low :: rest =>
    if high < 0xdc00 ∧ 0xdc00 ≤ low then
      let code := 0x10000 + (high - 0xd800) * 0x400 + (low - 0xdc00)
      (textOfUnits? rest).map (Char.ofNat code :: ·)
    else none
  | .surrogate _ :: _ => none

/-- The four digits of a code point in an escape, in base sixteen. -/
def fourDigits (code : Nat) : List Char :=
  [Text.hexDigit (code / 0x1000 % 16), Text.hexDigit (code / 0x100 % 16),
    Text.hexDigit (code / 0x10 % 16), Text.hexDigit (code % 16)]

/-- The letter that stands for a character behind a backslash, if it has one. -/
def shortEscape? (c : Char) : Option Char :=
  if c = '\"' then some '\"'
  else if c = '\\' then some '\\'
  else if c = '\x08' then some 'b'
  else if c = '\x0c' then some 'f'
  else if c = '\n' then some 'n'
  else if c = '\r' then some 'r'
  else if c = '\t' then some 't'
  else none

/-- The character that a letter behind a backslash stands for, the letter `u` apart. -/
def ofShortEscape? (c : Char) : Option Char :=
  if c = '\"' then some '\"'
  else if c = '\\' then some '\\'
  else if c = '/' then some '/'
  else if c = 'b' then some '\x08'
  else if c = 'f' then some '\x0c'
  else if c = 'n' then some '\n'
  else if c = 'r' then some '\r'
  else if c = 't' then some '\t'
  else none

/-- The text of a unit between quotes: quotes, backslashes and controls are escaped. -/
def unitText : StringUnit → List Char
  | .surrogate code => '\\' :: 'u' :: fourDigits code
  | .char c => match shortEscape? c with
    | some letter => ['\\', letter]
    | none => if c.toNat < 0x20 then '\\' :: 'u' :: fourDigits c.toNat else [c]

/-- The text of units between quotes. -/
def unitsText (units : List StringUnit) : List Char := units.flatMap unitText

/-- The value of a digit of base sixteen, in either letter case. -/
def hexValue? (c : Char) : Option Nat :=
  if c.isDigit then some (c.toNat - 48)
  else if 'a' ≤ c ∧ c ≤ 'f' then some (c.toNat - 87)
  else if 'A' ≤ c ∧ c ≤ 'F' then some (c.toNat - 55)
  else none

/-- The unit that four digits of base sixteen stand for. -/
def unitOfDigits? (a b c d : Char) : Option StringUnit := do
  let code := (((← hexValue? a) * 16 + (← hexValue? b)) * 16 + (← hexValue? c)) * 16 +
    (← hexValue? d)
  return if isSurrogate code then .surrogate code else .char (Char.ofNat code)

/-- Puts a unit before the units that were read from the rest of a text. -/
def consUnit (unit : StringUnit) (read : Option (List StringUnit × List Char)) :
    Option (List StringUnit × List Char) :=
  read.map fun (units, rest) => (unit :: units, rest)

/-- Reads the units up to the closing quote, and gives what follows it. -/
def readUnits? : List Char → Option (List StringUnit × List Char)
  | [] => none
  | '\"' :: rest => some ([], rest)
  | '\\' :: 'u' :: a :: b :: c :: d :: rest =>
    match unitOfDigits? a b c d with
    | some unit => consUnit unit (readUnits? rest)
    | none => none
  | '\\' :: letter :: rest =>
    match ofShortEscape? letter with
    | some c => consUnit (.char c) (readUnits? rest)
    | none => none
  | c :: rest =>
    if c = '\\' ∨ c.toNat < 0x20 then none else consUnit (.char c) (readUnits? rest)

theorem length_of_consUnit {unit : StringUnit} {read : Option (List StringUnit × List Char)}
    {units : List StringUnit} {rest : List Char} {n : Nat}
    (ih : ∀ {units rest}, read = some (units, rest) → rest.length < n)
    (h : consUnit unit read = some (units, rest)) : rest.length < n := by
  obtain ⟨⟨us, r⟩, hr, hp⟩ := Option.map_eq_some_iff.1 h
  cases hp
  exact ih hr

/-- What follows a string is shorter than the string with it. -/
theorem readUnits?_length {cs : List Char} :
    ∀ {units : List StringUnit} {rest : List Char},
      readUnits? cs = some (units, rest) → rest.length < cs.length := by
  fun_induction readUnits? cs with
  | case1 => simp
  | case2 rest => rintro _ _ ⟨⟩; simp
  | case3 a b c d r unit _ ih =>
    intro _ _ h
    have := length_of_consUnit ih h
    simp only [List.length_cons]
    omega
  | case4 => simp
  | case5 letter r _ c _ ih =>
    intro _ _ h
    have := length_of_consUnit ih h
    simp only [List.length_cons]
    omega
  | case6 => simp
  | case7 => simp
  | case8 c r _ _ _ _ ih =>
    intro _ _ h
    have := length_of_consUnit ih h
    simp only [List.length_cons]
    omega

end Concordance.Json
