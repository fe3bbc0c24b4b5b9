import Concordance.Json.Number
import Concordance.Json.Text

/-!
# Tokens of JSON

A document is a row of tokens with blanks between them.  `Json.Token.text` writes a token, and
`Json.tokens?` splits a text into its tokens.  Each step takes at least one character off the
text (`takeToken?_length`), which is why splitting ends.
-/

namespace Concordance.Json

/-- A token of a document. -/
inductive Token where
  | openBrace
  | closeBrace
  | openBracket
  | closeBracket
  | colon
  | comma
  | null
  | bool (value : Bool)
  | number (literal : Number)
  | string (units : List StringUnit)
  deriving DecidableEq, Repr

/-- The text of a token. -/
def Token.text : Token → List Char
  | openBrace => [Char.ofNat 0x7b]
  | closeBrace => [Char.ofNat 0x7d]
  | openBracket => ['[']
  | closeBracket => [']']
  | colon => [':']
  | comma => [',']
  | null => ['n', 'u', 'l', 'l']
  | bool true => ['t', 'r', 'u', 'e']
  | bool false => ['f', 'a', 'l', 's', 'e']
  | number literal => literal.text
  | string units => '\"' :: unitsText units ++ ['\"']

/-- The blanks between tokens. -/
def isBlank (c : Char) : Bool := c == ' ' || c == '\t' || c == '\n' || c == '\r'

/-- The token that a character is by itself. -/
def markOf? (c : Char) : Option Token :=
  if c.toNat = 0x7b then some .openBrace
  else if c.toNat = 0x7d then some .closeBrace
  else if c = '[' then some .openBracket
  else if c = ']' then some .closeBracket
  else if c = ':' then some .colon
  else if c = ',' then some .comma
  else none

/-- Takes a word off the start of a text. -/
def takeWord? : List Char → Option (Token × List Char)
  | 'n' :: 'u' :: 'l' :: 'l' :: rest => some (.null, rest)
  | 't' :: 'r' :: 'u' :: 'e' :: rest => some (.bool true, rest)
  | 'f' :: 'a' :: 'l' :: 's' :: 'e' :: rest => some (.bool false, rest)
  | _ => none

/-- Takes a token off a text that does not begin with a blank. -/
def takeToken? : List Char → Option (Token × List Char)
  | [] => none
  | c :: rest =>
    match markOf? c with
    | some mark => some (mark, rest)
    | none =>
      if c = '\"' then (readUnits? rest).map fun (units, rest) => (.string units, rest)
      else match takeWord? (c :: rest) with
        | some taken => some taken
        | none =>
          (Number.read? (c :: rest)).map fun (literal, rest) => (.number literal, rest)

/-- What follows a token is shorter than the token with it. -/
theorem takeToken?_length {cs rest : List Char} {t : Token}
    (h : takeToken? cs = some (t, rest)) : rest.length < cs.length := by
  unfold takeToken? at h
  split at h
  · simp at h
  · rename_i c r
    split at h
    · simp only [Option.some.injEq, Prod.mk.injEq] at h
      simp [h.2]
    · split at h
      · obtain ⟨⟨units, r'⟩, hr, hp⟩ := Option.map_eq_some_iff.1 h
        have := readUnits?_length hr
        simp only [Prod.mk.injEq] at hp
        simp only [List.length_cons, ← hp.2]; omega
      · split at h
        · rename_i taken hw
          simp only [Option.some.injEq] at h
          subst h
          unfold takeWord? at hw
          split at hw <;> simp_all <;> simp [← hw.2] <;> omega
        · obtain ⟨⟨literal, r'⟩, hr, hp⟩ := Option.map_eq_some_iff.1 h
          have := Number.read?_length hr
          simp only [Prod.mk.injEq] at hp
          rw [← hp.2]; exact this

/-- Splits a text into its tokens. -/
def tokens? (cs : List Char) : Option (List Token) :=
  match cs with
  | [] => some []
  | c :: rest =>
    if isBlank c then tokens? rest
    else match h : takeToken? (c :: rest) with
      | none => none
      | some (t, rest') =>
        have := takeToken?_length h
        (tokens? rest').map (t :: ·)
termination_by cs.length
decreasing_by
  · exact Nat.lt_succ_self _
  · assumption

end Concordance.Json
