import Concordance.Text.Extending
import Concordance.Text.Printable

/-!
# Quoted text

Messages and logs show foreign text between double quotes.  Quotes, backslashes and the usual
controls have short escapes; other characters that cannot be seen are written by their code
point, as are combining marks, which would show on the character before them.

Among those that cannot be seen are the characters with the Unicode property
`Default_Ignorable_Code_Point`: joiners, fillers, variation selectors and the like, which are not
shown at all unless something is made of them.  Most of them are controls or marks as well, but the
Hangul fillers are letters.
-/

namespace Concordance.Text

/-- The code points with the property `Default_Ignorable_Code_Point`. -/
def ignorableRanges : List (Nat × Nat) :=
  [(0xad, 0xad), (0x34f, 0x34f), (0x61c, 0x61c), (0x115f, 0x1160), (0x17b4, 0x17b5),
    (0x180b, 0x180f), (0x200b, 0x200f), (0x202a, 0x202e), (0x2060, 0x206f), (0x3164, 0x3164),
    (0xfe00, 0xfe0f), (0xfeff, 0xfeff), (0xffa0, 0xffa0), (0xfff0, 0xfff8), (0x1bca0, 0x1bca3),
    (0x1d173, 0x1d17a), (0xe0000, 0xe0fff)]

/-- Whether a character leaves no trace where it stands. -/
def isIgnorable (c : Char) : Bool := inRanges ignorableRanges c

/-- A digit of base sixteen, in small letters. -/
def hexDigit (n : Nat) : Char := if n < 10 then Char.ofNat (48 + n) else Char.ofNat (87 + n)

/-- A number in base sixteen, without leading zeros. -/
def hexText (n : Nat) : List Char :=
  if n < 16 then [hexDigit n] else hexText (n / 16) ++ [hexDigit (n % 16)]
termination_by n
decreasing_by omega

/-- The escape that names a code point. -/
def codePointEscape (c : Char) : List Char :=
  ['\\', 'u', Char.ofNat 0x7b] ++ hexText c.toNat ++ [Char.ofNat 0x7d]

/-- Whether a character can be seen by itself. -/
def isVisible (c : Char) : Bool := isPrintable c && !isIgnorable c && !isCombining c

/-- A character as it stands between quotes. -/
def quotedChar (c : Char) : List Char :=
  if c = '\x00' then ['\\', '0']
  else if c = '\t' then ['\\', 't']
  else if c = '\r' then ['\\', 'r']
  else if c = '\n' then ['\\', 'n']
  else if c = '\\' then ['\\', '\\']
  else if c = '\"' then ['\\', '\"']
  else if isVisible c then [c]
  else codePointEscape c

/-- A text between double quotes. -/
def quoted (cs : List Char) : List Char := '\"' :: cs.flatMap quotedChar ++ ['\"']

end Concordance.Text
