/-!
# Text as bytes

`Utf8.encode` writes a text in UTF-8, and `Utf8.decode?` reads it: it accepts the shortest form
of every character and nothing else, so neither surrogates nor code points beyond the last one.
-/

namespace Concordance.Utf8

/-- The bytes of a text. -/
def encode (cs : List Char) : List UInt8 := cs.flatMap String.utf8EncodeChar

/-- The six low bits of a continuation byte. -/
def continuation? (b : UInt8) : Option Nat :=
  if 0x80 ≤ b.toNat ∧ b.toNat < 0xc0 then some (b.toNat - 0x80) else none

/-- The character with the given code point, provided that it needs as many bytes as were
spent on it: its code point is not below `least`. -/
def character? (least code : Nat) : Option Char :=
  if least ≤ code ∧ code.isValidChar then some (Char.ofNat code) else none

/-- The text in a list of bytes, if they are the bytes of a text. -/
def decode? : List UInt8 → Option (List Char)
  | [] => some []
  | b :: rest =>
    let lead := b.toNat
    if lead < 0x80 then (decode? rest).map (Char.ofNat lead :: ·)
    else if lead < 0xc0 then none
    else match rest with
      | [] => none
      | b1 :: rest => do
        let c1 ← continuation? b1
        if lead < 0xe0 then
          let c ← character? 0x80 ((lead - 0xc0) * 64 + c1)
          return c :: (← decode? rest)
        else match rest with
          | [] => none
          | b2 :: rest => do
            let c2 ← continuation? b2
            if lead < 0xf0 then
              let c ← character? 0x800 (((lead - 0xe0) * 64 + c1) * 64 + c2)
              return c :: (← decode? rest)
            else match rest with
              | [] => none
              | b3 :: rest => do
                let c3 ← continuation? b3
                if lead < 0xf8 then
                  let c ← character? 0x10000 ((((lead - 0xf0) * 64 + c1) * 64 + c2) * 64 + c3)
                  return c :: (← decode? rest)
                else none

end Concordance.Utf8
