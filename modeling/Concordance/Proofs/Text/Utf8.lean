import Concordance.Text.Utf8
import Mathlib.Tactic.Lemma
import Mathlib.Tactic.SplitIfs

/-!
# Text survives as bytes

`decode?_encode` holds for every text and not only for ASCII.  A character is followed through
the four lengths of its code: the lead byte tells the length, each other byte holds six bits, and
the code point that they make is neither too small for the length nor a surrogate.

The newline byte stands for the newline and occurs in no longer code
(`newline_not_mem_encode`), so lines may be cut before they are decoded.

In the other direction nothing but the bytes of a text is decoded (`decode?_eq_some_iff`), since
each of the four lengths refuses the code points that a shorter one can hold.
-/

namespace Concordance.Utf8

/-! ## Bytes of a character -/

lemma toNat_ofNat {n : Nat} (byte : n < 256) : (UInt8.ofNat n).toNat = n :=
  UInt8.toNat_ofNat_of_lt' byte

lemma continuation?_ofNat (n : Nat) :
    continuation? (UInt8.ofNat (n % 64 + 128)) = some (n % 64) := by
  have low : n % 64 < 64 := Nat.mod_lt n (by decide)
  rw [continuation?, toNat_ofNat (by omega), if_pos (by omega), Nat.add_sub_cancel]

lemma toNat_lt (c : Char) : c.toNat < 0x110000 := by
  have valid := c.valid
  simp only [UInt32.isValidChar, Nat.isValidChar, Char.toNat] at valid ⊢
  omega

lemma character?_toNat {least : Nat} {c : Char} (enough : least ≤ c.toNat) :
    character? least c.toNat = some c := by
  rw [character?, if_pos ⟨enough, c.valid⟩, Char.ofNat_toNat]

lemma utf8EncodeChar_eq (c : Char) : String.utf8EncodeChar c =
    if c.toNat ≤ 127 then [UInt8.ofNat c.toNat]
    else if c.toNat ≤ 2047 then
      [UInt8.ofNat (c.toNat / 64 % 32 + 192), UInt8.ofNat (c.toNat % 64 + 128)]
    else if c.toNat ≤ 65535 then
      [UInt8.ofNat (c.toNat / 4096 % 16 + 224), UInt8.ofNat (c.toNat / 64 % 64 + 128),
        UInt8.ofNat (c.toNat % 64 + 128)]
    else
      [UInt8.ofNat (c.toNat / 262144 % 8 + 240), UInt8.ofNat (c.toNat / 4096 % 64 + 128),
        UInt8.ofNat (c.toNat / 64 % 64 + 128), UInt8.ofNat (c.toNat % 64 + 128)] := rfl

/-- What is left to do once a character is known. -/
lemma some_bind_cons (c : Char) (later : Option (List Char)) :
    ((some c).bind fun c => later.bind fun cs => pure (c :: cs)) = later.map (c :: ·) := by
  cases later with
  | none => rfl
  | some cs => rfl

section

variable {c : Char} (rest : List UInt8)

lemma decode?_one (small : c.toNat < 0x80) :
    decode? (UInt8.ofNat c.toNat :: rest) = (decode? rest).map (c :: ·) := by
  have lead : (UInt8.ofNat c.toNat).toNat = c.toNat := toNat_ofNat (by omega)
  rw [decode?.eq_def]
  simp only [lead]
  rw [if_pos small, Char.ofNat_toNat]

lemma decode?_two (large : 0x80 ≤ c.toNat) (small : c.toNat < 0x800) :
    decode? (UInt8.ofNat (c.toNat / 64 % 32 + 192) :: UInt8.ofNat (c.toNat % 64 + 128) :: rest)
      = (decode? rest).map (c :: ·) := by
  have lead : (UInt8.ofNat (c.toNat / 64 % 32 + 192)).toNat = c.toNat / 64 % 32 + 192 :=
    toNat_ofNat (by omega)
  have code : (c.toNat / 64 % 32 + 192 - 0xc0) * 64 + c.toNat % 64 = c.toNat := by omega
  simp only [decode?, lead, continuation?_ofNat, Option.bind_eq_bind, Option.bind_some]
  rw [if_neg (by omega), if_neg (by omega), if_pos (by omega), code, character?_toNat large,
    some_bind_cons]

lemma decode?_three (large : 0x800 ≤ c.toNat) (small : c.toNat < 0x10000) :
    decode? (UInt8.ofNat (c.toNat / 4096 % 16 + 224) :: UInt8.ofNat (c.toNat / 64 % 64 + 128) ::
        UInt8.ofNat (c.toNat % 64 + 128) :: rest)
      = (decode? rest).map (c :: ·) := by
  have lead : (UInt8.ofNat (c.toNat / 4096 % 16 + 224)).toNat = c.toNat / 4096 % 16 + 224 :=
    toNat_ofNat (by omega)
  have code : ((c.toNat / 4096 % 16 + 224 - 0xe0) * 64 + c.toNat / 64 % 64) * 64
      + c.toNat % 64 = c.toNat := by omega
  simp only [decode?, lead, continuation?_ofNat, Option.bind_eq_bind, Option.bind_some]
  rw [if_neg (by omega), if_neg (by omega), if_neg (by omega), if_pos (by omega), code,
    character?_toNat large, some_bind_cons]

lemma decode?_four (large : 0x10000 ≤ c.toNat) :
    decode? (UInt8.ofNat (c.toNat / 262144 % 8 + 240) ::
        UInt8.ofNat (c.toNat / 4096 % 64 + 128) :: UInt8.ofNat (c.toNat / 64 % 64 + 128) ::
        UInt8.ofNat (c.toNat % 64 + 128) :: rest)
      = (decode? rest).map (c :: ·) := by
  have last := toNat_lt c
  have lead : (UInt8.ofNat (c.toNat / 262144 % 8 + 240)).toNat = c.toNat / 262144 % 8 + 240 :=
    toNat_ofNat (by omega)
  have code : (((c.toNat / 262144 % 8 + 240 - 0xf0) * 64 + c.toNat / 4096 % 64) * 64
      + c.toNat / 64 % 64) * 64 + c.toNat % 64 = c.toNat := by omega
  simp only [decode?, lead, continuation?_ofNat, Option.bind_eq_bind, Option.bind_some]
  rw [if_neg (by omega), if_neg (by omega), if_neg (by omega), if_neg (by omega),
    if_pos (by omega), code, character?_toNat large, some_bind_cons]

/-- A character is read back from its bytes, whatever follows them. -/
lemma decode?_utf8EncodeChar_append :
    decode? (String.utf8EncodeChar c ++ rest) = (decode? rest).map (c :: ·) := by
  rw [utf8EncodeChar_eq]
  split
  · exact decode?_one rest (by omega)
  · split
    · exact decode?_two rest (by omega) (by omega)
    · split
      · exact decode?_three rest (by omega) (by omega)
      · exact decode?_four rest (by omega)

end

/-- **Text is read back from its bytes.** -/
theorem decode?_encode (cs : List Char) : decode? (encode cs) = some cs := by
  induction cs with
  | nil => rfl
  | cons c rest ih =>
      rw [encode, List.flatMap_cons, decode?_utf8EncodeChar_append, ← encode, ih]
      rfl

lemma encode_injective {cs ds : List Char} (same : encode cs = encode ds) : cs = ds := by
  have back := decode?_encode cs
  rw [same, decode?_encode] at back
  exact (Option.some.inj back).symm

/-! ## From bytes back to text -/

/-- A continuation byte is known by its six bits. -/
lemma continuation?_eq_some {b : UInt8} {n : Nat} (h : continuation? b = some n) :
    n < 64 ∧ b = UInt8.ofNat (n + 128) := by
  rw [continuation?] at h
  split at h
  · rename_i range
    obtain rfl := Option.some.inj h
    have whole : b.toNat - 0x80 + 128 = b.toNat := by omega
    refine ⟨by omega, ?_⟩
    rw [whole, UInt8.ofNat_toNat]
  · cases h

lemma toNat_char_ofNat {n : Nat} (valid : n.isValidChar) : (Char.ofNat n).toNat = n := by
  rw [Char.ofNat, dif_pos valid]
  rfl

/-- A character is taken only if its code point was not too small, and the rest is decoded. -/
lemma eq_some_of_character? {least code : Nat} {rest : List UInt8} {cs : List Char}
    (h : ((character? least code).bind fun c => (decode? rest).bind fun others =>
      pure (c :: others)) = some cs) :
    ∃ c others, cs = c :: others ∧ least ≤ code ∧ c.toNat = code ∧
      decode? rest = some others := by
  simp only [Option.bind_eq_some_iff] at h
  obtain ⟨c, taken, others, later, built⟩ := h
  rw [character?] at taken
  split at taken
  · rename_i valid
    obtain rfl := Option.some.inj taken
    exact ⟨_, others, (Option.some.inj built).symm, valid.1, toNat_char_ofNat valid.2, later⟩
  · cases taken

lemma eq_ofNat {b : UInt8} {n : Nat} (h : b.toNat = n) : b = UInt8.ofNat n := by
  rw [← h, UInt8.ofNat_toNat]

/-- What is decoded begins with the bytes of its first character. -/
lemma decode?_cons_eq_some {b : UInt8} {rest : List UInt8} {cs : List Char}
    (h : decode? (b :: rest) = some cs) : ∃ c others tail, cs = c :: others ∧
      b :: rest = String.utf8EncodeChar c ++ tail ∧ decode? tail = some others := by
  rw [decode?.eq_def] at h
  simp only [Option.bind_eq_bind] at h
  -- a case for each length of a code; what is left over is refused
  split at h
  · obtain ⟨others, later, rfl⟩ := Option.map_eq_some_iff.1 h
    have code : (Char.ofNat b.toNat).toNat = b.toNat := toNat_char_ofNat (.inl (by omega))
    refine ⟨_, others, rest, rfl, ?_, later⟩
    rw [utf8EncodeChar_eq, code, if_pos (by omega), UInt8.ofNat_toNat]
    rfl
  split at h
  · cases h
  split at h
  · cases h
  rename_i b1 rest1
  rw [Option.bind_eq_some_iff] at h
  obtain ⟨c1, low1, h⟩ := h
  obtain ⟨small1, rfl⟩ := continuation?_eq_some low1
  split at h
  · obtain ⟨c, others, rfl, enough, code, later⟩ := eq_some_of_character? h
    have first : b = UInt8.ofNat (c.toNat / 64 % 32 + 192) := eq_ofNat (by omega)
    have second : c1 = c.toNat % 64 := by omega
    refine ⟨c, others, rest1, rfl, ?_, later⟩
    rw [utf8EncodeChar_eq, if_neg (by omega), if_pos (by omega), ← first, ← second]
    rfl
  split at h
  · cases h
  rename_i b2 rest2
  rw [Option.bind_eq_some_iff] at h
  obtain ⟨c2, low2, h⟩ := h
  obtain ⟨small2, rfl⟩ := continuation?_eq_some low2
  split at h
  · obtain ⟨c, others, rfl, enough, code, later⟩ := eq_some_of_character? h
    have first : b = UInt8.ofNat (c.toNat / 4096 % 16 + 224) := eq_ofNat (by omega)
    have second : c1 = c.toNat / 64 % 64 := by omega
    have third : c2 = c.toNat % 64 := by omega
    refine ⟨c, others, rest2, rfl, ?_, later⟩
    rw [utf8EncodeChar_eq, if_neg (by omega), if_neg (by omega), if_pos (by omega), ← first,
      ← second, ← third]
    rfl
  split at h
  · cases h
  rename_i b3 rest3
  rw [Option.bind_eq_some_iff] at h
  obtain ⟨c3, low3, h⟩ := h
  obtain ⟨small3, rfl⟩ := continuation?_eq_some low3
  split at h
  · obtain ⟨c, others, rfl, enough, code, later⟩ := eq_some_of_character? h
    have first : b = UInt8.ofNat (c.toNat / 262144 % 8 + 240) := eq_ofNat (by omega)
    have second : c1 = c.toNat / 4096 % 64 := by omega
    have third : c2 = c.toNat / 64 % 64 := by omega
    have fourth : c3 = c.toNat % 64 := by omega
    refine ⟨c, others, rest3, rfl, ?_, later⟩
    rw [utf8EncodeChar_eq, if_neg (by omega), if_neg (by omega), if_neg (by omega), ← first,
      ← second, ← third, ← fourth]
    rfl
  · cases h

lemma length_utf8EncodeChar_pos (c : Char) : 0 < (String.utf8EncodeChar c).length := by
  rw [utf8EncodeChar_eq]
  split_ifs <;> simp

/-- **Nothing but the bytes of a text is decoded**, and it is decoded as that text. -/
theorem decode?_eq_some_iff {bytes : List UInt8} {cs : List Char} :
    decode? bytes = some cs ↔ bytes = encode cs := by
  constructor
  · intro h
    -- the recursion goes on behind the first character, so the induction is on the length
    induction size : bytes.length using Nat.strongRecOn generalizing bytes cs with
    | ind n ih =>
        cases bytes with
        | nil =>
            rw [decode?] at h
            obtain rfl := Option.some.inj h
            rfl
        | cons b rest =>
            obtain ⟨c, others, tail, rfl, split, later⟩ := decode?_cons_eq_some h
            have shorter : tail.length < n := by
              have positive := length_utf8EncodeChar_pos c
              have whole := congrArg List.length split
              rw [List.length_append] at whole
              omega
            rw [split, ih _ shorter later rfl, encode, encode, List.flatMap_cons]
  · rintro rfl
    exact decode?_encode cs

/-! ## Newlines -/

lemma encode_append (cs ds : List Char) : encode (cs ++ ds) = encode cs ++ encode ds :=
  List.flatMap_append

lemma ne_newline {n : Nat} (byte : n < 256) (other : n ≠ 10) : (10 : UInt8) ≠ UInt8.ofNat n := by
  intro same
  have value := congrArg UInt8.toNat same
  rw [toNat_ofNat byte] at value
  exact other value.symm

/-- The newline byte is part of no other character. -/
lemma newline_not_mem_utf8EncodeChar {c : Char} (other : c ≠ '\n') :
    (10 : UInt8) ∉ String.utf8EncodeChar c := by
  have code : c.toNat ≠ 10 := fun same => other (Char.toNat_inj.1 same)
  rw [utf8EncodeChar_eq]
  split
  · simp only [List.mem_singleton]
    exact ne_newline (by omega) code
  · split
    · simp only [List.mem_cons, List.not_mem_nil, or_false, not_or]
      exact ⟨ne_newline (by omega) (by omega), ne_newline (by omega) (by omega)⟩
    · split
      · simp only [List.mem_cons, List.not_mem_nil, or_false, not_or]
        exact ⟨ne_newline (by omega) (by omega), ne_newline (by omega) (by omega),
          ne_newline (by omega) (by omega)⟩
      · simp only [List.mem_cons, List.not_mem_nil, or_false, not_or]
        exact ⟨ne_newline (by omega) (by omega), ne_newline (by omega) (by omega),
          ne_newline (by omega) (by omega), ne_newline (by omega) (by omega)⟩

/-- **Only a newline is written with the newline byte.** -/
theorem newline_not_mem_encode {cs : List Char} (other : '\n' ∉ cs) :
    (10 : UInt8) ∉ encode cs := by
  intro member
  obtain ⟨c, found, byte⟩ := List.mem_flatMap.1 member
  have different : c ≠ '\n' := fun same => other (same ▸ found)
  exact newline_not_mem_utf8EncodeChar different byte

end Concordance.Utf8
