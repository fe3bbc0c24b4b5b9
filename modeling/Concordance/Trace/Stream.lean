/-!
# Byte streams

A stream delivers its bytes in chunks.  One read gives at most as many bytes as were asked for
and never more than the rest of one chunk; `fill` reads on until it has all bytes that were
asked for, or the stream has ended.  Words are little-endian.

`length_fill` says that no byte is lost or repeated on the way.
-/

namespace Concordance

/-- The bytes still to come, in the chunks in which they are delivered. -/
structure ByteStream where
  chunks : List (List UInt8)
  nonempty : ∀ chunk ∈ chunks, chunk ≠ []

namespace ByteStream

/-- The stream that delivers its bytes at once. -/
def ofBytes : List UInt8 → ByteStream
  | [] => ⟨[], by simp⟩
  | b :: rest => ⟨[b :: rest], by simp⟩

/-- The bytes still to come. -/
def bytes (s : ByteStream) : List UInt8 := s.chunks.flatten

/-- Reads at least one and at most `n + 1` bytes, or none at the end of the stream. -/
def readSome (n : Nat) (s : ByteStream) : List UInt8 × ByteStream :=
  match h : s.chunks with
  | [] => ([], s)
  | chunk :: rest =>
    if short : chunk.length ≤ n + 1 then
      (chunk, ⟨rest, fun c hc => s.nonempty c (h ▸ List.mem_cons_of_mem _ hc)⟩)
    else
      (chunk.take (n + 1), ⟨chunk.drop (n + 1) :: rest, fun c hc => by
        rcases List.mem_cons.1 hc with rfl | hc
        · intro empty
          exact short (List.drop_eq_nil_iff.1 empty)
        · exact s.nonempty c (h ▸ List.mem_cons_of_mem _ hc)⟩)

theorem readSome_append (n : Nat) (s : ByteStream) :
    (s.readSome n).1 ++ (s.readSome n).2.bytes = s.bytes := by
  unfold readSome bytes
  split
  · rename_i h; simp [h]
  · rename_i chunk rest h
    split
    · simp [h]
    · simp [h, ← List.append_assoc]

/-- Reads `n` bytes, or all there are if there are fewer. -/
def fill (n : Nat) (s : ByteStream) : List UInt8 × ByteStream :=
  if n = 0 then ([], s)
  else
    match s.readSome (n - 1) with
    | ([], rest) => ([], rest)
    | (b :: read, rest) =>
      let later := fill (n - (read.length + 1)) rest
      (b :: read ++ later.1, later.2)
termination_by n
decreasing_by omega

/-- What has been read and what is still to come make up the stream. -/
theorem fill_append (n : Nat) (s : ByteStream) :
    (fill n s).1 ++ (fill n s).2.bytes = s.bytes := by
  fun_induction fill n s with
  | case1 => simp
  | case2 n s _ rest h =>
    have := readSome_append (n - 1) s
    rwa [h] at this
  | case3 n s _ b read rest h later ih =>
    have := readSome_append (n - 1) s
    rw [h] at this
    rw [← this, ← ih, List.append_assoc]

/-- Filling takes off the stream as many bytes as it gives. -/
theorem length_fill (n : Nat) (s : ByteStream) :
    (fill n s).1.length + (fill n s).2.bytes.length = s.bytes.length := by
  rw [← List.length_append, fill_append]

end ByteStream

/-! ## Words -/

/-- The number with the given little-endian bytes. -/
def ofLittleEndian : List UInt8 → Nat
  | [] => 0
  | b :: rest => b.toNat + 256 * ofLittleEndian rest

/-- The `width` low bytes of a number, little-endian. -/
def toLittleEndian : Nat → Nat → List UInt8
  | 0, _ => []
  | width + 1, n => UInt8.ofNat (n % 256) :: toLittleEndian width (n / 256)

/-- Reading the bytes of a number gives it back, if they hold it. -/
theorem ofLittleEndian_toLittleEndian (width n : Nat) (h : n < Nat.pow 256 width) :
    ofLittleEndian (toLittleEndian width n) = n := by
  induction width generalizing n with
  | zero =>
    have : Nat.pow 256 0 = 1 := rfl
    simp only [toLittleEndian, ofLittleEndian]
    omega
  | succ width ih =>
    have power : Nat.pow 256 (width + 1) = Nat.pow 256 width * 256 := rfl
    have smaller : n / 256 < Nat.pow 256 width := Nat.div_lt_of_lt_mul (by omega)
    simp only [toLittleEndian, ofLittleEndian, ih _ smaller, UInt8.toNat_ofNat']
    omega

end Concordance
