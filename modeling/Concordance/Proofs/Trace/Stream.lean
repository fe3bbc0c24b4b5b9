import Concordance.Trace.Stream
import Mathlib.Tactic.Lemma

/-!
# What a stream gives

How a stream is cut into chunks does not matter to `fill`: it takes the bytes off the front of
`bytes` (`fill_fst`) and leaves the others (`bytes_fill`).  The loop in `fill` goes on only
because a read may be short, so the two facts on one read that it needs are that no read is too
long and that only a stream at its end gives nothing.

The second part is about bytes that are written piece by piece.  Pieces of one length are found
again by their number (`drop_flatMap`), and bytes that are cut into such pieces are put together
again (`flatMap_slices`).  Both serve the words of a record as well as the records of a trace.

Bytes and the number they stand for determine each other: `toLittleEndian_ofLittleEndian` is the
direction in which the bytes come first.
-/

namespace Concordance

namespace ByteStream

/-! ## One read -/

@[simp] lemma bytes_ofBytes (bytes : List UInt8) : (ofBytes bytes).bytes = bytes := by
  cases bytes with
  | nil => rfl
  | cons b rest => simp [ofBytes, ByteStream.bytes]

lemma length_readSome_le (n : Nat) (s : ByteStream) : (s.readSome n).1.length ≤ n + 1 := by
  unfold readSome
  split
  · exact Nat.zero_le _
  · split
    · assumption
    · rw [List.length_take]
      exact Nat.min_le_left _ _

/-- Nothing is read at the end only: every chunk has a byte. -/
lemma bytes_eq_nil_of_readSome {n : Nat} {s : ByteStream} (h : (s.readSome n).1 = []) :
    s.bytes = [] := by
  unfold readSome at h
  split at h
  · rename_i empty
    rw [ByteStream.bytes, empty, List.flatten_nil]
  · rename_i chunk rest chunks
    have nonempty : chunk ≠ [] := s.nonempty chunk (chunks ▸ List.mem_cons_self)
    split at h
    · exact absurd h nonempty
    · have short : n + 1 = 0 ∨ chunk = [] := List.take_eq_nil_iff.1 h
      rcases short with zero | empty
      · exact absurd zero (Nat.succ_ne_zero n)
      · exact absurd empty nonempty

/-! ## Filling -/

/-- **Filling takes the first bytes**, wherever the chunks end. -/
theorem fill_fst (n : Nat) (s : ByteStream) : (s.fill n).1 = s.bytes.take n := by
  fun_induction fill n s with
  | case1 s => rw [List.take_zero]
  | case2 n s _ rest read =>
      have empty : s.bytes = [] := bytes_eq_nil_of_readSome (congrArg Prod.fst read)
      rw [empty, List.take_nil]
  | case3 n s positive b read rest split later ih =>
      -- a short read: the next turn is asked for exactly what this one did not give
      have joined := readSome_append (n - 1) s
      have short := length_readSome_le (n - 1) s
      rw [split] at joined short
      rw [List.length_cons] at short
      have rest_of_n : n = (b :: read).length + (n - (read.length + 1)) := by
        rw [List.length_cons]
        omega
      rw [← joined, ih, rest_of_n, List.take_length_add_append, ← rest_of_n]

/-- **Filling leaves the other bytes.** -/
theorem bytes_fill (n : Nat) (s : ByteStream) : (s.fill n).2.bytes = s.bytes.drop n := by
  have joined := fill_append n s
  rw [fill_fst] at joined
  exact List.append_cancel_left (joined.trans (List.take_append_drop n s.bytes).symm)

end ByteStream

/-! ## Words -/

@[simp] lemma length_toLittleEndian (width n : Nat) : (toLittleEndian width n).length = width := by
  induction width generalizing n with
  | zero => rfl
  | succ width ih => rw [toLittleEndian, List.length_cons, ih]

lemma ofLittleEndian_lt (bytes : List UInt8) :
    ofLittleEndian bytes < Nat.pow 256 bytes.length := by
  induction bytes with
  | nil => exact Nat.one_pos
  | cons b rest ih =>
      have power : Nat.pow 256 (b :: rest).length = Nat.pow 256 rest.length * 256 := rfl
      have byte := b.toNat_lt
      rw [ofLittleEndian]
      omega

/-- The bytes of a number are the bytes it was read from. -/
theorem toLittleEndian_ofLittleEndian (bytes : List UInt8) :
    toLittleEndian bytes.length (ofLittleEndian bytes) = bytes := by
  induction bytes with
  | nil => rfl
  | cons b rest ih =>
      have byte := b.toNat_lt
      have low : ofLittleEndian (b :: rest) % 256 = b.toNat := by
        rw [ofLittleEndian]
        omega
      have high : ofLittleEndian (b :: rest) / 256 = ofLittleEndian rest := by
        rw [ofLittleEndian]
        omega
      rw [List.length_cons, toLittleEndian, low, high, ih, UInt8.ofNat_toNat]

/-! ## Pieces of one length -/

/-- **Pieces of one length are found by counting.**  Behind the bytes of `n` pieces are those of
the others. -/
theorem drop_flatMap {α : Type} {bytesOf : α → List UInt8} {width : Nat}
    (fixed : ∀ a, (bytesOf a).length = width) (pieces : List α) (n : Nat) :
    (pieces.flatMap bytesOf).drop (width * n) = (pieces.drop n).flatMap bytesOf := by
  induction n generalizing pieces with
  | zero => rw [Nat.mul_zero, List.drop_zero, List.drop_zero]
  | succ n ih =>
      cases pieces with
      | nil => rw [List.flatMap_nil, List.drop_nil, List.drop_nil, List.flatMap_nil]
      | cons a rest =>
          have split : width * (n + 1) = (bytesOf a).length + width * n := by
            rw [fixed, Nat.mul_succ, Nat.add_comm]
          rw [List.flatMap_cons, split, List.drop_length_add_append, ih, List.drop_succ_cons]

/-- **Slices of one length make up the bytes they are cut from**, as far as they reach. -/
theorem flatMap_slices (bytes : List UInt8) (width count : Nat) :
    (List.range count).flatMap (fun n => (bytes.drop (width * n)).take width)
      = bytes.take (width * count) := by
  induction count with
  | zero => rw [Nat.mul_zero, List.take_zero, List.range_zero, List.flatMap_nil]
  | succ count ih =>
      rw [List.range_succ, List.flatMap_append, ih, List.flatMap_singleton, ← List.take_add,
        Nat.mul_succ]

end Concordance
