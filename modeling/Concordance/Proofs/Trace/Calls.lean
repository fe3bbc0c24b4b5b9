import Concordance.Trace.Source
import Mathlib.Tactic.Lemma

/-!
# Sources seen through their answers

A source is known by what successive calls of `next` answer.  `answer source n` is the answer of
call number `n`, counted from zero, whether or not an earlier call failed or found the end;
`after source n` is the source that the call is made on.

* `Yields source points` says that the first calls give the points of a list, in turn.
* `MemoryTrace.answer_eq` gives every answer of a trace held in memory.
-/

namespace Concordance

namespace PointSource

variable {σ : Type} [PointSource σ]

/-- The source behind a number of calls of `next`. -/
def after : σ → Nat → σ
  | source, 0 => source
  | source, n + 1 => after (next source).2 n

/-- What call number `n` of `next` answers, counted from zero. -/
def answer (source : σ) (n : Nat) : Except TraceFault (Option SampledPoint) :=
  (next (after source n)).1

/-- The first calls of `next` give the points of the list, in turn. -/
def Yields (source : σ) (points : List SampledPoint) : Prop :=
  ∀ n p, points[n]? = some p → answer source n = .ok (some p)

@[simp] lemma after_zero (source : σ) : after source 0 = source := rfl

@[simp] lemma after_succ (source : σ) (n : Nat) :
    after source (n + 1) = after (next source).2 n := rfl

lemma after_add (source : σ) (m n : Nat) : after source (m + n) = after (after source m) n := by
  induction m generalizing source with
  | zero => rw [Nat.zero_add, after_zero]
  | succ m ih => rw [Nat.add_right_comm, after_succ, after_succ, ih]

@[simp] lemma yields_nil (source : σ) : Yields source [] := by
  intro n p h
  simp at h

lemma yields_cons {source : σ} {p : SampledPoint} {rest : List SampledPoint} :
    Yields source (p :: rest) ↔
      (next source).1 = .ok (some p) ∧ Yields (next source).2 rest := by
  constructor
  · intro h
    exact ⟨h 0 p rfl, fun n q found => h (n + 1) q found⟩
  · rintro ⟨first, later⟩ n q found
    cases n with
    | zero =>
        obtain rfl : p = q := by simpa using found
        exact first
    | succ n => exact later n q found

end PointSource

namespace MemoryTrace

open PointSource

/-- Every call takes one point off, as long as there are points. -/
lemma after_eq (points : List SampledPoint) (declared : Option Nat) (n : Nat) :
    after (⟨points, declared⟩ : MemoryTrace) n = ⟨points.drop n, declared⟩ := by
  induction n generalizing points with
  | zero => rfl
  | succ n ih =>
      cases points with
      | nil =>
          have := ih []
          rw [List.drop_nil] at this ⊢
          exact this
      | cons p rest => exact ih rest

/-- The points of a trace in memory are its answers, and nothing follows them. -/
theorem answer_eq (points : List SampledPoint) (declared : Option Nat) (n : Nat) :
    answer (⟨points, declared⟩ : MemoryTrace) n = .ok points[n]? := by
  rw [answer, after_eq, ← List.head?_drop]
  cases points.drop n with
  | nil => rfl
  | cons p rest => rfl

lemma yields_points (points : List SampledPoint) (declared : Option Nat) :
    Yields (⟨points, declared⟩ : MemoryTrace) points := by
  intro n p found
  rw [answer_eq, found]

end MemoryTrace
end Concordance
