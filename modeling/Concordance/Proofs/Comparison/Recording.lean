import Concordance.Proofs.Comparison.Runs

/-!
# What recording a verdict changes

`record` writes a verdict down in three places: the learned equivalences, the statistics and the
number of compared points.  Each place is seen here through one view, so that the five verdicts
are told apart once for each view and not in every later proof.

* `note_counter` counts the outcome of the verdict and no other.
* `mem_covered_note` and `note_failures` say which region and which failed point are added.
* `Finds.get?_learn_of_some` and `Finds.get?_learn` say that bindings stay, and that only the
  first observation of a key adds one.

Together they give `Extends`: whatever a comparator is asked to do, it only adds to what it
holds (`classify_extends`, `run_extends`).
-/

namespace Concordance

open OrderedMap

/-- The counter of an outcome. -/
def Statistics.counter (s : Statistics) : Outcome → Nat
  | .success => s.success
  | .failed => s.failure
  | .ignored => s.ignored
  | .outside => s.outside

/-- The failed point that a verdict on point number `sequenceRank` keeps. -/
def Verdict.failure? (p : SampledPoint) (sequenceRank : Nat) : Verdict → Option FailedPoint
  | mismatch region _ _ distance => some (.of p region distance sequenceRank)
  | _ => none

namespace Comparator

variable {c c' c'' : Comparator} {p : SampledPoint} {verdict : Verdict} {key : EquivalenceKey}
  {composition : String}

/-! ## Statistics -/

lemma note_counter (s : Statistics) (p : SampledPoint) (n : Nat) (verdict : Verdict)
    (outcome : Outcome) :
    (note s p n verdict).counter outcome
      = s.counter outcome + if verdict.outcome = outcome then 1 else 0 := by
  cases verdict <;> cases outcome <;> rfl

lemma note_total (s : Statistics) (p : SampledPoint) (n : Nat) (verdict : Verdict) :
    (note s p n verdict).total = s.total + 1 := by
  cases verdict <;> simp only [note, count, Statistics.cover, Statistics.keepFailure,
    Statistics.total] <;> omega

lemma note_failures (s : Statistics) (p : SampledPoint) (n : Nat) (verdict : Verdict) :
    (note s p n verdict).failures = s.failures ++ (verdict.failure? p n).toList := by
  cases verdict with
  | mismatch region expected found distance => rfl
  | _ => exact (List.append_nil _).symm

/-- The region of the verdict is covered, if it tells of one. -/
lemma note_covered (s : Statistics) (p : SampledPoint) (n : Nat) (verdict : Verdict) :
    (note s p n verdict).covered = match verdict.region? with
      | some region => s.covered.insert region ()
      | none => s.covered := by
  cases verdict <;> rfl

lemma mem_covered_note {s : Statistics} {n : Nat} {region : RegionId} :
    region ∈ (note s p n verdict).covered.keys ↔
      verdict.region? = some region ∨ region ∈ s.covered.keys := by
  rw [note_covered]
  cases verdict.region? with
  | none => simp
  | some region' => simp only [mem_keys_insert, Option.some.injEq, eq_comm]

lemma note_totalRegions (s : Statistics) (p : SampledPoint) (n : Nat) (verdict : Verdict) :
    (note s p n verdict).totalRegions = s.totalRegions := by
  cases verdict <;> rfl

/-! ## Records -/

@[simp] lemma record_resolver (c : Comparator) (p : SampledPoint) (verdict : Verdict) :
    (c.record p verdict).resolver = c.resolver := rfl

@[simp] lemma record_namer (c : Comparator) (p : SampledPoint) (verdict : Verdict) :
    (c.record p verdict).namer = c.namer := rfl

@[simp] lemma record_config (c : Comparator) (p : SampledPoint) (verdict : Verdict) :
    (c.record p verdict).config = c.config := rfl

@[simp] lemma record_classified (c : Comparator) (p : SampledPoint) (verdict : Verdict) :
    (c.record p verdict).classified = c.classified + 1 := rfl

lemma record_counter (c : Comparator) (p : SampledPoint) (verdict : Verdict)
    (outcome : Outcome) :
    (c.record p verdict).statistics.counter outcome
      = c.statistics.counter outcome + if verdict.outcome = outcome then 1 else 0 :=
  note_counter c.statistics p c.classified verdict outcome

lemma record_failures (c : Comparator) (p : SampledPoint) (verdict : Verdict) :
    (c.record p verdict).statistics.failures
      = c.statistics.failures ++ (verdict.failure? p c.classified).toList :=
  note_failures c.statistics p c.classified verdict

lemma mem_covered_record {region : RegionId} :
    region ∈ (c.record p verdict).statistics.covered.keys ↔
      verdict.region? = some region ∨ region ∈ c.statistics.covered.keys :=
  mem_covered_note

/-! ## Equivalences -/

/-- A binding stays as it is. -/
lemma Finds.get?_learn_of_some (found : c.Finds p verdict)
    (h : c.equivalences.get? key = some composition) :
    (c.learn p verdict).get? key = some composition := by
  cases found with
  | firstSeen inside named unseen =>
      have other : p.key ≠ key := by
        rintro rfl
        simp [unseen] at h
      rw [learn, Equivalences.observe_of_unseen unseen, get?_insert_of_ne _ other, h]
  | _ => exact h

/-- A binding that was not there is that of the point, and it was the first to show its key. -/
lemma Finds.get?_learn (found : c.Finds p verdict)
    (h : (c.learn p verdict).get? key = some composition) :
    c.equivalences.get? key = some composition ∨
      key = p.key ∧ verdict = .firstSeen (c.regionOf p) composition ∧
        c.namer.composition? (c.regionOf p) = some composition := by
  cases found with
  | firstSeen inside named unseen =>
      rw [learn, Equivalences.observe_of_unseen unseen] at h
      by_cases same : p.key = key
      · subst same
        rw [get?_insert_self] at h
        obtain rfl := Option.some.inj h
        exact .inr ⟨rfl, rfl, named⟩
      · rw [get?_insert_of_ne _ same] at h
        exact .inl h
  | _ => exact .inl h

/-- A new binding goes with a success, and there is at most one. -/
lemma Finds.size_learn_le (found : c.Finds p verdict) :
    (c.learn p verdict).size ≤
      c.equivalences.size + if verdict.outcome = .success then 1 else 0 := by
  cases found with
  | firstSeen inside named unseen =>
      rw [learn, Equivalences.observe_of_unseen unseen]
      exact size_insert_le _ _ _
  | _ => exact Nat.le_add_right _ _

/-! ## Growth -/

/-- Everything that a comparator holds is held by another one of the same setting. -/
structure Extends (c c' : Comparator) : Prop where
  resolver : c'.resolver = c.resolver
  namer : c'.namer = c.namer
  config : c'.config = c.config
  totalRegions : c'.statistics.totalRegions = c.statistics.totalRegions
  classified : c.classified ≤ c'.classified
  counters : ∀ outcome, c.statistics.counter outcome ≤ c'.statistics.counter outcome
  bindings : ∀ key composition, c.equivalences.get? key = some composition →
    c'.equivalences.get? key = some composition
  covered : ∀ region ∈ c.statistics.covered.keys, region ∈ c'.statistics.covered.keys
  failures : c.statistics.failures <+: c'.statistics.failures

lemma Extends.refl (c : Comparator) : c.Extends c :=
  ⟨rfl, rfl, rfl, rfl, Nat.le_refl _, fun _ => Nat.le_refl _, fun _ _ h => h, fun _ h => h,
    List.prefix_refl _⟩

lemma Extends.trans (h : c.Extends c') (h' : c'.Extends c'') : c.Extends c'' where
  resolver := h'.resolver.trans h.resolver
  namer := h'.namer.trans h.namer
  config := h'.config.trans h.config
  totalRegions := h'.totalRegions.trans h.totalRegions
  classified := Nat.le_trans h.classified h'.classified
  counters outcome := Nat.le_trans (h.counters outcome) (h'.counters outcome)
  bindings key composition bound := h'.bindings key composition (h.bindings key composition bound)
  covered region member := h'.covered region (h.covered region member)
  failures := h.failures.trans h'.failures

lemma Finds.record_extends (found : c.Finds p verdict) : c.Extends (c.record p verdict) where
  resolver := rfl
  namer := rfl
  config := rfl
  totalRegions := note_totalRegions _ _ _ _
  classified := Nat.le_succ _
  counters outcome := by
    rw [record_counter]
    exact Nat.le_add_right _ _
  bindings _ _ bound := found.get?_learn_of_some bound
  covered _ member := mem_covered_record.2 (.inr member)
  failures := by
    rw [record_failures]
    exact List.prefix_append _ _

lemma classify_extends (c : Comparator) (p : SampledPoint) : c.Extends (c.classify p).2 := by
  rcases classify_cases c p with ⟨_, _, same⟩ | ⟨verdict, found, recorded⟩
  · rw [same]
    exact .refl c
  · rw [recorded]
    exact found.record_extends

lemma classifyAll_extends (c : Comparator) (points : List SampledPoint) :
    c.Extends (c.classifyAll points) :=
  classifyAll_induction (fun _ p h => h.trans (classify_extends _ p)) (.refl c) points

/-- A run adds to what the comparator holds, also when it ends with a fault. -/
lemma run_extends {σ : Type} [PointSource σ] (c : Comparator) (source : σ) :
    c.Extends (c.run source).comparator := by
  rw [(run_spec c source).2]
  exact classifyAll_extends c _

end Comparator
end Concordance
