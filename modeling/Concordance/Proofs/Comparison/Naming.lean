import Concordance.Proofs.Comparison.Simulation
import Concordance.Proofs.Comparison.Survey

/-!
# Other names for the same compositions

A comparison looks at compositions in two ways: it asks whether two of them are equal, and it
writes one down when a key is bound.  So it matters which regions share a composition, and not
what the compositions are called.

`Namer.rename` puts a function over the names that a describer of regions gives.  The function
may send two names to one, and then a mismatch between the two becomes an agreement:
`Verdict.Coarsens` lists what may happen to a verdict.  `Renames` is kept by each point
(`renames_simulation`): the bindings are those of the first comparison under their new names,
and its statistics forgive what was a mismatch of names only.  If no two names are sent to one,
every verdict stays, and with it the statistics as a whole (`renames_injective_simulation`).
-/

namespace Concordance

/-- The same regions and distances under other names. -/
def Namer.rename (f : String → String) (namer : Namer) : Namer :=
  { namer with composition? := fun region => (namer.composition? region).map f }

/-! ## Verdicts -/

namespace Verdict

/-- A verdict under other names. -/
def rename (f : String → String) : Verdict → Verdict
  | firstSeen region composition => firstSeen region (f composition)
  | mismatch region expected found distance => mismatch region (f expected) (f found) distance
  | verdict => verdict

/-- What may become of a verdict under other names: it stays, or two names in conflict have
become one. -/
inductive Coarsens (f : String → String) : Verdict → Verdict → Prop
  | same (verdict : Verdict) : Coarsens f verdict (verdict.rename f)
  | nearSurface (region : RegionId) (distance : Binary64) :
      Coarsens f (.nearSurface region distance) (.agrees region)
  | mismatch (region : RegionId) (expected found : String) (distance : Binary64) :
      Coarsens f (.mismatch region expected found distance) (.agrees region)

lemma outcome_rename (f : String → String) (verdict : Verdict) :
    (verdict.rename f).outcome = verdict.outcome := by
  cases verdict <;> rfl

/-- Names do not count: a verdict under other names is noted as the verdict is. -/
lemma note_rename (f : String → String) (s : Statistics) (p : SampledPoint) (n : Nat)
    (verdict : Verdict) :
    Comparator.note s p n (verdict.rename f) = Comparator.note s p n verdict := by
  cases verdict <;> rfl

end Verdict

/-- How an outcome under coarser names answers the outcome under finer ones. -/
def Outcome.SucceedsMore (outcome outcome' : Outcome) : Prop :=
  outcome' = outcome ∨ outcome ≠ .outside ∧ outcome' = .success

namespace Verdict.Coarsens

variable {f : String → String} {verdict verdict' : Verdict}

lemma outcome (h : Coarsens f verdict verdict') :
    verdict.outcome.SucceedsMore verdict'.outcome := by
  cases h with
  | same => exact .inl (outcome_rename f verdict)
  | nearSurface region distance => exact .inr ⟨Outcome.noConfusion, rfl⟩
  | mismatch region expected found distance => exact .inr ⟨Outcome.noConfusion, rfl⟩

lemma region? (h : Coarsens f verdict verdict') : verdict'.region? = verdict.region? := by
  cases h with
  | same => cases verdict <;> rfl
  | nearSurface region distance => rfl
  | mismatch region expected found distance => rfl

lemma failure? (h : Coarsens f verdict verdict') (p : SampledPoint) (n : Nat) :
    (verdict'.failure? p n).toList.Sublist (verdict.failure? p n).toList := by
  cases h with
  | same => cases verdict <;> exact List.Sublist.refl _
  | nearSurface region distance => exact List.Sublist.refl _
  | mismatch region expected found distance => exact List.nil_sublist _

end Verdict.Coarsens

/-! ## Statistics -/

variable {f : String → String} {s s' : Statistics} {p : SampledPoint} {verdict verdict' : Verdict}

/-- Mismatches have become successes, and all else is the same. -/
structure Statistics.Forgives (s s' : Statistics) : Prop where
  outside : s'.counter .outside = s.counter .outside
  total : s'.total = s.total
  success : s.counter .success ≤ s'.counter .success
  covered : s'.covered = s.covered
  totalRegions : s'.totalRegions = s.totalRegions
  failures : s'.failures.Sublist s.failures

lemma Statistics.Forgives.note (h : Forgives s s') (coarser : verdict.Coarsens f verdict')
    (p : SampledPoint) (n : Nat) :
    Forgives (Comparator.note s p n verdict) (Comparator.note s' p n verdict') where
  outside := by
    rw [Comparator.note_counter, Comparator.note_counter, h.outside]
    rcases coarser.outcome with same | ⟨inside, success⟩
    · rw [same]
    · rw [success, if_neg inside, if_neg Outcome.noConfusion]
  total := by rw [Comparator.note_total, Comparator.note_total, h.total]
  success := by
    rw [Comparator.note_counter, Comparator.note_counter]
    refine Nat.add_le_add h.success ?_
    rcases coarser.outcome with same | ⟨_, success⟩
    · exact Nat.le_of_eq (by rw [same])
    · rw [if_pos success]
      split
      · exact Nat.le_refl _
      · exact Nat.zero_le _
  covered := by
    rw [Comparator.note_covered, Comparator.note_covered, coarser.region?, h.covered]
  totalRegions := by
    rw [Comparator.note_totalRegions, Comparator.note_totalRegions, h.totalRegions]
  failures := by
    rw [Comparator.note_failures, Comparator.note_failures]
    exact h.failures.append (coarser.failure? p n)

/-! ## Comparators -/

namespace Comparator

variable {c c' : Comparator}

/-- A comparison under other names, with what has been counted under them. -/
def renamed (c : Comparator) (f : String → String) (s : Statistics) : Comparator :=
  { c with
    namer := c.namer.rename f
    equivalences := c.equivalences.mapValues f
    statistics := s }

/-- Under other names a point has the verdict under these names, or two names in conflict have
become one. -/
lemma Finds.coarsens (found : c.Finds p verdict) (f : String → String) (s : Statistics) :
    ∃ verdict', verdict.Coarsens f verdict' ∧ (c.renamed f s).Finds p verdict' ∧
      (Function.Injective f → verdict' = verdict.rename f) := by
  have named' : ∀ {composition}, c.namer.composition? (c.regionOf p) = some composition →
      (c.renamed f s).namer.composition? ((c.renamed f s).regionOf p) = some (f composition) :=
    fun named => congrArg (Option.map f) named
  have bound' : ∀ {result}, c.equivalences.get? p.key = result →
      (c.renamed f s).equivalences.get? p.key = result.map f := by
    rintro _ rfl
    exact OrderedMap.get?_mapValues f c.equivalences p.key
  cases found with
  | outside out tallied => exact ⟨_, .same _, .outside out tallied, fun _ => rfl⟩
  | firstSeen inside named unseen =>
      exact ⟨_, .same _, .firstSeen inside (named' named) (bound' unseen), fun _ => rfl⟩
  | agrees inside named bound =>
      exact ⟨_, .same _, .agrees inside (named' named) (bound' bound), fun _ => rfl⟩
  | @nearSurface expected composition inside named bound differs near =>
      by_cases merged : f expected = f composition
      · refine ⟨_, .nearSurface _ _, .agrees inside (named' named) ?_, fun injective =>
          absurd (injective merged) differs⟩
        rw [← merged]
        exact bound' bound
      · exact ⟨_, .same _, .nearSurface inside (named' named) (bound' bound) merged near,
          fun _ => rfl⟩
  | @mismatch expected composition inside named bound differs far =>
      by_cases merged : f expected = f composition
      · refine ⟨_, .mismatch _ _ _ _, .agrees inside (named' named) ?_, fun injective =>
          absurd (injective merged) differs⟩
        rw [← merged]
        exact bound' bound
      · exact ⟨_, .same _, .mismatch inside (named' named) (bound' bound) merged far,
          fun _ => rfl⟩

/-- What is learned under other names is what is learned, under these names. -/
lemma Finds.learn_renamed (found : c.Finds p verdict) (coarser : verdict.Coarsens f verdict')
    (s : Statistics) :
    (c.renamed f s).learn p verdict' = (c.learn p verdict).mapValues f := by
  cases coarser with
  | nearSurface region distance => rfl
  | mismatch region expected found distance => rfl
  | same =>
      cases found with
      | @firstSeen composition inside named unseen =>
          have unseen' : (c.renamed f s).equivalences.get? p.key = none := by
            simp only [renamed, OrderedMap.get?_mapValues, unseen, Option.map_none]
          rw [learn, Equivalences.observe_of_unseen unseen, OrderedMap.mapValues_insert]
          exact Equivalences.observe_of_unseen unseen'
      | _ => rfl

lemma Finds.record_renamed (found : c.Finds p verdict) (coarser : verdict.Coarsens f verdict')
    (s : Statistics) :
    (c.renamed f s).record p verdict'
      = (c.record p verdict).renamed f (note s p c.classified verdict') := by
  rw [record, found.learn_renamed coarser s]
  rfl

lemma judge_renamed {fault : ComparisonFault} (stopped : c.judge p = .error fault)
    (f : String → String) (s : Statistics) : (c.renamed f s).judge p = .error fault :=
  judge_eq_error_of_setting (c := c) rfl rfl (fun _ unnamed => congrArg (Option.map f) unnamed)
    stopped

/-- `c'` is `c` under other names, and in step with it. -/
structure Renames (f : String → String) (c c' : Comparator) : Prop where
  same : c' = c.renamed f c'.statistics
  forgives : c.statistics.Forgives c'.statistics

/-- **A point keeps two ways of naming in step.** -/
theorem renames_simulation (f : String → String) :
    Simulation Outcome.SucceedsMore (Renames f) where
  budget := by
    rintro c c' ⟨same, _⟩
    rw [same]
    rfl
  refuses := by
    rintro c c' p fault ⟨same, _⟩ stopped
    rw [same]
    exact judge_renamed stopped f _
  follows := by
    rintro c c' p verdict ⟨same, forgives⟩ found
    generalize c'.statistics = s at *
    subst same
    obtain ⟨verdict', coarser, found', _⟩ := found.coarsens f s
    refine ⟨verdict', found', coarser.outcome, ?_⟩
    rw [found.record_renamed coarser s]
    exact ⟨rfl, forgives.note coarser p c.classified⟩

/-- **Names that stay apart leave everything as it is.** -/
theorem renames_injective_simulation {f : String → String} (injective : Function.Injective f) :
    Simulation (fun outcome outcome' => outcome' = outcome)
      (fun c c' => c' = c.renamed f c.statistics) where
  budget := by
    rintro c _ rfl
    rfl
  refuses := by
    rintro c _ p fault rfl stopped
    exact judge_renamed stopped f c.statistics
  follows := by
    rintro c _ p verdict rfl found
    obtain ⟨verdict', coarser, found', apart⟩ := found.coarsens f c.statistics
    obtain rfl := apart injective
    refine ⟨_, found', Verdict.outcome_rename f verdict, ?_⟩
    rw [found.record_renamed coarser c.statistics, Verdict.note_rename]
    rfl

end Comparator

/-! ## Whole comparisons -/

section Whole

open Comparator (rooms visit)

/-- **Names do not matter, and coarser ones only help.**  When every name of a region is replaced
by its value under a function, a comparison of one source takes in the same points and ends in the
same way: both without a fault, or with one fault at one point.  The bindings are the old ones with
the function applied; the regions covered, the points outside and the points altogether are the
same.  Point by point, an outcome stays or becomes a success, and the failures that are left are
kept as before, in their order and with their places.  If no two names have one value, all
outcomes and all statistics are the same. -/
theorem runComparison_rename {σ : Type} [PointSource σ] (f : String → String)
    (resolver : Resolver) (namer : Namer) (config : Config) (source : σ) :
    let start := Comparator.initial resolver namer config
    let start' := Comparator.initial resolver (namer.rename f) config
    let run := runComparison resolver namer config source
    let run' := runComparison resolver (namer.rename f) config source
    let s := run.comparator.statistics
    let s' := run'.comparator.statistics
    run'.result = run.result ∧ start'.intakeOf source = start.intakeOf source ∧
      run'.source = run.source ∧ s'.outside = s.outside ∧ s'.total = s.total ∧
      s'.covered = s.covered ∧
      run'.comparator.equivalences = run.comparator.equivalences.mapValues f ∧
      s.success ≤ s'.success ∧ s'.failures.Sublist s.failures ∧
      (∀ front p back, start.intakeOf source = front ++ p :: back →
        ∃ outcome outcome', ((start.classifyAll front).classify p).1 = .ok outcome ∧
          ((start'.classifyAll front).classify p).1 = .ok outcome' ∧
          (outcome' = outcome ∨ outcome ≠ .outside ∧ outcome' = .success)) ∧
      (Function.Injective f → s' = s ∧
        ∀ front p back, start.intakeOf source = front ++ p :: back →
          ((start'.classifyAll front).classify p).1
            = ((start.classifyAll front).classify p).1) := by
  intro start start' run run' s s'
  have fresh : start' = start.renamed f start.statistics := rfl
  have related : Comparator.Renames f start start' :=
    ⟨fresh, rfl, rfl, Nat.le_refl _, rfl, rfl, List.Sublist.refl _⟩
  obtain ⟨result, intake, place, later, outcomes⟩ :=
    (Comparator.renames_simulation f).run related source
  have forgives := later.forgives
  refine ⟨result, intake, place, forgives.outside, forgives.total, forgives.covered,
    congrArg Comparator.equivalences later.same, forgives.success, forgives.failures, outcomes,
    fun injective => ?_⟩
  obtain ⟨_, _, _, same, kept⟩ :=
    (Comparator.renames_injective_simulation injective).run fresh source
  have statistics : (start'.run source).comparator.statistics
      = (start.run source).comparator.statistics := by
    rw [same]
    rfl
  refine ⟨statistics, fun front p back parts => ?_⟩
  obtain ⟨outcome, _, compared, compared', rfl⟩ := kept front p back parts
  rw [compared, compared']

/-- Fuel, and then water under its key at a distance that is no number and at distance zero.  With
one name for everything the key is bound to that name, and all three points are counted; with a
mark in front of every name the binding has the mark, and the outcomes are as before. -/
theorem runComparison_rename_in_rooms :
    let source := MemoryTrace.ofPoints [visit 0, visit 1, visit 2]
    let merged := runComparison rooms.resolver (rooms.namer.rename fun _ => "material")
      ⟨⟨1⟩, none, .abort⟩ source
    let marked := runComparison rooms.resolver (rooms.namer.rename ("zone " ++ ·))
      ⟨⟨1⟩, none, .abort⟩ source
    merged.comparator.equivalences.get? (visit 0).key = some "material" ∧
      merged.comparator.statistics.total = 3 ∧
      marked.comparator.equivalences.get? (visit 0).key = some "zone fuel" ∧
      marked.comparator.statistics.success = 1 ∧ marked.comparator.statistics.ignored = 1 ∧
      marked.comparator.statistics.failures.map (·.sequenceRank) = [1] := by
  intro source merged marked
  have apart : Function.Injective ("zone " ++ ·) := fun _ _ same =>
    (String.append_right_inj _).1 same
  have accepted : (Comparator.initial rooms.resolver rooms.namer ⟨⟨1⟩, none, .abort⟩).Accepts
      [visit 0, visit 1, visit 2] :=
    Comparator.accepts_of (by decide) (by decide)
  have compared : (runComparison rooms.resolver rooms.namer ⟨⟨1⟩, none, .abort⟩ source).comparator
      = (Comparator.initial rooms.resolver rooms.namer ⟨⟨1⟩, none, .abort⟩).classifyAll
        [visit 0, visit 1, visit 2] :=
    (Comparator.run_memoryTrace rfl accepted).2
  obtain ⟨_, _, _, _, total, _, table, _⟩ := runComparison_rename (fun _ => "material")
    rooms.resolver rooms.namer ⟨⟨1⟩, none, .abort⟩ source
  obtain ⟨_, _, _, _, _, _, table', _, _, _, injective⟩ := runComparison_rename ("zone " ++ ·)
    rooms.resolver rooms.namer ⟨⟨1⟩, none, .abort⟩ source
  obtain ⟨statistics, _⟩ := injective apart
  rw [table, total, table', statistics, compared]
  exact ⟨by decide, by decide, by decide, by decide, by decide, by decide⟩

end Whole
end Concordance
