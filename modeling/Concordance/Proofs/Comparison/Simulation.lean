import Concordance.Proofs.Comparison.Plans
import Concordance.Proofs.Comparison.Recording

/-!
# Two comparisons of one source

Two comparators that differ in their tolerance, or in the names that they are told, go through
one source point by point with different verdicts.  A `Simulation` is a relation between such
comparators that one point keeps: the second raises a fault where the first does, and answers
each outcome of the first by one that belongs to it.

What one point keeps a whole run keeps (`Simulation.run`): the two runs take in the same points,
end in the same way and on the same place of the source, and leave related comparators.  The
faults need no thought in the relations of this theory, because they depend on nothing that has
been learned (`judge_eq_error_of_setting`).
-/

namespace Concordance.Comparator

open PointSource

variable {σ : Type} [PointSource σ] {source : σ} {plan : Option Nat} {taken : Nat}
  {c c' : Comparator} {p : SampledPoint} {points : List SampledPoint}
  {result : Except ComparisonFault Nat}

/-- Where the same regions are found, and have a composition or have none, the same faults arise
from a point. -/
lemma judge_eq_error_of_setting {fault : ComparisonFault} (resolver : c'.resolver = c.resolver)
    (policy : c'.config.outside = c.config.outside)
    (unnamed : ∀ region, c.namer.composition? region = none →
      c'.namer.composition? region = none)
    (stopped : c.judge p = .error fault) : c'.judge p = .error fault := by
  rw [judge_eq_error_iff] at stopped ⊢
  rw [regionOf, resolver, policy]
  rcases stopped with ⟨out, abort, same⟩ | ⟨inside, missing, same⟩
  · exact .inl ⟨out, abort, same⟩
  · exact .inr ⟨inside, unnamed _ missing, same⟩

/-! ## One point -/

/-- A relation between comparators that comparing a point keeps.  `Answers` says which outcomes of
the second comparator belong to an outcome of the first. -/
structure Simulation (Answers : Outcome → Outcome → Prop)
    (Related : Comparator → Comparator → Prop) : Prop where
  budget : ∀ {c c'}, Related c c' → c'.config.budget = c.config.budget
  refuses : ∀ {c c' p fault}, Related c c' → c.judge p = .error fault → c'.judge p = .error fault
  follows : ∀ {c c' p verdict}, Related c c' → c.Finds p verdict →
    ∃ verdict', c'.Finds p verdict' ∧ Answers verdict.outcome verdict'.outcome ∧
      Related (c.record p verdict) (c'.record p verdict')

namespace Simulation

variable {Answers : Outcome → Outcome → Prop} {Related : Comparator → Comparator → Prop}

/-- A point either raises one fault from both comparators, or gives each a verdict. -/
lemma classify (simulates : Simulation Answers Related) (related : Related c c')
    (p : SampledPoint) :
    Related (c.classify p).2 (c'.classify p).2 ∧
      ((∃ fault, (c.classify p).1 = .error fault ∧ (c'.classify p).1 = .error fault) ∨
        ∃ outcome outcome', (c.classify p).1 = .ok outcome ∧ (c'.classify p).1 = .ok outcome' ∧
          Answers outcome outcome') := by
  rcases classify_cases c p with ⟨fault, stopped, same⟩ | ⟨verdict, found, recorded⟩
  · rw [same, classify_of_fault (simulates.refuses related stopped)]
    exact ⟨related, .inl ⟨fault, rfl, rfl⟩⟩
  · obtain ⟨verdict', found', answers, later⟩ := simulates.follows related found
    rw [recorded, classify_of_finds found']
    exact ⟨later, .inr ⟨_, _, rfl, rfl, answers⟩⟩

lemma classify_error (simulates : Simulation Answers Related) (related : Related c c')
    {fault : ComparisonFault} (stopped : (c.classify p).1 = .error fault) :
    (c'.classify p).1 = .error fault := by
  rcases (simulates.classify related p).2 with ⟨_, same, same'⟩ | ⟨_, _, compared, _⟩
  · rw [stopped] at same
    rw [same', same]
  · rw [stopped] at compared
    simp at compared

lemma classify_ok (simulates : Simulation Answers Related) (related : Related c c')
    {outcome : Outcome} (compared : (c.classify p).1 = .ok outcome) :
    ∃ outcome', (c'.classify p).1 = .ok outcome' ∧ Answers outcome outcome' := by
  rcases (simulates.classify related p).2 with ⟨_, stopped, _⟩ | ⟨_, outcome', same, other, answers⟩
  · rw [stopped] at compared
    simp at compared
  · rw [same] at compared
    obtain rfl := Except.ok.inj compared
    exact ⟨outcome', other, answers⟩

/-! ## A list of points -/

lemma classifyAll (simulates : Simulation Answers Related) (related : Related c c')
    (points : List SampledPoint) :
    Related (c.classifyAll points) (c'.classifyAll points) := by
  induction points generalizing c c' with
  | nil => exact related
  | cons p rest ih => exact ih (simulates.classify related p).1

lemma accepts (simulates : Simulation Answers Related) (related : Related c c')
    (accepted : c.Accepts points) : c'.Accepts points := by
  induction points generalizing c c' with
  | nil => trivial
  | cons p rest ih =>
      obtain ⟨⟨outcome, compared⟩, accepted⟩ := accepted
      obtain ⟨outcome', compared', _⟩ := simulates.classify_ok related compared
      exact ⟨⟨outcome', compared'⟩, ih (simulates.classify related p).1 accepted⟩

/-! ## A source -/

/-- What the first comparator takes in the second one takes in, and it stops there for the same
reason. -/
lemma takesIn (simulates : Simulation Answers Related) (related : Related c c')
    (h : TakesIn plan taken c source points result) :
    TakesIn plan taken c' source points result where
  planned := h.planned
  yielded := h.yielded
  accepted := simulates.accepts related h.accepted
  halts := by
    cases h.halts with
    | fulfilled full => exact .fulfilled full
    | exhausted room last => exact .exhausted room last
    | unreadable room failed => exact .unreadable room failed
    | refused room given stopped =>
        have behind := simulates.classifyAll related points
        exact .refused room given (simulates.classify_error behind stopped)

/-- **What a point keeps a run keeps.**  The two runs take in the same points, end with the same
result on the same place of the source, and leave related comparators; and each point that they
take in has outcomes that belong to each other. -/
theorem run (simulates : Simulation Answers Related) (related : Related c c') (source : σ) :
    (c'.run source).result = (c.run source).result ∧
      c'.intakeOf source = c.intakeOf source ∧
      (c'.run source).source = (c.run source).source ∧
      Related (c.run source).comparator (c'.run source).comparator ∧
      ∀ front p back, c.intakeOf source = front ++ p :: back →
        ∃ outcome outcome', ((c.classifyAll front).classify p).1 = .ok outcome ∧
          ((c'.classifyAll front).classify p).1 = .ok outcome' ∧ Answers outcome outcome' := by
  obtain ⟨takes, comparator⟩ := run_spec c source
  have plan : c'.config.planned (declared source) = c.config.planned (declared source) := by
    simp only [Config.planned, simulates.budget related]
  have takes' := simulates.takesIn related takes
  rw [← plan] at takes'
  obtain ⟨result', comparator'⟩ := run_of_takesIn takes'
  refine ⟨result', takes'.intake_eq, ?_, ?_, fun front p back parts => ?_⟩
  -- both runs make one call for each point, and one more if the common plan leaves room for it
  · obtain ⟨calls, here, count⟩ := run_source takes
    obtain ⟨calls', here', count'⟩ := run_source takes'
    rw [planOf, plan] at count'
    have same : calls' = calls := by
      rcases count with ⟨exact, full⟩ | ⟨more, room⟩
      · rcases count' with ⟨exact', _⟩ | ⟨_, room⟩
        · rw [exact, exact']
        · exact absurd room full
      · rcases count' with ⟨_, full⟩ | ⟨more', _⟩
        · exact absurd room full
        · rw [more, more']
    rw [here, here', same]
  · rw [comparator, comparator']
    exact simulates.classifyAll related _
  · have accepted := takes.accepted
    rw [parts, accepts_append] at accepted
    obtain ⟨_, ⟨outcome, compared⟩, _⟩ := accepted
    obtain ⟨outcome', compared', answers⟩ :=
      simulates.classify_ok (simulates.classifyAll related front) compared
    exact ⟨outcome, outcome', compared, compared', answers⟩

end Simulation
end Concordance.Comparator
