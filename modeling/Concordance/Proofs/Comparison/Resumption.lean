import Concordance.Proofs.Comparison.Plans
import Concordance.Proofs.Comparison.Survey

/-!
# Runs that compose and resume

A run over a trace in memory is the comparison of a list.  `compareAll` goes through the points
of a list in turn and stops at the first one that raises a fault; `run_memoryTrace_eq` says that a
run is that of the points which its plan reaches, and where it leaves the trace.

Lists can be cut, and runs cannot: a run counts its points from zero, and its plan is made anew.
With the equation both questions about consecutive runs are questions about cut lists.

* `compareAll_append_of_ok` and `compareAll_append_of_error` compare a list in two parts.
* `runTimes` is a number of runs over one source, each on what the one before has left;
  `runTimes_memoryTrace` says which points they compare together.
-/

namespace Concordance.Comparator

open PointSource

variable {c : Comparator} {p : SampledPoint} {plan : Option Nat} {taken : Nat}
  {fault : ComparisonFault} {points front back rest : List SampledPoint}

/-! ## Comparing a list -/

/-- A changed result without a fault comes from a result without one. -/
lemma ok_of_map_eq_ok {f : Nat → Nat} {result : Except ComparisonFault Nat} {total : Nat}
    (completed : result.map f = .ok total) : ∃ n, result = .ok n := by
  cases result with
  | error fault => simp [Except.map] at completed
  | ok n => exact ⟨n, rfl⟩

/-- Compares the points of a list in turn, up to the first that raises a fault: the number of
points, or the fault, and the comparator behind them. -/
def compareAll : Comparator → List SampledPoint → Except ComparisonFault Nat × Comparator
  | c, [] => (.ok 0, c)
  | c, p :: rest =>
    match (c.classify p).1 with
    | .error fault => (.error fault, (c.classify p).2)
    | .ok _ =>
      ((compareAll (c.classify p).2 rest).1.map (· + 1), (compareAll (c.classify p).2 rest).2)

lemma compareAll_cons_of_error (stopped : (c.classify p).1 = .error fault)
    (rest : List SampledPoint) :
    c.compareAll (p :: rest) = (.error fault, (c.classify p).2) := by
  simp only [compareAll, stopped]

lemma compareAll_cons_of_ok {outcome : Outcome} (compared : (c.classify p).1 = .ok outcome)
    (rest : List SampledPoint) :
    c.compareAll (p :: rest) = (((c.classify p).2.compareAll rest).1.map (· + 1),
      ((c.classify p).2.compareAll rest).2) := by
  simp only [compareAll, compared]

/-- Points that raise no fault are compared, all of them. -/
lemma compareAll_of_accepts (accepted : c.Accepts points) :
    c.compareAll points = (.ok points.length, c.classifyAll points) := by
  induction points generalizing c with
  | nil => rfl
  | cons p rest ih =>
      obtain ⟨⟨outcome, compared⟩, accepted⟩ := accepted
      rw [compareAll_cons_of_ok compared, ih accepted]
      rfl

/-- A comparison without a fault is one of points that raise none. -/
lemma accepts_of_compareAll (completed : (c.compareAll points).1 = .ok taken) :
    c.Accepts points := by
  induction points generalizing c taken with
  | nil => trivial
  | cons p rest ih =>
      cases compared : (c.classify p).1 with
      | error fault =>
          rw [compareAll_cons_of_error compared] at completed
          simp at completed
      | ok outcome =>
          rw [compareAll_cons_of_ok compared] at completed
          obtain ⟨n, later⟩ := ok_of_map_eq_ok completed
          exact ⟨⟨outcome, compared⟩, ih later⟩

lemma compareAll_eq_ok_iff :
    (c.compareAll points).1 = .ok taken ↔ c.Accepts points ∧ taken = points.length := by
  constructor
  · intro completed
    have accepted := accepts_of_compareAll completed
    rw [compareAll_of_accepts accepted] at completed
    exact ⟨accepted, (Except.ok.inj completed).symm⟩
  · rintro ⟨accepted, rfl⟩
    rw [compareAll_of_accepts accepted]

/-- A fault in the first part of a list is the fault of the list. -/
theorem compareAll_append_of_error (stopped : (c.compareAll front).1 = .error fault)
    (back : List SampledPoint) : c.compareAll (front ++ back) = c.compareAll front := by
  induction front generalizing c fault with
  | nil => simp [compareAll] at stopped
  | cons p rest ih =>
      rw [List.cons_append]
      cases compared : (c.classify p).1 with
      | error fault =>
          rw [compareAll_cons_of_error compared, compareAll_cons_of_error compared]
      | ok outcome =>
          rw [compareAll_cons_of_ok compared] at stopped ⊢
          rw [compareAll_cons_of_ok compared]
          cases later : ((c.classify p).2.compareAll rest).1 with
          | error fault => rw [ih later, later]
          | ok n =>
              rw [later] at stopped
              simp [Except.map] at stopped

/-- Behind a first part without a fault, the comparison of a list is that of the second part, and
the numbers of points add up. -/
theorem compareAll_append_of_ok (completed : (c.compareAll front).1 = .ok taken)
    (back : List SampledPoint) :
    c.compareAll (front ++ back) = (((c.compareAll front).2.compareAll back).1.map (taken + ·),
      ((c.compareAll front).2.compareAll back).2) := by
  obtain ⟨accepted, rfl⟩ := compareAll_eq_ok_iff.1 completed
  rw [compareAll_of_accepts accepted]
  clear completed
  induction front generalizing c with
  | nil =>
      simp only [List.nil_append, List.length_nil, classifyAll_nil, Nat.zero_add]
      cases (c.compareAll back) with
      | mk result c' => cases result <;> rfl
  | cons p rest ih =>
      obtain ⟨⟨outcome, compared⟩, accepted⟩ := accepted
      rw [List.cons_append, compareAll_cons_of_ok compared, ih accepted, classifyAll_cons]
      cases (((c.classify p).2.classifyAll rest).compareAll back).1 with
      | error fault => rfl
      | ok n =>
          simp only [Except.map, List.length_cons]
          rw [Nat.add_right_comm]

/-- Comparing a list leaves the setting as it is. -/
lemma compareAll_config (c : Comparator) (points : List SampledPoint) :
    (c.compareAll points).2.config = c.config := by
  induction points generalizing c with
  | nil => rfl
  | cons p rest ih =>
      cases compared : (c.classify p).1 with
      | error fault =>
          rw [compareAll_cons_of_error compared]
          exact (classify_setting c p).2.2
      | ok outcome =>
          rw [compareAll_cons_of_ok compared]
          exact (ih _).trans (classify_setting c p).2.2

lemma compareAll_withBudget (c : Comparator) (budget : Option Nat) (points : List SampledPoint) :
    (c.withBudget budget).compareAll points
      = ((c.compareAll points).1, (c.compareAll points).2.withBudget budget) := by
  induction points generalizing c with
  | nil => rfl
  | cons p rest ih =>
      cases compared : (c.classify p).1 with
      | error fault =>
          have stopped : ((c.withBudget budget).classify p).1 = .error fault := by
            rw [classify_withBudget, compared]
          rw [compareAll_cons_of_error compared, compareAll_cons_of_error stopped,
            classify_withBudget]
      | ok outcome =>
          have compared' : ((c.withBudget budget).classify p).1 = .ok outcome := by
            rw [classify_withBudget, compared]
          rw [compareAll_cons_of_ok compared, compareAll_cons_of_ok compared',
            classify_withBudget, ih]

/-! ## Runs over a trace in memory -/

/-- The points of a list that a plan reaches when a number of points is taken already. -/
def reach (plan : Option Nat) (taken : Nat) (points : List SampledPoint) : List SampledPoint :=
  match plan with
  | some limit => points.take (limit - taken)
  | none => points

lemma reach_nil (plan : Option Nat) (taken : Nat) : reach plan taken [] = [] := by
  cases plan with
  | none => rfl
  | some limit => exact List.take_nil

lemma reach_of_full (full : ¬ Room plan taken) (points : List SampledPoint) :
    reach plan taken points = [] := by
  cases plan with
  | none => exact absurd (fun limit member => by simp at member) full
  | some limit =>
      have used : limit - taken = 0 := by
        by_contra left
        refine full ?_
        rintro _ ⟨⟩
        omega
      rw [reach, used, List.take_zero]

lemma reach_cons (room : Room plan taken) (p : SampledPoint) (rest : List SampledPoint) :
    reach plan taken (p :: rest) = p :: reach plan (taken + 1) rest := by
  cases plan with
  | none => rfl
  | some limit =>
      have before : taken < limit := room limit rfl
      have left : limit - taken = limit - (taken + 1) + 1 := by omega
      rw [reach, left, List.take_succ_cons, reach]

/-- A loop that starts behind `taken` points comes to what a comparison comes to, and without a
fault it ends on the given trace. -/
structure Amounts (loop : Run MemoryTrace) (taken : Nat)
    (compared : Except ComparisonFault Nat × Comparator) (behind : MemoryTrace) : Prop where
  result : loop.result = compared.1.map (taken + ·)
  comparator : loop.comparator = compared.2
  source : ∀ total, loop.result = .ok total → loop.source = behind

/-- The loop of a run over a trace in memory compares the points that the plan reaches. -/
lemma consume_memoryTrace (plan : Option Nat) (taken : Nat) (log : List Event) (c : Comparator)
    (points : List SampledPoint) (declared : Option Nat) :
    Amounts (consume plan taken log c (⟨points, declared⟩ : MemoryTrace)) taken
      (c.compareAll (reach plan taken points))
      ⟨points.drop (reach plan taken points).length, declared⟩ := by
  induction points generalizing taken log c with
  | nil =>
      have ended : consume plan taken log c (⟨[], declared⟩ : MemoryTrace)
          = ⟨.ok taken, c, ⟨[], declared⟩, log⟩ := by
        by_cases room : Room plan taken
        · exact consume_with_room room
        · exact consume_without_room room
      rw [ended, reach_nil]
      exact ⟨rfl, rfl, fun _ _ => rfl⟩
  | cons p rest ih =>
      by_cases room : Room plan taken
      · rw [consume_with_room room, reach_cons room]
        simp only [PointSource.next]
        cases compared : (c.classify p).1 with
        | error fault =>
            rw [compareAll_cons_of_error compared]
            exact ⟨rfl, rfl, fun total completed => by simp at completed⟩
        | ok outcome =>
            rw [compareAll_cons_of_ok compared]
            obtain ⟨result, comparator, source⟩ :=
              ih (taken + 1) (log ++ c.events p) (c.classify p).2
            refine ⟨result.trans ?_, comparator, source⟩
            cases ((c.classify p).2.compareAll (reach plan (taken + 1) rest)).1 with
            | error fault => rfl
            | ok n =>
                simp only [Except.map]
                rw [Nat.add_right_comm, Nat.add_assoc]
      · rw [consume_without_room room, reach_of_full room]
        exact ⟨rfl, rfl, fun _ _ => rfl⟩

/-- **A run over a trace in memory is the comparison of the points that its plan reaches**, and
without a fault it leaves the points behind them. -/
theorem run_memoryTrace_eq (c : Comparator) (points : List SampledPoint) (declared : Option Nat) :
    let run := c.run (⟨points, declared⟩ : MemoryTrace)
    let reached := reach (c.config.planned declared) 0 points
    run.result = (c.compareAll reached).1 ∧ run.comparator = (c.compareAll reached).2 ∧
      ∀ total, run.result = .ok total → run.source = ⟨points.drop reached.length, declared⟩ := by
  intro run reached
  obtain ⟨log, sameResult, sameComparator, sameSource⟩ :=
    run_eq_consume c (⟨points, declared⟩ : MemoryTrace)
  have loop := consume_memoryTrace (c.config.planned declared) 0 log c points declared
  have fromZero : ∀ result : Except ComparisonFault Nat, result.map (0 + ·) = result := by
    intro result
    cases result with
    | error fault => rfl
    | ok n => exact congrArg Except.ok (Nat.zero_add n)
  refine ⟨?_, sameComparator.trans loop.comparator, fun total completed => ?_⟩
  · exact sameResult.trans (loop.result.trans (fromZero _))
  · exact sameSource.trans (loop.source total (sameResult.symm.trans completed))

/-- Without a budget the plan of a run over a list is the list. -/
lemma run_ofPoints_eq (unlimited : c.config.budget = none) (points : List SampledPoint) :
    (c.run (MemoryTrace.ofPoints points)).result = (c.compareAll points).1 ∧
      (c.run (MemoryTrace.ofPoints points)).comparator = (c.compareAll points).2 := by
  have all : reach (c.config.planned (some points.length)) 0 points = points := by
    simp only [Config.planned, unlimited, reach, Nat.sub_zero, List.take_length]
  obtain ⟨result, comparator, _⟩ := run_memoryTrace_eq c points (some points.length)
  rw [all] at result comparator
  exact ⟨result, comparator⟩

/-- Without a budget a run over a list ends without a fault only behind all of its points. -/
lemma run_ofPoints_eq_ok_iff (unlimited : c.config.budget = none) :
    (c.run (MemoryTrace.ofPoints points)).result = .ok taken ↔
      c.Accepts points ∧ taken = points.length := by
  rw [(run_ofPoints_eq unlimited points).1, compareAll_eq_ok_iff]

/-! ## Runs over one source in turn -/

/-- A number of runs over one source, each with the comparator and on the source that the one
before has left, until one ends with a fault.  The numbers of points add up. -/
def runTimes {σ : Type} [PointSource σ] : Nat → Comparator → σ → Run σ
  | 0, c, source => ⟨.ok 0, c, source, []⟩
  | k + 1, c, source =>
    let first := c.run source
    match first.result with
    | .error _ => first
    | .ok taken =>
      let later := runTimes k first.comparator first.source
      { later with result := later.result.map (taken + ·), log := first.log ++ later.log }

section

variable {σ : Type} [PointSource σ] {source : σ}

lemma runTimes_succ_of_error (stopped : (c.run source).result = .error fault) (k : Nat) :
    c.runTimes (k + 1) source = c.run source := by
  simp only [runTimes, stopped]

lemma runTimes_succ_of_ok (completed : (c.run source).result = .ok taken) (k : Nat) :
    let later := (c.run source).comparator.runTimes k (c.run source).source
    c.runTimes (k + 1) source = { later with
      result := later.result.map (taken + ·)
      log := (c.run source).log ++ later.log } := by
  simp only [runTimes, completed]

end

/-- A run under a budget compares the front of a trace that announces all points that are left, or
more: the announcement binds no sooner than the budget or the end of the points. -/
lemma run_memoryTrace_of_budget {budget declared : Nat} (limited : c.config.budget = some budget)
    (held : points.length ≤ declared) :
    let run := c.run (⟨points, some declared⟩ : MemoryTrace)
    let compared := c.compareAll (points.take budget)
    run.result = compared.1 ∧ run.comparator = compared.2 ∧
      ∀ total, run.result = .ok total → run.source = ⟨points.drop budget, some declared⟩ := by
  have plan : c.config.planned (some declared) = some (min budget declared) := by
    simp only [Config.planned, limited]
  have reached : reach (c.config.planned (some declared)) 0 points = points.take budget := by
    rw [plan, reach, Nat.sub_zero, ← List.take_take, List.take_of_length_le held]
  have behind : points.drop (points.take budget).length = points.drop budget := by simp
  obtain ⟨result, comparator, source⟩ := run_memoryTrace_eq c points (some declared)
  rw [reached] at result comparator source
  rw [behind] at source
  exact ⟨result, comparator, source⟩

/-- **Runs under a budget go on where the one before stopped.**  Together they compare as many
points as they have budgets, one list of points, and leave the points behind them. -/
theorem runTimes_memoryTrace {budget declared : Nat} (limited : c.config.budget = some budget)
    (held : points.length ≤ declared) (k : Nat) :
    let many := c.runTimes k (⟨points, some declared⟩ : MemoryTrace)
    let compared := c.compareAll (points.take (k * budget))
    many.result = compared.1 ∧ many.comparator = compared.2 ∧
      ∀ total, many.result = .ok total →
        many.source = ⟨points.drop (k * budget), some declared⟩ := by
  induction k generalizing c points with
  | zero =>
      rw [Nat.zero_mul, List.take_zero, List.drop_zero]
      exact ⟨rfl, rfl, fun _ _ => rfl⟩
  | succ k ih =>
      have split : points.take ((k + 1) * budget)
          = points.take budget ++ (points.drop budget).take (k * budget) := by
        rw [Nat.succ_mul, Nat.add_comm, List.take_add]
      obtain ⟨result, comparator, source⟩ := run_memoryTrace_of_budget limited held
      intro many compared
      cases first : (c.compareAll (points.take budget)).1 with
      | error fault =>
          rw [first] at result
          have same : compared = c.compareAll (points.take budget) := by
            simp only [compared, split]
            exact compareAll_append_of_error first _
          simp only [many, runTimes_succ_of_error result, same]
          refine ⟨result.trans first.symm, comparator, fun total completed => ?_⟩
          rw [result] at completed
          simp at completed
      | ok taken =>
          rw [first] at result
          have behind : (c.run (⟨points, some declared⟩ : MemoryTrace)).source
              = ⟨points.drop budget, some declared⟩ := source taken result
          have limited' : (c.run (⟨points, some declared⟩ : MemoryTrace)).comparator.config.budget
              = some budget := by
            rw [comparator, compareAll_config, limited]
          have held' : (points.drop budget).length ≤ declared := by
            rw [List.length_drop]
            omega
          obtain ⟨laterResult, laterComparator, laterSource⟩ := ih limited' held'
          have whole := compareAll_append_of_ok first ((points.drop budget).take (k * budget))
          rw [← split] at whole
          simp only [many, compared, runTimes_succ_of_ok result, behind, whole]
          rw [comparator] at laterResult laterComparator laterSource ⊢
          refine ⟨?_, laterComparator, fun total completed => ?_⟩
          · rw [laterResult]
          · obtain ⟨n, later⟩ := ok_of_map_eq_ok completed
            rw [laterSource n later, List.drop_drop, Nat.succ_mul, Nat.add_comm]

/-! ## Composition and resumption -/

/-- **Runs compose and resume.**

* Without a budget, a run over two lists joined is the run over the first list and, if that ends
  without a fault, the run over the second one behind it: the comparator is the same, the numbers
  of points add up, and the fault is that of the run that fails.
* Under a budget, runs over one trace in turn come to what one run without budget over the points
  at the front comes to, as many as the budgets of the runs amount to, and leave the other points:
  none is lost, repeated or numbered anew. -/
theorem runs_compose_and_resume (c : Comparator) :
    (c.config.budget = none → ∀ front back : List SampledPoint,
      let whole := c.run (MemoryTrace.ofPoints (front ++ back))
      let first := c.run (MemoryTrace.ofPoints front)
      let second := first.comparator.run (MemoryTrace.ofPoints back)
      (∀ fault, first.result = .error fault →
        whole.result = .error fault ∧ whole.comparator = first.comparator) ∧
      ∀ taken, first.result = .ok taken →
        whole.result = second.result.map (taken + ·) ∧
          whole.comparator = second.comparator) ∧
    ∀ budget, c.config.budget = some budget → ∀ (points : List SampledPoint) (k : Nat),
      let many := c.runTimes k (MemoryTrace.ofPoints points)
      let once := (c.withBudget none).run
        (MemoryTrace.ofPoints (points.take (min (k * budget) points.length)))
      many.result = once.result ∧ many.comparator = once.comparator.withBudget (some budget) ∧
        ∀ total, many.result = .ok total → total = min (k * budget) points.length ∧
          many.source = ⟨points.drop (k * budget), some points.length⟩ := by
  constructor
  · intro unlimited front back whole first second
    obtain ⟨wholeResult, wholeComparator⟩ := run_ofPoints_eq unlimited (front ++ back)
    obtain ⟨firstResult, firstComparator⟩ := run_ofPoints_eq unlimited front
    constructor
    · intro fault stopped
      have same := compareAll_append_of_error (firstResult.symm.trans stopped) back
      rw [same] at wholeResult wholeComparator
      exact ⟨wholeResult.trans (firstResult.symm.trans stopped),
        wholeComparator.trans firstComparator.symm⟩
    · intro taken completed
      have joined := compareAll_append_of_ok (firstResult.symm.trans completed) back
      have unlimited' : first.comparator.config.budget = none := by
        rw [firstComparator, compareAll_config, unlimited]
      obtain ⟨secondResult, secondComparator⟩ := run_ofPoints_eq unlimited' back
      rw [joined, ← firstComparator] at wholeResult wholeComparator
      refine ⟨wholeResult.trans ?_, wholeComparator.trans secondComparator.symm⟩
      exact congrArg (Except.map (taken + ·)) secondResult.symm
  · intro budget limited points k many once
    have front : once = (c.withBudget none).run
        (MemoryTrace.ofPoints (points.take (k * budget))) := by
      simp only [once, ← List.take_eq_take_min]
    obtain ⟨result, comparator, source⟩ :=
      runTimes_memoryTrace limited (Nat.le_refl points.length) k
    obtain ⟨onceResult, onceComparator⟩ := run_ofPoints_eq (c := c.withBudget none) rfl
      (points.take (k * budget))
    rw [compareAll_withBudget] at onceResult onceComparator
    have kept : (c.compareAll (points.take (k * budget))).2.config.budget = some budget := by
      rw [compareAll_config, limited]
    rw [front, onceResult, onceComparator]
    refine ⟨result, comparator.trans ?_, fun total completed => ⟨?_, source total completed⟩⟩
    · rw [← kept]
      rfl
    · obtain ⟨_, length⟩ := compareAll_eq_ok_iff.1 (result.symm.trans completed)
      rw [length, List.length_take]

/-- A run that fails behind the seam of two lists, at the region without composition, has the
fault and the comparator of the second run.  Two runs under a budget of two points take four of
five, and the failure of the second run is numbered in the whole trace. -/
theorem runs_compose_and_resume_in_rooms :
    (let c := entering .abort
      let first := c.run (MemoryTrace.ofPoints [visit 0, visit 1])
      let whole := c.run (MemoryTrace.ofPoints ([visit 0, visit 1] ++ [visit 3]))
      first.result = .ok 2 ∧ whole.result = .error (.unnamedRegion ⟨2⟩) ∧
        whole.comparator = (first.comparator.run (MemoryTrace.ofPoints [visit 3])).comparator) ∧
    let many := ((entering .tally).withBudget (some 2)).runTimes 2
      (MemoryTrace.ofPoints [visit 0, visit 4, visit 1, visit 2, visit 0])
    many.result = .ok 4 ∧ many.source = ⟨[visit 0], some 5⟩ ∧
      many.comparator.statistics.failures.map (·.sequenceRank) = [2] := by
  constructor
  · intro c first whole
    have accepted : c.Accepts [visit 0, visit 1] := accepts_of (by decide) (by decide)
    obtain ⟨completed, compared⟩ := run_memoryTrace (c := c) rfl accepted
    obtain ⟨_, joined⟩ := (runs_compose_and_resume c).1 rfl [visit 0, visit 1] [visit 3]
    obtain ⟨result, comparator⟩ := joined 2 completed
    have unlimited : (c.classifyAll [visit 0, visit 1]).config.budget = none := by decide
    refine ⟨completed, result.trans ?_, comparator⟩
    rw [compared, (run_ofPoints_eq unlimited [visit 3]).1]
    decide
  · intro many
    let c := (entering .tally).withBudget (some 2)
    have accepted : (c.withBudget none).Accepts [visit 0, visit 4, visit 1, visit 2] :=
      accepts_of (by decide) (by decide)
    obtain ⟨completed, compared⟩ := run_memoryTrace rfl accepted
    obtain ⟨result, comparator, ended⟩ := (runs_compose_and_resume c).2 2 rfl
      [visit 0, visit 4, visit 1, visit 2, visit 0] 2
    have four : many.result = .ok 4 := result.trans completed
    refine ⟨four, (ended 4 four).2, ?_⟩
    have once := comparator.trans (congrArg (withBudget · (some 2)) compared)
    rw [once]
    decide

end Concordance.Comparator
