import Concordance.Geometry.Scripted
import Concordance.Proofs.Comparison.Classification
import Concordance.Proofs.Trace.Calls

/-!
# Runs over a source

A run takes points from a source and compares each before it takes the next.  `intake` is the
list of the points that it takes and compares without a fault, `Halts` lists the four ways in
which it stops behind them, and `run_spec` says that this is all: the comparator is that of
comparing the points of the intake, and nothing of a fault is left in it.

The other direction is `consume_yields`: a run over a source whose first points are known, and
raise no fault, goes on as a run that starts behind them.

`rooms` is a small geometry for the cases that go with the general statements, here and in the
modules that import this one.
-/

namespace Concordance.Comparator

open PointSource

variable {σ : Type} [PointSource σ] {plan : Option Nat} {taken : Nat} {log : List Event}
  {c : Comparator} {source : σ} {p : SampledPoint}

/-- What comparing the points of a list leaves in the log. -/
def eventsAll : Comparator → List SampledPoint → List Event
  | _, [] => []
  | c, p :: rest => c.events p ++ eventsAll (c.classify p).2 rest

/-! ## One turn of the loop -/

/-- The plan leaves room for one more point. -/
def Room (plan : Option Nat) (taken : Nat) : Prop := ∀ limit ∈ plan, taken < limit

lemma all_eq_true_iff_room : plan.all (taken < ·) = true ↔ Room plan taken := by
  cases plan with
  | none => simp [Room]
  | some limit => simp [Room]

lemma consume_without_room (full : ¬ Room plan taken) :
    consume plan taken log c source = ⟨.ok taken, c, source, log⟩ := by
  rw [consume, if_neg]
  rwa [all_eq_true_iff_room]

lemma consume_with_room (room : Room plan taken) :
    consume plan taken log c source = match (next source).1 with
      | .error fault => ⟨.error (.trace fault), c, (next source).2, log⟩
      | .ok none => ⟨.ok taken, c, (next source).2, log⟩
      | .ok (some p) => match (c.classify p).1 with
        | .error fault => ⟨.error fault, (c.classify p).2, (next source).2, log ++ c.events p⟩
        | .ok _ =>
          consume plan (taken + 1) (log ++ c.events p) (c.classify p).2 (next source).2 := by
  rw [consume, if_pos (all_eq_true_iff_room.2 room)]
  split
  · rename_i call
    simp only [call]
  · rename_i call
    simp only [call]
  · rename_i call
    simp only [call]
    split
    · rename_i compared
      simp only [compared]
    · rename_i compared
      simp only [compared]

/-! ## From known points on -/

/-- **A run goes on behind points that raise no fault.**  If the first answers of the source are
points that the comparator accepts, and the plan covers them, a run over the source is one that
starts behind them, with all of them compared. -/
theorem consume_yields {points : List SampledPoint} (planned : ∀ limit ∈ plan,
      taken + points.length ≤ limit) (yielded : Yields source points)
    (accepted : c.Accepts points) :
    consume plan taken log c source = consume plan (taken + points.length)
      (log ++ c.eventsAll points) (c.classifyAll points) (after source points.length) := by
  induction points generalizing taken log c source with
  | nil => simp [eventsAll]
  | cons p rest ih =>
      obtain ⟨first, later⟩ := yields_cons.1 yielded
      obtain ⟨⟨outcome, compared⟩, accepted⟩ := accepted
      have room : Room plan taken := by
        intro limit member
        have := planned limit member
        rw [List.length_cons] at this
        omega
      rw [consume_with_room room, first]
      simp only [compared]
      rw [ih _ later accepted, List.append_assoc, eventsAll, classifyAll_cons, List.length_cons,
        after_succ, Nat.add_right_comm, Nat.add_assoc]
      intro limit member
      have := planned limit member
      rw [List.length_cons] at this
      omega

/-! ## From the whole run back -/

/-- The points that a run takes from a source and compares without a fault. -/
def intake (c : Comparator) (plan : Option Nat) (taken : Nat) (source : σ) : List SampledPoint :=
  if plan.all (taken < ·) then
    match h : next source with
    | (.error _, _) => []
    | (.ok none, _) => []
    | (.ok (some p), source') =>
      have := remaining_next h
      match c.classify p with
      | (.error _, _) => []
      | (.ok _, c') => p :: intake c' plan (taken + 1) source'
  else []
termination_by remaining source
decreasing_by assumption

/-- How a run stops that has taken `taken` points and finds the comparator and the source as
they are. -/
inductive Halts (plan : Option Nat) (taken : Nat) (c : Comparator) (source : σ) :
    Except ComparisonFault Nat → Prop
  /-- The plan is fulfilled. -/
  | fulfilled (full : ¬ Room plan taken) : Halts plan taken c source (.ok taken)
  /-- The source has come to its end. -/
  | exhausted (room : Room plan taken) (last : (next source).1 = .ok none) :
      Halts plan taken c source (.ok taken)
  /-- The source fails. -/
  | unreadable {fault : TraceFault} (room : Room plan taken)
      (failed : (next source).1 = .error fault) : Halts plan taken c source (.error (.trace fault))
  /-- The next point raises a fault. -/
  | refused {p : SampledPoint} {fault : ComparisonFault} (room : Room plan taken)
      (given : (next source).1 = .ok (some p)) (stopped : (c.classify p).1 = .error fault) :
      Halts plan taken c source (.error fault)

/-- Where a run stops, it leaves the comparator as it is. -/
lemma consume_of_halts {result : Except ComparisonFault Nat}
    (h : Halts plan taken c source result) (log : List Event) :
    (consume plan taken log c source).result = result ∧
      (consume plan taken log c source).comparator = c := by
  cases h with
  | fulfilled full =>
      rw [consume_without_room full]
      exact ⟨rfl, rfl⟩
  | exhausted room last =>
      rw [consume_with_room room, last]
      exact ⟨rfl, rfl⟩
  | unreadable room failed =>
      rw [consume_with_room room, failed]
      exact ⟨rfl, rfl⟩
  | refused room given stopped =>
      rw [consume_with_room room, given]
      simp only [stopped, true_and]
      exact classify_error stopped

/-- The points of a list are those that a run takes in before it stops with `result`. -/
structure TakesIn (plan : Option Nat) (taken : Nat) (c : Comparator) (source : σ)
    (points : List SampledPoint) (result : Except ComparisonFault Nat) : Prop where
  planned : ∀ limit ∈ plan, taken + points.length ≤ limit
  yielded : Yields source points
  accepted : c.Accepts points
  halts : Halts plan (taken + points.length) (c.classifyAll points)
    (after source points.length) result

lemma takesIn_nil {result : Except ComparisonFault Nat} (planned : ∀ limit ∈ plan, taken ≤ limit)
    (halts : Halts plan taken c source result) : TakesIn plan taken c source [] result where
  planned := planned
  yielded := yields_nil source
  accepted := trivial
  halts := halts

lemma takesIn_cons {source' : σ} {c' : Comparator} {outcome : Outcome}
    {rest : List SampledPoint} {result : Except ComparisonFault Nat}
    (call : next source = (.ok (some p), source')) (compared : c.classify p = (.ok outcome, c'))
    (later : TakesIn plan (taken + 1) c' source' rest result) :
    TakesIn plan taken c source (p :: rest) result := by
  have count : taken + (p :: rest).length = taken + 1 + rest.length := by
    rw [List.length_cons]
    omega
  constructor
  · rw [count]
    exact later.planned
  · rw [yields_cons, call]
    exact ⟨rfl, later.yielded⟩
  · rw [Accepts, compared]
    exact ⟨⟨outcome, rfl⟩, later.accepted⟩
  · rw [count, classifyAll_cons, compared, List.length_cons, after_succ, call]
    exact later.halts

/-- A run stops behind its intake. -/
lemma exists_takesIn_intake (c : Comparator) (source : σ)
    (planned : ∀ limit ∈ plan, taken ≤ limit) :
    ∃ result, TakesIn plan taken c source (intake c plan taken source) result := by
  -- the cases are those of `intake`: three ways to stop in a turn, the turn itself, the full plan
  fun_induction intake c plan taken source with
  | case1 c taken source room fault source' call =>
      have failed : (next source).1 = .error fault := by rw [call]
      exact ⟨_, takesIn_nil planned (.unreadable (all_eq_true_iff_room.1 room) failed)⟩
  | case2 c taken source room source' call =>
      have last : (next source).1 = .ok none := by rw [call]
      exact ⟨_, takesIn_nil planned (.exhausted (all_eq_true_iff_room.1 room) last)⟩
  | case3 c taken source room p source' call _ fault c' compared =>
      have given : (next source).1 = .ok (some p) := by rw [call]
      have stopped : (c.classify p).1 = .error fault := by rw [compared]
      exact ⟨_, takesIn_nil planned (.refused (all_eq_true_iff_room.1 room) given stopped)⟩
  | case4 c taken source room p source' call _ outcome c' compared ih =>
      obtain ⟨result, later⟩ := ih (all_eq_true_iff_room.1 room)
      exact ⟨result, takesIn_cons call compared later⟩
  | case5 c taken source full =>
      rw [all_eq_true_iff_room] at full
      exact ⟨_, takesIn_nil planned (.fulfilled full)⟩

lemma intake_with_room (room : Room plan taken) :
    intake c plan taken source = match (next source).1 with
      | .error _ => []
      | .ok none => []
      | .ok (some p) => match (c.classify p).1 with
        | .error _ => []
        | .ok _ => p :: intake (c.classify p).2 plan (taken + 1) (next source).2 := by
  rw [intake, if_pos (all_eq_true_iff_room.2 room)]
  split
  · rename_i call
    simp only [call]
  · rename_i call
    simp only [call]
  · rename_i call
    simp only [call]
    split
    · rename_i compared
      simp only [compared]
    · rename_i compared
      simp only [compared]

/-- The points that a run takes in before it stops are its intake and no others. -/
lemma TakesIn.intake_eq {points : List SampledPoint} {result : Except ComparisonFault Nat}
    (h : TakesIn plan taken c source points result) : intake c plan taken source = points := by
  obtain ⟨planned, yielded, accepted, halts⟩ := h
  induction points generalizing taken c source with
  | nil =>
      have stops : Halts plan taken c source result := halts
      cases stops with
      | fulfilled full =>
          rw [intake, if_neg]
          rwa [all_eq_true_iff_room]
      | exhausted room last => rw [intake_with_room room, last]
      | unreadable room failed => rw [intake_with_room room, failed]
      | refused room given stopped =>
          rw [intake_with_room room, given]
          simp only [stopped]
  | cons p rest ih =>
      obtain ⟨first, later⟩ := yields_cons.1 yielded
      obtain ⟨⟨outcome, compared⟩, accepted⟩ := accepted
      have count : taken + (p :: rest).length = taken + 1 + rest.length := by
        rw [List.length_cons]
        omega
      rw [count] at planned halts
      have room : Room plan taken := fun limit member => by
        have := planned limit member
        omega
      rw [intake_with_room room, first]
      simp only [compared]
      rw [ih planned later accepted halts]

/-! ## Whole runs -/

/-- The points that a run takes from a source and compares without a fault. -/
abbrev intakeOf (c : Comparator) (source : σ) : List SampledPoint :=
  c.intake (c.config.planned (declared source)) 0 source

lemma run_eq_consume (c : Comparator) (source : σ) : ∃ log,
    (c.run source).result
        = (consume (c.config.planned (declared source)) 0 log c source).result ∧
      (c.run source).comparator
        = (consume (c.config.planned (declared source)) 0 log c source).comparator ∧
      (c.run source).source
        = (consume (c.config.planned (declared source)) 0 log c source).source := by
  -- the two outcomes of a run differ in the log only, which is why it is left open here
  refine ⟨[startEvent (c.config.planned (declared source)) c.config.delta], ?_⟩
  rw [run]
  split
  · exact ⟨rfl, rfl, rfl⟩
  · exact ⟨rfl, rfl, rfl⟩

/-- **What a run takes in decides what it comes to.** -/
theorem run_of_takesIn {points : List SampledPoint} {result : Except ComparisonFault Nat}
    (h : TakesIn (c.config.planned (declared source)) 0 c source points result) :
    (c.run source).result = result ∧ (c.run source).comparator = c.classifyAll points := by
  obtain ⟨log, sameResult, sameComparator, _⟩ := run_eq_consume c source
  rw [sameResult, sameComparator, consume_yields h.planned h.yielded h.accepted]
  exact consume_of_halts h.halts _

/-- **Every run is that of its intake.** -/
theorem run_spec (c : Comparator) (source : σ) :
    TakesIn (c.config.planned (declared source)) 0 c source (c.intakeOf source)
        (c.run source).result ∧
      (c.run source).comparator = c.classifyAll (c.intakeOf source) := by
  have planned : ∀ limit ∈ c.config.planned (declared source), 0 ≤ limit :=
    fun limit _ => Nat.zero_le limit
  obtain ⟨result, h⟩ := exists_takesIn_intake c source planned
  obtain ⟨same, comparator⟩ := run_of_takesIn h
  rw [same]
  exact ⟨h, comparator⟩

/-- Without a budget a run over a trace in memory takes all points, if none raises a fault. -/
theorem run_memoryTrace {points : List SampledPoint} (unlimited : c.config.budget = none)
    (accepted : c.Accepts points) :
    (c.run (MemoryTrace.ofPoints points)).result = .ok points.length ∧
      (c.run (MemoryTrace.ofPoints points)).comparator = c.classifyAll points := by
  have plan : c.config.planned (declared (MemoryTrace.ofPoints points)) = some points.length := by
    simp only [Config.planned, unlimited]
    rfl
  refine run_of_takesIn ⟨?_, MemoryTrace.yields_points _ _, accepted, ?_⟩
  · rw [plan, Nat.zero_add]
    rintro limit ⟨⟩
    exact Nat.le_refl _
  -- the announcement is the plan, so the run stops there without asking for the end
  · rw [plan, Nat.zero_add]
    refine .fulfilled fun room => ?_
    exact Nat.lt_irrefl _ (room points.length rfl)

/-! ## A small geometry -/

/-- A geometry on a line: fuel at 0, water at 1 and 2, a region without composition at 3, and
nothing anywhere else.  The distance at 1 is no number. -/
def rooms : ScriptedGeometry where
  names := (OrderedMap.empty.insert ⟨0⟩ "fuel").insert ⟨1⟩ "water"
  placements := [⟨⟨⟨0⟩, .zero, .zero⟩, ⟨0⟩, .infinity⟩, ⟨⟨⟨1⟩, .zero, .zero⟩, ⟨1⟩, .nan⟩,
    ⟨⟨⟨2⟩, .zero, .zero⟩, ⟨1⟩, .zero⟩, ⟨⟨⟨3⟩, .zero, .zero⟩, ⟨2⟩, .zero⟩]

/-- A point at a place of the line; all of them claim the same material. -/
def visit (place : UInt64) : SampledPoint := ⟨⟨⟨place⟩, .zero, .zero⟩, ⟨1⟩, .zero, 0⟩

/-- A comparison with `rooms` before its first point, with the least positive tolerance. -/
def entering (policy : OutsidePolicy) : Comparator :=
  initial rooms.resolver rooms.namer ⟨⟨1⟩, none, policy⟩

/-! ## Faults -/

/-- A run is stopped by a fault behind the points of a list: the first calls of the source give
them, each is compared without a fault, and the next call fails or gives a point that raises
one. -/
structure FaultsBehind (c : Comparator) (source : σ) (points : List SampledPoint)
    (fault : ComparisonFault) : Prop where
  room : Room (c.config.planned (declared source)) points.length
  yielded : Yields source points
  accepted : c.Accepts points
  stopped :
    (∃ traceFault, answer source points.length = .error traceFault ∧ fault = .trace traceFault) ∨
    ∃ p, answer source points.length = .ok (some p) ∧
      ((c.classifyAll points).classify p).1 = .error fault

lemma takesIn_error_iff {points : List SampledPoint} {fault : ComparisonFault} :
    TakesIn (c.config.planned (declared source)) 0 c source points (.error fault) ↔
      c.FaultsBehind source points fault := by
  constructor
  · rintro ⟨_, yielded, accepted, halts⟩
    rw [Nat.zero_add] at halts
    cases halts with
    | unreadable room failed => exact ⟨room, yielded, accepted, .inl ⟨_, failed, rfl⟩⟩
    | refused room given stopped =>
        exact ⟨room, yielded, accepted, .inr ⟨_, given, stopped⟩⟩
  · rintro ⟨room, yielded, accepted, stopped⟩
    refine ⟨fun limit member => ?_, yielded, accepted, ?_⟩
    · rw [Nat.zero_add]
      exact Nat.le_of_lt (room limit member)
    · rw [Nat.zero_add]
      rcases stopped with ⟨traceFault, failed, rfl⟩ | ⟨p, given, refused⟩
      · exact .unreadable room failed
      · exact .refused room given refused

/-- **Faults leave everything as it was.**  A point that raises a fault changes nothing, and a
run that ends with a fault has compared exactly the points in front of it.  The fault of a run
has one of three origins: the source, a point outside every region, a region without
composition. -/
theorem faults_change_nothing (c : Comparator) :
    (∀ p fault, (c.classify p).1 = .error fault → (c.classify p).2 = c ∧
      (fault = .outsideGeometry p.rank p.position ∨ fault = .unnamedRegion (c.regionOf p))) ∧
    ∀ {σ : Type} [PointSource σ] (source : σ) (fault : ComparisonFault),
      ((c.run source).result = .error fault ↔ ∃ points, c.FaultsBehind source points fault) ∧
      ∀ points, c.FaultsBehind source points fault →
        (c.run source).comparator = c.classifyAll points := by
  refine ⟨fun p fault h => ⟨classify_error h, ?_⟩, fun {σ} _ source fault => ⟨⟨?_, ?_⟩, ?_⟩⟩
  · rcases classify_cases c p with ⟨_, stopped, same⟩ | ⟨_, _, recorded⟩
    · rw [same] at h
      obtain rfl := Except.error.inj h
      rcases judge_eq_error_iff.1 stopped with ⟨_, _, rfl⟩ | ⟨_, _, rfl⟩
      · exact .inl rfl
      · exact .inr rfl
    · rw [recorded] at h
      simp at h
  · intro failed
    obtain ⟨takes, _⟩ := run_spec c source
    rw [failed] at takes
    exact ⟨c.intakeOf source, takesIn_error_iff.1 takes⟩
  · rintro ⟨points, faults⟩
    exact (run_of_takesIn (takesIn_error_iff.2 faults)).1
  · intro points faults
    exact (run_of_takesIn (takesIn_error_iff.2 faults)).2

/-- A run that meets the region without composition at its second point has compared the first
one only. -/
theorem faults_change_nothing_in_rooms :
    let run := (entering .abort).run (MemoryTrace.ofPoints [visit 0, visit 3, visit 0])
    run.result = .error (.unnamedRegion ⟨2⟩) ∧
      run.comparator = (entering .abort).classifyAll [visit 0] := by
  have yielded : Yields (MemoryTrace.ofPoints [visit 0, visit 3, visit 0]) [visit 0] := by
    rw [yields_cons]
    exact ⟨rfl, yields_nil _⟩
  have accepted : (entering .abort).Accepts [visit 0] := ⟨⟨.success, rfl⟩, trivial⟩
  have stopped : (((entering .abort).classifyAll [visit 0]).classify (visit 3)).1
      = .error (.unnamedRegion ⟨2⟩) := rfl
  have faults : (entering .abort).FaultsBehind
      (MemoryTrace.ofPoints [visit 0, visit 3, visit 0]) [visit 0] (.unnamedRegion ⟨2⟩) := by
    refine ⟨?_, yielded, accepted, .inr ⟨visit 3, rfl, stopped⟩⟩
    rintro limit ⟨⟩
    decide
  obtain ⟨failed_iff, compared⟩ := (faults_change_nothing (entering .abort)).2
    (MemoryTrace.ofPoints [visit 0, visit 3, visit 0]) (.unnamedRegion ⟨2⟩)
  exact ⟨failed_iff.2 ⟨_, faults⟩, compared _ faults⟩

end Concordance.Comparator
