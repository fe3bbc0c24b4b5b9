import Concordance.Proofs.Comparison.Runs

/-!
# A run reads its plan and nothing beyond

The plan of a run is the smaller of the budget and the number that the source announces, or the
one of them that there is.  What a run takes in depends on the answers that the plan leaves room
for: `TakesIn.congr` carries it over from one source to any other with the same answers there,
whatever the two answer later.  With `run_of_takesIn` this is the whole argument, and no loop is
gone through again.

* `run_source` says on which source a run ends, which counts its calls.
* `run_congr` compares two runs over sources that agree as far as the plan reaches.
* `run_of_exhausted` is a run over a source that ends, with an announcement that is right, too
  small or too large.

Sources end, so a stream that goes on for ever is none.  A `Tape` is such a stream cut somewhere:
it answers a number of calls as the stream does and refuses all others, and it counts the calls.
-/

namespace Concordance

open PointSource

/-! ## Tapes -/

/-- A source given by everything it would answer, which need not end. -/
structure Tape where
  declared : Option Nat
  /-- What is answered to each call, counted from zero. -/
  answers : Nat → Except TraceFault (Option SampledPoint)
  /-- The number of calls so far. -/
  calls : Nat
  /-- The number of calls that are answered. -/
  length : Nat
  /-- What is said to all later calls. -/
  refusal : TraceFault

namespace Tape

instance : PointSource Tape where
  declared := Tape.declared
  next tape :=
    (if tape.calls < tape.length then tape.answers tape.calls else .error tape.refusal,
      { tape with calls := tape.calls + 1 })
  remaining tape := tape.length - tape.calls
  remaining_next {s s' p} h := by
    simp only [Prod.mk.injEq] at h
    obtain ⟨given, rfl⟩ := h
    split at given
    · simp only
      omega
    · simp at given

/-- Every call is counted, refused or not. -/
lemma after_eq (tape : Tape) (n : Nat) :
    after tape n = { tape with calls := tape.calls + n } := by
  induction n generalizing tape with
  | zero => rfl
  | succ n ih =>
      rw [after_succ, ih]
      simp only [PointSource.next, Nat.add_assoc, Nat.add_comm 1 n]

lemma answer_eq {tape : Tape} {n : Nat} (answered : tape.calls + n < tape.length) :
    answer tape n = tape.answers (tape.calls + n) := by
  rw [answer, after_eq]
  exact if_pos answered

end Tape

/-! ## The plan -/

namespace Comparator

variable {σ τ : Type} [PointSource σ] [PointSource τ] {plan : Option Nat} {taken : Nat}
  {c : Comparator} {s : σ} {t : τ} {points : List SampledPoint}
  {result : Except ComparisonFault Nat}

/-- The number of points that a run over a source takes at most. -/
abbrev planOf (c : Comparator) (source : σ) : Option Nat := c.config.planned (declared source)

/-- A plan leaves room as long as the budget and the announcement do. -/
lemma room_planned_iff {config : Config} {announced : Option Nat} {n : Nat} :
    Room (config.planned announced) n ↔
      (∀ budget ∈ config.budget, n < budget) ∧ ∀ count ∈ announced, n < count := by
  obtain ⟨delta, budget, outside⟩ := config
  cases budget with
  | none => cases announced <;> simp [Room, Config.planned]
  | some budget =>
      cases announced with
      | none => simp [Room, Config.planned]
      | some count =>
          simp only [Room, Config.planned, Option.mem_def, Option.some.injEq, forall_eq', Nat.lt_min]

/-! ## The calls -/

lemma source_of_halts (h : Halts plan taken c s result) (log : List Event) :
    (¬ Room plan taken ∧ (consume plan taken log c s).source = s) ∨
      Room plan taken ∧ (consume plan taken log c s).source = (next s).2 := by
  cases h with
  | fulfilled full =>
      rw [consume_without_room full]
      exact .inl ⟨full, rfl⟩
  | exhausted room last =>
      rw [consume_with_room room, last]
      exact .inr ⟨room, rfl⟩
  | unreadable room failed =>
      rw [consume_with_room room, failed]
      exact .inr ⟨room, rfl⟩
  | refused room given stopped =>
      rw [consume_with_room room, given]
      simp only [stopped, and_true]
      exact .inr room

/-- A run that stops leaves nothing in the log: a point that is refused raises no event. -/
lemma log_of_halts (h : Halts plan taken c s result) (log : List Event) :
    (consume plan taken log c s).log = log := by
  cases h with
  | fulfilled full => rw [consume_without_room full]
  | exhausted room last => rw [consume_with_room room, last]
  | unreadable room failed => rw [consume_with_room room, failed]
  | @refused p fault room given stopped =>
      have silent : c.events p = [] := by
        rcases classify_cases c p with ⟨fault, judged, _⟩ | ⟨verdict, _, recorded⟩
        · rw [events, judged]
        · rw [recorded] at stopped
          simp at stopped
      rw [consume_with_room room, given]
      simp only [stopped, silent, List.append_nil]

/-- What stands in the log behind the last point of a run with a result. -/
def closing (c : Comparator) : Except ComparisonFault Nat → List Event
  | .error _ => []
  | .ok taken => [endEvent taken c.statistics]

/-- A run is its loop, with an event before the first point and one behind the last. -/
lemma run_eq (c : Comparator) (s : σ) :
    let loop := consume (c.planOf s) 0 [startEvent (c.planOf s) c.config.delta] c s
    (c.run s).source = loop.source ∧
      (c.run s).log = loop.log ++ loop.comparator.closing loop.result := by
  intro loop
  have unfolded : c.run s = match loop.result with
      | .error _ => loop
      | .ok taken => { loop with log := loop.log ++ [endEvent taken loop.comparator.statistics] } :=
    rfl
  cases ended : loop.result with
  | error fault =>
      simp only [ended] at unfolded
      rw [unfolded]
      exact ⟨rfl, (List.append_nil _).symm⟩
  | ok taken =>
      simp only [ended] at unfolded
      rw [unfolded]
      exact ⟨rfl, rfl⟩

/-- The loop of a run stands, behind the points that are taken in, where it stops. -/
lemma loop_of_takesIn (h : TakesIn (c.planOf s) 0 c s points result) (log : List Event) :
    consume (c.planOf s) 0 log c s = consume (c.planOf s) points.length
      (log ++ c.eventsAll points) (c.classifyAll points) (after s points.length) := by
  rw [consume_yields h.planned h.yielded h.accepted, Nat.zero_add]

/-- **The calls of a run.**  There is one for each point that was compared without a fault, and
one more if the plan left room for it. -/
theorem run_source (h : TakesIn (c.planOf s) 0 c s points result) :
    ∃ calls, (c.run s).source = after s calls ∧
      (calls = points.length ∧ ¬ Room (c.planOf s) points.length ∨
        calls = points.length + 1 ∧ Room (c.planOf s) points.length) := by
  have halts := h.halts
  rw [Nat.zero_add] at halts
  rw [(run_eq c s).1, loop_of_takesIn h]
  rcases source_of_halts halts _ with ⟨full, same⟩ | ⟨room, same⟩
  · exact ⟨points.length, same, .inl ⟨rfl, full⟩⟩
  · exact ⟨points.length + 1, same.trans (after_add s points.length 1).symm, .inr ⟨rfl, room⟩⟩

/-- **Each point is compared before the next call.**  The calls of a run are those that gave the
points it compared without a fault, and one more if the plan left room behind them, which found a
fault or the end.  No call goes beyond the plan. -/
theorem run_calls (c : Comparator) (s : σ) : ∃ points calls,
    TakesIn (c.planOf s) 0 c s points (c.run s).result ∧
    (c.run s).comparator = c.classifyAll points ∧ (c.run s).source = after s calls ∧
    (calls = points.length ∧ ¬ Room (c.planOf s) points.length ∨
      calls = points.length + 1 ∧ Room (c.planOf s) points.length) ∧
    ∀ limit ∈ c.planOf s, calls ≤ limit := by
  obtain ⟨takes, comparator⟩ := run_spec c s
  obtain ⟨calls, source, count⟩ := run_source takes
  refine ⟨_, calls, takes, comparator, source, count, fun limit member => ?_⟩
  have planned := takes.planned limit member
  rcases count with ⟨same, _⟩ | ⟨same, room⟩
  · omega
  · have before := room limit member
    omega

/-! ## Two sources -/

/-- **Only the answers that the plan leaves room for matter.** -/
theorem TakesIn.congr (h : TakesIn plan taken c s points result)
    (agree : ∀ n, Room plan (taken + n) → answer s n = answer t n) :
    TakesIn plan taken c t points result where
  planned := h.planned
  yielded := by
    intro n p found
    have before : n < points.length := (List.getElem?_eq_some_iff.1 found).1
    rw [← agree n, h.yielded n p found]
    intro limit member
    have planned := h.planned limit member
    omega
  accepted := h.accepted
  halts := by
    have same : Room plan (taken + points.length) →
        (next (after s points.length)).1 = (next (after t points.length)).1 :=
      agree points.length
    cases h.halts with
    | fulfilled full => exact .fulfilled full
    | exhausted room last => exact .exhausted room (same room ▸ last)
    | unreadable room failed => exact .unreadable room (same room ▸ failed)
    | refused room given stopped => exact .refused room (same room ▸ given) stopped

/-- What a run takes in decides its log. -/
lemma run_log (h : TakesIn (c.planOf s) 0 c s points result) :
    (c.run s).log = startEvent (c.planOf s) c.config.delta :: c.eventsAll points ++
      (c.classifyAll points).closing result := by
  have halts := h.halts
  rw [Nat.zero_add] at halts
  obtain ⟨ended, comparator⟩ := consume_of_halts halts
    ([startEvent (c.planOf s) c.config.delta] ++ c.eventsAll points)
  rw [(run_eq c s).2, loop_of_takesIn h, log_of_halts halts, ended, comparator,
    List.singleton_append]

/-- **Sources that agree as far as the plan reaches have the same run**: the same result, the same
comparator and the same log. -/
theorem run_congr (plan : c.planOf s = c.planOf t)
    (agree : ∀ n, Room (c.planOf s) n → answer s n = answer t n) :
    (c.run s).result = (c.run t).result ∧ (c.run s).comparator = (c.run t).comparator ∧
      (c.run s).log = (c.run t).log := by
  obtain ⟨takes, comparator⟩ := run_spec c s
  have other : TakesIn (c.planOf t) 0 c t (c.intakeOf s) (c.run s).result := by
    rw [← plan]
    refine TakesIn.congr takes fun n room => ?_
    rw [Nat.zero_add] at room
    exact agree n room
  obtain ⟨result', comparator'⟩ := run_of_takesIn other
  refine ⟨result'.symm, comparator.trans comparator'.symm, ?_⟩
  rw [run_log takes, run_log other, plan]

/-- A stream without end has one run under a plan, wherever behind the plan it is cut, and that
run makes no more calls than are planned. -/
lemma run_tape {tape : Tape} {limit : Nat} (fresh : tape.calls = 0)
    (plan : c.planOf tape = some limit) (reaches : limit ≤ tape.length) :
    (c.run tape).source.calls ≤ limit ∧ ∀ length, limit ≤ length →
      (c.run { tape with length := length }).result = (c.run tape).result ∧
      (c.run { tape with length := length }).comparator = (c.run tape).comparator := by
  constructor
  · obtain ⟨points, calls, _, _, source, _, planned⟩ := run_calls c tape
    have few := planned limit plan
    rw [source, Tape.after_eq]
    simp only
    omega
  · intro length reaches'
    let other : Tape := { tape with length := length }
    have agree : ∀ n, Room (c.planOf tape) n → answer tape n = answer other n := by
      intro n room
      have before := room limit plan
      have here : tape.calls + n < tape.length := by omega
      have there : tape.calls + n < length := by omega
      rw [Tape.answer_eq here, Tape.answer_eq there]
    have samePlan : c.planOf tape = c.planOf other := rfl
    obtain ⟨result, comparator, _⟩ := run_congr samePlan agree
    exact ⟨result.symm, comparator.symm⟩

/-! ## Sources that end -/

/-- A comparator with another budget. -/
def withBudget (c : Comparator) (budget : Option Nat) : Comparator :=
  { c with config := { c.config with budget := budget } }

/-- The budget is nothing that a comparison of one point looks at. -/
lemma classify_withBudget (c : Comparator) (budget : Option Nat) (p : SampledPoint) :
    (c.withBudget budget).classify p
      = ((c.classify p).1, (c.classify p).2.withBudget budget) := by
  have judged : (c.withBudget budget).judge p = c.judge p := rfl
  rw [classify, classify, judged]
  cases c.judge p with
  | error fault => rfl
  | ok verdict => rfl

lemma classifyAll_withBudget (c : Comparator) (budget : Option Nat) (points : List SampledPoint) :
    (c.withBudget budget).classifyAll points = (c.classifyAll points).withBudget budget := by
  induction points generalizing c with
  | nil => rfl
  | cons p rest ih => rw [classifyAll_cons, classify_withBudget, ih, classifyAll_cons]

lemma accepts_withBudget {budget : Option Nat} {points : List SampledPoint} :
    (c.withBudget budget).Accepts points ↔ c.Accepts points := by
  have same : ∀ p, (c.withBudget budget).Admits p ↔ c.Admits p := fun p =>
    ⟨fun ⟨tolerated, named⟩ => ⟨tolerated, named⟩, fun ⟨tolerated, named⟩ => ⟨tolerated, named⟩⟩
  rw [accepts_iff, accepts_iff]
  simp only [same]

/-- The number of points that a run takes from a source that holds `held`: the least of this
number, the budget and the announcement, as far as there are these. -/
def takenOf (config : Config) (announced : Option Nat) (held : Nat) : Nat :=
  (config.budget.toList ++ announced.toList).foldl Nat.min held

lemma takenOf_eq (config : Config) (announced : Option Nat) (held : Nat) :
    takenOf config announced held = match config.planned announced with
      | some limit => Nat.min held limit
      | none => held := by
  obtain ⟨delta, budget, outside⟩ := config
  cases budget with
  | none => cases announced <;> rfl
  | some budget =>
      cases announced with
      | none => rfl
      | some count => exact Nat.min_assoc held budget count

lemma takenOf_le (config : Config) (announced : Option Nat) (held : Nat) :
    takenOf config announced held ≤ held ∧
      ∀ limit ∈ config.planned announced, takenOf config announced held ≤ limit := by
  rw [takenOf_eq]
  cases config.planned announced with
  | none => exact ⟨Nat.le_refl _, fun limit member => by simp at member⟩
  | some limit =>
      refine ⟨Nat.min_le_left held limit, ?_⟩
      rintro limit' ⟨⟩
      exact Nat.min_le_right held limit

/-- If the plan leaves room, it was the source that came to its end. -/
lemma takenOf_of_room {config : Config} {announced : Option Nat} {held : Nat}
    (room : Room (config.planned announced) (takenOf config announced held)) :
    takenOf config announced held = held := by
  rw [takenOf_eq] at room ⊢
  cases plan : config.planned announced with
  | none => rfl
  | some limit =>
      rw [plan] at room
      have before : Nat.min held limit < limit := room limit rfl
      rcases Nat.le_total held limit with ends | beyond
      · exact Nat.min_eq_left ends
      · have full : Nat.min held limit = limit := Nat.min_eq_right beyond
        rw [full] at before
        exact absurd before (Nat.lt_irrefl limit)

/-- A run over a source that ends takes what there is, or fulfils its plan. -/
lemma takesIn_of_exhausted (yielded : Yields s points) (last : answer s points.length = .ok none)
    (accepted : c.Accepts (points.take (takenOf c.config (declared s) points.length))) :
    TakesIn (c.planOf s) 0 c s (points.take (takenOf c.config (declared s) points.length))
      (.ok (takenOf c.config (declared s) points.length)) := by
  obtain ⟨held, planned⟩ := takenOf_le c.config (declared s) points.length
  have length := List.length_take_of_le held
  refine ⟨?_, ?_, accepted, ?_⟩
  · rw [Nat.zero_add, length]
    exact planned
  · intro n p found
    rw [List.getElem?_take] at found
    split at found
    · exact yielded n p found
    · simp at found
  · rw [Nat.zero_add, length]
    by_cases room : Room (c.planOf s) (takenOf c.config (declared s) points.length)
    · refine .exhausted room ?_
      rw [takenOf_of_room room]
      exact last
    · exact .fulfilled room

/-- **A run over a source that ends.**  The announcement may be right, too small or too large:
the run takes the points that are there and planned, and leaves the comparator that a run without
budget over exactly these points leaves. -/
theorem run_of_exhausted (yielded : Yields s points) (last : answer s points.length = .ok none)
    (accepted : c.Accepts (points.take (takenOf c.config (declared s) points.length))) :
    (c.run s).result = .ok (takenOf c.config (declared s) points.length) ∧
      (c.run s).comparator = (((c.withBudget none).run (MemoryTrace.ofPoints
        (points.take (takenOf c.config (declared s) points.length)))).comparator.withBudget
          c.config.budget) := by
  obtain ⟨result, comparator⟩ := run_of_takesIn (takesIn_of_exhausted yielded last accepted)
  obtain ⟨_, unlimited⟩ :=
    run_memoryTrace (c := c.withBudget none) rfl (accepts_withBudget.2 accepted)
  have back : (c.withBudget none).withBudget c.config.budget = c := rfl
  refine ⟨result, ?_⟩
  rw [comparator, unlimited, ← classifyAll_withBudget, back]

/-! ## The plan of a run -/

/-- **A run reads its plan and nothing beyond.**

* The plan leaves room as long as the budget and the announcement do.
* Each point is compared before the next call: the calls are those that gave the points compared
  without a fault and, if the plan left room behind them, one more.  There are never more calls
  than are planned.
* Two sources with one plan, whose answers agree as far as it reaches, have the same result, the
  same comparator and the same log.
* This is so for a stream without end, too, wherever behind the plan it is cut.
* A run over a source that ends takes the least of budget, announcement and number of points, and
  leaves the comparator that a run without budget over exactly these points leaves. -/
theorem run_reads_plan (c : Comparator) :
    (∀ announced n, Room (c.config.planned announced) n ↔
      (∀ budget ∈ c.config.budget, n < budget) ∧ ∀ count ∈ announced, n < count) ∧
    (∀ {σ : Type} [PointSource σ] (s : σ), ∃ points calls,
      TakesIn (c.planOf s) 0 c s points (c.run s).result ∧
      (c.run s).comparator = c.classifyAll points ∧ (c.run s).source = after s calls ∧
      (calls = points.length ∧ ¬ Room (c.planOf s) points.length ∨
        calls = points.length + 1 ∧ Room (c.planOf s) points.length) ∧
      ∀ limit ∈ c.planOf s, calls ≤ limit) ∧
    (∀ {σ τ : Type} [PointSource σ] [PointSource τ] (s : σ) (t : τ), c.planOf s = c.planOf t →
      (∀ n, Room (c.planOf s) n → answer s n = answer t n) →
      (c.run s).result = (c.run t).result ∧ (c.run s).comparator = (c.run t).comparator ∧
        (c.run s).log = (c.run t).log) ∧
    (∀ (tape : Tape) limit, tape.calls = 0 → c.planOf tape = some limit → limit ≤ tape.length →
      (c.run tape).source.calls ≤ limit ∧
      ∀ length, limit ≤ length →
        (c.run { tape with length := length }).result = (c.run tape).result ∧
        (c.run { tape with length := length }).comparator = (c.run tape).comparator) ∧
    ∀ {σ : Type} [PointSource σ] (s : σ) (points : List SampledPoint), Yields s points →
      answer s points.length = .ok none →
      let taken := takenOf c.config (declared s) points.length
      c.Accepts (points.take taken) →
      (c.run s).result = .ok taken ∧
        (c.run s).comparator = ((c.withBudget none).run
          (MemoryTrace.ofPoints (points.take taken))).comparator.withBudget c.config.budget := by
  refine ⟨fun _ _ => room_planned_iff, run_calls c, fun s t => run_congr, ?_,
    fun s points => run_of_exhausted⟩
  intro tape limit fresh plan reaches
  exact run_tape fresh plan reaches

/-- Under a budget of two points, a stream that goes on for ever has the run of a trace with two
points: that everything behind them lies in a region without composition is not noticed. -/
theorem run_reads_plan_endless :
    let c := (entering .abort).withBudget (some 2)
    let stream : Tape :=
      ⟨none, fun n => .ok (some (visit (if n < 2 then 0 else 3))), 0, 1000, .missingHeader⟩
    (c.run stream).result = .ok 2 ∧ (c.run stream).source.calls ≤ 2 ∧
      (c.run stream).comparator = ((entering .abort).run
        (MemoryTrace.ofPoints [visit 0, visit 0])).comparator.withBudget (some 2) := by
  intro c stream
  obtain ⟨_, _, agree, endless, ends⟩ := run_reads_plan c
  have long : 2 ≤ stream.length := Nat.le_of_ble_eq_true rfl
  have few := (endless stream 2 rfl rfl long).1
  have samePlan : c.planOf stream = c.planOf (⟨[visit 0, visit 0], none⟩ : MemoryTrace) := rfl
  have sameAnswers : ∀ n, Room (c.planOf stream) n →
      answer stream n = answer (⟨[visit 0, visit 0], none⟩ : MemoryTrace) n := by
    intro n room
    have before : n < 2 := room 2 rfl
    rw [MemoryTrace.answer_eq]
    match n, before with
    | 0, _ => rfl
    | 1, _ => rfl
  obtain ⟨result, comparator, _⟩ := agree stream _ samePlan sameAnswers
  have admitted : ((entering .abort).withBudget (some 2)).Admits (visit 0) :=
    classify_ok_iff.1 ⟨.success, rfl⟩
  have accepted : c.Accepts [visit 0, visit 0] := by
    rw [accepts_iff]
    intro p member
    obtain rfl : p = visit 0 := by simpa using member
    exact admitted
  obtain ⟨two, same⟩ := ends (⟨[visit 0, visit 0], none⟩ : MemoryTrace) [visit 0, visit 0]
    (MemoryTrace.yields_points _ _) (MemoryTrace.answer_eq _ _ _) accepted
  exact ⟨result.trans two, few, comparator.trans same⟩

end Comparator
end Concordance
