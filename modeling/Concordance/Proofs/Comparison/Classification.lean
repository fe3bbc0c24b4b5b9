import Concordance.Comparison.Comparator
import Concordance.Proofs.OrderedMap

/-!
# What comparing a point can do

`judge` branches on the region of a point, on the policy, on the composition and on what has
been learned.  `Finds` lists the five ways in which it comes to a verdict, each with all that it
has checked, and `judge_eq_ok_iff` says that these are all ways and that each of them is taken.
Whatever is said about `classify` afterwards is read off `Finds`; nothing unfolds `judge` again.

* `judge_eq_ok_iff` and `judge_eq_error_iff` characterise the first half of a comparison.
* `classify_cases` joins both halves: a fault changes nothing, a verdict is recorded.
* `classifyAll` compares the points of a list one after the other, and `Accepts` says that no
  fault arises on the way.
-/

namespace Concordance

/-! ## Observations -/

namespace Equivalences

variable {map : Equivalences} {key : EquivalenceKey} {composition : String}

lemma sighting_of_unseen (h : map.get? key = none) : map.sighting key composition = .bound := by
  rw [sighting, h]

lemma sighting_of_same (h : map.get? key = some composition) :
    map.sighting key composition = .agrees := by
  rw [sighting, h]
  exact if_pos rfl

lemma sighting_of_other {expected : String} (h : map.get? key = some expected)
    (differs : expected ≠ composition) :
    map.sighting key composition = .conflicts expected := by
  rw [sighting, h]
  exact if_neg differs

/-- The first observation of a key binds it. -/
lemma observe_of_unseen (h : map.get? key = none) :
    (map.observe key composition).2 = map.insert key composition := by
  rw [observe, OrderedMap.contains_eq_isSome, h]
  rfl

end Equivalences

namespace Comparator

/-! ## Verdicts -/

/-- The region that the resolver gives for a point; below zero outside every region. -/
abbrev regionOf (c : Comparator) (p : SampledPoint) : RegionId := c.resolver.regionAt p.position

/-- The distance from a point to the surface of its region. -/
abbrev distanceOf (c : Comparator) (p : SampledPoint) : Binary64 :=
  c.namer.surfaceDistance p.position (c.regionOf p)

/-- The verdicts that a comparison can come to for a point, each with what it rests on. -/
inductive Finds (c : Comparator) (p : SampledPoint) : Verdict → Prop
  | outside (out : (c.regionOf p).isOutside = true) (tallied : c.config.outside = .tally) :
      Finds c p .outside
  | firstSeen {composition : String} (inside : (c.regionOf p).isOutside = false)
      (named : c.namer.composition? (c.regionOf p) = some composition)
      (unseen : c.equivalences.get? p.key = none) :
      Finds c p (.firstSeen (c.regionOf p) composition)
  | agrees {composition : String} (inside : (c.regionOf p).isOutside = false)
      (named : c.namer.composition? (c.regionOf p) = some composition)
      (bound : c.equivalences.get? p.key = some composition) :
      Finds c p (.agrees (c.regionOf p))
  | nearSurface {expected composition : String} (inside : (c.regionOf p).isOutside = false)
      (named : c.namer.composition? (c.regionOf p) = some composition)
      (bound : c.equivalences.get? p.key = some expected) (differs : expected ≠ composition)
      (near : (c.distanceOf p).lt c.config.delta = true) :
      Finds c p (.nearSurface (c.regionOf p) (c.distanceOf p))
  | mismatch {expected composition : String} (inside : (c.regionOf p).isOutside = false)
      (named : c.namer.composition? (c.regionOf p) = some composition)
      (bound : c.equivalences.get? p.key = some expected) (differs : expected ≠ composition)
      (far : (c.distanceOf p).lt c.config.delta = false) :
      Finds c p (.mismatch (c.regionOf p) expected composition (c.distanceOf p))

variable {c : Comparator} {p : SampledPoint} {verdict : Verdict} {fault : ComparisonFault}

/-- The verdict on a point with a composition is one that `Finds` lists. -/
lemma finds_judgeIn {composition : String} (inside : (c.regionOf p).isOutside = false)
    (named : c.namer.composition? (c.regionOf p) = some composition) :
    c.Finds p (c.judgeIn p (c.regionOf p) composition) := by
  cases bound : c.equivalences.get? p.key with
  | none =>
      rw [judgeIn, Equivalences.sighting_of_unseen bound]
      exact .firstSeen inside named bound
  | some expected =>
      by_cases same : expected = composition
      · subst same
        rw [judgeIn, Equivalences.sighting_of_same bound]
        exact .agrees inside named bound
      · rw [judgeIn, Equivalences.sighting_of_other bound same]
        cases distance : (c.distanceOf p).lt c.config.delta with
        | true =>
            simp only [distance, if_true]
            exact .nearSurface inside named bound same distance
        | false =>
            simp only [distance, Bool.false_eq_true, if_false]
            exact .mismatch inside named bound same distance

lemma judge_outside (out : (c.regionOf p).isOutside = true) :
    c.judge p = match c.config.outside with
      | .abort => .error (.outsideGeometry p.rank p.position)
      | .tally => .ok .outside :=
  if_pos out

lemma judge_inside (inside : (c.regionOf p).isOutside = false) :
    c.judge p = match c.namer.composition? (c.regionOf p) with
      | none => .error (.unnamedRegion (c.regionOf p))
      | some composition => .ok (c.judgeIn p (c.regionOf p) composition) := by
  have not_outside : ¬ (c.regionOf p).isOutside = true := by
    rw [inside]
    exact Bool.false_ne_true
  exact if_neg not_outside

/-- **What a verdict rests on.**  A comparison comes to a verdict exactly when all that the
verdict says has been found. -/
theorem judge_eq_ok_iff : c.judge p = .ok verdict ↔ c.Finds p verdict := by
  constructor
  · intro h
    cases out : (c.regionOf p).isOutside with
    | true =>
        rw [judge_outside out] at h
        cases policy : c.config.outside with
        | abort => simp [policy] at h
        | tally =>
            simp only [policy, Except.ok.injEq] at h
            subst h
            exact .outside out policy
    | false =>
        rw [judge_inside out] at h
        cases named : c.namer.composition? (c.regionOf p) with
        | none => simp [named] at h
        | some composition =>
            simp only [named, Except.ok.injEq] at h
            subst h
            exact finds_judgeIn out named
  · intro h
    cases h with
    | outside out tallied => rw [judge_outside out, tallied]
    | firstSeen inside named unseen =>
        rw [judge_inside inside, named]
        simp only [judgeIn, Equivalences.sighting_of_unseen unseen]
    | agrees inside named bound =>
        rw [judge_inside inside, named]
        simp only [judgeIn, Equivalences.sighting_of_same bound]
    | nearSurface inside named bound differs near =>
        rw [judge_inside inside, named]
        simp only [judgeIn, Equivalences.sighting_of_other bound differs, near, if_true]
    | mismatch inside named bound differs far =>
        rw [judge_inside inside, named]
        simp only [judgeIn, Equivalences.sighting_of_other bound differs, far,
          Bool.false_eq_true, if_false]

/-- **What stops a comparison.**  There are two faults, and neither depends on what has been
learned or counted. -/
theorem judge_eq_error_iff : c.judge p = .error fault ↔
    ((c.regionOf p).isOutside = true ∧ c.config.outside = .abort ∧
      fault = .outsideGeometry p.rank p.position) ∨
    ((c.regionOf p).isOutside = false ∧ c.namer.composition? (c.regionOf p) = none ∧
      fault = .unnamedRegion (c.regionOf p)) := by
  cases out : (c.regionOf p).isOutside with
  | true =>
      rw [judge_outside out]
      cases c.config.outside with
      | abort => simp [eq_comm]
      | tally => simp
  | false =>
      rw [judge_inside out]
      cases c.namer.composition? (c.regionOf p) with
      | none => simp [eq_comm]
      | some composition => simp

/-! ## One point -/

lemma classify_of_fault (h : c.judge p = .error fault) : c.classify p = (.error fault, c) := by
  rw [classify, h]

lemma classify_of_finds (h : c.Finds p verdict) :
    c.classify p = (.ok verdict.outcome, c.record p verdict) := by
  rw [classify, judge_eq_ok_iff.2 h]

/-- **One comparison.**  Either it ends with a fault, and everything is as it was, or it comes to
a verdict, which is recorded. -/
theorem classify_cases (c : Comparator) (p : SampledPoint) :
    (∃ fault, c.judge p = .error fault ∧ c.classify p = (.error fault, c)) ∨
      ∃ verdict, c.Finds p verdict ∧
        c.classify p = (.ok verdict.outcome, c.record p verdict) := by
  cases h : c.judge p with
  | error fault => exact .inl ⟨fault, rfl, classify_of_fault h⟩
  | ok verdict =>
      have found := judge_eq_ok_iff.1 h
      exact .inr ⟨verdict, found, classify_of_finds found⟩

lemma exists_finds (h : ∃ outcome, (c.classify p).1 = .ok outcome) :
    ∃ verdict, c.Finds p verdict ∧
      c.classify p = (.ok verdict.outcome, c.record p verdict) := by
  rcases classify_cases c p with ⟨_, _, same⟩ | recorded
  · obtain ⟨outcome, h⟩ := h
    rw [same] at h
    simp at h
  · exact recorded

/-- A fault leaves no trace. -/
lemma classify_error (h : (c.classify p).1 = .error fault) : (c.classify p).2 = c := by
  rcases classify_cases c p with ⟨_, _, same⟩ | ⟨_, _, recorded⟩
  · rw [same]
  · rw [recorded] at h
    simp at h

/-- What a comparison asks, and whom, never changes. -/
lemma classify_setting (c : Comparator) (p : SampledPoint) :
    (c.classify p).2.resolver = c.resolver ∧ (c.classify p).2.namer = c.namer ∧
      (c.classify p).2.config = c.config := by
  rcases classify_cases c p with ⟨_, _, same⟩ | ⟨_, _, recorded⟩
  · rw [same]
    exact ⟨rfl, rfl, rfl⟩
  · rw [recorded]
    exact ⟨rfl, rfl, rfl⟩

/-- A point that raises no fault: outside every region only if that is tolerated, and inside
only a region with a composition. -/
structure Admits (c : Comparator) (p : SampledPoint) : Prop where
  tolerated : (c.regionOf p).isOutside = true → c.config.outside = .tally
  named : (c.regionOf p).isOutside = false →
    ∃ composition, c.namer.composition? (c.regionOf p) = some composition

/-- A verdict tells of a tolerated point outside, or of the region of the point and of nothing
else. -/
lemma Finds.outside_or_inside (found : c.Finds p verdict) :
    ((c.regionOf p).isOutside = true ∧ c.config.outside = .tally ∧ verdict = .outside) ∨
      ((c.regionOf p).isOutside = false ∧
        (∃ composition, c.namer.composition? (c.regionOf p) = some composition) ∧
        verdict.region? = some (c.regionOf p)) := by
  cases found with
  | outside out tallied => exact .inl ⟨out, tallied, rfl⟩
  | firstSeen inside named _ => exact .inr ⟨inside, ⟨_, named⟩, rfl⟩
  | agrees inside named _ => exact .inr ⟨inside, ⟨_, named⟩, rfl⟩
  | nearSurface inside named _ _ _ => exact .inr ⟨inside, ⟨_, named⟩, rfl⟩
  | mismatch inside named _ _ _ => exact .inr ⟨inside, ⟨_, named⟩, rfl⟩

lemma Finds.admits (found : c.Finds p verdict) : c.Admits p := by
  rcases found.outside_or_inside with ⟨out, tallied, _⟩ | ⟨inside, named, _⟩
  · refine ⟨fun _ => tallied, fun inside => ?_⟩
    rw [out] at inside
    exact absurd inside.symm Bool.false_ne_true
  · refine ⟨fun out => ?_, fun _ => named⟩
    rw [inside] at out
    exact absurd out Bool.false_ne_true

theorem classify_ok_iff : (∃ outcome, (c.classify p).1 = .ok outcome) ↔ c.Admits p := by
  rcases classify_cases c p with ⟨fault, stopped, same⟩ | ⟨verdict, found, recorded⟩
  · rw [same]
    constructor
    · rintro ⟨outcome, h⟩
      simp at h
    · rintro ⟨tolerated, named⟩
      rcases judge_eq_error_iff.1 stopped with ⟨out, policy, _⟩ | ⟨inside, unnamed, _⟩
      · rw [tolerated out] at policy
        exact OutsidePolicy.noConfusion policy
      · obtain ⟨composition, h⟩ := named inside
        simp [h] at unnamed
  · rw [recorded]
    exact ⟨fun _ => found.admits, fun _ => ⟨_, rfl⟩⟩

/-! ## A list of points -/

/-- The comparator after it has been given the points of a list in turn. -/
def classifyAll (c : Comparator) (points : List SampledPoint) : Comparator :=
  points.foldl (fun c p => (c.classify p).2) c

/-- No point of a list raises a fault when it is its turn. -/
def Accepts : Comparator → List SampledPoint → Prop
  | _, [] => True
  | c, p :: rest => (∃ outcome, (c.classify p).1 = .ok outcome) ∧ Accepts (c.classify p).2 rest

@[simp] lemma classifyAll_nil (c : Comparator) : c.classifyAll [] = c := rfl

@[simp] lemma classifyAll_cons (c : Comparator) (p : SampledPoint) (rest : List SampledPoint) :
    c.classifyAll (p :: rest) = (c.classify p).2.classifyAll rest := rfl

/-- A list whose first point has a verdict goes on behind the record of it. -/
lemma Finds.classifyAll_cons (found : c.Finds p verdict) (rest : List SampledPoint) :
    c.classifyAll (p :: rest) = (c.record p verdict).classifyAll rest := by
  rw [Comparator.classifyAll_cons, classify_of_finds found]

lemma accepts_cons {rest : List SampledPoint} : c.Accepts (p :: rest) ↔
    ∃ verdict, c.Finds p verdict ∧ (c.record p verdict).Accepts rest := by
  constructor
  · rintro ⟨compared, accepted⟩
    obtain ⟨verdict, found, recorded⟩ := exists_finds compared
    rw [recorded] at accepted
    exact ⟨verdict, found, accepted⟩
  · rintro ⟨verdict, found, accepted⟩
    rw [Accepts, classify_of_finds found]
    exact ⟨⟨verdict.outcome, rfl⟩, accepted⟩

lemma classifyAll_append (c : Comparator) (front back : List SampledPoint) :
    c.classifyAll (front ++ back) = (c.classifyAll front).classifyAll back :=
  List.foldl_append

lemma accepts_append {c : Comparator} {front back : List SampledPoint} :
    c.Accepts (front ++ back) ↔ c.Accepts front ∧ (c.classifyAll front).Accepts back := by
  induction front generalizing c with
  | nil => simp [Accepts]
  | cons p rest ih =>
      rw [List.cons_append, Accepts, Accepts, ih, classifyAll_cons, and_assoc]

/-- What holds of a comparator and survives each comparison holds after any list of points. -/
lemma classifyAll_induction {motive : Comparator → Prop}
    (step : ∀ c p, motive c → motive (c.classify p).2) {c : Comparator} (start : motive c)
    (points : List SampledPoint) : motive (c.classifyAll points) := by
  induction points generalizing c with
  | nil => exact start
  | cons p rest ih => exact ih (step c p start)

/-- Which points raise a fault does not depend on the points before them. -/
theorem accepts_iff {c : Comparator} {points : List SampledPoint} :
    c.Accepts points ↔ ∀ p ∈ points, c.Admits p := by
  induction points generalizing c with
  | nil => simp [Accepts]
  | cons p rest ih =>
      obtain ⟨resolver, namer, config⟩ := classify_setting c p
      have unchanged : ∀ q, (c.classify p).2.Admits q ↔ c.Admits q := by
        intro q
        constructor
        · rintro ⟨tolerated, named⟩
          simp only [regionOf, resolver, namer, config] at tolerated named
          exact ⟨tolerated, named⟩
        · rintro ⟨tolerated, named⟩
          exact ⟨by simpa only [regionOf, resolver, config] using tolerated,
            by simpa only [regionOf, resolver, namer] using named⟩
      rw [Accepts, ih, classify_ok_iff, List.forall_mem_cons]
      simp only [unchanged]

end Comparator
end Concordance
