import Concordance.Files.Path
import Concordance.Proofs.Text.Fields
import Mathlib.Data.List.Basic
import Mathlib.Data.List.Induction
import Mathlib.Data.List.TakeWhile

/-!
# The step at the end of a path

What a path ends in can be read off its text: behind the last step there are only slashes and
points that mean nothing, and before it there is nothing or a slash.

* `EndsIn` says so for each kind of step, without cutting the path into steps.
* `getLast?_components_eq_some_iff` finds exactly these steps at the end of `components`.
* `components_join` says that a name taken from a directory is one step more.
* `stem_eq_iff` says which part of a name its stem is.
-/

namespace Concordance.Path

open Text

/-- A piece of a path that is a name. -/
structure IsName (name : List Char) : Prop where
  nonempty : name ≠ []
  not_current : name ≠ ['.']
  not_parent : name ≠ ['.', '.']
  whole : '/' ∉ name

/-- What may stand behind the last step of a path: slashes, and points each behind a slash. -/
inductive IsTrailer : List Char → Prop
  | nil : IsTrailer []
  | slash {rest : List Char} (later : IsTrailer rest) : IsTrailer ('/' :: rest)
  | point {rest : List Char} (later : IsTrailer rest) : IsTrailer ('/' :: '.' :: rest)

/-- What may stand before the last step of a path. -/
def IsFront (front : List Char) : Prop := ∀ c ∈ front.getLast?, c = '/'

/-- The last step of a path, whose text is not empty. -/
inductive EndsIn : List Char → Component → Prop
  | root {rest : List Char} (trailer : IsTrailer ('/' :: rest)) : EndsIn ('/' :: rest) .root
  | current {rest : List Char} (trailer : IsTrailer rest) : EndsIn ('.' :: rest) .current
  | parent {front rest : List Char} (before : IsFront front) (trailer : IsTrailer rest) :
      EndsIn (front ++ ['.', '.'] ++ rest) .parent
  | normal {front name rest : List Char} (before : IsFront front) (named : IsName name)
      (trailer : IsTrailer rest) : EndsIn (front ++ name ++ rest) (.normal name)

/-! ## One piece more -/

lemma stepOfPiece?_of_isName {name : List Char} (named : IsName name) :
    stepOfPiece? name = some (.normal name) := by
  rw [stepOfPiece?, if_neg, if_neg named.not_parent]
  rintro (empty | point)
  · exact named.nonempty empty
  · exact named.not_current point

lemma components_of_whole {piece : List Char} (whole : '/' ∉ piece) (nonempty : piece ≠ []) :
    components piece
      = if piece = ['.'] then [.current] else (stepOfPiece? piece).toList := by
  simp only [components, pieces_of_not_mem whole, if_neg nonempty, List.filterMap_nil,
    List.append_nil]

lemma filterMap_stepOfPiece? (piece : List Char) :
    [piece].filterMap stepOfPiece? = (stepOfPiece? piece).toList := by
  rw [List.filterMap_cons]
  cases stepOfPiece? piece <;> rfl

lemma components_slash {piece : List Char} (whole : '/' ∉ piece) :
    components ('/' :: piece) = .root :: (stepOfPiece? piece).toList := by
  have cut : pieces (· == '/') ('/' :: piece) = [[], piece] := by
    rw [pieces, if_pos (by decide), pieces_of_not_mem whole]
  simp only [components, cut, if_true, List.cons_ne_nil, if_false, filterMap_stepOfPiece?,
    List.singleton_append]

lemma eq_nil_of_pieces {path : List Char} (h : pieces (· == '/') path = [[]]) : path = [] := by
  cases path with
  | nil => rfl
  | cons c rest =>
      obtain ⟨first, others, split⟩ := List.exists_cons_of_ne_nil (pieces_ne_nil (· == '/') rest)
      rw [pieces, split] at h
      split at h
      · cases h
      · cases h

/-- **A piece behind a slash adds its step and changes no other.** -/
theorem components_append_slash {path piece : List Char} (nonempty : path ≠ [])
    (whole : '/' ∉ piece) :
    components (path ++ '/' :: piece) = components path ++ (stepOfPiece? piece).toList := by
  have cut : pieces (· == '/') (path ++ '/' :: piece) = pieces (· == '/') path ++ [piece] := by
    rw [pieces_append_char, pieces_of_not_mem whole]
  have many : pieces (· == '/') path ≠ [[]] := fun h => nonempty (eq_nil_of_pieces h)
  obtain ⟨first, rest, split⟩ := List.exists_cons_of_ne_nil (pieces_ne_nil (· == '/') path)
  rw [split] at cut many
  simp only [components, cut, split, List.cons_append, List.filterMap_append,
    filterMap_stepOfPiece?, ← List.append_assoc]
  congr 2
  -- only the root looks at what follows it, and a path that is not empty has more pieces
  by_cases absolute : first = []
  · have border : rest ≠ [] := by
      rintro rfl
      exact many (absolute ▸ rfl)
    simp only [if_pos absolute, border, if_false, List.append_eq_nil_iff, List.cons_ne_nil,
      and_false]
  · simp only [if_neg absolute]

/-- What stands before a slash behind a path that is not empty. -/
lemma components_append_slash_nil {path : List Char} (nonempty : path ≠ []) :
    components (path ++ ['/']) = components path := by
  rw [components_append_slash nonempty List.not_mem_nil]
  exact List.append_nil _

/-! ## The end of a path -/

lemma components_append_trailer {path trailer : List Char} (nonempty : path ≠ [])
    (h : IsTrailer trailer) : components (path ++ trailer) = components path := by
  induction h generalizing path with
  | nil => rw [List.append_nil]
  | slash later ih =>
      rw [List.append_cons, ih (List.append_ne_nil_of_left_ne_nil nonempty _),
        components_append_slash_nil nonempty]
  | point later ih =>
      rw [List.append_cons, List.append_cons, List.append_assoc path,
        ih (List.append_ne_nil_of_left_ne_nil nonempty _), List.singleton_append,
        components_append_slash nonempty (by decide)]
      exact List.append_nil _

/-- A piece with a step of its own is the last one, whatever stands before it. -/
lemma getLast?_components_of_front {front piece : List Char} {step : Component}
    (before : IsFront front) (whole : '/' ∉ piece) (nonempty : piece ≠ [])
    (other : piece ≠ ['.']) (found : stepOfPiece? piece = some step) :
    (components (front ++ piece)).getLast? = some step := by
  rcases front.eq_nil_or_concat' with rfl | ⟨path, c, rfl⟩
  · rw [List.nil_append, components_of_whole whole nonempty, if_neg other, found]
    rfl
  · obtain rfl : c = '/' := before c List.getLast?_concat
    rw [List.append_assoc, List.singleton_append]
    by_cases empty : path = []
    · rw [empty, List.nil_append, components_slash whole, found]
      rfl
    · rw [components_append_slash empty whole, found]
      exact List.getLast?_concat

lemma getLast?_components {path : List Char} {step : Component} (h : EndsIn path step) :
    (components path).getLast? = some step := by
  cases h with
  | root trailer =>
      cases trailer with
      | slash later =>
          change (components (['/'] ++ _)).getLast? = _
          rw [components_append_trailer (List.cons_ne_nil _ _) later]
          rfl
      | point later =>
          change (components (['/', '.'] ++ _)).getLast? = _
          rw [components_append_trailer (List.cons_ne_nil _ _) later]
          rfl
  | current trailer =>
      rw [← List.singleton_append, components_append_trailer (List.cons_ne_nil _ _) trailer]
      rfl
  | parent before trailer =>
      rw [components_append_trailer (List.append_ne_nil_of_right_ne_nil _ (by decide)) trailer]
      exact getLast?_components_of_front before (by decide) (by decide) (by decide) rfl
  | normal before named trailer =>
      rw [components_append_trailer (List.append_ne_nil_of_right_ne_nil _ named.nonempty) trailer]
      exact getLast?_components_of_front before named.whole named.nonempty named.not_current
        (stepOfPiece?_of_isName named)

lemma EndsIn.isName {path name : List Char} (h : EndsIn path (.normal name)) : IsName name := by
  cases h
  assumption

lemma IsTrailer.append {trailer later : List Char} (h : IsTrailer trailer)
    (h' : IsTrailer later) : IsTrailer (trailer ++ later) := by
  induction h with
  | nil => exact h'
  | slash _ ih => exact .slash ih
  | point _ ih => exact .point ih

lemma EndsIn.append {path trailer : List Char} {step : Component} (h : EndsIn path step)
    (h' : IsTrailer trailer) : EndsIn (path ++ trailer) step := by
  cases h with
  | root first => exact .root (first.append h')
  | current first => exact .current (first.append h')
  | parent before first =>
      rw [List.append_assoc]
      exact .parent before (first.append h')
  | normal before named first =>
      rw [List.append_assoc]
      exact .normal before named (first.append h')

/-- Every text is cut behind the last place of a character. -/
lemma exists_last_piece (border : Char) (text : List Char) :
    ∃ front piece, text = front ++ piece ∧ (∀ c ∈ front.getLast?, c = border) ∧
      border ∉ piece := by
  induction text using List.reverseRecOn with
  | nil => exact ⟨[], [], rfl, nofun, List.not_mem_nil⟩
  | append_singleton text c ih =>
      obtain ⟨front, piece, rfl, before, whole⟩ := ih
      by_cases cut : c = border
      · refine ⟨_, [], (List.append_nil _).symm, fun last found => ?_, List.not_mem_nil⟩
        rw [List.getLast?_concat, Option.mem_some] at found
        exact found ▸ cut
      · refine ⟨front, piece ++ [c], List.append_assoc .., before, ?_⟩
        rw [List.mem_append, List.mem_singleton]
        rintro (inside | same)
        · exact whole inside
        · exact cut same.symm

/-- A path ends in a step unless it is empty.  The induction takes pieces without a step of
their own off its end. -/
lemma exists_endsIn {path : List Char} (nonempty : path ≠ []) : ∃ step, EndsIn path step := by
  induction size : path.length using Nat.strongRecOn generalizing path with
  | ind size ih =>
  obtain ⟨front, piece, rfl, before, whole⟩ := exists_last_piece '/' path
  have border := front.eq_nil_or_concat'
  -- behind a slash, such a piece belongs to what follows the last step
  have skip : IsTrailer ('/' :: piece) → front ≠ [] → ∃ step, EndsIn (front ++ piece) step := by
    intro trailer absolute
    obtain ⟨path, c, rfl⟩ := border.resolve_left absolute
    obtain rfl : c = '/' := before c List.getLast?_concat
    rw [List.append_assoc, List.singleton_append]
    by_cases empty : path = []
    · exact ⟨.root, empty ▸ .root trailer⟩
    · obtain ⟨step, h⟩ := ih path.length (by simp_all; omega) empty rfl
      exact ⟨step, h.append trailer⟩
  by_cases empty : piece = []
  · subst empty
    rw [List.append_nil] at nonempty
    exact skip (.slash .nil) nonempty
  by_cases current : piece = ['.']
  · subst current
    rcases border with rfl | ⟨path, c, rfl⟩
    · exact ⟨.current, .current .nil⟩
    · exact skip (.point .nil) (by simp)
  rw [← List.append_nil (front ++ piece)]
  by_cases parent : piece = ['.', '.']
  · subst parent
    exact ⟨.parent, .parent before .nil⟩
  · exact ⟨.normal piece, .normal before ⟨empty, current, parent, whole⟩ .nil⟩

/-- **The last step of a path is read off its text.** -/
theorem getLast?_components_eq_some_iff {path : List Char} {step : Component} :
    (components path).getLast? = some step ↔ EndsIn path step := by
  constructor
  · intro h
    have nonempty : path ≠ [] := by
      rintro rfl
      cases h
    obtain ⟨other, ends⟩ := exists_endsIn nonempty
    obtain rfl : other = step := Option.some.inj ((getLast?_components ends).symm.trans h)
    exact ends
  · exact getLast?_components

theorem fileName?_eq_some_iff {path name : List Char} :
    fileName? path = some name ↔ EndsIn path (.normal name) := by
  rw [← getLast?_components_eq_some_iff, fileName?]
  split
  · rename_i found
    rw [found]
    simp
  · rename_i other
    exact iff_of_false nofun (other name)

theorem fileName?_eq_none_iff {path : List Char} :
    fileName? path = none ↔ path = [] ∨ EndsIn path .root ∨ EndsIn path .current ∨
      EndsIn path .parent := by
  simp only [← getLast?_components_eq_some_iff]
  constructor
  · intro h
    by_cases empty : path = []
    · exact .inl empty
    obtain ⟨step, ends⟩ := exists_endsIn empty
    have last := getLast?_components ends
    rw [fileName?, last] at h
    rw [last]
    cases step with
    | root => exact .inr (.inl rfl)
    | current => exact .inr (.inr (.inl rfl))
    | parent => exact .inr (.inr (.inr rfl))
    | normal name => cases h
  · rintro (rfl | last | last | last)
    · rfl
    all_goals rw [fileName?, last]

/-! ## A name in a directory -/

/-- **A name taken from a directory is one step more.** -/
theorem components_join {directory name : List Char} (named : IsName name) :
    components (join directory name) = components directory ++ [.normal name] := by
  have relative : name.head? ≠ some '/' := by
    intro slash
    exact named.whole (List.mem_of_head? slash)
  have last : (stepOfPiece? name).toList = [.normal name] := by
    rw [stepOfPiece?_of_isName named]
    rfl
  rw [join, if_neg relative]
  by_cases empty : directory = []
  · subst empty
    rw [if_pos (.inl rfl), List.nil_append, components_of_whole named.whole named.nonempty,
      if_neg named.not_current, last]
    rfl
  by_cases ended : directory.getLast? = some '/'
  · obtain ⟨path, rfl⟩ := List.getLast?_eq_some_iff.1 ended
    rw [if_pos (.inr ended), List.append_assoc, List.singleton_append]
    by_cases root : path = []
    · subst root
      rw [List.nil_append, components_slash named.whole, last]
      rfl
    · rw [components_append_slash root named.whole, last, components_append_slash_nil root]
  · rw [if_neg (by simp [empty, ended]), components_append_slash empty named.whole, last]

/-! ## Stems -/

/-- The stem of a name: what stands before its last point, or the name if that is nothing or if
there is no point. -/
inductive IsStem : List Char → List Char → Prop
  | extended {stem extension : List Char} (nonempty : stem ≠ []) (whole : '.' ∉ extension) :
      IsStem (stem ++ '.' :: extension) stem
  | hidden {name : List Char} (whole : '.' ∉ name) : IsStem ('.' :: name) ('.' :: name)
  | plain {name : List Char} (whole : '.' ∉ name) : IsStem name name

lemma stem_of_cut (before : List Char) {extension : List Char} (whole : '.' ∉ extension) :
    stem (before ++ '.' :: extension)
      = if before = [] then '.' :: extension else before := by
  have letters : ∀ c ∈ extension.reverse, (c != '.') = true := by
    intro c member
    refine bne_iff_ne.2 ?_
    rintro rfl
    exact whole (List.mem_reverse.1 member)
  have cut : (before ++ '.' :: extension).reverse.dropWhile (· != '.')
      = '.' :: before.reverse := by
    rw [List.reverse_append, List.reverse_cons, List.append_assoc, List.singleton_append,
      List.dropWhile_append_of_pos letters, List.dropWhile_cons_of_neg (by decide)]
  simp only [stem, cut, List.reverse_eq_nil_iff, List.reverse_reverse]
  split
  · simp_all
  · rfl

lemma stem_of_whole {name : List Char} (whole : '.' ∉ name) : stem name = name := by
  have dropped : name.reverse.dropWhile (· != '.') = [] := by
    refine List.dropWhile_eq_nil_iff.2 fun c member => bne_iff_ne.2 ?_
    rintro rfl
    exact whole (List.mem_reverse.1 member)
  simp only [stem, dropped]

/-- **The stem of a name ends before its last point**, unless that is where the name begins. -/
theorem stem_eq_iff {name raw : List Char} : stem name = raw ↔ IsStem name raw := by
  constructor
  · rintro rfl
    obtain ⟨front, piece, rfl, border, whole⟩ := exists_last_piece '.' name
    rcases front.eq_nil_or_concat' with rfl | ⟨before, c, rfl⟩
    · rw [List.nil_append, stem_of_whole whole]
      exact .plain whole
    · obtain rfl : c = '.' := border c List.getLast?_concat
      rw [List.append_assoc, List.singleton_append, stem_of_cut before whole]
      split
      · rename_i empty
        rw [empty]
        exact .hidden whole
      · exact .extended ‹_› whole
  · intro h
    cases h with
    | extended nonempty whole => rw [stem_of_cut _ whole, if_neg nonempty]
    | hidden whole => exact stem_of_cut [] whole
    | plain whole => exact stem_of_whole whole

lemma IsStem.ne_nil {name raw : List Char} (h : IsStem name raw) (nonempty : name ≠ []) :
    raw ≠ [] := by
  cases h with
  | extended some _ => exact some
  | hidden _ => exact nonempty
  | plain _ => exact nonempty

lemma IsStem.subset {name raw : List Char} (h : IsStem name raw) : raw ⊆ name := by
  cases h with
  | extended _ _ => exact List.subset_append_left _ _
  | hidden _ => exact List.Subset.refl _
  | plain _ => exact List.Subset.refl _

/-- A long ending makes a name of every text without slashes, `.` and `..` among them. -/
lemma isName_append {raw ending : List Char} (whole : '/' ∉ raw) (long : 2 < ending.length)
    (plain : '/' ∉ ending) : IsName (raw ++ ending) := by
  have other : ∀ text : List Char, text.length ≤ 2 → raw ++ ending ≠ text := by
    rintro text short rfl
    rw [List.length_append] at short
    omega
  refine ⟨other [] (by decide), other ['.'] (by decide), other ['.', '.'] (by decide), ?_⟩
  rw [List.mem_append]
  rintro (inside | inside)
  · exact whole inside
  · exact plain inside

end Concordance.Path
