import SelectorNavigation.Workspace.Search

/-!
# Exclude patterns that do not compile

A pattern can fail to compile in two ways: it cannot be read, or what is read nests too
deep.  An exclude pattern of the first kind is left out of a filter.  One of the second
kind is noticed only when the filter is put together, and then there is no filter at all,
so a search with such a pattern finds nothing.
-/

namespace SelectorNavigation

namespace PathFilter

/-- A filter can be built from the pattern alone. -/
def compiles (pattern : Text) : Bool :=
  (build [pattern] []).isOk

/-- The pattern can be read, but nests too deep to be used. -/
def nestsTooDeep (pattern : Text) : Bool :=
  (Glob.read pattern).toOption.any Glob.isTooDeep

variable {including : List Text} {included : List Glob.Tokens} {filter : PathFilter}

theorem build_of_readIncluded (read : readIncluded including = .ok included)
    (excluding : List Text) :
    build including excluding =
      if (included ++ readExcluded excluding).any Glob.isTooDeep then .error .tooDeep
      else .ok ⟨if including.isEmpty then none else some included, readExcluded excluding⟩ := by
  unfold build
  rw [read]
  simp only [bind, Except.bind]
  split <;> rfl

theorem exists_readIncluded_of_build {excluding : List Text}
    (built : build including excluding = .ok filter) :
    ∃ included, readIncluded including = .ok included := by
  cases read : readIncluded including with
  | ok included => exact ⟨included, rfl⟩
  | error fault =>
      unfold build at built
      rw [read] at built
      contradiction

theorem exists_filter_of_isOk {excluding : List Text}
    (isOk : (build including excluding).isOk) :
    ∃ filter, build including excluding = .ok filter := by
  cases built : build including excluding with
  | ok filter => exact ⟨filter, rfl⟩
  | error fault =>
      rw [built] at isOk
      contradiction

/-- The include patterns of a filter that can be built do not nest too deep. -/
theorem not_isTooDeep_of_build (read : readIncluded including = .ok included)
    (built : build including [] = .ok filter) : included.any Glob.isTooDeep = false := by
  rw [build_of_readIncluded read] at built
  split at built
  · contradiction
  · rename_i shallow
    simpa [readExcluded] using shallow

theorem compiles_eq (pattern : Text) :
    compiles pattern = (Glob.read pattern).toOption.any (!Glob.isTooDeep ·) := by
  cases read : Glob.read pattern with
  | error fault =>
      have unread : readIncluded [pattern] = .error (.invalidGlob pattern fault) := by
        simp only [readIncluded, read]
      unfold compiles build
      rw [unread]
      rfl
  | ok tokens =>
      have alone : readIncluded [pattern] = .ok [tokens] := by
        simp only [readIncluded, read, Except.map]
      rw [compiles, build_of_readIncluded alone]
      cases deep : Glob.isTooDeep tokens <;>
        simp [readExcluded, deep, Except.toOption, Except.isOk, Except.toBool]

/-- Leaving out the patterns that do not compile leaves out the globs that nest too deep,
because the other faulty patterns give no glob. -/
theorem readExcluded_filter_compiles (excluding : List Text) :
    readExcluded (excluding.filter compiles) =
      (readExcluded excluding).filter (!Glob.isTooDeep ·) := by
  induction excluding with
  | nil => rfl
  | cons pattern excluding ih =>
      unfold readExcluded at ih ⊢
      rw [List.filter_cons, compiles_eq, List.filterMap_cons]
      cases read : Glob.read pattern with
      | error fault => simpa [Except.toOption] using ih
      | ok tokens =>
          cases deep : Glob.isTooDeep tokens with
          | true => simpa [Except.toOption, deep] using ih
          | false => simpa [Except.toOption, deep, read] using ih

theorem any_isTooDeep_readExcluded (excluding : List Text) :
    (readExcluded excluding).any Glob.isTooDeep = excluding.any nestsTooDeep := by
  rw [readExcluded, List.any_filterMap]
  rfl

/-- Whatever the exclude patterns are, those of them that compile make a filter. -/
theorem build_filter_compiles (read : readIncluded including = .ok included)
    (shallow : included.any Glob.isTooDeep = false) (excluding : List Text) :
    build including (excluding.filter compiles) =
      .ok ⟨if including.isEmpty then none else some included,
        readExcluded (excluding.filter compiles)⟩ := by
  have kept : ((readExcluded excluding).filter (!Glob.isTooDeep ·)).any Glob.isTooDeep =
      false := by
    simp [List.any_eq_false]
  rw [build_of_readIncluded read, List.any_append, shallow, readExcluded_filter_compiles, kept]
  rfl

theorem build_eq_ite_nestsTooDeep (read : readIncluded including = .ok included)
    (shallow : included.any Glob.isTooDeep = false) (excluding : List Text) :
    build including excluding =
      if excluding.any nestsTooDeep then .error .tooDeep
      else build including (excluding.filter compiles) := by
  rw [build_of_readIncluded read, List.any_append, shallow, Bool.false_or,
    any_isTooDeep_readExcluded]
  split
  · rfl
  · rename_i flat
    have unfiltered : (readExcluded excluding).filter (!Glob.isTooDeep ·) =
        readExcluded excluding := by
      rw [← any_isTooDeep_readExcluded, Bool.not_eq_true, List.any_eq_false] at flat
      simpa [List.filter_eq_self] using flat
    rw [build_filter_compiles read shallow, readExcluded_filter_compiles, unfiltered]

/-- Let the include patterns make a filter.  With any exclude patterns, those that compile
still make one.  All of them together make a filter with the same answers exactly if none
of them nests too deep; otherwise there is no filter, and a search finds nothing. -/
theorem build_ignores_faulty_excludes_iff {plain : PathFilter}
    (built : build including [] = .ok plain) (excluding : List Text) :
    ∃ reference, build including (excluding.filter compiles) = .ok reference ∧
      reference.included = plain.included ∧
      ((∃ filter, build including excluding = .ok filter ∧ ∀ path,
          filter.admits path = reference.admits path ∧
          filter.descends path = reference.descends path) ↔
        ∀ pattern ∈ excluding, ¬ nestsTooDeep pattern) ∧
      ((∃ pattern ∈ excluding, nestsTooDeep pattern) →
        build including excluding = .error .tooDeep) ∧
      ∀ (workspace : Workspace) (pattern : Text), including = [pattern] →
        workspace.findFiles ⟨pattern, excluding⟩ =
          if excluding.any nestsTooDeep then [] else workspace.filesFor reference := by
  obtain ⟨included, read⟩ := exists_readIncluded_of_build built
  have shallow := not_isTooDeep_of_build read built
  have reference_built := build_filter_compiles read shallow excluding
  have cases_eq := build_eq_ite_nestsTooDeep read shallow excluding
  have same_included : plain.included = if including.isEmpty then none else some included := by
    have plain_built := build_filter_compiles read shallow []
    rw [List.filter_nil, built] at plain_built
    rw [Except.ok.inj plain_built]
  -- Both sides of each part are settled by whether some exclude pattern nests too deep.
  refine ⟨_, reference_built, same_included.symm, ⟨?_, ?_⟩, ?_, ?_⟩
  · rintro ⟨filter, together, -⟩ pattern member deep
    rw [cases_eq, if_pos (List.any_eq_true.mpr ⟨pattern, member, deep⟩)] at together
    contradiction
  · intro flat
    have none_deep : ¬ excluding.any nestsTooDeep := by simpa using flat
    rw [cases_eq, if_neg none_deep]
    exact ⟨_, reference_built, fun path => ⟨rfl, rfl⟩⟩
  · rintro ⟨pattern, member, deep⟩
    rw [cases_eq, if_pos (List.any_eq_true.mpr ⟨pattern, member, deep⟩)]
  · rintro workspace pattern rfl
    simp only [Workspace.findFiles, cases_eq]
    by_cases deep : excluding.any nestsTooDeep
    · simp only [deep, if_true]
    · simp only [deep, reference_built, Bool.false_eq_true, if_false]

/-- A pattern with an open class is ignored beside one that compiles. -/
theorem build_ignores_unclosed_class :
    let including := ["**/*.html".toList]
    ∃ plain reference filter, build including [] = .ok plain ∧
      build including ["**/tmp".toList] = .ok reference ∧
      build including ["**/[".toList, "**/tmp".toList] = .ok filter ∧ ∀ path,
        filter.admits path = reference.admits path ∧
        filter.descends path = reference.descends path := by
  intro including
  have isOk : (build including []).isOk := by decide +kernel
  obtain ⟨plain, built⟩ := exists_filter_of_isOk isOk
  obtain ⟨reference, reference_built, -, same_answers, -⟩ :=
    build_ignores_faulty_excludes_iff built ["**/[".toList, "**/tmp".toList]
  have kept : ["**/[".toList, "**/tmp".toList].filter compiles = ["**/tmp".toList] := by
    decide +kernel
  obtain ⟨filter, filter_built, answers⟩ := same_answers.mpr (by decide +kernel)
  rw [kept] at reference_built
  exact ⟨plain, reference, filter, built, reference_built, filter_built, answers⟩

/-- A single exclude pattern within four hundred pairs of braces leaves a search with
nothing to find. -/
theorem build_fails_for_deep_exclude :
    let deep : Text := List.replicate 400 '\x7b' ++ 'a' :: List.replicate 400 '\x7d'
    let template : Text := "**/*.html".toList
    let workspace : Workspace :=
      ⟨⟨[(Text.utf8 "r".toList, .directory [(Text.utf8 "a.html".toList, .file [])])],
        by decide +kernel⟩, .ofText "/r".toList, .empty⟩
    (build [template] []).isOk ∧ ¬ (build [template] [deep]).isOk ∧
      workspace.findFiles ⟨template, [deep]⟩ = [] ∧
      workspace.findFiles ⟨template, [deep].filter compiles⟩ =
        [⟨"file".toList, some .empty, .segments ["r".toList, "a.html".toList], none, none⟩] := by
  decide +kernel

end PathFilter

end SelectorNavigation
