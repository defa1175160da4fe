import SelectorNavigation.Path.Basic
import SelectorNavigation.Proofs.Lists

/-!
# Spelling and components of paths

The components of a path do not depend on how often its slashes are repeated.  So joining
paths joins their components, a path can be spelled from components and read back, and a
path below a directory, seen from there, is spelled by the components that remain.
-/

namespace SelectorNavigation

namespace Path

/-- A piece as it stands among the components of a path. -/
def IsStep (piece : Bytes) : Prop :=
  isComponent piece ∧ slash ∉ piece

theorem isStep_of_isEntryName {piece : Bytes} (named : isEntryName piece) : IsStep piece := by
  simp only [isEntryName, Bool.and_eq_true, Bool.not_eq_true', List.contains_eq_mem,
    decide_eq_false_iff_not] at named
  exact ⟨named.1.1.1, named.1.2⟩

theorem slash_not_mem_of_mem_splitOn {bytes piece : Bytes}
    (member : piece ∈ bytes.splitOn slash) : slash ∉ piece := by
  intro inside
  rw [List.splitOn_eq_splitOnP] at member
  have kept := separates_eq_false_of_mem_splitOnP member slash inside
  simp at kept

theorem isStep_of_mem_components {path : Path} {piece : Bytes}
    (member : piece ∈ path.components) : IsStep piece := by
  obtain ⟨isPiece, component⟩ := List.mem_filter.mp member
  exact ⟨component, slash_not_mem_of_mem_splitOn isPiece⟩

/-- The components of a path with a leading slash are the names behind it, up to pieces that
carry no meaning. -/
theorem components_of_pieces {path : Path} {names trailing : List Bytes}
    (pieces_eq : path.pieces = [] :: (names ++ trailing))
    (steps : ∀ piece ∈ names, isComponent piece) :
    path.components = names ++ trailing.filter isComponent := by
  have ignored : ¬ isComponent [] := by simp [isComponent]
  rw [components, pieces_eq, List.filter_cons_of_neg ignored, List.filter_append,
    List.filter_eq_self.mpr steps]

/-- An ending without a slash is an ending of the last piece. -/
theorem isSuffix_bytes_iff {path : Path} {word last : Bytes} {front : List Bytes}
    (free : slash ∉ word) (pieces_eq : path.pieces = front ++ [last]) :
    word <:+ path.bytes ↔ word <:+ last := by
  have spelled : [slash].intercalate path.pieces = path.bytes := List.intercalate_splitOn slash
  rw [← spelled, pieces_eq, isSuffix_intercalate_iff free]

@[simp]
theorem components_empty : (⟨[]⟩ : Path).components = [] := by
  simp [components, pieces, isComponent]

@[simp]
theorem components_append_slash (before after : Bytes) :
    (⟨before ++ slash :: after⟩ : Path).components =
      (⟨before⟩ : Path).components ++ (⟨after⟩ : Path).components := by
  simp [components, pieces, List.splitOn_append_cons_self]

theorem components_join {base continuation : Path} (isRelative : ¬ continuation.isAbsolute) :
    (base.join continuation).components = base.components ++ continuation.components := by
  obtain ⟨bytes⟩ := base
  simp only [join, if_neg isRelative]
  split
  · rename_i open_ended
    simp only [Bool.or_eq_true, beq_iff_eq] at open_ended
    rcases open_ended with rfl | closed
    · simp
    · obtain ⟨front, rfl⟩ := List.getLast?_eq_some_iff.mp closed
      simp
  · simp

theorem isAbsolute_join {base continuation : Path} (isRelative : ¬ continuation.isAbsolute) :
    (base.join continuation).isAbsolute = base.isAbsolute := by
  obtain ⟨_ | ⟨byte, bytes⟩⟩ := base
  · have unstarted : (⟨[]⟩ : Path).isAbsolute = false := rfl
    simp [join, isRelative, unstarted]
  · simp only [join, if_neg isRelative]
    split <;> rfl

/-- A path whose first piece is empty and not its last one starts with a slash. -/
theorem isAbsolute_of_pieces {path : Path} {second : Bytes} {others : List Bytes}
    (pieces_eq : path.pieces = [] :: second :: others) : path.isAbsolute := by
  have spelling : [slash].intercalate path.pieces = path.bytes := List.intercalate_splitOn slash
  rw [pieces_eq, List.intercalate_cons_cons] at spelling
  simp [isAbsolute, ← spelling]

theorem components_ofComponents {names : List Bytes} (steps : ∀ name ∈ names, IsStep name) :
    (ofComponents false names).components = names := by
  by_cases nonempty : names = []
  · subst nonempty
    exact components_empty
  · have pieces_eq : (ofComponents false names).pieces = names := by
      simpa [ofComponents, pieces] using
        List.splitOn_intercalate slash (fun name member => (steps name member).2) nonempty
    rw [components, pieces_eq]
    exact List.filter_eq_self.mpr fun name member => (steps name member).1

theorem not_isAbsolute_ofComponents {names : List Bytes} (steps : ∀ name ∈ names, IsStep name) :
    ¬ (ofComponents false names).isAbsolute := by
  match names with
  | [] => simp [ofComponents, isAbsolute]
  | [] :: _ => exact absurd (steps [] List.mem_cons_self).1 (by simp [isComponent])
  | (byte :: name) :: names =>
      have different : byte ≠ slash := by
        rintro rfl
        exact (steps (slash :: name) List.mem_cons_self).2 List.mem_cons_self
      cases names <;> simpa [ofComponents, isAbsolute] using different

@[simp]
theorem passComponents_empty_cons (count : Nat) (pieces : List Bytes) :
    passComponents count ([] :: pieces) = passComponents count pieces := by
  cases count <;> simp [passComponents, isComponent]

/-- Passing as many components as there are in front leaves what follows them. -/
theorem passComponents_append {front : List Bytes} (rest : List Bytes)
    (steps : ∀ piece ∈ front, isComponent piece) :
    passComponents front.length (front ++ rest) = rest.dropWhile (!isComponent ·) := by
  induction front with
  | nil => simp [passComponents]
  | cons piece front ih =>
      obtain ⟨component, others⟩ := List.forall_mem_cons.mp steps
      simp [passComponents, component, ih others]

theorem dropWhile_of_steps {names : List Bytes} (steps : ∀ piece ∈ names, isComponent piece) :
    names.dropWhile (!isComponent ·) = names := by
  cases names with
  | nil => rfl
  | cons name names => simp [steps name List.mem_cons_self]

/-- Trimming removes what carries no meaning behind components, and nothing of them. -/
theorem trim_append {names trailing : List Bytes} (steps : ∀ piece ∈ names, isComponent piece)
    (meaningless : ∀ piece ∈ trailing, ¬ isComponent piece) :
    (((names ++ trailing).dropWhile (!isComponent ·)).reverse.dropWhile
      (!isComponent ·)).reverse = names := by
  have passed : trailing.dropWhile (!isComponent ·) = [] :=
    List.dropWhile_eq_nil_iff.mpr (by simpa using meaningless)
  have reversedSteps : ∀ piece ∈ names.reverse, isComponent piece := by simpa using steps
  rw [List.dropWhile_append, dropWhile_of_steps steps, passed]
  cases names with
  | nil => rfl
  | cons name names =>
      simp only [List.isEmpty_cons, Bool.false_eq_true, if_false, List.reverse_append]
      rw [List.dropWhile_append_of_pos (by simpa using meaningless),
        dropWhile_of_steps reversedSteps, List.reverse_reverse]

/-- Seen from a directory, a path below it is spelled by the components that remain. -/
theorem relativeTo?_eq_ofComponents {path root : Path} {names trailing : List Bytes}
    (absolute : path.isAbsolute) (rootAbsolute : root.isAbsolute)
    (pieces_eq : path.pieces = [] :: (root.components ++ (names ++ trailing)))
    (steps : ∀ piece ∈ names, isComponent piece)
    (meaningless : ∀ piece ∈ trailing, ¬ isComponent piece) :
    path.relativeTo? root = some (ofComponents false names) := by
  have rootSteps : ∀ piece ∈ root.components, isComponent piece := fun piece member =>
    (isStep_of_mem_components member).1
  have below : root.components.isPrefixOf path.components := by
    rw [List.isPrefixOf_iff_prefix, components_of_pieces pieces_eq rootSteps]
    exact List.prefix_append _ _
  simp only [relativeTo?, absolute, rootAbsolute, below, Bool.and_self, if_true, pieces_eq,
    passComponents_empty_cons, passComponents_append _ rootSteps,
    trim_append steps meaningless]
  rfl

end Path

end SelectorNavigation
