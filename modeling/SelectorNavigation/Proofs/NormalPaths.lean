import SelectorNavigation.Proofs.Resolution

/-!
# Paths in normal form

A path in normal form is spelled by its components, so it can be told from them, continued by
further names and seen from a directory above it without changing how it is spelled.

However a directory is spelled, the pieces of a path below it are those of the directory and then
the further names, but for one empty piece that a slash at the end of the directory leaves.
-/

namespace SelectorNavigation

namespace Path

theorem bytes_ofComponents {names : List Bytes} (occupied : names ≠ []) :
    (ofComponents true names).bytes = names.flatMap (slash :: ·) :=
  cons_intercalate occupied

theorem intercalate_pieces (path : Path) : [slash].intercalate path.pieces = path.bytes :=
  List.intercalate_splitOn slash

theorem pieces_ofComponents {names : List Bytes} (free : ∀ name ∈ names, slash ∉ name)
    (occupied : names ≠ []) : (ofComponents true names).pieces = [] :: names := by
  simpa [pieces, bytes_ofComponents occupied] using splitOn_flatMap_cons [] (by simp) free

theorem bytes_eq_append_body (path : Path) :
    path.bytes = (if path.isAbsolute then [slash] else []) ++ path.body := by
  obtain ⟨_ | ⟨byte, bytes⟩⟩ := path
  · rfl
  · by_cases rooted : byte = slash <;> simp [body, isAbsolute, rooted]

theorem components_body (path : Path) : (⟨path.body⟩ : Path).components = path.components := by
  obtain ⟨bytes⟩ := path
  have spelled := bytes_eq_append_body ⟨bytes⟩
  by_cases rooted : (⟨bytes⟩ : Path).isAbsolute
  · rw [if_pos rooted] at spelled
    have behind := components_append_slash [] (body ⟨bytes⟩)
    rw [components_empty, List.nil_append, List.nil_append] at behind
    rw [← behind]
    exact congrArg (components ⟨·⟩) spelled.symm
  · rw [body, if_neg rooted]

/-- A path in normal form is spelled by its components. -/
theorem eq_ofComponents_of_isNormal {path : Path} (normal : path.IsNormal) :
    path = ofComponents path.isAbsolute path.components := by
  have body_eq : [slash].intercalate path.components = path.body := by
    rw [← components_body]
    rcases normal with empty | named
    · rw [empty, components_empty]
      rfl
    · have kept : (⟨path.body⟩ : Path).components = path.body.splitOn slash :=
        List.filter_eq_self.mpr fun piece member => (named piece member).isStep.1
      rw [kept, List.intercalate_splitOn]
  rw [ofComponents, body_eq, ← bytes_eq_append_body]

theorem pieces_of_isNormal {path : Path} (absolute : path.isAbsolute) (normal : path.IsNormal)
    (occupied : path.components ≠ []) : path.pieces = [] :: path.components := by
  have free : ∀ name ∈ path.components, slash ∉ name := fun name member =>
    (isStep_of_mem_components member).2
  conv_lhs => rw [eq_ofComponents_of_isNormal normal, absolute]
  exact pieces_ofComponents free occupied

/-- The path leads further down than the directory does. -/
def IsBelow (path root : Path) : Prop :=
  ∃ names, names ≠ [] ∧ path.components = root.components ++ names

theorem relativeTo?_of_isNormal {path root : Path} {names : List Bytes}
    (absolute : path.isAbsolute) (normal : path.IsNormal) (rootAbsolute : root.isAbsolute)
    (occupied : names ≠ []) (below : path.components = root.components ++ names) :
    path.relativeTo? root = some (ofComponents false names) := by
  have pieces_eq : path.pieces = [] :: (root.components ++ (names ++ [])) := by
    rw [pieces_of_isNormal absolute normal (by simp [below, occupied]), below, List.append_nil]
  refine relativeTo?_eq_ofComponents absolute rootAbsolute pieces_eq (fun piece member => ?_)
    (by simp)
  have isPiece : piece ∈ path.components := below ▸ List.mem_append_right _ member
  exact (isStep_of_mem_components isPiece).1

theorem isName_of_isNormal {path : Path} (normal : path.IsNormal) :
    ∀ name ∈ path.components, IsName name := by
  intro name member
  rw [← components_body] at member
  rcases normal with empty | named
  · rw [empty, components_empty] at member
    contradiction
  · exact named name (List.mem_filter.mp member).1

/-- A byte other than the slash stands in a path if it stands in one of its pieces. -/
theorem mem_bytes_iff {path : Path} {byte : UInt8} (other : byte ≠ slash) :
    byte ∈ path.bytes ↔ ∃ piece ∈ path.pieces, byte ∈ piece := by
  have occupied : path.pieces ≠ [] := List.splitOn_ne_nil _ _
  have spelled : slash :: path.bytes = path.pieces.flatMap (slash :: ·) := by
    rw [← intercalate_pieces, cons_intercalate occupied]
  calc byte ∈ path.bytes
      ↔ byte ∈ slash :: path.bytes := by simp [other]
    _ ↔ ∃ piece ∈ path.pieces, byte ∈ piece := by simp [spelled, other]

/-- The last piece of an absolute path stands behind a slash. -/
theorem isSuffix_of_pieces {path : Path} {front : List Bytes} {last : Bytes}
    (absolute : path.isAbsolute) (pieces_eq : path.pieces = front ++ [last]) :
    slash :: last <:+ path.bytes := by
  have spelled := intercalate_pieces path
  rw [pieces_eq] at spelled
  cases front with
  | nil =>
      -- A single piece has no slash to start with.
      have free : slash ∉ last :=
        slash_not_mem_of_mem_splitOn (by simp [pieces_eq] : last ∈ path.pieces)
      obtain rfl : last = path.bytes := by simpa using spelled
      exact absurd (List.mem_of_head? (by simpa [isAbsolute] using absolute)) free
  | cons first front =>
      have separated : slash :: path.bytes =
          (first :: front ++ [last]).flatMap (slash :: ·) := by
        rw [← spelled, cons_intercalate (by simp)]
      refine ⟨first ++ front.flatMap (slash :: ·), ?_⟩
      simpa using separated.symm

theorem getLast?_bytes_ofComponents {names : List Bytes} (named : ∀ name ∈ names, IsName name)
    (occupied : names ≠ []) : (ofComponents true names).bytes.getLast? ≠ some slash := by
  rw [bytes_ofComponents occupied]
  obtain rfl | ⟨front, last, rfl⟩ := names.eq_nil_or_concat'
  · contradiction
  obtain ⟨filled, -, -, free⟩ := named last (by simp)
  intro closed
  have spelled : (front ++ [last]).flatMap (slash :: ·) =
      (front.flatMap (slash :: ·) ++ [slash]) ++ last := by simp
  rw [spelled, List.getLast?_append_of_ne_nil _ filled] at closed
  exact free (List.mem_of_getLast? closed)

/-- Names are joined behind the pieces of a path, of which an empty one at the end is lost. -/
theorem pieces_join_ofComponents (root : Path) {names : List Bytes}
    (steps : ∀ name ∈ names, IsStep name) (occupied : names ≠ []) :
    ∃ front, (root.join (ofComponents false names)).pieces = front ++ names ∧
      (root.pieces = front ∨ root.pieces = front ++ [[]]) := by
  have isRelative := not_isAbsolute_ofComponents steps
  have relative_eq : (ofComponents false names).bytes.splitOn slash = names := by
    simpa [ofComponents] using
      List.splitOn_intercalate slash (fun name member => (steps name member).2) occupied
  obtain ⟨bytes⟩ := root
  simp only [join, if_neg isRelative]
  split
  · rename_i openEnded
    simp only [Bool.or_eq_true, beq_iff_eq] at openEnded
    rcases openEnded with rfl | closed
    · exact ⟨[], by simpa [pieces] using relative_eq, .inr (by simp [pieces])⟩
    · obtain ⟨front, rfl⟩ := List.getLast?_eq_some_iff.mp closed
      refine ⟨front.splitOn slash, ?_, .inr ?_⟩
      · simp [pieces, List.splitOn_append_cons_self, relative_eq]
      · simp [pieces, List.splitOn_append_cons_self]
  · exact ⟨bytes.splitOn slash, by simp [pieces, List.splitOn_append_cons_self, relative_eq],
      .inl rfl⟩

/-- Names are joined to a path in normal form behind its own. -/
theorem join_ofComponents {root : Path} {names : List Bytes} (absolute : root.isAbsolute)
    (normal : root.IsNormal) (named : ∀ name ∈ names, IsName name) (occupied : names ≠ []) :
    root.join (ofComponents false names) = ofComponents true (root.components ++ names) := by
  have isRelative := not_isAbsolute_ofComponents fun name member => (named name member).isStep
  have rootSpelled := eq_ofComponents_of_isNormal normal
  rw [absolute] at rootSpelled
  rw [join, if_neg isRelative]
  by_cases atTop : root.components = []
  · rw [atTop] at rootSpelled
    rw [atTop, rootSpelled]
    rfl
  · have unclosed := getLast?_bytes_ofComponents (isName_of_isNormal normal) atTop
    have bytes_eq := bytes_ofComponents atTop
    rw [← rootSpelled] at unclosed bytes_eq
    have filled : root.bytes ≠ [] := by
      rw [bytes_eq, ← cons_intercalate atTop]
      exact List.cons_ne_nil _ _
    rw [if_neg (by simp [filled, unclosed])]
    have whole : root.components ++ names ≠ [] := by simp [occupied]
    refine congrArg Path.mk (Eq.trans ?_ (bytes_ofComponents whole).symm)
    rw [List.flatMap_append, ← bytes_eq, ← cons_intercalate occupied]
    rfl

theorem isNormal_join {root : Path} {names : List Bytes} (absolute : root.isAbsolute)
    (normal : root.IsNormal) (named : ∀ name ∈ names, IsName name) (occupied : names ≠ []) :
    (root.join (ofComponents false names)).IsNormal := by
  rw [join_ofComponents absolute normal named occupied]
  refine isNormal_ofNames true fun name member => ?_
  rcases List.mem_append.mp member with inside | below
  · exact isName_of_isNormal normal name inside
  · exact named name below

end Path

end SelectorNavigation
