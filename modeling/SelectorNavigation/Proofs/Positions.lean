import SelectorNavigation.Proofs.LineIndex

/-!
# Positions in document order

The position of a character boundary is what counting lines and columns over the text in
front of it arrives at.  Each character moves the position forward, by a column or to
the next line, so boundaries and their positions have the same order.  Hence the order
and the overlap of spans can be decided on byte offsets.
-/

namespace SelectorNavigation

theorem utf16Size_pos (character : Char) : 0 < utf16Size character := by
  unfold utf16Size
  split <;> omega

namespace Position

theorem before_iff {first second : Position} :
    first.before second ↔
      first.line < second.line ∨ (first.line = second.line ∧ first.column < second.column) := by
  simp [before]

theorem not_before_self (position : Position) : ¬ position.before position := by
  simp [before_iff]

theorem before_trans {first second third : Position} (firstBefore : first.before second)
    (secondBefore : second.before third) : first.before third := by
  rw [before_iff] at *
  omega

/-- Where the next character stands, behind one that stands at the given position. -/
def past (position : Position) (character : Char) : Position :=
  if character == '\n' then ⟨position.line + 1, 0⟩
  else ⟨position.line, position.column + utf16Size character⟩

theorem before_past (position : Position) (character : Char) :
    position.before (position.past character) := by
  rw [before_iff]
  by_cases feed : character = '\n'
  · simp [past, feed]
  · simp [past, feed, utf16Size_pos]

theorem before_foldl_past (position : Position) (character : Char) (text : Text) :
    position.before ((character :: text).foldl past position) := by
  induction text generalizing position character with
  | nil => exact position.before_past character
  | cons next text ih =>
      have moved := position.before_past character
      have movedOn := ih (position.past character) next
      exact before_trans moved movedOn

end Position

namespace Text

/-- The byte offset stands between two characters of the text or at one of its ends. -/
def IsBoundary (text : Text) (offset : Nat) : Prop :=
  ∃ before after, text = before ++ after ∧ offset = before.byteLength

theorem isBoundary_zero (text : Text) : text.IsBoundary 0 :=
  ⟨[], text, rfl, rfl⟩

theorem isBoundary_append (before after : Text) :
    (before ++ after).IsBoundary before.byteLength :=
  ⟨before, after, rfl, rfl⟩

theorem IsBoundary.le_byteLength {text : Text} {offset : Nat}
    (boundary : text.IsBoundary offset) : offset ≤ text.byteLength := by
  obtain ⟨before, after, rfl, rfl⟩ := boundary
  rw [byteLength_append]
  omega

theorem byteLength_pos {text : Text} (nonempty : text ≠ []) : 0 < text.byteLength := by
  obtain ⟨character, rest, rfl⟩ := List.exists_cons_of_ne_nil nonempty
  have size := character.utf8Size_pos
  rw [byteLength_cons]
  omega

/-- Counting over a text counts its line feeds and the columns of the line it ends in. -/
theorem foldl_past_zero (text : Text) :
    text.foldl Position.past Position.zero = ⟨text.count '\n', utf16Length (lastLine text)⟩ := by
  induction text using List.reverseRecOn with
  | nil => rfl
  | append_singleton text character ih =>
      rw [List.foldl_append, ih, List.foldl_cons, List.foldl_nil]
      by_cases feed : character = '\n'
      · subst feed
        simp [Position.past, lastLine]
      · simp [Position.past, feed, lastLine_append_singleton text feed]

theorem positionAt_eq (before after : Text) :
    (before ++ after).positionAt before.byteLength =
      ⟨before.count '\n', before.lastLine.utf16Length⟩ :=
  LineIndex.position_append before after

/-- The position of a boundary is reached by counting over the text in front of it. -/
theorem positionAt_append (before after : Text) :
    (before ++ after).positionAt before.byteLength =
      before.foldl Position.past Position.zero := by
  rw [positionAt_eq, foldl_past_zero]

/-- A boundary that stands behind another is reached from it over some characters. -/
theorem IsBoundary.exists_between {text : Text} {first second : Nat}
    (firstBoundary : text.IsBoundary first) (secondBoundary : text.IsBoundary second)
    (less : first < second) :
    ∃ (before between after : Text) (character : Char),
      text = before ++ character :: between ++ after ∧ first = before.byteLength ∧
        second = byteLength (before ++ character :: between) := by
  obtain ⟨before, rest, rfl, rfl⟩ := firstBoundary
  obtain ⟨longer, after, same, rfl⟩ := secondBoundary
  rcases List.append_eq_append_iff.mp same with ⟨between, rfl, -⟩ | ⟨excess, rfl, -⟩
  · cases between with
    | nil => simp at less
    | cons character between =>
        exact ⟨before, between, after, character, same, rfl, rfl⟩
  · rw [byteLength_append] at less
    omega

theorem before_positionAt_of_lt {text : Text} {first second : Nat}
    (firstBoundary : text.IsBoundary first) (secondBoundary : text.IsBoundary second)
    (less : first < second) : (text.positionAt first).before (text.positionAt second) := by
  obtain ⟨before, between, after, character, rfl, rfl, rfl⟩ :=
    firstBoundary.exists_between secondBoundary less
  rw [positionAt_append (before ++ character :: between) after, List.foldl_append,
    List.append_assoc, positionAt_append before]
  exact Position.before_foldl_past _ character between

/-- Boundaries and their positions have the same order. -/
theorem before_positionAt_iff {text : Text} {first second : Nat}
    (firstBoundary : text.IsBoundary first) (secondBoundary : text.IsBoundary second) :
    (text.positionAt first).before (text.positionAt second) ↔ first < second := by
  constructor
  · intro before
    rcases Nat.lt_trichotomy first second with less | rfl | greater
    · exact less
    · exact absurd before (Position.not_before_self _)
    · have after := before_positionAt_of_lt secondBoundary firstBoundary greater
      exact absurd (Position.before_trans before after) (Position.not_before_self _)
  · exact before_positionAt_of_lt firstBoundary secondBoundary

/-- Both ends of the range are boundaries of the text. -/
def HasBounds (text : Text) (range : ByteRange) : Prop :=
  text.IsBoundary range.start ∧ text.IsBoundary range.stop

theorem isOrdered_spanOf_iff {text : Text} {range : ByteRange} (bounds : text.HasBounds range) :
    (text.spanOf range).isOrdered ↔ range.start ≤ range.stop := by
  have order := before_positionAt_iff bounds.2 bounds.1
  simp only [Span.isOrdered, spanOf, Position.notAfter, Bool.not_eq_true', Bool.eq_false_iff]
  rw [ne_eq, order, Nat.not_lt]

/-- Spans overlap exactly if the ranges that they cover do. -/
theorem overlaps_spanOf_iff {text : Text} {first second : ByteRange}
    (firstBounds : text.HasBounds first) (secondBounds : text.HasBounds second) :
    (text.spanOf first).overlaps (text.spanOf second) ↔
      first.start < second.stop ∧ second.start < first.stop := by
  simp only [Span.overlaps, spanOf, Bool.and_eq_true]
  rw [before_positionAt_iff firstBounds.1 secondBounds.2,
    before_positionAt_iff secondBounds.1 firstBounds.2]

end Text

end SelectorNavigation
