import SelectorNavigation.Proofs.Positions
import SelectorNavigation.Text.Line
import Mathlib.Data.List.DropRight
import Mathlib.Data.List.Induction

/-!
# Lines and columns

Two views of a document meet in a position.  Its line counts the line feeds in front of it,
and its column measures what stands between the last of them and the position.  The line
with that number begins with the same characters, so the column leads back to them, unless
they end in a carriage return that belongs to the line end.

Positions are ordered as the boundaries they stand for, also around line feeds and
characters that take two columns.
-/

namespace SelectorNavigation

namespace Text

theorem lastLine_append_of_not_mem (text : Text) {line : Text} (feedless : '\n' ∉ line) :
    lastLine (text ++ line) = lastLine text ++ line := by
  induction line using List.reverseRecOn with
  | nil => simp
  | append_singleton line character ih =>
      have earlier : '\n' ∉ line := fun member => feedless (List.mem_append_left _ member)
      have other : character ≠ '\n' := by
        rintro rfl
        exact feedless (by simp)
      rw [← List.append_assoc, lastLine_append_singleton _ other, ih earlier, List.append_assoc]

theorem lastLine_append_of_mem (text : Text) {ending : Text} (broken : '\n' ∈ ending) :
    lastLine (text ++ ending) = lastLine ending := by
  induction ending using List.reverseRecOn with
  | nil => simp at broken
  | append_singleton ending character ih =>
      rw [← List.append_assoc]
      by_cases feed : character = '\n'
      · subst feed
        simp [lastLine]
      · have earlier : '\n' ∈ ending := by
          simpa [Ne.symm feed] using broken
        rw [lastLine_append_singleton _ feed, lastLine_append_singleton _ feed, ih earlier]

theorem lastLine_of_not_mem {line : Text} (feedless : '\n' ∉ line) : lastLine line = line :=
  lastLine_append_of_not_mem [] feedless

theorem lastLine_cons_lineFeed (text : Text) : lastLine ('\n' :: text) = lastLine text := by
  by_cases broken : '\n' ∈ text
  · exact lastLine_append_of_mem ['\n'] broken
  · have behind := lastLine_append_of_not_mem ['\n'] broken
    rw [lastLine_of_not_mem broken]
    exact behind

theorem afterLineFeed?_append_of_not_mem {front : Text} (feedless : '\n' ∉ front) (rest : Text) :
    afterLineFeed? (front ++ rest) = afterLineFeed? rest := by
  induction front with
  | nil => rfl
  | cons character front ih =>
      rw [List.mem_cons, not_or] at feedless
      have other : (character == '\n') = false := by simpa using Ne.symm feedless.1
      rw [List.cons_append, afterLineFeed?, other]
      exact ih feedless.2

theorem dropCarriageReturn_append {front : Text} (kept : front.getLast? ≠ some '\r')
    (line : Text) : dropCarriageReturn (front ++ line) = front ++ dropCarriageReturn line := by
  cases line using List.reverseRecOn with
  | nil => simp [dropCarriageReturn, kept]
  | append_singleton line character =>
      rw [← List.append_assoc]
      by_cases isReturn : character = '\r'
      · simp [dropCarriageReturn, isReturn]
      · simp [dropCarriageReturn, isReturn]

theorem takeWhile_append_of_lineFeed_not_mem {front : Text} (feedless : '\n' ∉ front)
    (rest : Text) :
    (front ++ rest).takeWhile (· != '\n') = front ++ rest.takeWhile (· != '\n') := by
  refine List.takeWhile_append_of_pos fun character member => ?_
  have different : character ≠ '\n' := fun same => feedless (same ▸ member)
  simpa using different

/-- The first line of a document begins with what the document begins with, as long as this
holds no line feed and does not end in a carriage return. -/
theorem firstLine_append {front : Text} (feedless : '\n' ∉ front)
    (kept : front.getLast? ≠ some '\r') (rest : Text) :
    firstLine (front ++ rest) = front ++ firstLine rest := by
  simp only [firstLine, afterLineFeed?_append_of_not_mem feedless,
    takeWhile_append_of_lineFeed_not_mem feedless, dropCarriageReturn_append kept]
  split <;> rfl

theorem firstLine_isPrefix (text : Text) : firstLine text <+: text := by
  have beginning : text.takeWhile (· != '\n') <+: text := List.takeWhile_prefix _
  simp only [firstLine, dropCarriageReturn]
  split
  · split
    · exact (List.dropLast_prefix _).trans beginning
    · exact beginning
  · exact beginning

theorem lineAt?_succ_cons_of_ne {character : Char} (other : character ≠ '\n') (number : Nat)
    {rest : Text} (occupied : rest ≠ []) :
    lineAt? (number + 1) (character :: rest) = lineAt? (number + 1) rest := by
  have feedless : '\n' ∉ [character] := by simpa using Ne.symm other
  have passed : afterLineFeed? (character :: rest) = afterLineFeed? rest :=
    afterLineFeed?_append_of_not_mem feedless rest
  obtain ⟨next, rest, rfl⟩ := List.exists_cons_of_ne_nil occupied
  simp only [lineAt?, passed]

/-- The line with the number of a position begins where the line in front of the position
does. -/
theorem lineAt?_append (before : Text) {after : Text} (occupied : after ≠ []) :
    lineAt? (before.count '\n') (before ++ after) =
      some (firstLine (lastLine before ++ after)) := by
  induction before with
  | nil =>
      obtain ⟨character, rest, rfl⟩ := List.exists_cons_of_ne_nil occupied
      rfl
  | cons character before ih =>
      by_cases feed : character = '\n'
      · subst feed
        rw [List.count_cons_self, lastLine_cons_lineFeed]
        exact ih
      · have uncounted : (character :: before).count '\n' = before.count '\n' :=
          List.count_cons_of_ne feed
        by_cases broken : '\n' ∈ before
        · have shorter : lastLine (character :: before) = lastLine before :=
            lastLine_append_of_mem [character] broken
          obtain ⟨number, counted⟩ := Nat.exists_eq_succ_of_ne_zero
            (Nat.ne_of_gt (List.count_pos_iff.mpr broken))
          rw [counted] at ih
          rw [uncounted, counted, shorter, List.cons_append,
            lineAt?_succ_cons_of_ne feed number (by simp [occupied]), ih]
        · have whole : lastLine (character :: before) = character :: before :=
            lastLine_of_not_mem (by simp [Ne.symm feed, broken])
          rw [uncounted, List.count_eq_zero_of_not_mem broken, whole]
          rfl

/-- A column that measures the beginning of a line falls behind it. -/
theorem splitAtColumn_utf16Length (front rest : Text) :
    splitAtColumn front.utf16Length (front ++ rest) = (front, rest) := by
  induction front with
  | nil =>
      cases rest with
      | nil => rfl
      | cons character rest => simp [splitAtColumn, utf16Size_pos]
  | cons character front ih =>
      simp [splitAtColumn, ih]

theorem offsetOfColumn_utf16Length (front rest : Text) :
    offsetOfColumn (front ++ rest) front.utf16Length = front.byteLength := by
  rw [offsetOfColumn, splitAtColumn_utf16Length]

/-- An offset past the end has the position of the end. -/
theorem positionAt_min (text : Text) (offset : Nat) :
    text.positionAt (min offset text.byteLength) = text.positionAt offset := by
  have whole : (LineIndex.ofText text).text = text := rfl
  simp only [positionAt, LineIndex.position, whole, Nat.min_assoc, Nat.min_self]

theorem utf16Size_le_utf8Size (character : Char) :
    utf16Size character ≤ character.utf8Size := by
  have size := character.utf8Size_pos
  unfold utf16Size
  split
  · exact size
  · rename_i beyond
    have code : character.toNat = character.val.toNat := rfl
    simp only [Char.utf8Size, UInt32.le_iff_toNat_le]
    grind

theorem utf16Length_le_byteLength (text : Text) : text.utf16Length ≤ text.byteLength := by
  induction text with
  | nil => exact Nat.le_refl 0
  | cons character text ih =>
      have size := utf16Size_le_utf8Size character
      rw [utf16Length_cons, byteLength_cons]
      omega

theorem length_le_byteLength (text : Text) : text.length ≤ text.byteLength := by
  induction text with
  | nil => exact Nat.le_refl 0
  | cons character text ih =>
      have size := character.utf8Size_pos
      rw [List.length_cons, byteLength_cons]
      omega

/-- Lines and columns are counted in units of at least a byte each. -/
theorem line_column_le_byteLength (before : Text) :
    before.count '\n' ≤ before.byteLength ∧ before.lastLine.utf16Length ≤ before.byteLength := by
  constructor
  · exact List.count_le_length.trans before.length_le_byteLength
  · obtain ⟨earlier, split⟩ : before.lastLine <:+ before := List.rtakeWhile_suffix _ _
    have measured := before.lastLine.utf16Length_le_byteLength
    have shorter : before.lastLine.byteLength ≤ before.byteLength := by
      conv_rhs => rw [← split]
      rw [byteLength_append]
      omega
    omega

end Text

namespace LineIndex

/-- The index of a text finds the position of an offset, which counts as the end if it lies past
it, as the number of line feeds in front of it and the length in UTF-16 code units of what stands
behind the last of them.  Neither exceeds the number of bytes of the text.  Boundaries have the
order of their positions, so a span is ordered and two spans overlap exactly if their byte ranges
say so. -/
theorem position_follows_boundaries (text : Text) :
    let index := ofText text
    (∀ offset before after, text = before ++ after →
      before.byteLength = min offset text.byteLength →
        index.position offset = ⟨before.count '\n', before.lastLine.utf16Length⟩ ∧
          (index.position offset).line ≤ text.byteLength ∧
          (index.position offset).column ≤ text.byteLength) ∧
    (∀ first second, text.IsBoundary first → text.IsBoundary second →
      let firstAt := index.position first
      let secondAt := index.position second
      (first < second ↔
        firstAt.line < secondAt.line ∨
          (firstAt.line = secondAt.line ∧ firstAt.column < secondAt.column))) ∧
    (∀ range, text.HasBounds range →
      ((index.span range).isOrdered ↔ range.start ≤ range.stop)) ∧
    ∀ first second, text.HasBounds first → text.HasBounds second →
      ((index.span first).overlaps (index.span second) ↔
        first.start < second.stop ∧ second.start < first.stop) := by
  intro index
  refine ⟨?_, ?_, ?_, ?_⟩
  · rintro offset before after rfl reached
    have placed : index.position offset = ⟨before.count '\n', before.lastLine.utf16Length⟩ := by
      have clamped := Text.positionAt_min (before ++ after) offset
      rw [← reached, Text.positionAt_eq] at clamped
      exact clamped.symm
    have bounds := before.line_column_le_byteLength
    rw [placed, Text.byteLength_append]
    exact ⟨rfl, Nat.le_add_right_of_le bounds.1, Nat.le_add_right_of_le bounds.2⟩
  · intro first second firstBoundary secondBoundary
    rw [← Text.before_positionAt_iff firstBoundary secondBoundary, Position.before_iff]
    rfl
  · intro range bounds
    exact Text.isOrdered_spanOf_iff bounds
  · intro first second firstBounds secondBounds
    exact Text.overlaps_spanOf_iff firstBounds secondBounds

/-- The end of a line, the start of the next one and the two sides of a character outside the
basic plane, with an offset far past the end. -/
theorem position_follows_wide_boundaries :
    let text : Text := "é\n😀b".toList
    let index := ofText text
    index.position 100 = ⟨1, 3⟩ ∧
      (text.IsBoundary 3 ∧ text.IsBoundary 7 ∧ (index.position 3).line = 1 ∧
        (index.position 3).column < (index.position 7).column) ∧
      (index.span ⟨7, 3⟩).isOrdered = false ∧
      (index.span ⟨0, 7⟩).overlaps (index.span ⟨3, 8⟩) := by
  intro text index
  obtain ⟨placed, follows, ordered, overlap⟩ := position_follows_boundaries text
  have atStart : text.IsBoundary 0 := text.isBoundary_zero
  have behindFeed : text.IsBoundary 3 := ⟨"é\n".toList, "😀b".toList, by decide, by decide⟩
  have behindPair : text.IsBoundary 7 := ⟨"é\n😀".toList, "b".toList, by decide, by decide⟩
  have atEnd : text.IsBoundary 8 := ⟨text, [], by decide, by decide⟩
  have below : index.position 3 = ⟨1, 0⟩ :=
    (placed 3 "é\n".toList "😀b".toList (by decide) (by decide)).1
  have behind : index.position 7 = ⟨1, 2⟩ :=
    (placed 7 "é\n😀".toList "b".toList (by decide) (by decide)).1
  refine ⟨?_, ⟨behindFeed, behindPair, by rw [below], ?_⟩, ?_, ?_⟩
  · exact (placed 100 text [] (by simp) (by decide)).1
  · rcases (follows 3 7 behindFeed behindPair).mp (by decide) with lower | ⟨-, further⟩
    · exact absurd lower (by rw [below, behind]; decide)
    · exact further
  · rw [Bool.eq_false_iff]
    intro isOrdered
    exact absurd ((ordered ⟨7, 3⟩ ⟨behindPair, behindFeed⟩).mp isOrdered) (by decide)
  · exact (overlap ⟨0, 7⟩ ⟨3, 8⟩ ⟨atStart, behindPair⟩ ⟨behindFeed, atEnd⟩).mpr (by decide)

end LineIndex

end SelectorNavigation
