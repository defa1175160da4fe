import SelectorNavigation.Json.Reader
import SelectorNavigation.Proofs.Columns
import Mathlib.Order.Bounds.Defs
import Mathlib.Order.Monotone.Defs

/-!
# Code units and boundaries

A line has two numberings.  Its boundaries are numbered by the bytes in front of them and its
columns are the code units of its UTF-16 encoding.  Measuring a boundary in code units and finding
the boundary of a column are adjoint: a boundary lies at or in front of that of a column exactly
if the column measures it.  So the boundary of a column is the greatest one that it measures.

Not every column is the measure of a boundary.  One behind the line is not, and neither is one
whose code unit is the second half of a surrogate pair.
-/

namespace SelectorNavigation

/-- The UTF-16 code units of a character, which are a surrogate pair outside the basic plane. -/
def codeUnits (character : Char) : List Nat :=
  let code := character.toNat
  if code < 0x10000 then [code]
  else [0xD800 + (code - 0x10000) / 0x400, 0xDC00 + (code - 0x10000) % 0x400]

@[simp]
theorem length_codeUnits (character : Char) :
    (codeUnits character).length = utf16Size character := by
  simp only [codeUnits, utf16Size]
  split <;> rfl

theorem codeUnits_of_narrow {character : Char} (narrow : utf16Size character = 1) :
    codeUnits character = [character.toNat] ∧
      Json.isTrailingSurrogate character.toNat = false := by
  have basic : character.toNat < 0x10000 := by
    by_contra beyond
    simp [utf16Size, beyond] at narrow
  have scalar : character.toNat < 0xD800 ∨
      0xDFFF < character.toNat ∧ character.toNat < 0x110000 := character.valid
  refine ⟨by simp [codeUnits, basic], ?_⟩
  simp only [Json.isTrailingSurrogate, Bool.and_eq_false_iff, decide_eq_false_iff_not]
  omega

/-- A character outside the basic plane is read back from the two halves of its pair. -/
theorem codeUnits_of_wide {character : Char} (wide : utf16Size character = 2) :
    ∃ leading trailing, codeUnits character = [leading, trailing] ∧
      Json.isTrailingSurrogate leading = false ∧ Json.isTrailingSurrogate trailing ∧
      Json.ofSurrogates leading trailing = character := by
  have beyond : ¬ character.toNat < 0x10000 := by
    intro basic
    simp [utf16Size, basic] at wide
  have scalar : character.toNat < 0xD800 ∨
      0xDFFF < character.toNat ∧ character.toNat < 0x110000 := character.valid
  refine ⟨_, _, by rw [codeUnits, if_neg beyond], ?_, ?_, ?_⟩
  · simp only [Json.isTrailingSurrogate, Bool.and_eq_false_iff, decide_eq_false_iff_not]
    omega
  · simp only [Json.isTrailingSurrogate, Bool.and_eq_true, decide_eq_true_eq]
    omega
  · have code : 0x10000 + 1024 * (0xD800 + (character.toNat - 0x10000) / 0x400 - 0xD800) +
        (0xDC00 + (character.toNat - 0x10000) % 0x400 - 0xDC00) = character.toNat := by
      omega
    rw [Json.ofSurrogates, code, Char.ofNat_toNat]

theorem any_isTrailingSurrogate_codeUnits_iff {character : Char} {index : Nat}
    (inside : index < utf16Size character) :
    (codeUnits character)[index]?.any Json.isTrailingSurrogate ↔ index = 1 := by
  rcases Text.utf16Size_eq_one_or_two character with narrow | wide
  · obtain ⟨units, notTrailing⟩ := codeUnits_of_narrow narrow
    obtain rfl : index = 0 := by omega
    simp [units, notTrailing]
  · obtain ⟨leading, trailing, units, notTrailing, isTrailing, -⟩ := codeUnits_of_wide wide
    obtain rfl | rfl : index = 0 ∨ index = 1 := by omega
    · simp [units, notTrailing]
    · simp [units, isTrailing]

namespace Text

/-- The UTF-16 encoding of a text. -/
def utf16 (text : Text) : List Nat :=
  text.flatMap codeUnits

@[simp]
theorem length_utf16 (text : Text) : (utf16 text).length = utf16Length text := by
  induction text with
  | nil => rfl
  | cons character text ih =>
      rw [utf16, List.flatMap_cons, List.length_append, ← utf16, ih, utf16Length_cons,
        length_codeUnits]

/-- The column lies between the two halves of a surrogate pair. -/
def splitsPair (line : Text) (column : Nat) : Bool :=
  (utf16 line)[column]?.any Json.isTrailingSurrogate

theorem splitsPair_of_le {line : Text} {column : Nat} (past : line.utf16Length ≤ column) :
    line.splitsPair column = false := by
  have outside : (utf16 line)[column]? = none := List.getElem?_eq_none (by rwa [length_utf16])
  rw [splitsPair, outside]
  rfl

theorem getElem?_utf16_append_cons (front rest : Text) {character : Char} {index : Nat}
    (inside : index < utf16Size character) :
    (utf16 (front ++ character :: rest))[front.utf16Length + index]? =
      (codeUnits character)[index]? := by
  rw [utf16, List.flatMap_append, List.flatMap_cons, ← utf16, ← utf16, ← length_utf16 front,
    List.getElem?_append_right (Nat.le_add_right _ _), Nat.add_sub_cancel_left,
    List.getElem?_append_left (by rwa [length_codeUnits])]

/-- Of the columns of a character, only the second splits a pair. -/
theorem splitsPair_append_cons_iff (front rest : Text) {character : Char} {column : Nat}
    (behind : front.utf16Length ≤ column)
    (inside : column < front.utf16Length + utf16Size character) :
    (front ++ character :: rest).splitsPair column ↔ column = front.utf16Length + 1 := by
  obtain ⟨index, rfl⟩ := Nat.exists_eq_add_of_le behind
  have within : index < utf16Size character := by omega
  rw [splitsPair, getElem?_utf16_append_cons front rest within,
    any_isTrailingSurrogate_codeUnits_iff within]
  omega

/-- What stands in front of a column measures as much as the column tells, unless the line is
shorter or the column splits a pair, which then is left out. -/
theorem utf16Length_splitAtColumn (column : Nat) (line : Text) :
    (splitAtColumn column line).1.utf16Length =
      if line.utf16Length < column then line.utf16Length
      else if line.splitsPair column then column - 1
      else column := by
  have whole := splitAtColumn_append column line
  have measured := utf16Length_splitAtColumn_le column line
  have offset : offsetOfColumn line column = (splitAtColumn column line).1.byteLength := rfl
  generalize (splitAtColumn column line).1 = front at *
  generalize (splitAtColumn column line).2 = rest at *
  subst whole
  -- Behind the column stands nothing, or a character that the column does not measure whole.
  cases rest with
  | nil =>
      rw [List.append_nil]
      split
      · rfl
      · rw [splitsPair_of_le measured, if_neg Bool.false_ne_true]
        omega
  | cons character rest =>
      have inside := (offsetOfColumn_le_byteLength_iff front rest character column).mp offset.le
      have short : ¬ (front ++ character :: rest).utf16Length < column := by
        rw [utf16Length_append, utf16Length_cons]
        omega
      have sizes := utf16Size_eq_one_or_two character
      have second := splitsPair_append_cons_iff front rest measured inside
      rw [if_neg short]
      by_cases splits : (front ++ character :: rest).splitsPair column
      · rw [if_pos splits]
        have behindFirst := second.mp splits
        omega
      · rw [if_neg splits]
        have notSecond := mt second.mpr splits
        omega

/-- The characters that end at a byte offset of the text or in front of it. -/
def upToOffset : Nat → Text → Text
  | _, [] => []
  | offset, character :: rest =>
      if offset < character.utf8Size then []
      else character :: upToOffset (offset - character.utf8Size) rest

@[simp]
theorem upToOffset_append (front rest : Text) :
    (front ++ rest).upToOffset front.byteLength = front := by
  induction front with
  | nil =>
      cases rest with
      | nil => rfl
      | cons character rest => simp [upToOffset, character.utf8Size_pos]
  | cons character front ih => simp [upToOffset, ih]

theorem isBoundary_offsetOfColumn (line : Text) (column : Nat) :
    line.IsBoundary (line.offsetOfColumn column) :=
  ⟨_, _, (splitAtColumn_append column line).symm, rfl⟩

theorem upToOffset_offsetOfColumn (line : Text) (column : Nat) :
    line.upToOffset (line.offsetOfColumn column) = (splitAtColumn column line).1 := by
  have inFront := upToOffset_append (splitAtColumn column line).1 (splitAtColumn column line).2
  rwa [splitAtColumn_append] at inFront

/-- A boundary lies at or in front of that of a column exactly if the column measures it. -/
theorem le_offsetOfColumn_iff {line : Text} {offset : Nat} (boundary : line.IsBoundary offset)
    (column : Nat) :
    offset ≤ line.offsetOfColumn column ↔ (line.upToOffset offset).utf16Length ≤ column := by
  obtain ⟨front, rest, rfl, rfl⟩ := boundary
  rw [upToOffset_append]
  exact byteLength_le_offsetOfColumn_iff front rest column

/-- A column falls at the greatest boundary of the line that it measures.  Hence a later column
falls no earlier, the measure of a boundary falls at that boundary, and what stands in front of
where a column falls measures as much as the column, except that a column behind the line measures
the line, and one that splits a surrogate pair measures one less. -/
theorem offsetOfColumn_finds_greatest_boundary (line : Text) :
    (∀ column,
      IsGreatest
        {offset | line.IsBoundary offset ∧ (line.upToOffset offset).utf16Length ≤ column}
        (line.offsetOfColumn column)) ∧
    Monotone line.offsetOfColumn ∧
    (∀ offset, line.IsBoundary offset →
      line.offsetOfColumn (line.upToOffset offset).utf16Length = offset) ∧
    ∀ column,
      (line.upToOffset (line.offsetOfColumn column)).utf16Length =
        if line.utf16Length < column then line.utf16Length
        else if line.splitsPair column then column - 1
        else column := by
  refine ⟨?_, ?_, ?_, ?_⟩
  · intro column
    have boundary := isBoundary_offsetOfColumn line column
    constructor
    · exact ⟨boundary, (le_offsetOfColumn_iff boundary column).mp (Nat.le_refl _)⟩
    · rintro offset ⟨another, measured⟩
      exact (le_offsetOfColumn_iff another column).mpr measured
  · intro first second notAfter
    exact offsetOfColumn_mono notAfter line
  · rintro offset ⟨front, rest, rfl, rfl⟩
    rw [upToOffset_append, offsetOfColumn_utf16Length]
  · intro column
    rw [upToOffset_offsetOfColumn, utf16Length_splitAtColumn]

/-- The columns around a surrogate pair: the one that splits it falls no earlier than in front of
it and measures one less, the next one falls behind it, and one behind the line measures it. -/
theorem offsetOfColumn_finds_boundaries_of_pair :
    let line : Text := "a😀b".toList
    (line.IsBoundary 1 ∧ (line.upToOffset 1).utf16Length ≤ 2 ∧ 1 ≤ line.offsetOfColumn 2) ∧
      line.offsetOfColumn 2 ≤ line.offsetOfColumn 3 ∧
      (line.IsBoundary 5 ∧ line.offsetOfColumn (line.upToOffset 5).utf16Length = 5) ∧
      (line.splitsPair 2 ∧ (line.upToOffset (line.offsetOfColumn 2)).utf16Length = 1) ∧
      line.utf16Length < 99 ∧ (line.upToOffset (line.offsetOfColumn 99)).utf16Length = 4 := by
  intro line
  obtain ⟨greatest, monotone, inverts, measures⟩ := offsetOfColumn_finds_greatest_boundary line
  have inFront : line.IsBoundary 1 := ⟨"a".toList, "😀b".toList, by decide, by decide⟩
  have behind : line.IsBoundary 5 := ⟨"a😀".toList, "b".toList, by decide, by decide⟩
  have measured : (line.upToOffset 1).utf16Length ≤ 2 := by decide
  refine ⟨⟨inFront, measured, ?_⟩, ?_, ⟨behind, ?_⟩, ⟨by decide, ?_⟩, by decide, ?_⟩
  · exact (greatest 2).2 ⟨inFront, measured⟩
  · exact monotone (by decide)
  · exact inverts 5 behind
  · exact measures 2
  · exact measures 99

end Text

end SelectorNavigation
