import SelectorNavigation.Proofs.Lines
import SelectorNavigation.Proofs.Runs

/-!
# Columns and places in a line

A column falls at the last place of the line in front of which it measures all characters.  So a
column behind the beginning of a line may lie inside a wide character, or behind the whole line,
and still fall at the end of that beginning.
-/

namespace SelectorNavigation

namespace Text

theorem splitAtColumn_isPrefix {first second : Nat} (notAfter : first ≤ second) (line : Text) :
    (splitAtColumn first line).1 <+: (splitAtColumn second line).1 := by
  induction line generalizing first second with
  | nil => exact List.nil_prefix
  | cons character line ih =>
      by_cases inFront : first < utf16Size character
      · rw [splitAtColumn, if_pos inFront]
        exact List.nil_prefix
      · have passed : ¬ second < utf16Size character := by omega
        rw [splitAtColumn, if_neg inFront, splitAtColumn, if_neg passed]
        exact List.cons_prefix_cons.mpr ⟨rfl, ih (by omega)⟩

theorem offsetOfColumn_mono {first second : Nat} (notAfter : first ≤ second) (line : Text) :
    offsetOfColumn line first ≤ offsetOfColumn line second := by
  obtain ⟨between, split⟩ := splitAtColumn_isPrefix notAfter line
  rw [offsetOfColumn, offsetOfColumn, ← split, byteLength_append]
  omega

/-- What stands in front of a column is not longer than the column tells. -/
theorem utf16Length_splitAtColumn_le (column : Nat) (line : Text) :
    (splitAtColumn column line).1.utf16Length ≤ column := by
  induction line generalizing column with
  | nil => exact Nat.zero_le _
  | cons character line ih =>
      rw [splitAtColumn]
      split
      · exact Nat.zero_le _
      · have shorter := ih (column - utf16Size character)
        rw [utf16Length_cons]
        omega

theorem utf16Size_eq_one_or_two (character : Char) :
    utf16Size character = 1 ∨ utf16Size character = 2 := by
  unfold utf16Size
  split
  · exact .inl rfl
  · exact .inr rfl

theorem isPrefix_splitAtColumn {front rest : Text} {column : Nat}
    (behind : front.byteLength ≤ offsetOfColumn (front ++ rest) column) :
    front <+: (splitAtColumn column (front ++ rest)).1 :=
  isPrefix_of_byteLength_le (List.prefix_append _ _)
    ⟨_, splitAtColumn_append column (front ++ rest)⟩ behind

/-- The columns that fall behind the beginning of a line are those that measure at least it. -/
theorem byteLength_le_offsetOfColumn_iff (front rest : Text) (column : Nat) :
    front.byteLength ≤ offsetOfColumn (front ++ rest) column ↔ front.utf16Length ≤ column := by
  constructor
  · intro behind
    obtain ⟨between, split⟩ := isPrefix_splitAtColumn behind
    have shorter := utf16Length_splitAtColumn_le column (front ++ rest)
    rw [← split, utf16Length_append] at shorter
    omega
  · intro measured
    have later := offsetOfColumn_mono measured (front ++ rest)
    rwa [offsetOfColumn_utf16Length] at later

/-- A column falls behind the next character only if it measures that character as well. -/
theorem offsetOfColumn_le_byteLength_iff (front rest : Text) (character : Char) (column : Nat) :
    offsetOfColumn (front ++ character :: rest) column ≤ front.byteLength ↔
      column < front.utf16Length + utf16Size character := by
  have next := byteLength_le_offsetOfColumn_iff (front ++ [character]) rest column
  simp only [List.append_assoc, List.singleton_append, byteLength_append, byteLength_cons,
    byteLength_nil, utf16Length_append, utf16Length_cons, utf16Length_nil] at next
  have size := character.utf8Size_pos
  constructor
  · intro inFront
    by_contra measured
    have behind := next.mpr (by omega)
    omega
  · intro unmeasured
    by_contra behind
    -- What the column measures goes on behind the beginning, hence with the character.
    obtain ⟨between, split⟩ := isPrefix_splitAtColumn (Nat.le_of_not_le behind)
    have whole := splitAtColumn_append column (front ++ character :: rest)
    rw [offsetOfColumn, ← split, byteLength_append] at next behind
    rw [← split, List.append_assoc] at whole
    cases between with
    | nil => simp at behind
    | cons first between =>
        obtain ⟨rfl, -⟩ := List.cons.inj (List.append_cancel_left whole)
        have measured := next.mp (by rw [byteLength_cons]; omega)
        omega

/-- The columns that fall at the end of the beginning of a line or in front of it: those that
measure at most it, the column inside a wide character behind it, and all columns if it is the
whole line. -/
theorem offsetOfColumn_append_le_iff (front rest : Text) (column : Nat) :
    offsetOfColumn (front ++ rest) column ≤ front.byteLength ↔
      column ≤ front.utf16Length ∨ rest = [] ∨
        column = front.utf16Length + 1 ∧ ∃ wide ∈ rest.head?, utf16Size wide = 2 := by
  cases rest with
  | nil =>
      have whole := splitAtColumn_append column (front ++ [])
      have length := congrArg byteLength whole
      simp only [byteLength_append, List.append_nil] at length
      simp only [List.append_nil, true_or, or_true, iff_true, offsetOfColumn]
      omega
  | cons character rest =>
      rw [offsetOfColumn_le_byteLength_iff]
      have sizes := utf16Size_eq_one_or_two character
      simp only [List.cons_ne_nil, false_or, List.head?_cons, Option.mem_some, exists_eq_left']
      omega

end Text

end SelectorNavigation
