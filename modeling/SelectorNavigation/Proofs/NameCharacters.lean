import SelectorNavigation.Selector.Matcher
import Mathlib.Data.List.TakeWhile

/-!
# Names and delimiters

The names that a declaration yields are non-empty runs of name characters.  No
delimiter of a usage is a name character, so a name in a template ends where its
run of name characters ends, and no delimiter lies inside it.
-/

namespace SelectorNavigation

/-- No range of one table meets a range of another. -/
def areDisjoint (first second : List (Nat × Nat)) : Bool :=
  first.all fun range => second.all fun other => range.2 < other.1 || other.2 < range.1

theorem inRanges_eq_false_of_areDisjoint {first second : List (Nat × Nat)}
    (disjoint : areDisjoint first second) {character : Char}
    (member : inRanges first character) : inRanges second character = false := by
  obtain ⟨range, rangeMem, inside⟩ := List.any_eq_true.mp member
  rw [inRanges, List.any_eq_false]
  intro other otherMem both
  have apart := List.all_eq_true.mp (List.all_eq_true.mp disjoint range rangeMem) other otherMem
  simp only [Bool.and_eq_true, Bool.or_eq_true, decide_eq_true_eq] at inside both apart
  omega

/-- The range of each of some characters. -/
def signRanges (characters : Text) : List (Nat × Nat) :=
  characters.map fun character => (character.toNat, character.toNat)

theorem inRanges_signRanges {characters : Text} {character : Char}
    (member : character ∈ characters) : inRanges (signRanges characters) character := by
  refine List.any_eq_true.mpr ⟨(character.toNat, character.toNat), ?_, by simp⟩
  exact List.mem_map.mpr ⟨character, member, rfl⟩

/-- A table without word characters and hyphens holds no name character. -/
theorem isNameChar_eq_false_of_inRanges {ranges : List (Nat × Nat)}
    (wordless : areDisjoint ranges wordRanges) (noHyphen : inRanges ranges '-' = false)
    {character : Char} (member : inRanges ranges character) : isNameChar character = false := by
  have notWord : isWordChar character = false :=
    inRanges_eq_false_of_areDisjoint wordless member
  have notHyphen : character ≠ '-' := by
    rintro rfl
    rw [noHyphen] at member
    contradiction
  simp [isNameChar, notWord, notHyphen]

theorem isNameChar_eq_false_of_isWhitespace {character : Char}
    (blank : isWhitespace character) : isNameChar character = false :=
  isNameChar_eq_false_of_inRanges (by decide +kernel) (by decide) blank

theorem isNameChar_eq_false_of_mem_signs (character : Char)
    (sign : character ∈ "<[(*>/=)],'\"\x60".toList) : isNameChar character = false :=
  isNameChar_eq_false_of_inRanges (by decide +kernel) (by decide) (inRanges_signRanges sign)

/-- A character with which a leading delimiter can begin. -/
def isOpening (character : Char) : Bool :=
  character == '<' || isWhitespace character || character == '[' || character == '*'

theorem isNameChar_eq_false_of_isOpening {character : Char}
    (opening : isOpening character) : isNameChar character = false := by
  simp only [isOpening, Bool.or_eq_true, beq_iff_eq] at opening
  rcases opening with ((rfl | blank) | rfl) | rfl
  · exact isNameChar_eq_false_of_mem_signs '<' (by decide)
  · exact isNameChar_eq_false_of_isWhitespace blank
  · exact isNameChar_eq_false_of_mem_signs '[' (by decide)
  · exact isNameChar_eq_false_of_mem_signs '*' (by decide)

namespace Alternative

/-- The name is a non-empty run of name characters. -/
def HasProperName (alternative : Alternative) : Prop :=
  alternative.name ≠ [] ∧ ∀ character ∈ alternative.name, isNameChar character

theorem isNameChar_eq_false_of_closes {alternative : Alternative} {character : Char}
    (closing : alternative.closes character) : isNameChar character = false := by
  cases alternative with
  | element name =>
      simp only [closes, Bool.or_eq_true, beq_iff_eq] at closing
      rcases closing with (rfl | rfl) | blank
      · exact isNameChar_eq_false_of_mem_signs '>' (by decide)
      · exact isNameChar_eq_false_of_mem_signs '/' (by decide)
      · exact isNameChar_eq_false_of_isWhitespace blank
  | attr name =>
      simp only [closes, Bool.or_eq_true, beq_iff_eq] at closing
      rcases closing with ((((rfl | rfl) | rfl) | rfl) | rfl) | blank
      · exact isNameChar_eq_false_of_mem_signs '=' (by decide)
      · exact isNameChar_eq_false_of_mem_signs '>' (by decide)
      · exact isNameChar_eq_false_of_mem_signs ')' (by decide)
      · exact isNameChar_eq_false_of_mem_signs ']' (by decide)
      · exact isNameChar_eq_false_of_mem_signs '/' (by decide)
      · exact isNameChar_eq_false_of_isWhitespace blank

private theorem hasProperName_of_takeWhile {make : Text → Alternative}
    (name_make : ∀ name, (make name).name = name) {text : Text} {alternative : Alternative}
    (built : (match text.takeWhile isNameChar with
      | [] => none
      | name => some (make name)) = some alternative) : alternative.HasProperName := by
  split at built
  · contradiction
  · rename_i occupied
    obtain rfl := Option.some.inj built
    rw [HasProperName, name_make]
    exact ⟨occupied, fun character member => List.mem_takeWhile_imp member⟩

theorem hasProperName_of_read? {part : Text} {alternative : Alternative}
    (read : read? part = some alternative) : alternative.HasProperName := by
  simp only [read?] at read
  split at read
  · exact hasProperName_of_takeWhile (fun _ => rfl) read
  · exact hasProperName_of_takeWhile (fun _ => rfl) read

end Alternative

namespace Matcher

def HasProperNames (matcher : Matcher) : Prop :=
  ∀ alternative ∈ matcher.alternatives, alternative.HasProperName

theorem hasProperNames_of_ofDeclaration? {declaration : Text} {matcher : Matcher}
    (compiled : ofDeclaration? declaration = some matcher) : matcher.HasProperNames := by
  obtain ⟨selector, _, built⟩ := Option.bind_eq_some_iff.mp compiled
  simp only [ofAlternatives?] at built
  split at built
  · obtain rfl := Option.some.inj built
    intro alternative member
    obtain ⟨part, _, read⟩ := List.mem_filterMap.mp member
    exact Alternative.hasProperName_of_read? read
  · contradiction

end Matcher

end SelectorNavigation
