import SelectorNavigation.Proofs.Positions
import Mathlib.Data.List.DropRight

/-!
# Runs of characters

A run of a class of characters in a line is a stretch of members that cannot be extended on
either side.  Two runs that touch one place are the same, so asking for the run at a column
has at most one answer.
-/

namespace SelectorNavigation

namespace Text

theorem isPrefix_of_byteLength_le {first second text : Text} (firstPrefix : first <+: text)
    (secondPrefix : second <+: text) (shorter : first.byteLength ≤ second.byteLength) :
    first <+: second := by
  rcases List.prefix_or_prefix_of_prefix firstPrefix secondPrefix with fits | ⟨excess, rfl⟩
  · exact fits
  · have empty : excess = [] := by
      by_contra occupied
      have size := byteLength_pos occupied
      rw [byteLength_append] at shorter
      omega
    exact ⟨[], by simp [empty]⟩

/-- The bytes of a range are those of a run of members of a class that cannot be extended. -/
def IsRun (isMember : Char → Bool) (text : Text) (range : ByteRange) : Prop :=
  ∃ before run after, text = before ++ run ++ after ∧
    range = ⟨before.byteLength, (before ++ run).byteLength⟩ ∧
    run ≠ [] ∧ (∀ character ∈ run, isMember character) ∧
    (∀ character ∈ before.getLast?, ¬ isMember character) ∧
    ∀ character ∈ after.head?, ¬ isMember character

section

variable {isMember : Char → Bool} {before after front run back : Text}

/-- In front of a place inside some members, or at their end, stands a member. -/
theorem exists_member_before (same : before ++ after = front ++ run ++ back)
    (members : ∀ character ∈ run, isMember character)
    (behind : front.byteLength < before.byteLength)
    (inside : before.byteLength ≤ (front ++ run).byteLength) :
    ∃ character ∈ before.getLast?, isMember character := by
  have beforePrefix : before <+: front ++ run ++ back := ⟨after, same⟩
  have frontPrefix : front <+: front ++ run ++ back := ⟨run ++ back, by simp⟩
  obtain ⟨gap, rfl⟩ := isPrefix_of_byteLength_le frontPrefix beforePrefix (by omega)
  have gapPrefix : gap <+: run := by
    have extended := isPrefix_of_byteLength_le beforePrefix (List.prefix_append _ back) inside
    exact (List.prefix_append_right_inj front).mp extended
  have occupied : gap ≠ [] := by
    rintro rfl
    simp at behind
  refine ⟨gap.getLast occupied, ?_, members _ (gapPrefix.subset (List.getLast_mem occupied))⟩
  simp [List.getLast?_append, List.getLast?_eq_some_getLast occupied]

/-- Behind a place at the start of some members, or inside them, stands a member. -/
theorem exists_member_after (same : before ++ after = front ++ run ++ back)
    (members : ∀ character ∈ run, isMember character)
    (notBefore : front.byteLength ≤ before.byteLength)
    (inside : before.byteLength < (front ++ run).byteLength) :
    ∃ character ∈ after.head?, isMember character := by
  have beforePrefix : before <+: front ++ run ++ back := ⟨after, same⟩
  have frontPrefix : front <+: front ++ run ++ back := ⟨run ++ back, by simp⟩
  obtain ⟨gap, rfl⟩ := isPrefix_of_byteLength_le frontPrefix beforePrefix notBefore
  have gapPrefix : gap <+: run := by
    have extended := isPrefix_of_byteLength_le beforePrefix (List.prefix_append _ back)
      (Nat.le_of_lt inside)
    exact (List.prefix_append_right_inj front).mp extended
  obtain ⟨rest, rfl⟩ := gapPrefix
  have remaining : after = rest ++ back := by simpa using same
  cases rest with
  | nil => simp at inside
  | cons character rest => exact ⟨character, by simp [remaining], members character (by simp)⟩

end

variable {isMember : Char → Bool} {line : Text} {first second : ByteRange}

theorem IsRun.eq_of_touching (isFirst : line.IsRun isMember first)
    (isSecond : line.IsRun isMember second) {offset : Nat}
    (firstTouches : first.start ≤ offset ∧ offset ≤ first.stop)
    (secondTouches : second.start ≤ offset ∧ offset ≤ second.stop) : first = second := by
  obtain ⟨firstBefore, firstRun, firstAfter, rfl, rfl, -, firstMembers, firstOpen, firstClose⟩ :=
    isFirst
  obtain ⟨secondBefore, secondRun, secondAfter, same, rfl, -, secondMembers, secondOpen,
    secondClose⟩ := isSecond
  dsimp only at firstTouches secondTouches
  have sameStart : firstBefore.byteLength = secondBefore.byteLength := by
    rcases Nat.lt_trichotomy firstBefore.byteLength secondBefore.byteLength with less | equal | less
    · obtain ⟨character, isLast, member⟩ := exists_member_before
        (by simpa using same.symm) firstMembers less (by omega)
      exact absurd member (secondOpen character isLast)
    · exact equal
    · obtain ⟨character, isLast, member⟩ := exists_member_before
        (by simpa using same) secondMembers less (by omega)
      exact absurd member (firstOpen character isLast)
  have sameStop : (firstBefore ++ firstRun).byteLength = (secondBefore ++ secondRun).byteLength := by
    rcases Nat.lt_trichotomy (firstBefore ++ firstRun).byteLength
      (secondBefore ++ secondRun).byteLength with less | equal | less
    · obtain ⟨character, isHead, member⟩ := exists_member_after same secondMembers (by omega) less
      exact absurd member (firstClose character isHead)
    · exact equal
    · obtain ⟨character, isHead, member⟩ := exists_member_after same.symm firstMembers
        (by omega) less
      exact absurd member (secondClose character isHead)
  rw [sameStart, sameStop]

/-- The run of members around a place, from the texts on its two sides. -/
def runAround? (isMember : Char → Bool) (before after : Text) : Option ByteRange :=
  let right := after.takeWhile isMember
  if before.rtakeWhile isMember ++ right = [] then none
  else some ⟨byteLength (before.rdropWhile isMember), byteLength (before ++ right)⟩

/-- The run of members of a class that touches a column of a line. -/
def runAt? (isMember : Char → Bool) (line : Text) (column : Nat) : Option ByteRange :=
  runAround? isMember (line.splitAtColumn column).1 (line.splitAtColumn column).2

theorem isRun_of_runAround? {before after : Text} {range : ByteRange}
    (found : runAround? isMember before after = some range) :
    IsRun isMember (before ++ after) range ∧ range.start ≤ before.byteLength ∧
      before.byteLength ≤ range.stop := by
  simp only [runAround?] at found
  split at found
  · contradiction
  · rename_i occupied
    obtain rfl := Option.some.inj found
    have leftSplit : before.rdropWhile isMember ++ before.rtakeWhile isMember = before :=
      List.rdropWhile_append_rtakeWhile
    have rightSplit : after.takeWhile isMember ++ after.dropWhile isMember = after :=
      List.takeWhile_append_dropWhile
    refine ⟨⟨before.rdropWhile isMember, before.rtakeWhile isMember ++ after.takeWhile isMember,
      after.dropWhile isMember, ?_, ?_, occupied, ?_, ?_, ?_⟩, ?_, ?_⟩
    · rw [← List.append_assoc, leftSplit, List.append_assoc, rightSplit]
    · rw [← List.append_assoc, leftSplit]
    · intro character member
      rcases List.mem_append.mp member with onLeft | onRight
      · exact List.mem_rtakeWhile_imp onLeft
      · exact List.mem_takeWhile_imp onRight
    · intro character isLast
      obtain ⟨others, ending⟩ := List.getLast?_eq_some_iff.mp isLast
      have stopped := List.rdropWhile_last_not isMember before (by simp [ending])
      simpa [ending] using stopped
    · intro character isHead
      have stopped := List.head?_dropWhile_not isMember after
      rw [Option.mem_def.mp isHead] at stopped
      simpa using stopped
    · dsimp only
      conv_rhs => rw [← leftSplit]
      rw [byteLength_append]
      omega
    · dsimp only
      rw [byteLength_append]
      omega

theorem not_touches_of_runAround? {before after : Text} {range : ByteRange}
    (missing : runAround? isMember before after = none)
    (isRun : IsRun isMember (before ++ after) range) :
    ¬ (range.start ≤ before.byteLength ∧ before.byteLength ≤ range.stop) := by
  have unsurrounded : before.rtakeWhile isMember ++ after.takeWhile isMember = [] := by
    by_contra occupied
    simp [runAround?, occupied] at missing
  obtain ⟨onLeft, onRight⟩ := List.append_eq_nil_iff.mp unsurrounded
  obtain ⟨front, run, back, same, rfl, nonempty, members, -, -⟩ := isRun
  rintro ⟨notBefore, notBehind⟩
  dsimp only at notBefore notBehind
  rcases Nat.lt_or_eq_of_le notBefore with behind | atStart
  · obtain ⟨character, isLast, member⟩ := exists_member_before same members behind notBehind
    obtain ⟨others, rfl⟩ := List.getLast?_eq_some_iff.mp isLast
    simp [List.rtakeWhile_concat_pos _ _ _ member] at onLeft
  · have size := byteLength_pos nonempty
    have inside : before.byteLength < (front ++ run).byteLength := by
      rw [byteLength_append]
      omega
    obtain ⟨character, isHead, member⟩ := exists_member_after same members notBefore inside
    obtain ⟨others, rfl⟩ := List.head?_eq_some_iff.mp isHead
    simp [List.takeWhile_cons_of_pos member] at onRight

/-- Asking for the run at a column gives the run that touches the place of the column. -/
theorem runAt?_eq_some_iff {column : Nat} {range : ByteRange} :
    runAt? isMember line column = some range ↔
      line.IsRun isMember range ∧ range.start ≤ line.offsetOfColumn column ∧
        line.offsetOfColumn column ≤ range.stop := by
  have whole := splitAtColumn_append column line
  rw [runAt?, offsetOfColumn]
  generalize (line.splitAtColumn column).1 = before at *
  generalize (line.splitAtColumn column).2 = after at *
  subst whole
  constructor
  · exact isRun_of_runAround?
  · rintro ⟨isRun, touches⟩
    cases answer : runAround? isMember before after with
    | some other =>
        obtain ⟨isOther, otherTouches⟩ := isRun_of_runAround? answer
        rw [isOther.eq_of_touching isRun otherTouches touches]
    | none => exact absurd touches (not_touches_of_runAround? answer isRun)

end Text

end SelectorNavigation
