import SelectorNavigation.Proofs.Positions
import SelectorNavigation.Proofs.Usages

/-!
# The searches of a scan

A scan searches a document again and again, each time from the end of the name that was
found last.  Every usage begins with a leading delimiter, so a name starts strictly behind
the place where its search began, even if the name is empty.  This makes the scan end, and
it keeps the names apart, whatever the alternatives are called.
-/

namespace SelectorNavigation

theorem Text.fromOffset_append (offset : Nat) (front rest : Text) :
    Text.fromOffset (offset + front.byteLength) offset (front ++ rest) =
      (offset + front.byteLength, rest) := by
  induction front generalizing offset with
  | nil => cases rest <;> simp [fromOffset]
  | cons character front ih =>
      have size := character.utf8Size_pos
      have unreached : ¬ offset + (character.utf8Size + byteLength front) ≤ offset := by omega
      rw [List.cons_append, byteLength_cons, fromOffset, if_neg unreached, ← Nat.add_assoc]
      exact ih (offset + character.utf8Size)

namespace Matcher

variable {matcher : Matcher} {text : Text} {offset cursor : Nat} {range : ByteRange}
  {cursors : List Nat} {ranges : List ByteRange}

/-- A search from a boundary only looks at the text behind it. -/
theorem search_append (matcher : Matcher) (front rest : Text) :
    matcher.search (front ++ rest) front.byteLength =
      .ok ((matcher.firstUsage? front.byteLength rest).map (·.1)) := by
  have inside : front.byteLength ≤ Text.byteLength (front ++ rest) + 1 := by
    rw [Text.byteLength_append]
    omega
  have reached := Text.fromOffset_append 0 front rest
  rw [Nat.zero_add] at reached
  rw [search, if_pos inside, findAt?, reached]

/-- The first usage divides the text around its name.  There is a delimiter on either
side, while the name itself may be empty. -/
theorem exists_split_of_firstUsage? {rest : Text}
    (found : matcher.firstUsage? offset text = some (range, rest)) :
    ∃ before name, text = before ++ name ++ rest ∧ before ≠ [] ∧ rest ≠ [] ∧
      range = ⟨offset + before.byteLength, offset + (before ++ name).byteLength⟩ := by
  induction text generalizing offset with
  | nil => simp [firstUsage?] at found
  | cons character tail ih =>
      simp only [firstUsage?] at found
      split at found
      · rename_i hit isHit
        simp only [Option.some.injEq, Prod.mk.injEq] at found
        obtain ⟨rfl, rfl⟩ := found
        obtain ⟨alternative, -, after, -, isLead, closed, split⟩ := exists_usage_of_hitAt? isHit
        obtain ⟨sign, others, lead_eq, -, -⟩ := isLead.shape
        obtain ⟨closing, later, rfl, -⟩ := Alternative.closed_iff.mp closed
        have behind : (character :: tail).drop hit.length = closing :: later := by
          rw [split, Hit.length, ← List.append_assoc, ← List.length_append, List.drop_left]
        refine ⟨hit.lead, hit.name, ?_, ?_, ?_, ?_⟩
        · rw [behind, split, List.append_assoc]
        · simp [lead_eq]
        · simp [behind]
        · simp [Hit.range, Nat.add_assoc]
      · obtain ⟨before, name, rfl, -, occupied, rfl⟩ := ih found
        refine ⟨character :: before, name, by simp, by simp, occupied, ?_⟩
        simp [Nat.add_assoc]

/-- A name that is found from a boundary starts strictly behind it. -/
theorem search_advances (boundary : text.IsBoundary cursor)
    (found : matcher.search text cursor = .ok (some range)) :
    cursor < range.start ∧ range.start ≤ range.stop ∧ text.HasBounds range := by
  obtain ⟨front, tail, rfl, rfl⟩ := boundary
  rw [search_append, Except.ok.injEq] at found
  obtain ⟨⟨_, rest⟩, isFirst, rfl⟩ := Option.map_eq_some_iff.mp found
  obtain ⟨before, name, rfl, led, -, rfl⟩ := exists_split_of_firstUsage? isFirst
  -- The leading delimiter takes at least one byte, which is all that progress rests on.
  have lead := Text.byteLength_pos led
  have startBoundary := Text.isBoundary_append (front ++ before) (name ++ rest)
  have stopBoundary := Text.isBoundary_append (front ++ (before ++ name)) rest
  simp only [Text.byteLength_append, List.append_assoc] at startBoundary stopBoundary ⊢
  exact ⟨by omega, by omega, startBoundary, stopBoundary⟩

/-- The searches of a scan from a cursor: where they start and the names they find.  The
scan goes on as long as the cursor stands in front of the end of the text. -/
inductive Run (matcher : Matcher) (text : Text) : Nat → List Nat → List ByteRange → Prop where
  | atEnd {cursor : Nat} (passed : text.byteLength ≤ cursor) : Run matcher text cursor [] []
  | missing {cursor : Nat} (inside : cursor < text.byteLength)
      (unfound : matcher.search text cursor = .ok none) : Run matcher text cursor [cursor] []
  | finding {cursor : Nat} {range : ByteRange} {cursors : List Nat} {ranges : List ByteRange}
      (inside : cursor < text.byteLength)
      (found : matcher.search text cursor = .ok (some range))
      (rest : Run matcher text range.stop cursors ranges) :
      Run matcher text cursor (cursor :: cursors) (range :: ranges)

theorem Run.isBoundary_of_mem (run : matcher.Run text cursor cursors ranges)
    (boundary : text.IsBoundary cursor) :
    ∀ visited ∈ cursors, cursor ≤ visited ∧ text.IsBoundary visited := by
  induction run with
  | atEnd => simp
  | missing => simpa using boundary
  | finding inside found rest ih =>
      obtain ⟨behind, ordered, -, stopBoundary⟩ := search_advances boundary found
      intro visited member
      rcases List.mem_cons.mp member with rfl | later
      · exact ⟨Nat.le_refl _, boundary⟩
      · obtain ⟨beyond, isBoundary⟩ := ih stopBoundary visited later
        exact ⟨by omega, isBoundary⟩

theorem Run.pairwise_cursors (run : matcher.Run text cursor cursors ranges)
    (boundary : text.IsBoundary cursor) : cursors.Pairwise (· < ·) := by
  induction run with
  | atEnd => exact List.Pairwise.nil
  | missing => exact List.pairwise_singleton _ _
  | finding inside found rest ih =>
      obtain ⟨behind, ordered, -, stopBoundary⟩ := search_advances boundary found
      refine List.pairwise_cons.mpr ⟨fun visited member => ?_, ih stopBoundary⟩
      have beyond := (rest.isBoundary_of_mem stopBoundary visited member).1
      omega

theorem Run.bounds_of_mem (run : matcher.Run text cursor cursors ranges)
    (boundary : text.IsBoundary cursor) :
    ∀ range ∈ ranges, cursor < range.start ∧ range.start ≤ range.stop ∧
      text.HasBounds range := by
  induction run with
  | atEnd | missing => simp
  | finding inside found rest ih =>
      have advanced := search_advances boundary found
      intro other member
      rcases List.mem_cons.mp member with rfl | later
      · exact advanced
      · obtain ⟨beyond, ordered, bounds⟩ := ih advanced.2.2.2 other later
        exact ⟨by omega, ordered, bounds⟩

theorem Run.pairwise_ranges (run : matcher.Run text cursor cursors ranges)
    (boundary : text.IsBoundary cursor) :
    ranges.Pairwise fun first second => first.stop < second.start := by
  induction run with
  | atEnd | missing => exact List.Pairwise.nil
  | finding inside found rest ih =>
      have stopBoundary := (search_advances boundary found).2.2.2
      refine List.pairwise_cons.mpr ⟨fun second member => ?_, ih stopBoundary⟩
      exact (rest.bounds_of_mem stopBoundary second member).1

/-- The scan comes to an end, with the ranges that are listed behind the cursor. -/
theorem exists_run_rangesFrom (front rest : Text) (atFront : offset = front.byteLength) :
    ∃ cursors, matcher.Run (front ++ rest) offset cursors (matcher.rangesFrom offset rest) := by
  fun_induction rangesFrom matcher offset rest generalizing front with
  | case1 offset rest unfound =>
      subst atFront
      by_cases inside : front.byteLength < Text.byteLength (front ++ rest)
      · have searched := search_append matcher front rest
        rw [unfound, Option.map_none] at searched
        exact ⟨_, .missing inside searched⟩
      · exact ⟨_, .atEnd (Nat.le_of_not_lt inside)⟩
  | case2 offset rest range tail found shorter ih =>
      subst atFront
      have searched := search_append matcher front rest
      rw [found, Option.map_some] at searched
      obtain ⟨before, name, rfl, led, -, rfl⟩ := exists_split_of_firstUsage? found
      have lead := Text.byteLength_pos led
      have inside : front.byteLength < Text.byteLength (front ++ (before ++ name ++ tail)) := by
        simp only [Text.byteLength_append]
        omega
      -- The next search has everything up to the end of the name in front of it.
      obtain ⟨cursors, run⟩ := ih (front ++ (before ++ name)) (by simp)
      rw [List.append_assoc front] at run
      exact ⟨_, .finding inside searched run⟩

/-- A scan ends after searches that each start at a boundary behind the one before.  It
finds names that stand apart, so their spans are ordered, come in the order of the document
and do not overlap. -/
theorem scan_advances_through_document (matcher : Matcher) (text : Text) :
    ∃ cursors, matcher.Run text 0 cursors (matcher.ranges text) ∧
      (∀ cursor ∈ cursors, text.IsBoundary cursor ∧ cursor ≤ text.byteLength) ∧
      cursors.Pairwise (· < ·) ∧
      ((matcher.ranges text).Pairwise fun first second => first.stop < second.start) ∧
      (∀ span ∈ matcher.scan text, span.isOrdered) ∧
      (matcher.scan text).Pairwise fun first second =>
        first.start.before second.start ∧ first.stop.before second.start ∧
          ¬ first.overlaps second ∧ ¬ second.overlaps first := by
  have ended : ∃ cursors, matcher.Run text 0 cursors (matcher.ranges text) :=
    exists_run_rangesFrom [] text rfl
  obtain ⟨cursors, run⟩ := ended
  have start := text.isBoundary_zero
  have apart := run.pairwise_ranges start
  have bounds := run.bounds_of_mem start
  rw [scan_eq_map]
  refine ⟨cursors, run, ?_, run.pairwise_cursors start, apart, ?_, ?_⟩
  · intro cursor member
    have boundary := (run.isBoundary_of_mem start cursor member).2
    exact ⟨boundary, boundary.le_byteLength⟩
  · intro span member
    obtain ⟨range, isRange, rfl⟩ := List.mem_map.mp member
    obtain ⟨-, ordered, rangeBounds⟩ := bounds range isRange
    exact (Text.isOrdered_spanOf_iff rangeBounds).mpr ordered
  · refine List.pairwise_map.mpr (apart.imp_of_mem ?_)
    intro first second firstMember secondMember separate
    obtain ⟨-, firstOrdered, firstBounds⟩ := bounds first firstMember
    obtain ⟨-, secondOrdered, secondBounds⟩ := bounds second secondMember
    refine ⟨?_, ?_, ?_, ?_⟩
    · exact (Text.before_positionAt_iff firstBounds.1 secondBounds.1).mpr (by omega)
    · exact (Text.before_positionAt_iff firstBounds.2 secondBounds.1).mpr separate
    · rw [Text.overlaps_spanOf_iff firstBounds secondBounds]
      omega
    · rw [Text.overlaps_spanOf_iff secondBounds firstBounds]
      omega

end Matcher

end SelectorNavigation
