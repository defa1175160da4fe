import SelectorNavigation.Proofs.Lines
import SelectorNavigation.Proofs.Lists
import SelectorNavigation.Proofs.Usages

/-!
# Usages on the two sides of a line break

A blank character can close one usage and open the next, but it never stands inside of one.
So a scan can be cut at a blank that both parts keep: each usage lies in one of them, with
both its delimiters.  Where the blank is a line feed, the columns behind it do not depend on
what stands in front, and the lines differ by the number of line feeds there.
-/

namespace SelectorNavigation

/-- The range of the same bytes, counted from a place further in front. -/
def ByteRange.shift (distance : Nat) (range : ByteRange) : ByteRange :=
  ⟨distance + range.start, distance + range.stop⟩

/-- The position in the same column some lines below. -/
def Position.down (lines : Nat) (position : Position) : Position :=
  ⟨position.line + lines, position.column⟩

/-- The span in the same columns some lines below. -/
def Span.down (lines : Nat) (span : Span) : Span :=
  ⟨span.start.down lines, span.stop.down lines⟩

namespace Text

variable {text first second : Text} {range : ByteRange} {offset : Nat}

theorem IsBoundary.positionAt_append (boundary : text.IsBoundary offset) (more : Text) :
    (text ++ more).positionAt offset = text.positionAt offset := by
  obtain ⟨before, after, rfl, rfl⟩ := boundary
  rw [List.append_assoc, positionAt_eq, positionAt_eq]

theorem HasBounds.spanOf_append (bounds : text.HasBounds range) (more : Text) :
    (text ++ more).spanOf range = text.spanOf range := by
  rw [spanOf, bounds.1.positionAt_append, bounds.2.positionAt_append, spanOf]

/-- Behind a line feed, the text in front of it only adds to the number of the line. -/
theorem IsBoundary.positionAt_below (boundary : Text.IsBoundary ('\n' :: second) offset)
    (behind : 0 < offset) (first : Text) :
    Text.positionAt (first ++ '\n' :: second) (first.byteLength + offset) =
      (Text.positionAt ('\n' :: second) offset).down (first.count '\n') := by
  obtain ⟨before, after, split, rfl⟩ := boundary
  have broken : '\n' ∈ before := by
    cases before with
    | nil => simp at behind
    | cons character before =>
        obtain ⟨rfl, -⟩ := List.cons.inj split
        exact List.mem_cons_self
  rw [split, ← List.append_assoc, ← byteLength_append, positionAt_eq, positionAt_eq,
    lastLine_append_of_mem first broken, List.count_append, Position.down, Nat.add_comm]

theorem HasBounds.spanOf_below (bounds : Text.HasBounds ('\n' :: second) range)
    (startBehind : 0 < range.start) (stopBehind : 0 < range.stop) (first : Text) :
    Text.spanOf (first ++ '\n' :: second) (range.shift first.byteLength) =
      (Text.spanOf ('\n' :: second) range).down (first.count '\n') := by
  simp only [spanOf, ByteRange.shift, Span.down, bounds.1.positionAt_below startBehind,
    bounds.2.positionAt_below stopBehind]

end Text

/-- Whether a text closes a name depends on its first character alone. -/
theorem Alternative.closed_congr {alternative : Alternative} {after other : Text}
    (sameHead : after.head? = other.head?) :
    alternative.Closed after ↔ alternative.Closed other := by
  cases alternative <;> simp only [Closed, sameHead]

namespace Matcher

variable {matcher : Matcher} {text first second : Text} {range : ByteRange} {offset : Nat}

theorem pairwise_start_rangesFrom (proper : matcher.HasProperNames) :
    (matcher.rangesFrom offset text).Pairwise fun first second =>
      first.start < second.start := by
  refine (pairwise_rangesFrom proper).imp_of_mem ?_
  intro first second isFirst _ apart
  have occupied := (((mem_rangesFrom_iff proper).mp isFirst).bounds proper).2
  omega

/-- Only one list holds the usages of a text from left to right, and a scan gives it. -/
theorem rangesFrom_eq_of_mem_iff (proper : matcher.HasProperNames) {ranges : List ByteRange}
    (ordered : ranges.Pairwise fun first second => first.start < second.start)
    (members : ∀ range, range ∈ ranges ↔ matcher.UsageIn offset text range) :
    matcher.rangesFrom offset text = ranges := by
  refine eq_of_pairwise_of_mem_iff (fun _ _ => Nat.lt_asymm) (pairwise_start_rangesFrom proper)
    ordered fun range => ?_
  rw [mem_rangesFrom_iff proper, members]

theorem rangesFrom_add (proper : matcher.HasProperNames) (distance offset : Nat) (text : Text) :
    matcher.rangesFrom (distance + offset) text =
      (matcher.rangesFrom offset text).map (ByteRange.shift distance) := by
  refine rangesFrom_eq_of_mem_iff proper ?_ fun range => ?_
  · refine List.pairwise_map.mpr ((pairwise_start_rangesFrom proper).imp ?_)
    intro first second less
    exact Nat.add_lt_add_left less distance
  · simp only [List.mem_map, mem_rangesFrom_iff proper]
    constructor
    · rintro ⟨_, ⟨alternative, member, front, lead, after, split, isLead, closed, rfl⟩, rfl⟩
      exact ⟨alternative, member, front, lead, after, split, isLead, closed,
        by simp [ByteRange.shift, Hit.range, Nat.add_assoc]⟩
    · rintro ⟨alternative, member, front, lead, after, split, isLead, closed, rfl⟩
      exact ⟨_, ⟨alternative, member, front, lead, after, split, isLead, closed, rfl⟩,
        by simp [ByteRange.shift, Hit.range, Nat.add_assoc]⟩

/-- A usage in the text up to a blank ends in front of the blank. -/
theorem UsageIn.stop_le {blank : Char}
    (usage : matcher.UsageIn offset (first ++ [blank]) range) :
    range.stop ≤ offset + first.byteLength := by
  obtain ⟨alternative, -, front, lead, after, split, -, closed, rfl⟩ := usage
  obtain ⟨closing, rest, rfl, -⟩ := Alternative.closed_iff.mp closed
  have named : front ++ lead ++ alternative.name <+: first ++ [blank] :=
    ⟨closing :: rest, by simp [split]⟩
  rcases List.prefix_concat_iff.mp named with whole | ⟨more, rfl⟩
  · -- The closing delimiter takes at least the last character.
    rw [← whole] at split
    have lengths := congrArg List.length split
    simp only [List.length_append, List.length_cons] at lengths
    omega
  · simp only [Hit.range, Text.byteLength_append]
    omega

/-- A blank stands in no usage other than as a delimiter, and then it does so for the usages
on either side. -/
theorem usageIn_append_blank_iff (proper : matcher.HasProperNames) {blank : Char}
    (isBlank : isWhitespace blank) :
    matcher.UsageIn offset (first ++ blank :: second) range ↔
      matcher.UsageIn offset (first ++ [blank]) range ∨
        matcher.UsageIn (offset + first.byteLength) (blank :: second) range := by
  constructor
  · rintro ⟨alternative, member, front, lead, after, split, isLead, closed, rfl⟩
    rcases List.append_eq_append_iff.mp split with ⟨gap, rfl, behind⟩ | ⟨gap, rfl, behind⟩
    · exact .inr ⟨alternative, member, gap, lead, after, behind, isLead, closed,
        by simp [Nat.add_assoc]⟩
    · cases gap with
      | nil =>
          exact .inr ⟨alternative, member, [], lead, after, by simpa using behind.symm, isLead,
            closed, by simp⟩
      | cons sign gap =>
          left
          obtain ⟨opening, others, rfl, -, shape⟩ := isLead.shape
          obtain ⟨rfl, rest⟩ := List.cons.inj behind
          have opens : isOpening blank := by simp [isOpening, isBlank]
          have same : gap ++ blank :: second = others ++ alternative.name ++ after := by
            simpa using rest.symm
          obtain ⟨beyond, rfl, rfl⟩ := exists_append_of_not_isOpening opens
            (not_isOpening_of_mem (proper alternative member) shape) same
          have closedStill : alternative.Closed (beyond ++ [blank]) :=
            (Alternative.closed_congr (by cases beyond <;> rfl)).mp closed
          exact ⟨alternative, member, front, opening :: others, beyond ++ [blank], by simp,
            isLead, closedStill, rfl⟩
  · rintro (⟨alternative, member, front, lead, after, split, isLead, closed, rfl⟩ |
      ⟨alternative, member, front, lead, after, split, isLead, closed, rfl⟩)
    · obtain ⟨closing, rest, rfl, -⟩ := Alternative.closed_iff.mp closed
      have sameHead : (closing :: rest).head? = (closing :: rest ++ second).head? := rfl
      have closedStill := (Alternative.closed_congr sameHead).mp closed
      have extended := congrArg (· ++ second) split
      exact ⟨alternative, member, front, lead, closing :: rest ++ second, by simpa using extended,
        isLead, closedStill, rfl⟩
    · exact ⟨alternative, member, first ++ front, lead, after, by simp [split], isLead, closed,
        by simp [Nat.add_assoc]⟩

/-- A scan can be cut at a blank that both of its parts keep. -/
theorem rangesFrom_append_blank (proper : matcher.HasProperNames) {blank : Char}
    (isBlank : isWhitespace blank) :
    matcher.rangesFrom offset (first ++ blank :: second) =
      matcher.rangesFrom offset (first ++ [blank]) ++
        matcher.rangesFrom (offset + first.byteLength) (blank :: second) := by
  refine rangesFrom_eq_of_mem_iff proper ?_ fun range => ?_
  · refine List.pairwise_append.mpr ⟨pairwise_start_rangesFrom proper,
      pairwise_start_rangesFrom proper, ?_⟩
    intro earlier isEarlier later isLater
    have earlierUsage := (mem_rangesFrom_iff proper).mp isEarlier
    have laterUsage := (mem_rangesFrom_iff proper).mp isLater
    have ended := earlierUsage.stop_le
    have occupied := (earlierUsage.bounds proper).2
    have begun := (laterUsage.bounds proper).1
    omega
  · rw [List.mem_append, mem_rangesFrom_iff proper, mem_rangesFrom_iff proper]
    exact (usageIn_append_blank_iff proper isBlank).symm

theorem hasBounds_of_mem_ranges (proper : matcher.HasProperNames)
    (member : range ∈ matcher.ranges text) : text.HasBounds range := by
  obtain ⟨alternative, -, before, after, rfl, rfl, -, -⟩ :=
    exists_isUsage_iff.mpr ((mem_rangesFrom_iff proper).mp member)
  have startBoundary := Text.isBoundary_append before (alternative.name ++ after)
  rw [← List.append_assoc] at startBoundary
  exact ⟨startBoundary, Text.isBoundary_append (before ++ alternative.name) after⟩

/-- The scan for a declared selector can be cut at a line feed that both parts keep.  The
usages behind it are those of the second part, further down by the lines in front. -/
theorem scan_append_lineFeed {declaration : Text} {matcher : Matcher}
    (compiled : ofDeclaration? declaration = some matcher) (first second : Text) :
    matcher.scan (first ++ '\n' :: second) =
      matcher.scan (first ++ ['\n']) ++
        (matcher.scan ('\n' :: second)).map (Span.down (first.count '\n')) := by
  have proper := hasProperNames_of_ofDeclaration? compiled
  have cut : matcher.ranges (first ++ '\n' :: second) =
      matcher.ranges (first ++ ['\n']) ++
        (matcher.ranges ('\n' :: second)).map (ByteRange.shift first.byteLength) := by
    have isBlank : isWhitespace '\n' := by decide
    rw [ranges, rangesFrom_append_blank proper isBlank, Nat.add_comm, rangesFrom_add proper]
    rfl
  simp only [scan_eq_map, cut, List.map_append, List.map_map]
  congr 1
  · refine List.map_congr_left fun range member => ?_
    have bounds := hasBounds_of_mem_ranges proper member
    have kept := bounds.spanOf_append second
    rwa [List.append_assoc, List.singleton_append] at kept
  · refine List.map_congr_left fun range member => ?_
    have bounds := hasBounds_of_mem_ranges proper member
    have behind := ((mem_rangesFrom_iff proper).mp member).bounds proper
    exact bounds.spanOf_below behind.1 (by omega) first

/-- A line feed that closes one usage and opens the next keeps both when the scan is cut
there. -/
theorem scan_cut_between_attributes :
    ∃ matcher, ofDeclaration? "selector: '[a]'".toList = some matcher ∧
      ⟨⟨1, 3⟩, ⟨1, 4⟩⟩ ∈ matcher.scan "\n<x a\n".toList ∧
      ⟨⟨1, 0⟩, ⟨1, 1⟩⟩ ∈ matcher.scan "\na>".toList ∧
      matcher.scan "\n<x a\na>".toList =
        matcher.scan "\n<x a\n".toList ++ (matcher.scan "\na>".toList).map (Span.down 1) := by
  have compiled : ofDeclaration? "selector: '[a]'".toList =
      some ⟨[.attr ['a']], by simp⟩ := by decide +kernel
  have proper := hasProperNames_of_ofDeclaration? compiled
  have closing : Alternative.IsUsage (.attr ['a']) "\n<x a\n".toList ⟨4, 5⟩ :=
    ⟨"\n<x ".toList, ['\n'], by decide, by decide, .inl ⟨' ', by decide, by decide⟩,
      '\n', by decide, by decide⟩
  have opening : Alternative.IsUsage (.attr ['a']) "\na>".toList ⟨1, 2⟩ :=
    ⟨['\n'], ['>'], by decide, by decide, .inl ⟨'\n', by decide, by decide⟩,
      '>', by decide, by decide⟩
  have closingSpan : Text.spanOf "\n<x a\n".toList ⟨4, 5⟩ = ⟨⟨1, 3⟩, ⟨1, 4⟩⟩ := by decide +kernel
  have openingSpan : Text.spanOf "\na>".toList ⟨1, 2⟩ = ⟨⟨1, 0⟩, ⟨1, 1⟩⟩ := by decide +kernel
  refine ⟨_, compiled, ?_, ?_, scan_append_lineFeed compiled "\n<x a".toList "a>".toList⟩
  · rw [← closingSpan]
    exact spanOf_mem_scan proper (by simp) closing
  · rw [← openingSpan]
    exact spanOf_mem_scan proper (by simp) opening

end Matcher

end SelectorNavigation
