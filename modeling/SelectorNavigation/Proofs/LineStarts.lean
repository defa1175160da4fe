import SelectorNavigation.Proofs.Lines

/-!
# Line starts

A position is found by counting line feeds and resolved by taking the line with its number
and measuring its column there.  The two count lines differently.  Where a document ends in
a line feed there is one more line start than there are lines, and a carriage return in
front of a line feed has a column but does not belong to the line.

Dividing the text at the start of the line settles both.  The place in front of it holds
all line feeds that are counted, and the line is the first line of what follows.
-/

namespace SelectorNavigation

namespace Text

/-- Behind a line feed at its end, a document has no further line. -/
theorem lineAt?_count_self {text : Text} (fresh : text.lastLine = []) :
    lineAt? (text.count '\n') text = none := by
  rcases eq_nil_or_lineFeed fresh with rfl | ⟨earlier, rfl⟩
  · rfl
  · clear fresh
    induction earlier with
    | nil => rfl
    | cons character earlier ih =>
        have counted : (earlier ++ ['\n']).count '\n' = earlier.count '\n' + 1 := by simp
        by_cases feed : character = '\n'
        · subst feed
          rw [List.cons_append, List.count_cons_self]
          exact ih
        · rw [counted] at ih
          rw [List.cons_append, List.count_cons_of_ne feed, counted,
            lineAt?_succ_cons_of_ne feed _ (by simp), ih]

theorem lineAt?_of_start {front rest : Text} (fresh : front.lastLine = []) (occupied : rest ≠ []) :
    lineAt? (front.count '\n') (front ++ rest) = some (firstLine rest) := by
  rw [lineAt?_append front occupied, fresh, List.nil_append]

theorem firstLine_of_not_mem {line : Text} (feedless : '\n' ∉ line) : firstLine line = line := by
  have whole := takeWhile_append_of_lineFeed_not_mem feedless []
  have unended := afterLineFeed?_append_of_not_mem feedless []
  rw [List.append_nil] at whole unended
  simp [firstLine, whole, unended, afterLineFeed?]

theorem firstLine_append_lineFeed {line : Text} (feedless : '\n' ∉ line) (rest : Text) :
    firstLine (line ++ '\n' :: rest) = dropCarriageReturn line := by
  have taken := takeWhile_append_of_lineFeed_not_mem feedless ('\n' :: rest)
  have ended := afterLineFeed?_append_of_not_mem feedless ('\n' :: rest)
  simp [firstLine, ended, afterLineFeed?, taken]

theorem dropCarriageReturn_append_of_ne_nil (front : Text) {line : Text} (occupied : line ≠ []) :
    dropCarriageReturn (front ++ line) = front ++ dropCarriageReturn line := by
  simp only [dropCarriageReturn, List.getLast?_append_of_ne_nil _ occupied,
    List.dropLast_append_of_ne_nil occupied]
  split <;> rfl

theorem splitAtColumn_of_le {line : Text} {column : Nat} (past : line.utf16Length ≤ column) :
    splitAtColumn column line = (line, []) := by
  induction line generalizing column with
  | nil => rfl
  | cons character line ih =>
      rw [utf16Length_cons] at past
      have passed : ¬ column < utf16Size character := by omega
      have remaining : utf16Length line ≤ column - utf16Size character := by omega
      rw [splitAtColumn, if_neg passed, ih remaining]

theorem offsetOfColumn_of_le {line : Text} {column : Nat} (past : line.utf16Length ≤ column) :
    offsetOfColumn line column = line.byteLength := by
  rw [offsetOfColumn, splitAtColumn_of_le past]

/-- Measured in the line that it begins, a beginning without line feeds leads back to its end, or
in front of a carriage return that belongs to the line end. -/
theorem offsetOfColumn_firstLine {front : Text} (feedless : '\n' ∉ front) (rest : Text) :
    offsetOfColumn (firstLine (front ++ rest)) front.utf16Length =
      if front.getLast? = some '\r' ∧ rest.head? = some '\n' then front.byteLength - 1
      else front.byteLength := by
  by_cases broken : '\n' ∈ rest
  · obtain ⟨line, rest, rfl, unbroken⟩ := List.eq_append_cons_of_mem broken
    rw [← List.append_assoc, firstLine_append_lineFeed (by simp [feedless, unbroken])]
    cases line with
    | nil =>
        by_cases returned : front.getLast? = some '\r'
        · obtain ⟨front, rfl⟩ := List.getLast?_eq_some_iff.mp returned
          have dropped : dropCarriageReturn (front ++ ['\r']) = front := by
            simp [dropCarriageReturn]
          have single : byteLength (front ++ ['\r']) - 1 = byteLength front := by
            rw [byteLength_append]
            rfl
          rw [List.append_nil, dropped, offsetOfColumn_of_le (by simp), if_pos (by simp), single]
        · have kept : dropCarriageReturn front = front ++ [] := by
            simp [dropCarriageReturn, returned]
          rw [List.append_nil, kept, offsetOfColumn_utf16Length, if_neg (by simp [returned])]
    | cons character line =>
        have other : character ≠ '\n' := by
          rintro rfl
          exact unbroken List.mem_cons_self
        rw [dropCarriageReturn_append_of_ne_nil front (List.cons_ne_nil character line),
          offsetOfColumn_utf16Length, if_neg (by simp [other])]
  · have unbroken : rest.head? ≠ some '\n' := fun head => broken (List.mem_of_head? head)
    rw [firstLine_of_not_mem (by simp [feedless, broken]), offsetOfColumn_utf16Length,
      if_neg fun exception => unbroken exception.2]

theorem getLast?_lastLine_eq_iff (text : Text) :
    text.lastLine.getLast? = some '\r' ↔ text.getLast? = some '\r' := by
  cases text using List.reverseRecOn with
  | nil => rfl
  | append_singleton text character =>
      by_cases feed : character = '\n'
      · subst feed
        simp [lastLine]
      · simp [lastLine_append_singleton text feed]

theorem lineFeed_not_mem_firstLine (text : Text) : '\n' ∉ firstLine text := by
  have feedless : '\n' ∉ text.takeWhile (· != '\n') := by
    intro member
    simpa using List.mem_takeWhile_imp member
  simp only [firstLine, dropCarriageReturn]
  split
  · split
    · exact fun member => feedless (List.dropLast_subset _ member)
    · exact feedless
  · exact feedless

theorem eq_append_of_afterLineFeed? {text rest : Text} (found : afterLineFeed? text = some rest) :
    ∃ line, text = line ++ '\n' :: rest ∧ '\n' ∉ line := by
  induction text with
  | nil => simp [afterLineFeed?] at found
  | cons character text ih =>
      by_cases feed : character = '\n'
      · refine ⟨[], ?_, by simp⟩
        simpa [afterLineFeed?, feed] using found
      · obtain ⟨line, rfl, feedless⟩ := ih (by simpa [afterLineFeed?, feed] using found)
        exact ⟨character :: line, rfl, by simp [Ne.symm feed, feedless]⟩

/-- A line stands behind the line start with its number. -/
theorem exists_start_of_lineAt? {number : Nat} {text line : Text}
    (found : lineAt? number text = some line) :
    ∃ front rest, text = front ++ line ++ rest ∧ front.lastLine = [] ∧
      front.count '\n' = number ∧ '\n' ∉ line := by
  induction number generalizing text with
  | zero =>
      cases text with
      | nil => simp [lineAt?] at found
      | cons character text =>
          obtain rfl : firstLine (character :: text) = line := by simpa [lineAt?] using found
          obtain ⟨rest, split⟩ := firstLine_isPrefix (character :: text)
          exact ⟨[], rest, split.symm, rfl, rfl, lineFeed_not_mem_firstLine _⟩
  | succ number ih =>
      cases text with
      | nil => simp [lineAt?] at found
      | cons character text =>
          obtain ⟨after, ended, found⟩ := Option.bind_eq_some_iff.mp found
          obtain ⟨first, split, feedless⟩ := eq_append_of_afterLineFeed? ended
          obtain ⟨front, rest, rfl, fresh, rfl, lineFeedless⟩ := ih found
          refine ⟨first ++ '\n' :: front, rest, by simp [split], ?_, ?_, lineFeedless⟩
          · rw [lastLine_append_of_mem first (by simp), lastLine_cons_lineFeed, fresh]
          · simp [List.count_eq_zero_of_not_mem feedless]

/-- Positions and the columns of lines lead to each other.  A boundary has a position whose line
starts at an offset of the text.  That line is missing exactly if the text ends at its start,
where the boundary stands then.  Otherwise the column leads back to the boundary, or in front of
the carriage return if the boundary divides a line end.  Conversely, every beginning of a line
has a column, and the place where it falls has this line and column as its position. -/
theorem positionAt_inverts_offsetOfColumn (text : Text) :
    (∀ before after, text = before ++ after →
      let offset := before.byteLength
      let position := text.positionAt offset
      ∃ start, text.lineStarts[position.line]? = some start ∧
        (lineAt? position.line text = none ↔ start = text.byteLength) ∧
        (start = text.byteLength → offset = text.byteLength ∧ position.column = 0) ∧
        ∀ line, lineAt? position.line text = some line →
          start + line.offsetOfColumn position.column =
            if before.getLast? = some '\r' ∧ after.head? = some '\n' then offset - 1
            else offset) ∧
    ∀ number line, lineAt? number text = some line →
      ∃ start, text.lineStarts[number]? = some start ∧
        ∀ front : Text, front <+: line →
          text.positionAt (start + line.offsetOfColumn front.utf16Length) =
            ⟨number, front.utf16Length⟩ := by
  constructor
  · rintro before after rfl
    simp only [positionAt_eq]
    -- `front` ends where the line starts, and holds all line feeds in front of the boundary.
    obtain ⟨front, split, fresh⟩ := exists_lineStart before
    have feedless := lineFeed_not_mem_lastLine before
    have number : before.count '\n' = front.count '\n' := by
      conv_lhs => rw [split]
      simp [List.count_eq_zero_of_not_mem feedless]
    have divided : before ++ after = front ++ (before.lastLine ++ after) := by
      rw [← List.append_assoc, ← split]
    have offset : before.byteLength = front.byteLength + before.lastLine.byteLength := by
      conv_lhs => rw [split]
      rw [byteLength_append]
    refine ⟨front.byteLength, ?_, ?_⟩
    · rw [number, divided]
      exact getElem?_lineStarts fresh _
    · rw [number, divided]
      by_cases behind : before.lastLine ++ after = []
      · obtain ⟨noLine, rfl⟩ := List.append_eq_nil_iff.mp behind
        have missing := lineAt?_count_self fresh
        simp [noLine, offset, missing]
      · have present := lineAt?_of_start fresh behind
        have shorter : front.byteLength ≠ byteLength (front ++ (before.lastLine ++ after)) := by
          have further := byteLength_pos behind
          rw [byteLength_append]
          omega
        have unmatched :
            ¬ lineAt? (front.count '\n') (front ++ (before.lastLine ++ after)) = none := by
          simp [present]
        refine ⟨iff_of_false unmatched shorter, fun same => absurd same shorter, ?_⟩
        intro line found
        obtain rfl : firstLine (before.lastLine ++ after) = line := by
          simpa [present] using found
        simp only [offsetOfColumn_firstLine feedless, getLast?_lastLine_eq_iff, offset]
        split
        · -- The carriage return in front of the boundary takes one byte of the line.
          rename_i exception
          have occupied : before.lastLine ≠ [] := fun empty => by
            simpa [empty] using (getLast?_lastLine_eq_iff before).mpr exception.1
          have further := byteLength_pos occupied
          omega
        · rfl
  · intro number line found
    obtain ⟨front, rest, rfl, fresh, rfl, feedless⟩ := exists_start_of_lineAt? found
    refine ⟨front.byteLength, ?_, ?_⟩
    · rw [List.append_assoc]
      exact getElem?_lineStarts fresh (line ++ rest)
    · rintro beginning ⟨ending, rfl⟩
      have beginningFeedless : '\n' ∉ beginning := fun member =>
        feedless (List.mem_append_left ending member)
      have divided : front ++ (beginning ++ ending) ++ rest =
          (front ++ beginning) ++ (ending ++ rest) := by simp
      rw [offsetOfColumn_utf16Length, ← byteLength_append, divided, positionAt_eq,
        lastLine_append_of_not_mem front beginningFeedless, fresh]
      simp [List.count_eq_zero_of_not_mem beginningFeedless]

/-- Between the two characters of a line end, at the end of a text that ends in a line feed, and
behind a character that takes two columns. -/
theorem positionAt_inverts_offsetOfColumn_around_lineEnd :
    let text : Text := "é\r\n😀\n".toList
    (text.positionAt 3 = ⟨0, 2⟩ ∧ offsetOfColumn "é".toList 2 = 2) ∧
      (text.positionAt 9 = ⟨2, 0⟩ ∧ lineAt? 2 text = none) ∧
      (lineAt? 1 text = some "😀".toList ∧ text.positionAt 8 = ⟨1, 2⟩) := by
  intro text
  have divided : text.positionAt (byteLength "é\r".toList) = ⟨0, 2⟩ := by decide +kernel
  have atEnd : text.positionAt text.byteLength = ⟨2, 0⟩ := by decide +kernel
  obtain ⟨leadsBack, leadsForth⟩ := positionAt_inverts_offsetOfColumn text
  obtain ⟨start, started, -, -, column⟩ :=
    leadsBack "é\r".toList "\n😀\n".toList (by decide)
  obtain ⟨ending, ended, missing, -, -⟩ := leadsBack text [] (by decide)
  rw [divided] at started column
  rw [atEnd] at ended missing
  obtain rfl : 0 = start := Option.some.inj started
  obtain rfl : 9 = ending := Option.some.inj ended
  obtain ⟨second, starts, columns⟩ := leadsForth 1 "😀".toList (by decide)
  obtain rfl : 4 = second := Option.some.inj starts
  have back : 0 + offsetOfColumn "é".toList 2 = 2 := column "é".toList (by decide)
  refine ⟨⟨divided, ?_⟩, ⟨atEnd, missing.mpr (by decide)⟩, by decide, ?_⟩
  · rwa [Nat.zero_add] at back
  · exact columns "😀".toList List.prefix_rfl

end Text

end SelectorNavigation
