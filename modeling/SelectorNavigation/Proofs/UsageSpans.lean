import SelectorNavigation.Proofs.Lines
import SelectorNavigation.Proofs.Runs
import SelectorNavigation.Proofs.Usages

/-!
# The words that a scan reports

A scan reports spans in lines and columns of a document.  Seen in the line itself, without
its line end, each span is a whole word: the name of an alternative, with nothing of a name
on either side.
-/

namespace SelectorNavigation

namespace Alternative

variable {alternative : Alternative}

/-- In front of a name stands a delimiter, which is no name character. -/
theorem Opened.exists_last {before : Text} (opened : alternative.Opened before) :
    ∃ character, before.getLast? = some character ∧ isNameChar character = false := by
  obtain ⟨front, lead, rfl, isLead⟩ := opened_iff.mp opened
  obtain ⟨first, rest, rfl, opening, shape⟩ := isLead.shape
  rcases shape with rfl | rfl
  · exact ⟨first, by simp, isNameChar_eq_false_of_isOpening opening⟩
  · exact ⟨'(', by simp, isNameChar_eq_false_of_mem_signs '(' (by decide)⟩

theorem HasProperName.lineFeed_not_mem (proper : alternative.HasProperName) :
    '\n' ∉ alternative.name := by
  intro member
  have isName := proper.2 '\n' member
  rw [isNameChar_eq_false_of_isWhitespace (by decide)] at isName
  contradiction

/-- A proper name does not end in a carriage return, so no line end takes a character of it. -/
theorem HasProperName.getLast?_append_ne (proper : alternative.HasProperName) (front : Text) :
    (front ++ alternative.name).getLast? ≠ some '\r' := by
  intro isLast
  rw [List.getLast?_append_of_ne_nil _ proper.1] at isLast
  have isName := proper.2 '\r' (List.mem_of_getLast? isLast)
  rw [isNameChar_eq_false_of_isWhitespace (by decide)] at isName
  contradiction

end Alternative

namespace Text

/-- A name without a line feed spans as many columns of its line as it has code units. -/
theorem spanOf_name (before after : Text) {name : Text} (feedless : '\n' ∉ name) :
    let line := before.count '\n'
    let column := utf16Length (lastLine before)
    spanOf (before ++ name ++ after) ⟨before.byteLength, byteLength (before ++ name)⟩ =
      ⟨⟨line, column⟩, ⟨line, column + name.utf16Length⟩⟩ := by
  intro line column
  have startAt : (before ++ name ++ after).positionAt before.byteLength = ⟨line, column⟩ := by
    rw [List.append_assoc, positionAt_eq]
  have stopAt : (before ++ name ++ after).positionAt (before ++ name).byteLength =
      ⟨line, column + name.utf16Length⟩ := by
    rw [positionAt_eq, List.count_append, List.count_eq_zero_of_not_mem feedless,
      lastLine_append_of_not_mem before feedless, utf16Length_append, Nat.add_zero]
  rw [spanOf, startAt, stopAt]

end Text

namespace Alternative

variable {alternative : Alternative} {before after : Text}

theorem HasProperName.lineAt?_eq (proper : alternative.HasProperName) :
    (before ++ alternative.name ++ after).lineAt? (before.count '\n') =
      some (before.lastLine ++ alternative.name ++ after.firstLine) := by
  have occupied : alternative.name ++ after ≠ [] := by
    simp [proper.1]
  have feedless : '\n' ∉ before.lastLine ++ alternative.name := by
    rw [List.mem_append, not_or]
    exact ⟨before.lineFeed_not_mem_lastLine, proper.lineFeed_not_mem⟩
  rw [List.append_assoc, Text.lineAt?_append before occupied, ← List.append_assoc,
    Text.firstLine_append feedless (proper.getLast?_append_ne _)]

/-- Neither the delimiters of a usage nor the ends of the line extend the name. -/
theorem HasProperName.isRun (proper : alternative.HasProperName)
    (opened : alternative.Opened before) (closed : alternative.Closed after) :
    (before.lastLine ++ alternative.name ++ after.firstLine).IsRun isNameChar
      ⟨before.lastLine.byteLength, (before.lastLine ++ alternative.name).byteLength⟩ := by
  refine ⟨before.lastLine, alternative.name, after.firstLine, rfl, rfl, proper.1, proper.2, ?_, ?_⟩
  · intro character isLast
    obtain ⟨sign, signLast, delimits⟩ := opened.exists_last
    obtain ⟨earlier, split⟩ : before.lastLine <:+ before := List.rtakeWhile_suffix _ _
    have occupied : before.lastLine ≠ [] := by
      rintro empty
      simp [empty] at isLast
    rw [← split, List.getLast?_append_of_ne_nil _ occupied, isLast, Option.some.injEq] at signLast
    simp [signLast, delimits]
  · intro character isHead
    obtain ⟨sign, rest, rfl, closing⟩ := closed_iff.mp closed
    obtain ⟨others, isFirst⟩ := List.head?_eq_some_iff.mp isHead
    obtain ⟨later, split⟩ := Text.firstLine_isPrefix (sign :: rest)
    rw [isFirst, List.cons_append] at split
    obtain ⟨rfl, -⟩ := List.cons.inj split
    simp [isNameChar_eq_false_of_closes closing]

end Alternative

namespace Matcher

/-- Every span that the scan for a declared selector reports lies in one line of the document.
Between the places of its columns in that line stands the name of an alternative, which is
the word that touches the first of them. -/
theorem scan_reports_whole_words {declaration : Text} {matcher : Matcher}
    (compiled : ofDeclaration? declaration = some matcher) (text : Text) :
    ∀ span ∈ matcher.scan text,
      span.start.line = span.stop.line ∧
      ∃ line, text.lineAt? span.start.line = some line ∧
        let range : ByteRange :=
          ⟨line.offsetOfColumn span.start.column, line.offsetOfColumn span.stop.column⟩
        (∃ alternative ∈ matcher.alternatives, ∃ before after,
          line = before ++ alternative.name ++ after ∧
          range = ⟨before.byteLength, (before ++ alternative.name).byteLength⟩ ∧
          span.stop.column = span.start.column + alternative.name.utf16Length) ∧
        line.IsRun isNameChar range ∧
        Text.runAt? isNameChar line span.start.column = some range := by
  have proper := hasProperNames_of_ofDeclaration? compiled
  intro span reported
  rw [scan_eq_map] at reported
  obtain ⟨range, isRange, rfl⟩ := List.mem_map.mp reported
  obtain ⟨alternative, member, before, after, rfl, rfl, opened, closed⟩ :=
    exists_isUsage_iff.mpr ((mem_rangesFrom_iff proper).mp isRange)
  have isProper := proper alternative member
  rw [Text.spanOf_name before after isProper.lineFeed_not_mem]
  have startOffset : Text.offsetOfColumn
      (before.lastLine ++ alternative.name ++ after.firstLine) before.lastLine.utf16Length =
        before.lastLine.byteLength := by
    rw [List.append_assoc, Text.offsetOfColumn_utf16Length]
  have stopOffset : Text.offsetOfColumn
      (before.lastLine ++ alternative.name ++ after.firstLine)
        (before.lastLine.utf16Length + alternative.name.utf16Length) =
        (before.lastLine ++ alternative.name).byteLength := by
    rw [← Text.utf16Length_append, Text.offsetOfColumn_utf16Length]
  have isRun := isProper.isRun opened closed
  refine ⟨rfl, _, isProper.lineAt?_eq, ?_⟩
  dsimp only
  rw [startOffset, stopOffset]
  refine ⟨⟨alternative, member, _, _, rfl, rfl, rfl⟩, isRun, ?_⟩
  rw [Text.runAt?_eq_some_iff, startOffset]
  refine ⟨isRun, Nat.le_refl _, ?_⟩
  rw [Text.byteLength_append]
  exact Nat.le_add_right _ _

/-- A name between a line separator, which ends no line, and a carriage return at the end of
the line is the word at column three, behind a character that takes two columns. -/
theorem scan_reports_word_before_carriage_return :
    let text : Text := "\n😀\u2028é\r\n".toList
    let line : Text := "😀\u2028é".toList
    let span : Span := ⟨⟨1, 3⟩, ⟨1, 4⟩⟩
    ∃ matcher, ofDeclaration? "selector: '[é]'".toList = some matcher ∧
      span ∈ matcher.scan text ∧ text.lineAt? 1 = some line ∧
      Text.runAt? isNameChar line 3 = some ⟨7, 9⟩ := by
  intro text line span
  have compiled : ofDeclaration? "selector: '[é]'".toList =
      some ⟨[.attr ['é']], by simp⟩ := by decide +kernel
  have usage : Alternative.IsUsage (.attr ['é']) text ⟨8, 10⟩ :=
    ⟨"\n😀\u2028".toList, "\r\n".toList, by decide, by decide,
      .inl ⟨'\u2028', by decide, by decide⟩, '\r', by decide, by decide⟩
  have covered : text.spanOf ⟨8, 10⟩ = span := by decide +kernel
  have reported : span ∈ Matcher.scan ⟨[.attr ['é']], by simp⟩ text := by
    rw [← covered]
    exact spanOf_mem_scan (hasProperNames_of_ofDeclaration? compiled) (by simp) usage
  obtain ⟨-, found, isFound, -, -, query⟩ := scan_reports_whole_words compiled text span reported
  have isLine : text.lineAt? 1 = some line := by decide
  obtain rfl : line = found := Option.some.inj (isLine.symm.trans isFound)
  exact ⟨_, compiled, reported, isLine, query.trans (by decide)⟩

end Matcher

end SelectorNavigation
