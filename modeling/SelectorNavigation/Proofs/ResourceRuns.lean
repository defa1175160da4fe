import SelectorNavigation.Proofs.Columns
import SelectorNavigation.Proofs.Lists
import SelectorNavigation.Proofs.Usages
import SelectorNavigation.Workspace.Resource

/-!
# The resource path at a column

The path characters of a line stand in runs, and the words that are found one after the other are
these runs.  A column touches a run if it falls at its start, inside it or at its end, and since
something else stands between two runs, it touches at most one.  The resource path at a column is
the run that it touches, whole, if the run ends like a template or a style.  A run holds no comma,
so allowing for one behind the extension makes no difference.

Columns are those of the editor, so one may lie inside a wide character or behind the whole line.
Such a column falls at the last place in front of it, and there it may touch a run that it lies
behind.
-/

namespace SelectorNavigation

namespace Text

/-- The bytes of a range are those of the given part of the text. -/
def Holds (text : Text) (range : ByteRange) (part : Text) : Prop :=
  ∃ before after, text = before ++ part ++ after ∧
    range = ⟨before.byteLength, (before ++ part).byteLength⟩

theorem Holds.unique {text part another : Text} {range : ByteRange} (holds : text.Holds range part)
    (holdsToo : text.Holds range another) : part = another := by
  obtain ⟨before, after, rfl, rfl⟩ := holds
  obtain ⟨front, back, same, sameRange⟩ := holdsToo
  obtain ⟨sameStart, sameStop⟩ := ByteRange.mk.inj sameRange
  obtain rfl : before = front := by
    rw [List.append_assoc, List.append_assoc] at same
    exact append_inj_of_byteLength same sameStart
  exact List.append_cancel_left (append_inj_of_byteLength same sameStop)

end Text

namespace Resource

/-- The path is that of a template or a style. -/
def HasEnding (path : Text) : Prop :=
  ∃ ending ∈ [".html", ".css", ".scss", ".less"], ending.toList <:+ path

/-- A path occupies the range and cannot be extended on either side. -/
def IsPathRun (line : Text) (range : ByteRange) (path : Text) : Prop :=
  line.IsRun isPathChar range ∧ line.Holds range path

/-- The column falls at the start of the range, inside it or at its end. -/
def Touches (line : Text) (range : ByteRange) (column : Nat) : Prop :=
  range.start ≤ line.offsetOfColumn column ∧ line.offsetOfColumn column ≤ range.stop

variable {line path text rest : Text} {range : ByteRange} {offset column : Nat} {word : Word}

/-- The word stands in a text that begins at the given offset, and cannot be extended on either
side. -/
def WordIn (offset : Nat) (text : Text) (word : Word) : Prop :=
  ∃ before after, text = before ++ word.text ++ after ∧
    word.range = ⟨offset + before.byteLength, offset + (before ++ word.text).byteLength⟩ ∧
    word.text ≠ [] ∧ (∀ character ∈ word.text, isPathChar character) ∧
    (∀ character ∈ before.getLast?, ¬ isPathChar character) ∧
    ∀ character ∈ after.head?, ¬ isPathChar character

theorem wordIn_zero_iff : WordIn 0 line word ↔ IsPathRun line word.range word.text := by
  simp only [WordIn, Nat.zero_add]
  constructor
  · rintro ⟨before, after, split, isRange, maximal⟩
    exact ⟨⟨before, word.text, after, split, isRange, maximal⟩, before, after, split, isRange⟩
  · rintro ⟨⟨before, run, after, split, isRange, maximal⟩, holds⟩
    obtain rfl : run = word.text := Text.Holds.unique ⟨before, after, split, isRange⟩ holds
    exact ⟨before, after, split, isRange, maximal⟩

theorem not_wordIn_nil : ¬ WordIn offset [] word := by
  rintro ⟨before, after, split, -, occupied, -⟩
  simp [occupied] at split

/-- A character of another kind only moves the words behind it. -/
theorem wordIn_cons_iff {character : Char} (other : ¬ isPathChar character) :
    WordIn offset (character :: text) word ↔ WordIn (offset + character.utf8Size) text word := by
  constructor
  · rintro ⟨before, after, split, isRange, occupied, members, opened, closed⟩
    cases before with
    | nil =>
        obtain ⟨first, others, isWord⟩ := List.exists_cons_of_ne_nil occupied
        rw [isWord, List.nil_append, List.cons_append] at split
        obtain ⟨rfl, -⟩ := List.cons.inj split
        exact absurd (members character (by simp [isWord])) other
    | cons first before =>
        simp only [List.cons_append, List.cons.injEq] at split
        obtain ⟨rfl, split⟩ := split
        refine ⟨before, after, split, ?_, occupied, members, ?_, closed⟩
        · simp [isRange, Nat.add_assoc]
        · intro last isLast
          exact opened last (by simp [List.getLast?_cons, Option.mem_def.mp isLast])
  · rintro ⟨before, after, rfl, isRange, occupied, members, opened, closed⟩
    refine ⟨character :: before, after, rfl, ?_, occupied, members, ?_, closed⟩
    · simp [isRange, Nat.add_assoc]
    · intro last isLast
      cases before with
      | nil =>
          obtain rfl : character = last := by simpa using isLast
          exact other
      | cons first before => exact opened last (by simpa using isLast)

/-- In front of a word at the start of a text there is none, and the others stand behind it. -/
theorem wordIn_append_iff {run : Text} (occupied : run ≠ [])
    (members : ∀ character ∈ run, isPathChar character)
    (closed : ∀ character ∈ rest.head?, ¬ isPathChar character) :
    WordIn offset (run ++ rest) word ↔
      word = ⟨⟨offset, offset + run.byteLength⟩, run⟩ ∨
        WordIn (offset + run.byteLength) rest word := by
  constructor
  · rintro ⟨before, after, split, isRange, wordOccupied, wordMembers, wordOpened, wordClosed⟩
    rw [List.append_assoc] at split
    rcases List.append_eq_append_iff.mp split with ⟨between, rfl, behind⟩ | ⟨between, rfl, inside⟩
    · right
      refine ⟨between, after, by rw [behind, List.append_assoc], ?_, wordOccupied, wordMembers, ?_,
        wordClosed⟩
      · simp [isRange, Nat.add_assoc]
      · intro last isLast
        exact wordOpened last (by simp [List.getLast?_append, Option.mem_def.mp isLast])
    · left
      obtain rfl : before = [] := by
        -- The run would extend the word to the left.
        by_contra occupiedBefore
        have isLast := List.getLast?_eq_some_getLast occupiedBefore
        refine wordOpened _ isLast (members _ ?_)
        exact List.mem_append_left _ (List.getLast_mem occupiedBefore)
      have same : word.text = between := by
        simp only [Bool.not_eq_true] at wordClosed closed
        have wordTaken := takeWhile_append_of_head wordMembers wordClosed
        have runTaken := takeWhile_append_of_head members closed
        rw [List.nil_append] at runTaken
        rw [← wordTaken, inside, runTaken]
      obtain ⟨range, text⟩ := word
      obtain rfl : text = between := same
      simpa using isRange
  · rintro (rfl | ⟨before, after, rfl, isRange, wordOccupied, wordMembers, wordOpened, wordClosed⟩)
    · exact ⟨[], rest, rfl, by simp, occupied, members, by simp, closed⟩
    · refine ⟨run ++ before, after, by simp, by simp [isRange, Nat.add_assoc], wordOccupied,
        wordMembers, ?_, wordClosed⟩
      intro last isLast
      cases before using List.reverseRecOn with
      | nil =>
          obtain ⟨first, others, isWord⟩ := List.exists_cons_of_ne_nil wordOccupied
          have outside := closed first (by simp [isWord])
          exact absurd (wordMembers first (by simp [isWord])) outside
      | append_singleton before character =>
          obtain rfl : character = last := by simpa using isLast
          exact wordOpened character (by simp)

theorem not_wordIn_of_firstWord? (missing : firstWord? offset text = none) :
    ¬ WordIn offset text word := by
  induction text generalizing offset with
  | nil => exact not_wordIn_nil
  | cons character text ih =>
      by_cases member : isPathChar character
      · simp [firstWord?, member] at missing
      · rw [wordIn_cons_iff member]
        exact ih (by simpa [firstWord?, member] using missing)

theorem wordIn_iff_of_firstWord? {first : Word}
    (found : firstWord? offset text = some (first, rest)) :
    WordIn offset text word ↔ word = first ∨ WordIn first.range.stop rest word := by
  induction text generalizing offset with
  | nil => simp [firstWord?] at found
  | cons character text ih =>
      by_cases member : isPathChar character
      · simp only [firstWord?, member, if_true, Option.some.injEq, Prod.mk.injEq] at found
        obtain ⟨rfl, rfl⟩ := found
        have divided : (character :: text).takeWhile isPathChar ++
            (character :: text).dropWhile isPathChar = character :: text :=
          List.takeWhile_append_dropWhile
        conv_lhs => rw [← divided]
        refine wordIn_append_iff ?_ ?_ ?_
        · simp [List.takeWhile_cons_of_pos member]
        · exact fun other isOther => List.mem_takeWhile_imp isOther
        · intro other isHead
          have stopped := List.head?_dropWhile_not isPathChar (character :: text)
          rw [Option.mem_def.mp isHead] at stopped
          simpa using stopped
      · rw [wordIn_cons_iff member]
        exact ih (by simpa [firstWord?, member] using found)

/-- The words that are found are the runs of path characters. -/
theorem mem_wordsFrom_iff : word ∈ wordsFrom offset text ↔ WordIn offset text word := by
  fun_induction wordsFrom offset text with
  | case1 offset text missing => simp [not_wordIn_of_firstWord? missing]
  | case2 offset text first rest found shorter ih =>
      rw [List.mem_cons, ih, wordIn_iff_of_firstWord? found]

theorem hasEnding_iff : HasEnding path ↔ ∃ name ∈ extensions, '.' :: name <:+ path := by
  constructor
  · rintro ⟨ending, isEnding, ends⟩
    simp only [List.mem_cons, List.not_mem_nil, or_false] at isEnding
    rcases isEnding with rfl | rfl | rfl | rfl
    · exact ⟨"html".toList, by decide, ends⟩
    · exact ⟨"css".toList, by decide, ends⟩
    · exact ⟨"scss".toList, by decide, ends⟩
    · exact ⟨"less".toList, by decide, ends⟩
  · rintro ⟨name, isName, ends⟩
    simp only [extensions, List.mem_cons, List.not_mem_nil, or_false] at isName
    rcases isName with rfl | rfl | rfl | rfl
    · exact ⟨".html", by simp, ends⟩
    · exact ⟨".scss", by simp, ends⟩
    · exact ⟨".css", by simp, ends⟩
    · exact ⟨".less", by simp, ends⟩

theorem isExtension_iff :
    isExtension text ↔ ∃ name ∈ extensions, text = '.' :: name ∨ text = '.' :: name ++ [','] := by
  unfold isExtension
  split
  · simp
  · rename_i other
    simp only [Bool.false_eq_true, false_iff]
    rintro ⟨name, -, rfl | rfl⟩
    · exact other name rfl
    · exact other (name ++ [',']) rfl

theorem hasExtension_iff : hasExtension text ↔ ∃ ending, isExtension ending ∧ ending <:+ text := by
  induction text with
  | nil => simp [hasExtension, isExtension]
  | cons character text ih =>
      simp only [hasExtension, Bool.or_eq_true, ih, List.suffix_cons_iff]
      constructor
      · rintro (whole | ⟨ending, isEnding, ends⟩)
        · exact ⟨_, whole, .inl rfl⟩
        · exact ⟨ending, isEnding, .inr ends⟩
      · rintro ⟨ending, isEnding, rfl | ends⟩
        · exact .inl isEnding
        · exact .inr ⟨ending, isEnding, ends⟩

/-- Where there is no comma, an extension stands at the very end. -/
theorem hasExtension_iff_hasEnding (plain : ',' ∉ text) : hasExtension text ↔ HasEnding text := by
  rw [hasExtension_iff, hasEnding_iff]
  constructor
  · rintro ⟨ending, isEnding, ends⟩
    obtain ⟨name, isName, rfl | rfl⟩ := isExtension_iff.mp isEnding
    · exact ⟨name, isName, ends⟩
    · exact absurd (ends.subset (by simp)) plain
  · rintro ⟨name, isName, ends⟩
    exact ⟨_, isExtension_iff.mpr ⟨name, isName, .inl rfl⟩, ends⟩

theorem trimCommas_of_not_mem (plain : ',' ∉ text) : trimCommas text = text := by
  have kept : text.reverse.dropWhile (· == ',') = text.reverse := by
    cases backwards : text.reverse with
    | nil => rfl
    | cons last others =>
        have isLast : last ∈ text := List.mem_reverse.mp (by simp [backwards])
        have other : last ≠ ',' := fun comma => plain (comma ▸ isLast)
        exact List.dropWhile_cons_of_neg (by simpa using other)
  rw [trimCommas, kept, List.reverse_reverse]

theorem IsPathRun.comma_not_mem (isRun : IsPathRun line range path) : ',' ∉ path := by
  have isWord : WordIn 0 line ⟨range, path⟩ := wordIn_zero_iff.mpr isRun
  obtain ⟨-, -, -, -, -, members, -⟩ := isWord
  intro comma
  exact absurd (members ',' comma) (by decide +kernel)

theorem IsPathRun.eq_of_touches {other : ByteRange} {another : Text}
    (isRun : IsPathRun line range path) (isRunToo : IsPathRun line other another)
    (touches : Touches line range column) (touchesToo : Touches line other column) :
    range = other ∧ path = another := by
  obtain rfl := isRun.1.eq_of_touching isRunToo.1 touches touchesToo
  exact ⟨rfl, isRun.2.unique isRunToo.2⟩

/-- The first word that touches a column is the only run that does. -/
theorem find?_wordsFrom_eq_some_iff :
    ((wordsFrom 0 line).find? fun word =>
      word.range.start ≤ line.offsetOfColumn column &&
        line.offsetOfColumn column ≤ word.range.stop) = some word ↔
      IsPathRun line word.range word.text ∧ Touches line word.range column := by
  have touches_iff : ∀ word : Word,
      (decide (word.range.start ≤ line.offsetOfColumn column) &&
        decide (line.offsetOfColumn column ≤ word.range.stop)) ↔
        Touches line word.range column := by
    simp [Touches]
  constructor
  · intro found
    have isTouching := List.find?_some found
    exact ⟨wordIn_zero_iff.mp (mem_wordsFrom_iff.mp (List.mem_of_find?_eq_some found)),
      (touches_iff word).mp isTouching⟩
  · rintro ⟨isRun, touches⟩
    have listed := mem_wordsFrom_iff.mpr (wordIn_zero_iff.mpr isRun)
    cases first : (wordsFrom 0 line).find? _ with
    | none =>
        exact absurd ((touches_iff word).mpr touches) (List.find?_eq_none.mp first word listed)
    | some other =>
        have isOther := wordIn_zero_iff.mp (mem_wordsFrom_iff.mp (List.mem_of_find?_eq_some first))
        have isTouching := List.find?_some first
        have otherTouches := (touches_iff other).mp isTouching
        obtain ⟨sameRange, sameText⟩ := isOther.eq_of_touches isRun otherTouches touches
        exact congrArg some (show other = word by cases other; cases word; simp_all)

/-- The resource path at a column is the run that the column touches. -/
theorem at?_eq_some_iff :
    at? line column = some path ↔
      ∃ range, IsPathRun line range path ∧ Touches line range column ∧ HasEnding path := by
  simp only [at?, Option.bind_eq_some_iff, find?_wordsFrom_eq_some_iff,
    Option.ite_none_right_eq_some, Option.some.injEq]
  constructor
  · rintro ⟨word, ⟨isRun, touches⟩, extended, rfl⟩
    have plain := isRun.comma_not_mem
    rw [trimCommas_of_not_mem plain]
    exact ⟨word.range, isRun, touches, (hasExtension_iff_hasEnding plain).mp extended⟩
  · rintro ⟨range, isRun, touches, ends⟩
    have plain := isRun.comma_not_mem
    exact ⟨⟨range, path⟩, ⟨isRun, touches⟩, (hasExtension_iff_hasEnding plain).mpr ends,
      trimCommas_of_not_mem plain⟩

/-- The columns of a part of a line: from its start to its end, and those behind its end that have
no place of their own, as they lie inside a wide character or behind the whole line. -/
def FallsOn (before part after : Text) (column : Nat) : Prop :=
  before.utf16Length ≤ column ∧
    (column ≤ (before ++ part).utf16Length ∨ after = [] ∨
      column = (before ++ part).utf16Length + 1 ∧ ∃ wide ∈ after.head?, utf16Size wide = 2)

theorem touches_iff_fallsOn (before part after : Text) (column : Nat) :
    Touches (before ++ part ++ after) ⟨before.byteLength, (before ++ part).byteLength⟩ column ↔
      FallsOn before part after column := by
  have atStart := Text.byteLength_le_offsetOfColumn_iff before (part ++ after) column
  rw [← List.append_assoc] at atStart
  exact and_congr atStart (Text.offsetOfColumn_append_le_iff (before ++ part) after column)

/-- The resource path at a column is the whole run of path characters that the place of the column
touches, which is at most one, provided that it ends like a template or a style.  So all columns
that fall on such a run give the run, and every other column gives another run or nothing. -/
theorem at?_finds_touched_run (line : Text) :
    (∀ column path, at? line column = some path ↔
      ∃ range, IsPathRun line range path ∧ Touches line range column ∧ HasEnding path) ∧
    (∀ column first second path another, IsPathRun line first path →
      IsPathRun line second another → Touches line first column → Touches line second column →
        first = second ∧ path = another) ∧
    ∀ before path after range, line = before ++ path ++ after →
      range = ⟨before.byteLength, (before ++ path).byteLength⟩ → IsPathRun line range path →
        ∀ column,
          (HasEnding path → FallsOn before path after column → at? line column = some path) ∧
          (¬ FallsOn before path after column →
            at? line column = none ∨ ∃ other another, other ≠ range ∧
              IsPathRun line other another ∧ Touches line other column ∧
              at? line column = some another) := by
  refine ⟨fun column path => at?_eq_some_iff, ?_, ?_⟩
  · intro column first second path another isFirst isSecond
    exact isFirst.eq_of_touches isSecond
  · rintro before path after range rfl rfl isRun column
    rw [← touches_iff_fallsOn]
    constructor
    · intro ends touches
      exact at?_eq_some_iff.mpr ⟨_, isRun, touches, ends⟩
    · intro apart
      cases found : at? (before ++ path ++ after) column with
      | none => exact .inl rfl
      | some another =>
          obtain ⟨other, isOther, touches, -⟩ := at?_eq_some_iff.mp found
          refine .inr ⟨other, another, ?_, isOther, touches, rfl⟩
          rintro rfl
          exact apart touches

/-- A path at the beginning of a line is a run if it ends in front of another character. -/
theorem isPathRun_append {path : Text} (occupied : path ≠ []) (members : path.all isPathChar)
    (after : Text) (stopped : after.head?.all fun character => !isPathChar character) :
    IsPathRun (path ++ after) ⟨0, path.byteLength⟩ path := by
  refine ⟨⟨[], path, after, rfl, rfl, occupied, List.all_eq_true.mp members, by simp, ?_⟩,
    [], after, rfl, rfl⟩
  intro character isHead
  rw [Option.mem_def.mp isHead] at stopped
  simpa using stopped

/-- The column inside a wide character gives the run in front, and where that character ends the
next run begins. -/
theorem at?_finds_run_on_each_side :
    let path : Text := "é.html".toList
    let line : Text := path ++ "😀.css".toList
    IsPathRun line ⟨0, 7⟩ path ∧ HasEnding path ∧ FallsOn [] path "😀.css".toList 7 ∧
      at? line 7 = some path ∧
      (∃ range, IsPathRun line range ".css".toList ∧ Touches line range 8) ∧
      ¬ FallsOn [] path "😀.css".toList 8 ∧
      ∃ other another, other ≠ ⟨0, 7⟩ ∧ IsPathRun line other another ∧ Touches line other 8 ∧
        at? line 8 = some another := by
  intro path line
  have isRun : IsPathRun line ⟨0, 7⟩ path :=
    isPathRun_append (by decide) (by decide +kernel) "😀.css".toList (by decide +kernel)
  have ends : HasEnding path := ⟨".html", by simp, ['é'], by decide⟩
  have inside : FallsOn [] path "😀.css".toList 7 :=
    ⟨by decide, .inr (.inr ⟨by decide, '😀', by decide, by decide⟩)⟩
  have apart : ¬ FallsOn [] path "😀.css".toList 8 := by
    rintro ⟨-, within | empty | ⟨next, -⟩⟩
    · exact absurd within (by decide)
    · exact absurd empty (by decide)
    · exact absurd next (by decide)
  have behind : at? line 8 = some ".css".toList := by decide +kernel
  obtain ⟨gives, -, columns⟩ := at?_finds_touched_run line
  obtain ⟨range, isNext, touches, -⟩ := (gives 8 ".css".toList).mp behind
  have columnsOf := columns [] path "😀.css".toList ⟨0, 7⟩ rfl rfl isRun
  refine ⟨isRun, ends, inside, (columnsOf 7).1 ends inside, ⟨range, isNext, touches⟩, apart, ?_⟩
  rcases (columnsOf 8).2 apart with missing | found
  · exact absurd (behind.symm.trans missing) (Option.some_ne_none _)
  · exact found

/-- Columns behind the end of a run can give the run: one inside the next character, if that is
wide, and all columns behind the line that the run ends. -/
theorem at?_finds_run_behind_its_columns :
    let path : Text := ".html".toList
    let line : Text := path ++ ['😀']
    IsPathRun line ⟨0, 5⟩ path ∧ path.utf16Length < 6 ∧ 6 < line.utf16Length ∧
      at? line 6 = some path ∧
      IsPathRun path ⟨0, 5⟩ path ∧ path.utf16Length < 10 ∧ at? path 10 = some path := by
  intro path line
  have beforeSign : IsPathRun line ⟨0, 5⟩ path :=
    isPathRun_append (by decide) (by decide +kernel) ['😀'] (by decide +kernel)
  have alone : IsPathRun (path ++ []) ⟨0, 5⟩ path :=
    isPathRun_append (by decide) (by decide +kernel) [] (by decide)
  rw [List.append_nil] at alone
  exact ⟨beforeSign, by decide, by decide, by decide +kernel, alone, by decide,
    by decide +kernel⟩

end Resource

end SelectorNavigation
