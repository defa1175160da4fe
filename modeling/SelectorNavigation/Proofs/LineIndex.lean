import SelectorNavigation.Text.LineIndex
import Mathlib.Data.List.DropRight
import Mathlib.Data.List.Induction

/-!
# Looking up lines

A binary search in an ascending table ends at the number that is looked for, or at the index at
which it would have to be inserted.  Every step keeps two things: nothing behind the entries that
are left is small enough, and nothing up to the first of them is too large.

In the index of a text, the entries up to a boundary are as many as the line feeds in front of it,
and one more for the first line.  So the search finds the line that the text in front of the
boundary ends in, and the stretch that is measured is this line.
-/

namespace SelectorNavigation

namespace Table

variable {table : Array Nat} {target base size : Nat}

/-- Every entry is less than those behind it. -/
def IsAscending (table : Array Nat) : Prop :=
  ∀ first second : Fin table.size, first < second → entry table first < entry table second

/-- The entries behind the `size` ones at `base` are too large, and none up to `base` is, apart
from the first of all. -/
structure Brackets (table : Array Nat) (target base size : Nat) : Prop where
  reached : ∀ index : Fin table.size, index.val ≤ base → index.val = 0 ∨ entry table index ≤ target
  behind : ∀ index : Fin table.size, base + size ≤ index.val → target < entry table index

theorem Brackets.keep (brackets : Brackets table target base size)
    (ascending : IsAscending table) {half : Nat} (smaller : half ≤ size - half)
    (inside : base + half < table.size) (tooLarge : target < table[base + half]) :
    Brackets table target base (size - half) where
  reached := brackets.reached
  behind := by
    intro index beyond
    rcases Nat.lt_or_eq_of_le (by omega : base + half ≤ index.val) with later | same
    · have greater := ascending ⟨base + half, inside⟩ index later
      exact Nat.lt_trans tooLarge greater
    · simpa [entry, same] using tooLarge

theorem Brackets.move (brackets : Brackets table target base size)
    (ascending : IsAscending table) {half : Nat} (smaller : half ≤ size)
    (inside : base + half < table.size) (small : ¬ target < table[base + half]) :
    Brackets table target (base + half) (size - half) where
  reached := by
    intro index before
    right
    rcases Nat.lt_or_eq_of_le before with earlier | same
    · have less := ascending index ⟨base + half, inside⟩ earlier
      exact Nat.le_trans (Nat.le_of_lt less) (Nat.le_of_not_lt small)
    · simpa [entry, same] using small
  behind := by
    intro index beyond
    exact brackets.behind index (by omega)

theorem brackets_narrow (ascending : IsAscending table) (occupied : 0 < size)
    (within : base + size ≤ table.size) (brackets : Brackets table target base size) :
    Brackets table target (narrow table target base size occupied within) 1 := by
  fun_induction narrow table target base size occupied within with
  | case1 base size occupied within single =>
      obtain rfl : size = 1 := by omega
      exact brackets
  | case2 base size occupied within several half inside tooLarge ih =>
      exact ih (brackets.keep ascending (by omega) inside tooLarge)
  | case3 base size occupied within several half inside small ih =>
      exact ih (brackets.move ascending (by omega) inside small)

/-- The place holds the number, or the number would keep the order there. -/
def Fits (table : Array Nat) (target : Nat) : Place table.size → Prop
  | .found index => entry table index = target
  | .missing next =>
      ∀ index : Fin table.size,
        (index.val < next.val → entry table index < target) ∧
          (next.val ≤ index.val → target < entry table index)

theorem fits_placeAt (ascending : IsAscending table) {last : Fin table.size}
    (single : Brackets table target last 1) : Fits table target (placeAt table target last) := by
  unfold placeAt
  split
  · assumption
  · rename_i different
    split
    · rename_i less
      intro index
      refine ⟨fun inFront => ?_, fun behind => single.behind index behind⟩
      rcases Nat.lt_or_eq_of_le (Nat.le_of_lt_succ inFront) with earlier | same
      · exact Nat.lt_trans (ascending index last earlier) less
      · rwa [Fin.ext same]
    · rename_i notLess
      -- Only the first entry of the table can be left although it is too large.
      have greater : target < entry table last := by omega
      have first : last.val = 0 := by
        rcases single.reached last (Nat.le_refl _) with first | small
        · exact first
        · omega
      intro index
      refine ⟨fun inFront => ?_, fun notInFront => ?_⟩
      · simp [first] at inFront
      · have behind : last.val ≤ index.val := notInFront
        rcases Nat.lt_or_eq_of_le behind with later | same
        · exact Nat.lt_trans greater (ascending last index later)
        · rwa [← Fin.ext same]

theorem fits_search (ascending : IsAscending table) (target : Nat) :
    Fits table target (search table target) := by
  unfold search
  split
  · rename_i occupied
    have whole : Brackets table target 0 table.size :=
      ⟨fun index first => .inl (by omega), fun index beyond => by omega⟩
    exact fits_placeAt ascending (brackets_narrow ascending occupied (by omega) whole)
  · intro index
    exact absurd index.isLt (by omega)

end Table

namespace Text

/-- The offsets behind the line feeds of a text that begins at the given offset. -/
def startsBehind (offset : Nat) : Text → List Nat
  | [] => []
  | character :: rest =>
      let next := offset + character.utf8Size
      if character == '\n' then next :: startsBehind next rest else startsBehind next rest

/-- The byte offsets at which lines start: the start of the text, and every place behind a
line feed. -/
def lineStarts (text : Text) : List Nat :=
  0 :: startsBehind 0 text

theorem startsBehind_append (offset : Nat) (first second : Text) :
    startsBehind offset (first ++ second) =
      startsBehind offset first ++ startsBehind (offset + first.byteLength) second := by
  induction first generalizing offset with
  | nil => rfl
  | cons character first ih =>
      rw [byteLength_cons, ← Nat.add_assoc]
      by_cases feed : character = '\n'
      · simp [startsBehind, feed, ih]
      · simp [startsBehind, feed, ih]

theorem length_startsBehind (offset : Nat) (text : Text) :
    (startsBehind offset text).length = text.count '\n' := by
  induction text generalizing offset with
  | nil => rfl
  | cons character text ih =>
      by_cases feed : character = '\n'
      · simp [startsBehind, feed, ih]
      · simp [startsBehind, feed, ih]

theorem bounds_of_mem_startsBehind {offset start : Nat} {text : Text}
    (member : start ∈ startsBehind offset text) :
    offset < start ∧ start ≤ offset + text.byteLength := by
  induction text generalizing offset with
  | nil => simp [startsBehind] at member
  | cons character text ih =>
      have size := character.utf8Size_pos
      have later : start ∈ startsBehind (offset + character.utf8Size) text →
          offset < start ∧ start ≤ offset + byteLength (character :: text) := by
        intro isLater
        have bounds := ih isLater
        rw [byteLength_cons]
        omega
      simp only [startsBehind] at member
      split at member
      · rcases List.mem_cons.mp member with rfl | isLater
        · rw [byteLength_cons]
          omega
        · exact later isLater
      · exact later member

theorem pairwise_startsBehind (offset : Nat) (text : Text) :
    (startsBehind offset text).Pairwise (· < ·) := by
  induction text generalizing offset with
  | nil => exact .nil
  | cons character text ih =>
      simp only [startsBehind]
      split
      · refine List.pairwise_cons.mpr ⟨fun start member => ?_, ih _⟩
        exact (bounds_of_mem_startsBehind member).1
      · exact ih _

theorem pairwise_lineStarts (text : Text) : (lineStarts text).Pairwise (· < ·) := by
  refine List.pairwise_cons.mpr ⟨fun start member => ?_, pairwise_startsBehind 0 text⟩
  exact (bounds_of_mem_startsBehind member).1

/-- The lines that start up to a boundary are told by the line feeds in front of it. -/
theorem start_le_byteLength_iff {before after : Text} {number start : Nat}
    (held : (lineStarts (before ++ after))[number]? = some start) :
    start ≤ before.byteLength ↔ number ≤ before.count '\n' := by
  rw [lineStarts, startsBehind_append, Nat.zero_add, ← List.cons_append] at held
  have length : (0 :: startsBehind 0 before).length = before.count '\n' + 1 := by
    rw [List.length_cons, length_startsBehind]
  by_cases inFront : number < (0 :: startsBehind 0 before).length
  · rw [List.getElem?_append_left inFront] at held
    have notBehind : start ≤ before.byteLength := by
      rcases List.mem_cons.mp (List.mem_of_getElem? held) with rfl | member
      · exact Nat.zero_le _
      · have bounds := bounds_of_mem_startsBehind member
        omega
    exact iff_of_true notBehind (by omega)
  · rw [List.getElem?_append_right (Nat.le_of_not_lt inFront)] at held
    have bounds := bounds_of_mem_startsBehind (List.mem_of_getElem? held)
    exact iff_of_false (by omega) (by omega)

theorem map_offsetsOf_lineFeed (offset : Nat) (text : Text) :
    (text.offsetsOf '\n' offset).map (· + 1) = startsBehind offset text := by
  induction text generalizing offset with
  | nil => rfl
  | cons character text ih =>
      by_cases feed : character = '\n'
      · have single : '\n'.utf8Size = 1 := rfl
        simp [offsetsOf, startsBehind, feed, ih, single]
      · simp [offsetsOf, startsBehind, feed, ih]

/-- The line that a text ends in, as far as the text goes. -/
def lastLine (text : Text) : Text :=
  text.rtakeWhile (· != '\n')

theorem lineFeed_not_mem_lastLine (text : Text) : '\n' ∉ text.lastLine := by
  intro member
  have other := List.mem_rtakeWhile_imp member
  simp at other

theorem lastLine_append_singleton (text : Text) {character : Char} (other : character ≠ '\n') :
    lastLine (text ++ [character]) = lastLine text ++ [character] :=
  List.rtakeWhile_concat_pos _ _ _ (by simpa using other)

theorem eq_nil_or_lineFeed {front : Text} (fresh : front.lastLine = []) :
    front = [] ∨ ∃ earlier, front = earlier ++ ['\n'] := by
  cases front using List.reverseRecOn with
  | nil => exact .inl rfl
  | append_singleton earlier character =>
      by_cases feed : character = '\n'
      · exact .inr ⟨earlier, by rw [feed]⟩
      · rw [lastLine_append_singleton earlier feed] at fresh
        simp at fresh

/-- A text stands in front of its last line up to a line start. -/
theorem exists_lineStart (text : Text) :
    ∃ front, text = front ++ text.lastLine ∧ front.lastLine = [] := by
  induction text using List.reverseRecOn with
  | nil => exact ⟨[], rfl, rfl⟩
  | append_singleton text character ih =>
      by_cases feed : character = '\n'
      · subst feed
        exact ⟨text ++ ['\n'], by simp [lastLine], by simp [lastLine]⟩
      · obtain ⟨front, split, fresh⟩ := ih
        refine ⟨front, ?_, fresh⟩
        rw [lastLine_append_singleton text feed, ← List.append_assoc, ← split]

/-- The line starts are numbered by the line feeds in front of them. -/
theorem getElem?_lineStarts {front : Text} (fresh : front.lastLine = []) (rest : Text) :
    (lineStarts (front ++ rest))[front.count '\n']? = some front.byteLength := by
  rcases eq_nil_or_lineFeed fresh with rfl | ⟨earlier, rfl⟩
  · rfl
  · have behind : startsBehind 0 (earlier ++ ['\n'] ++ rest) =
        startsBehind 0 earlier ++
          byteLength (earlier ++ ['\n']) :: startsBehind (byteLength (earlier ++ ['\n'])) rest := by
      simp [startsBehind_append, startsBehind]
    have counted : (earlier ++ ['\n']).count '\n' = (startsBehind 0 earlier).length + 1 := by
      simp [length_startsBehind]
    rw [lineStarts, behind, counted, List.getElem?_cons_succ]
    simp

@[simp]
theorem splitAtOffset?_append (front rest : Text) :
    splitAtOffset? front.byteLength (front ++ rest) = some (front, rest) := by
  induction front with
  | nil => cases rest <;> rfl
  | cons character front ih =>
      have size := character.utf8Size_pos
      have started : character.utf8Size + byteLength front ≠ 0 := by omega
      have passed : ¬ character.utf8Size + byteLength front < character.utf8Size := by omega
      rw [List.cons_append, byteLength_cons, splitAtOffset?, if_neg started, if_neg passed,
        Nat.add_sub_cancel_left, ih]
      rfl

theorem slice?_append (front part rest : Text) :
    slice? (front ++ part ++ rest) front.byteLength (front ++ part).byteLength = some part := by
  rw [slice?, byteLength_append, if_pos (Nat.le_add_right _ _), Nat.add_sub_cancel_left,
    List.append_assoc, splitAtOffset?_append, Option.bind_some, splitAtOffset?_append]
  rfl

end Text

namespace LineIndex

theorem starts_ofText (text : Text) : (ofText text).starts = text.lineStarts.toArray := by
  simp only [ofText, Text.map_offsetsOf_lineFeed, Text.lineStarts]

theorem getElem?_lineStarts_eq (text : Text) (number : Fin (ofText text).starts.size) :
    text.lineStarts[number.val]? = some (ofText text).starts[number] := by
  simp [starts_ofText]

theorem isAscending_starts (text : Text) : Table.IsAscending (ofText text).starts := by
  rw [starts_ofText]
  intro first second less
  exact List.pairwise_iff_getElem.mp text.pairwise_lineStarts _ _ first.isLt second.isLt less

/-- The line of an offset is the last one that starts at it or in front of it. -/
theorem le_lineAt_search_iff (text : Text) (offset : Nat)
    (number : Fin (ofText text).starts.size) :
    number.val ≤ ((ofText text).lineAt (Table.search (ofText text).starts offset)).val ↔
      (ofText text).starts[number] ≤ offset := by
  have ascending := isAscending_starts text
  have fits := Table.fits_search ascending offset
  cases found : Table.search (ofText text).starts offset with
  | found line =>
      rw [found] at fits
      obtain rfl : (ofText text).starts[line] = offset := fits
      constructor
      · intro notBehind
        rcases Nat.lt_or_eq_of_le notBehind with earlier | same
        · exact Nat.le_of_lt (ascending number line earlier)
        · obtain rfl : number = line := Fin.ext same
          exact Nat.le_refl _
      · intro notGreater
        by_contra behind
        exact absurd (ascending line number (Nat.lt_of_not_le behind)) (Nat.not_lt.mpr notGreater)
  | missing next =>
      rw [found] at fits
      -- The first line starts at zero, so an offset that is no start stands behind a start.
      have positive : 0 < next.val := by
        by_contra first
        have tooLarge := (fits ⟨0, (ofText text).occupied⟩).2 (by omega)
        exact Nat.not_lt_zero _ tooLarge
      have decoded : ((ofText text).lineAt (.missing next)).val = next.val - 1 := rfl
      rw [decoded]
      constructor
      · intro notBehind
        exact Nat.le_of_lt ((fits number).1 (by omega))
      · intro notGreater
        by_contra behind
        exact absurd ((fits number).2 (by omega)) (Nat.not_lt.mpr notGreater)

/-- The line of a boundary is told by the line feeds in front of it. -/
theorem lineAt_search_eq (before after : Text) :
    ((ofText (before ++ after)).lineAt
      (Table.search (ofText (before ++ after)).starts before.byteLength)).val =
        before.count '\n' := by
  have le_iff : ∀ number : Fin (ofText (before ++ after)).starts.size,
      number.val ≤ ((ofText (before ++ after)).lineAt
        (Table.search (ofText (before ++ after)).starts before.byteLength)).val ↔
          number.val ≤ before.count '\n' := by
    intro number
    rw [le_lineAt_search_iff, Text.start_le_byteLength_iff (getElem?_lineStarts_eq _ number)]
  generalize (ofText (before ++ after)).lineAt _ = line at le_iff ⊢
  have counted : before.count '\n' < (ofText (before ++ after)).starts.size := by
    have length : (ofText (before ++ after)).starts.size = (before ++ after).count '\n' + 1 := by
      rw [starts_ofText, List.size_toArray, Text.lineStarts, List.length_cons,
        Text.length_startsBehind]
    rw [length, List.count_append]
    omega
  exact Nat.le_antisymm ((le_iff line).mp (Nat.le_refl _))
    ((le_iff ⟨_, counted⟩).mpr (Nat.le_refl _))

/-- The position of a boundary is found as the number of line feeds in front of it and the length
of what stands behind the last of them. -/
theorem position_append (before after : Text) :
    (ofText (before ++ after)).position before.byteLength =
      ⟨before.count '\n', before.lastLine.utf16Length⟩ := by
  obtain ⟨front, split, fresh⟩ := before.exists_lineStart
  have line_eq := lineAt_search_eq before after
  have clamped : min before.byteLength (ofText (before ++ after)).text.byteLength =
      before.byteLength := by
    have whole : (ofText (before ++ after)).text = before ++ after := rfl
    rw [whole, Text.byteLength_append]
    omega
  simp only [position, clamped]
  generalize (ofText (before ++ after)).lineAt _ = line at line_eq ⊢
  have start_eq : (ofText (before ++ after)).starts[line] = front.byteLength := by
    have number : before.count '\n' = front.count '\n' := by
      conv_lhs => rw [split]
      simp [List.count_eq_zero_of_not_mem before.lineFeed_not_mem_lastLine]
    have started := Text.getElem?_lineStarts fresh (before.lastLine ++ after)
    rw [← List.append_assoc, ← split, ← number, ← line_eq] at started
    exact Option.some.inj ((getElem?_lineStarts_eq _ line).symm.trans started)
  have slice_eq : (ofText (before ++ after)).text.slice? front.byteLength before.byteLength =
      some before.lastLine := by
    have sliced := Text.slice?_append front before.lastLine after
    rwa [← split] at sliced
  rw [positionIn, start_eq, slice_eq, line_eq]
  rfl

end LineIndex

end SelectorNavigation
