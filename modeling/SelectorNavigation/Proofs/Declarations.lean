import SelectorNavigation.Proofs.Positions
import SelectorNavigation.Proofs.Rendering
import SelectorNavigation.Proofs.Usages
import Mathlib.Data.Nat.Find

/-!
# The first complete declaration

A text declares the selector of its first complete declaration.  A beginning that lacks its
colon, its quote or the closing quote counts for nothing, so it does not hide what comes later.

What follows the first complete declaration is never read on its own account.  It can only close
a quote that an incomplete declaration further in front still waits for.  That declaration is
then complete, comes first, and takes the other one into its selector.
-/

namespace SelectorNavigation

namespace Text

theorem exists_whitespace (text : Text) :
    ∃ blanks, (∀ character ∈ blanks, isWhitespace character) ∧
      text = blanks ++ text.skipWhitespace :=
  ⟨text.takeWhile isWhitespace, fun _ member => List.mem_takeWhile_imp member,
    List.takeWhile_append_dropWhile.symm⟩

/-- White space with a sign behind it ends in front of a character that is neither. -/
theorem exists_between_of_whitespace {blanks front rest back : Text} {sign character : Char}
    (blank : ∀ item ∈ blanks, isWhitespace item) (visible : isWhitespace character = false)
    (different : sign ≠ character) (same : blanks ++ sign :: rest = front ++ character :: back) :
    ∃ between, front = blanks ++ sign :: between ∧ rest = between ++ character :: back := by
  rcases List.append_eq_append_iff.mp same with ⟨gap, rfl, behind⟩ | ⟨gap, rfl, behind⟩
  · cases gap with
    | nil => exact absurd (List.cons.inj behind).1 different
    | cons first between =>
        obtain ⟨rfl, rfl⟩ := List.cons.inj behind
        exact ⟨between, rfl, rfl⟩
  · cases gap with
    | nil => exact absurd (List.cons.inj behind).1.symm different
    | cons first between =>
        obtain ⟨rfl, -⟩ := List.cons.inj behind
        rw [blank character (by simp)] at visible
        contradiction

end Text

namespace Declaration

/-- What stands in front of the selector in its declaration. -/
def Frame.opening (frame : Frame) : Text :=
  "selector".toList ++ (frame.beforeColon ++ ':' :: (frame.afterColon ++ [frame.quote]))

/-- The declaration of a selector up to the closing quote. -/
def Frame.closed (frame : Frame) (selector : Text) : Text :=
  frame.opening ++ (selector ++ [frame.quote])

theorem Frame.opening_ne_nil (frame : Frame) : frame.opening ≠ [] := by
  intro empty
  obtain ⟨named, -⟩ := List.append_eq_nil_iff.mp empty
  exact absurd named (by decide)

@[simp]
theorem Frame.opening_withAfter (frame : Frame) (after : Text) :
    ({ frame with after := after } : Frame).opening = frame.opening :=
  rfl

theorem Frame.around_eq (frame : Frame) (selector : Text) :
    frame.around selector = frame.opening ++ (selector ++ frame.quote :: frame.after) := by
  unfold around opening quoted
  -- A literal property would be evaluated at every rewriting step.
  generalize "selector".toList = property
  simp

theorem Frame.around_eq_closed (frame : Frame) (selector : Text) :
    frame.around selector = frame.closed selector ++ frame.after := by
  simp only [around_eq, closed, List.append_assoc, List.singleton_append]

theorem untilQuote?_eq_some_iff {quote : Char} {text selector : Text} :
    untilQuote? quote text = some selector ↔
      quote ∉ selector ∧ ∃ after, text = selector ++ quote :: after := by
  constructor
  · intro read
    by_cases present : quote ∈ text
    · obtain ⟨front, after, rfl, absent⟩ := List.eq_append_cons_of_mem present
      rw [untilQuote?_append absent] at read
      obtain rfl := Option.some.inj read
      exact ⟨absent, after, rfl⟩
    · simp [untilQuote?, present] at read
  · rintro ⟨absent, after, rfl⟩
    exact untilQuote?_append absent after

theorem exists_frame_of_readAt? {text selector : Text} (read : readAt? text = some selector) :
    ∃ frame : Frame, text = frame.around selector ∧ frame.quote ∉ selector := by
  simp only [readAt?, Option.bind_eq_bind, Option.bind_eq_some_iff] at read
  obtain ⟨property, named, value, colon, quoted⟩ := read
  have text_eq := Text.strip?_eq_some_iff.mp named
  have value_eq := Text.strip?_eq_some_iff.mp colon
  split at quoted
  · rename_i quote rest opened
    split at quoted
    · rename_i quotes
      obtain ⟨unquoted, after, rfl⟩ := untilQuote?_eq_some_iff.mp quoted
      obtain ⟨beforeColon, blankBefore, split⟩ := Text.exists_whitespace property
      obtain ⟨afterColon, blankAfter, valueSplit⟩ := Text.exists_whitespace value
      rw [value_eq] at split
      rw [opened] at valueSplit
      refine ⟨⟨beforeColon, afterColon, quote, after, blankBefore, blankAfter, quotes⟩, ?_,
        unquoted⟩
      rw [text_eq, split, valueSplit]
      rfl
    · contradiction
  · contradiction

/-- A complete declaration of the selector begins at a byte offset of the text. -/
def DeclaresAt (text : Text) (offset : Nat) (selector : Text) : Prop :=
  ∃ (before : Text) (frame : Frame), text = before ++ frame.around selector ∧
    frame.quote ∉ selector ∧ offset = before.byteLength

/-- No complete declaration begins in front of this one. -/
def FirstAt (text : Text) (offset : Nat) (selector : Text) : Prop :=
  DeclaresAt text offset selector ∧
    ∀ other another, DeclaresAt text other another → offset ≤ other

variable {text selector another before : Text} {offset : Nat} {frame : Frame}

theorem declaresAt_iff_readAt? :
    DeclaresAt text offset selector ↔
      ∃ before rest, text = before ++ rest ∧ offset = before.byteLength ∧
        readAt? rest = some selector := by
  constructor
  · rintro ⟨before, frame, rfl, unquoted, rfl⟩
    exact ⟨before, _, rfl, rfl, readAt?_around frame unquoted⟩
  · rintro ⟨before, rest, rfl, rfl, read⟩
    obtain ⟨frame, rfl, unquoted⟩ := exists_frame_of_readAt? read
    exact ⟨before, frame, rfl, unquoted, rfl⟩

theorem DeclaresAt.unique (declared : DeclaresAt text offset selector)
    (declaredToo : DeclaresAt text offset another) : selector = another := by
  obtain ⟨before, rest, rfl, rfl, read⟩ := declaresAt_iff_readAt?.mp declared
  obtain ⟨front, back, same, length, readToo⟩ := declaresAt_iff_readAt?.mp declaredToo
  obtain rfl := Text.append_inj_of_byteLength same length
  obtain rfl := List.append_cancel_left same
  exact Option.some.inj (read.symm.trans readToo)

theorem declaresAt_cons_iff {character : Char} {rest : Text} :
    DeclaresAt (character :: rest) offset selector ↔
      (offset = 0 ∧ readAt? (character :: rest) = some selector) ∨
        ∃ later, offset = character.utf8Size + later ∧ DeclaresAt rest later selector := by
  simp only [declaresAt_iff_readAt?]
  constructor
  · rintro ⟨before, back, split, rfl, read⟩
    cases before with
    | nil =>
        rw [List.nil_append] at split
        exact .inl ⟨rfl, split ▸ read⟩
    | cons first before =>
        obtain ⟨rfl, rfl⟩ := List.cons.inj split
        exact .inr ⟨_, rfl, before, back, rfl, rfl, read⟩
  · rintro (⟨rfl, read⟩ | ⟨_, rfl, before, back, rfl, rfl, read⟩)
    · exact ⟨[], _, rfl, rfl, read⟩
    · exact ⟨character :: before, back, rfl, rfl, read⟩

theorem not_declaresAt_nil : ¬ DeclaresAt [] offset selector := by
  rintro ⟨before, frame, empty, -⟩
  obtain ⟨-, around⟩ := List.append_eq_nil_iff.mp empty.symm
  rw [Frame.around_eq] at around
  exact frame.opening_ne_nil (List.append_eq_nil_iff.mp around).1

/-- All complete declarations of a text that begins at the given offset. -/
def declarations : Nat → Text → List (Nat × Text)
  | _, [] => []
  | offset, character :: rest =>
      (readAt? (character :: rest)).toList.map (offset, ·) ++
        declarations (offset + character.utf8Size) rest

theorem mem_declarations_iff {start : Nat} :
    (offset, selector) ∈ declarations start text ↔
      ∃ behind, offset = start + behind ∧ DeclaresAt text behind selector := by
  induction text generalizing start with
  | nil => simp [declarations, not_declaresAt_nil]
  | cons character rest ih =>
      simp only [declarations, List.mem_append, List.mem_map, Option.mem_toList,
        Prod.mk.injEq, ih, declaresAt_cons_iff]
      constructor
      · rintro (⟨_, read, rfl, rfl⟩ | ⟨behind, rfl, declared⟩)
        · exact ⟨0, rfl, .inl ⟨rfl, read⟩⟩
        · exact ⟨_, Nat.add_assoc _ _ _, .inr ⟨behind, rfl, declared⟩⟩
      · rintro ⟨_, rfl, ⟨rfl, read⟩ | ⟨behind, rfl, declared⟩⟩
        · exact .inl ⟨selector, read, rfl, rfl⟩
        · exact .inr ⟨behind, (Nat.add_assoc _ _ _).symm, declared⟩

theorem declaresAt_iff_mem_declarations :
    DeclaresAt text offset selector ↔ (offset, selector) ∈ declarations 0 text := by
  simp [mem_declarations_iff]

instance : Decidable (FirstAt text offset selector) :=
  decidable_of_iff
    ((offset, selector) ∈ declarations 0 text ∧
      ∀ declaration ∈ declarations 0 text, offset ≤ declaration.1)
    (by simp only [FirstAt, declaresAt_iff_mem_declarations, Prod.forall])

/-- The declaration that is found is the first complete one. -/
theorem find?_eq_some_iff :
    find? text = some selector ↔ ∃ offset, FirstAt text offset selector := by
  induction text with
  | nil =>
      constructor
      · intro found
        contradiction
      · rintro ⟨offset, declared, -⟩
        exact absurd declared not_declaresAt_nil
  | cons character rest ih =>
      cases read : readAt? (character :: rest) with
      | some here =>
          have atStart : DeclaresAt (character :: rest) 0 here :=
            declaresAt_cons_iff.mpr (.inl ⟨rfl, read⟩)
          rw [find?_of_readAt? read, Option.some.injEq]
          constructor
          · rintro rfl
            exact ⟨0, atStart, fun _ _ _ => Nat.zero_le _⟩
          · rintro ⟨offset, declared, least⟩
            obtain rfl := Nat.le_zero.mp (least 0 here atStart)
            exact atStart.unique declared
      | none =>
          rw [find?, read, Option.none_or, ih]
          constructor
          · rintro ⟨offset, declared, least⟩
            refine ⟨character.utf8Size + offset,
              declaresAt_cons_iff.mpr (.inr ⟨offset, rfl, declared⟩), ?_⟩
            intro other another declaredToo
            rcases declaresAt_cons_iff.mp declaredToo with ⟨-, here⟩ | ⟨later, rfl, inRest⟩
            · simp [read] at here
            · have := least later another inRest
              omega
          · rintro ⟨offset, declared, least⟩
            rcases declaresAt_cons_iff.mp declared with ⟨-, here⟩ | ⟨later, rfl, inRest⟩
            · simp [read] at here
            · refine ⟨later, inRest, ?_⟩
              intro other another declaredToo
              have := least _ another (declaresAt_cons_iff.mpr (.inr ⟨other, rfl, declaredToo⟩))
              omega

theorem DeclaresAt.exists_firstAt (declared : DeclaresAt text offset selector) :
    ∃ first other, FirstAt text first other := by
  classical
  have somewhere : ∃ first other, DeclaresAt text first other := ⟨offset, selector, declared⟩
  obtain ⟨other, isFirst⟩ := Nat.find_spec somewhere
  refine ⟨Nat.find somewhere, other, isFirst, ?_⟩
  intro later another declaredToo
  exact Nat.find_min' somewhere ⟨another, declaredToo⟩

/-- A declaration begins in the text in front and is still without its closing quote at the end
of the text behind. -/
def Awaits (before behind : Text) (quote : Char) : Prop :=
  ∃ (front value : Text) (frame : Frame), before = front ++ (frame.opening ++ value) ∧
    frame.quote = quote ∧ quote ∉ value ++ behind

theorem Frame.quote_ne (frame : Frame) : frame.quote ≠ 's' := by
  intro same
  have quotes := frame.quotes
  rw [same] at quotes
  exact absurd quotes (by decide)

/-- A declaration that begins in front of another one has its opening there as well, since the
property of the other one belongs to no opening. -/
theorem exists_value_of_around_eq {gap other : Text} {inner : Frame} (occupied : gap ≠ [])
    (same : gap ++ frame.around selector = inner.around other) :
    ∃ value, gap = inner.opening ++ value ∧
      value ++ frame.around selector = other ++ inner.quote :: inner.after := by
  have property_eq : "selector".toList = 's' :: "elector".toList := by decide
  have fresh : 's' ∉ "elector".toList := by decide
  unfold Frame.opening
  unfold Frame.around at same ⊢
  rw [property_eq] at same ⊢
  generalize "elector".toList = others at *
  have begins : 's' :: others <+: gap ++ ('s' :: others ++
      (frame.beforeColon ++ ':' :: (frame.afterColon ++ frame.quoted selector))) := by
    rw [same]
    exact List.prefix_append _ _
  obtain ⟨named, rfl⟩ := Text.isPrefix_of_isPrefix_append_word fresh occupied begins
  rw [List.append_assoc] at same
  have header := (List.append_cancel_left same).symm
  obtain ⟨spaced, rfl, toQuote⟩ := Text.exists_between_of_whitespace inner.blankBeforeColon
    (by decide) (by decide) header
  obtain ⟨value, rfl, valued⟩ := Text.exists_between_of_whitespace inner.blankAfterColon
    (by decide) inner.quote_ne toQuote
  exact ⟨value, by simp, valued.symm⟩

/-- A declaration that begins in front of another one is complete whatever follows the other, or
its quote is closed by what follows.  In the latter case it takes the other one in. -/
theorem DeclaresAt.stable_or_awaits
    (declared : DeclaresAt (before ++ frame.around selector) offset another)
    (earlier : offset < before.byteLength) :
    (∀ after, DeclaresAt (before ++ (frame.closed selector ++ after)) offset another) ∨
      ∃ quote ∈ frame.after, Awaits before (frame.closed selector) quote ∧
        frame.closed selector <:+: another := by
  obtain ⟨front, inner, same, unquoted, rfl⟩ := declared
  obtain ⟨gap, rfl, inGap⟩ : ∃ gap, before = front ++ gap ∧
      gap ++ frame.around selector = inner.around another := by
    rcases List.append_eq_append_iff.mp same with ⟨excess, rfl, -⟩ | ⟨gap, rfl, split⟩
    · rw [Text.byteLength_append] at earlier
      omega
    · exact ⟨gap, rfl, split.symm⟩
  have occupied : gap ≠ [] := by
    rintro rfl
    simp at earlier
  obtain ⟨value, rfl, valued⟩ := exists_value_of_around_eq occupied inGap
  rw [Frame.around_eq_closed, ← List.append_assoc] at valued
  by_cases present : inner.quote ∈ value ++ frame.closed selector
  · -- The closing quote comes before the text behind, so that text does not matter.
    obtain ⟨taken, rest, split, absent⟩ := List.eq_append_cons_of_mem present
    have sameValue : taken = another := by
      have readTaken := untilQuote?_append absent (rest ++ frame.after)
      have readAnother := untilQuote?_append unquoted inner.after
      rw [← valued, split, List.append_assoc, List.cons_append, readTaken] at readAnother
      exact Option.some.inj readAnother
    refine .inl fun after => ⟨front, { inner with after := rest ++ after }, ?_, unquoted, rfl⟩
    rw [Frame.around_eq, List.append_assoc, List.append_assoc, ← List.append_assoc value, split,
      sameValue]
    simp
  · -- The closing quote stands in the text behind.
    right
    have closedBehind : ∃ taken, another = value ++ frame.closed selector ++ taken ∧
        frame.after = taken ++ inner.quote :: inner.after := by
      rcases List.append_eq_append_iff.mp valued with
        ⟨taken, long, closes⟩ | ⟨excess, split, closes⟩
      · exact ⟨taken, long, closes⟩
      · cases excess with
        | nil => exact ⟨[], by simpa using split.symm, by simpa using closes.symm⟩
        | cons first excess =>
            obtain ⟨rfl, -⟩ := List.cons.inj closes
            exact absurd (by simp [split]) present
    obtain ⟨taken, long, closes⟩ := closedBehind
    refine ⟨inner.quote, by simp [closes], ⟨front, value, inner, rfl, rfl, present⟩, ?_⟩
    exact ⟨value, taken, long.symm⟩

/-- Closing a quote that is waited for completes an earlier declaration. -/
theorem Awaits.exists_declaresAt {quote : Char} {after : Text}
    (awaits : Awaits before (frame.closed selector) quote) (closes : quote ∈ after) :
    ∃ earlier < before.byteLength, ∃ other,
      DeclaresAt (before ++ (frame.closed selector ++ after)) earlier other := by
  obtain ⟨front, value, inner, rfl, rfl, absent⟩ := awaits
  obtain ⟨taken, rest, rfl, untaken⟩ := List.eq_append_cons_of_mem closes
  refine ⟨front.byteLength, ?_, value ++ frame.closed selector ++ taken, front,
    { inner with after := rest }, ?_, ?_, rfl⟩
  · have occupied : inner.opening ++ value ≠ [] := by simp [inner.opening_ne_nil]
    have size := Text.byteLength_pos occupied
    rw [Text.byteLength_append]
    omega
  · rw [Frame.around_eq]
    simp
  · rw [List.mem_append, not_or]
    exact ⟨absent, untaken⟩

/-- Behind the first complete declaration the text may be replaced by any other that closes no
quote which is waited for in front of it, and by no other. -/
theorem find?_append_closed_iff (unquoted : frame.quote ∉ selector)
    (isFirst : FirstAt (before ++ frame.around selector) before.byteLength selector)
    (after : Text) :
    find? (before ++ (frame.closed selector ++ after)) = some selector ↔
      ∀ quote ∈ after, ¬ Awaits before (frame.closed selector) quote := by
  have replaced : frame.closed selector ++ after =
      ({ frame with after := after } : Frame).around selector :=
    (Frame.around_eq_closed { frame with after := after } selector).symm
  -- A declaration in front that is complete here was not complete before, so it awaits a quote.
  have awaited : ∀ earlier another, earlier < before.byteLength →
      DeclaresAt (before ++ (frame.closed selector ++ after)) earlier another →
      ∃ quote ∈ after, Awaits before (frame.closed selector) quote ∧
        frame.closed selector <:+: another := by
    intro earlier another less declared
    rw [replaced] at declared
    rcases declared.stable_or_awaits less with stable | awaits
    · have before_complete := stable frame.after
      have notEarlier := isFirst.2 earlier another (by
        rw [Frame.around_eq_closed]
        exact before_complete)
      omega
    · exact awaits
  rw [find?_eq_some_iff]
  constructor
  · rintro ⟨first, declared, least⟩ quote closes awaits
    obtain ⟨earlier, less, other, completed⟩ := awaits.exists_declaresAt closes
    have notLater := least earlier other completed
    obtain ⟨-, -, -, inside⟩ := awaited first selector (by omega) declared
    have length := inside.length_le
    simp only [Frame.closed, List.length_append] at length
    simp only [List.length_singleton] at length
    omega
  · intro unawaited
    refine ⟨before.byteLength, ⟨before, { frame with after := after }, ?_, unquoted, rfl⟩, ?_⟩
    · rw [replaced]
    · intro earlier another declared
      by_contra less
      obtain ⟨quote, closes, awaits, -⟩ := awaited earlier another (by omega) declared
      exact unawaited quote closes awaits

/-- The selector that is found is that of the complete declaration with the smallest offset, and
no offset has more than one.  So some selector is found wherever a complete declaration stands in
the text.  Behind the first one, the text can be replaced without a change exactly if the new text
closes no quote that is waited for further in front. -/
theorem find?_reads_first_declaration (text : Text) :
    (∀ selector, find? text = some selector ↔ ∃ offset, FirstAt text offset selector) ∧
    (∀ offset selector another, DeclaresAt text offset selector →
      DeclaresAt text offset another → selector = another) ∧
    (∀ offset selector, DeclaresAt text offset selector → ∃ first, find? text = some first) ∧
    ∀ (before selector : Text) (frame : Frame), frame.quote ∉ selector →
      text = before ++ frame.around selector → FirstAt text before.byteLength selector →
        ∀ after, find? (before ++ (frame.closed selector ++ after)) = some selector ↔
          ∀ quote ∈ after, ¬ Awaits before (frame.closed selector) quote := by
  refine ⟨fun selector => find?_eq_some_iff, ?_, ?_, ?_⟩
  · intro offset selector another declared declaredToo
    exact declared.unique declaredToo
  · intro offset selector declared
    obtain ⟨first, other, isFirst⟩ := declared.exists_firstAt
    exact ⟨other, find?_eq_some_iff.mpr ⟨first, isFirst⟩⟩
  · rintro before selector frame unquoted rfl isFirst after
    exact find?_append_closed_iff unquoted isFirst after

/-- A declaration whose quote stays open does not hide the next one, and signs that are quoted in
the latter may follow it. -/
theorem find?_reads_declaration_behind_open_quote :
    let before : Text := "selector:\x60".toList
    let declaration : Text := "selector :\n'b\"'".toList
    let selector : Text := "b\"".toList
    FirstAt (before ++ (declaration ++ " selector:'c'".toList)) 10 selector ∧
      find? (before ++ (declaration ++ " selector:'c'".toList)) = some selector ∧
      find? (before ++ (declaration ++ "'\"x".toList)) = some selector := by
  intro before declaration selector
  have isFirst : FirstAt (before ++ (declaration ++ " selector:'c'".toList)) 10 selector := by
    decide +kernel
  have unquoted : '\'' ∉ selector := by decide
  have quoted : "'\"x".toList.all (fun sign => !isQuote sign || declaration.contains sign) := by
    decide
  have blank : ∀ character, isWhitespace character → ∀ other ∈ [character], isWhitespace other :=
    fun character isBlank => List.forall_mem_singleton.mpr isBlank
  let frame : Frame := ⟨[' '], ['\n'], '\'', " selector:'c'".toList, blank ' ' (by decide),
    blank '\n' (by decide), by decide⟩
  obtain ⟨reads, -, -, replaces⟩ :=
    find?_reads_first_declaration (before ++ (declaration ++ " selector:'c'".toList))
  refine ⟨isFirst, (reads selector).mpr ⟨10, isFirst⟩,
    (replaces before selector frame unquoted rfl isFirst "'\"x".toList).mpr ?_⟩
  rintro quote isSign ⟨front, value, inner, -, rfl, absent⟩
  have inside := List.all_eq_true.mp quoted inner.quote isSign
  simp only [inner.quotes, Bool.not_true, Bool.false_or, List.contains_iff_mem] at inside
  exact absent (List.mem_append_right value inside)

/-- A quote behind the first complete declaration, where an earlier one waits for it, makes the
earlier one complete. -/
theorem find?_changes_with_quote_behind :
    let before : Text := "selector:\"".toList
    let declaration : Text := "selector:'a'".toList
    FirstAt (before ++ declaration) before.byteLength "a".toList ∧
      find? (before ++ declaration) = some "a".toList ∧
      find? (before ++ (declaration ++ ['"'])) = some declaration := by
  decide +kernel

end Declaration

end SelectorNavigation
