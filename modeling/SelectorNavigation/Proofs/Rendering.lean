import SelectorNavigation.Proofs.Lists
import SelectorNavigation.Proofs.NameCharacters
import Mathlib.Data.List.Infix

/-!
# Declarations that are written and read back

Alternatives are written as a selector by putting the name of an attribute in brackets and a
comma, with any white space around it, between one alternative and the next.  The selector is
quoted behind the property, anywhere in a text that does not name the property before.  Such a
text declares exactly the alternatives that were written.  Since the names that a declaration
yields are proper, every declared list of alternatives can be written again.
-/

namespace SelectorNavigation

namespace Text

variable {blanks : Text}

theorem skipWhitespace_append (isBlank : ∀ character ∈ blanks, isWhitespace character)
    (rest : Text) : skipWhitespace (blanks ++ rest) = rest.skipWhitespace :=
  List.dropWhile_append_of_pos isBlank

theorem skipWhitespace_of_not_blank {character : Char} (visible : isWhitespace character = false)
    (rest : Text) : skipWhitespace (character :: rest) = character :: rest :=
  List.dropWhile_cons_of_neg (by simp [visible])

/-- A word whose first character does not come again does not begin inside of itself, so in
front of one occurrence no other can begin that reaches into it. -/
theorem isPrefix_of_isPrefix_append_word {first : Char} {others front rest : Text}
    (fresh : first ∉ others) (occupied : front ≠ [])
    (begins : first :: others <+: front ++ (first :: others ++ rest)) :
    first :: others <+: front := by
  rcases List.prefix_or_prefix_of_prefix begins (List.prefix_append front _) with
    inside | ⟨border, split⟩
  · exact inside
  · cases border with
    | nil =>
        rw [List.append_nil] at split
        exact split ▸ List.prefix_rfl
    | cons character border =>
        obtain ⟨head, tail, rfl⟩ := List.exists_cons_of_ne_nil occupied
        obtain ⟨rfl, sameTail⟩ := List.cons.inj split
        rw [← split] at begins
        have overlapping := (List.prefix_append_right_inj (head :: tail)).mp begins
        obtain ⟨rfl, -⟩ := List.cons_prefix_cons.mp overlapping
        exact absurd (by simp [← sameTail]) fresh

end Text

namespace Alternative

/-- An alternative as it stands in a selector. -/
def render : Alternative → Text
  | .element name => name
  | .attr name => '[' :: (name ++ [']'])

/-- An alternative with the white space around it in a selector. -/
structure Spaced where
  front : Text
  alternative : Alternative
  back : Text
  frontBlank : ∀ character ∈ front, isWhitespace character
  backBlank : ∀ character ∈ back, isWhitespace character

def Spaced.render (item : Spaced) : Text :=
  item.front ++ (item.alternative.render ++ item.back)

/-- Alternatives as a selector, with a comma between one and the next. -/
def renderAll (items : List Spaced) : Text :=
  [','].intercalate (items.map Spaced.render)

theorem mem_render {item : Spaced} (proper : item.alternative.HasProperName) {character : Char}
    (member : character ∈ item.render) :
    isWhitespace character ∨ isNameChar character ∨ character = '[' ∨ character = ']' := by
  have written : character ∈ item.alternative.render →
      isNameChar character ∨ character = '[' ∨ character = ']' := by
    intro inside
    obtain ⟨front, alternative, back, frontBlank, backBlank⟩ := item
    cases alternative with
    | element name => exact .inl (proper.2 character inside)
    | attr name =>
        simp only [render, List.mem_cons, List.mem_append, List.not_mem_nil, or_false] at inside
        rcases inside with opens | isName | closes
        · exact .inr (.inl opens)
        · exact .inl (proper.2 character isName)
        · exact .inr (.inr closes)
  rcases List.mem_append.mp member with inFront | behind
  · exact .inl (item.frontBlank character inFront)
  · rcases List.mem_append.mp behind with inside | inBack
    · exact .inr (written inside)
    · exact .inl (item.backBlank character inBack)

theorem mem_renderAll {items : List Spaced} {character : Char}
    (member : character ∈ renderAll items) :
    character = ',' ∨ ∃ item ∈ items, character ∈ item.render := by
  induction items with
  | nil => simp [renderAll] at member
  | cons item items ih =>
      cases items with
      | nil => exact .inr ⟨item, by simp, by simpa [renderAll] using member⟩
      | cons next items =>
          simp only [renderAll, List.map_cons, List.intercalate_cons_cons, List.mem_append,
            List.mem_singleton] at member ih
          rcases member with (inItem | comma) | later
          · exact .inr ⟨item, by simp, inItem⟩
          · exact .inl comma
          · rcases ih later with comma | ⟨other, isOther, inOther⟩
            · exact .inl comma
            · exact .inr ⟨other, List.mem_cons_of_mem _ isOther, inOther⟩

/-- A sign that is neither white space nor a bracket does not stand in the name of an alternative
or around it. -/
theorem not_mem_render {item : Spaced} (proper : item.alternative.HasProperName) {sign : Char}
    (visible : isWhitespace sign = false) (noName : isNameChar sign = false)
    (noBracket : sign ≠ '[' ∧ sign ≠ ']') : sign ∉ item.render := by
  intro member
  rcases mem_render proper member with blank | isName | opens | closes
  · simp [visible] at blank
  · simp [noName] at isName
  · exact noBracket.1 opens
  · exact noBracket.2 closes

/-- Behind the white space, the head of a written alternative is read as it was written. -/
theorem read?_render {item : Spaced} (proper : item.alternative.HasProperName) :
    read? item.render = some item.alternative := by
  obtain ⟨front, alternative, back, frontBlank, backBlank⟩ := item
  have ended : ∀ character ∈ back.head?, isNameChar character = false := by
    intro character isHead
    have inBack : character ∈ back := List.mem_of_mem_head? isHead
    exact isNameChar_eq_false_of_isWhitespace (backBlank character inBack)
  obtain ⟨first, others, named⟩ := List.exists_cons_of_ne_nil proper.1
  cases alternative with
  | element name =>
      obtain rfl : name = first :: others := named
      have isName : isNameChar first := proper.2 first (by simp [Alternative.name])
      have visible : isWhitespace first = false := by
        by_contra blank
        rw [isNameChar_eq_false_of_isWhitespace (by simpa using blank)] at isName
        contradiction
      have unbracketed : first ≠ '[' := by
        rintro rfl
        rw [isNameChar_eq_false_of_mem_signs '[' (by decide)] at isName
        contradiction
      have skipped : Text.skipWhitespace (front ++ (first :: others ++ back)) =
          first :: others ++ back :=
        (Text.skipWhitespace_append frontBlank _).trans
          (Text.skipWhitespace_of_not_blank visible _)
      have taken : (first :: others ++ back).takeWhile isNameChar = first :: others :=
        takeWhile_append_of_head proper.2 ended
      simp only [read?, Spaced.render, render, skipped]
      split
      · rename_i bracketed
        exact absurd (List.cons.inj bracketed).1 unbracketed
      · rw [taken]
  | attr name =>
      obtain rfl : name = first :: others := named
      have closing : ∀ character ∈ (']' :: back).head?, isNameChar character = false := by
        rintro character ⟨⟩
        exact isNameChar_eq_false_of_mem_signs ']' (by decide)
      have skipped : Text.skipWhitespace (front ++ (('[' :: (first :: others ++ [']'])) ++ back)) =
          '[' :: (first :: others ++ ']' :: back) := by
        rw [Text.skipWhitespace_append frontBlank, List.cons_append,
          Text.skipWhitespace_of_not_blank (by decide)]
        simp
      have taken : (first :: others ++ ']' :: back).takeWhile isNameChar = first :: others :=
        takeWhile_append_of_head proper.2 closing
      simp only [read?, Spaced.render, render, skipped, taken]

theorem readAll_renderAll {items : List Spaced} (nonempty : items ≠ [])
    (proper : ∀ item ∈ items, item.alternative.HasProperName) :
    readAll (renderAll items) = items.map (·.alternative) := by
  have separated : (renderAll items).splitOn ',' = items.map Spaced.render := by
    apply List.splitOn_intercalate
    · intro piece member
      obtain ⟨item, isItem, rfl⟩ := List.mem_map.mp member
      exact not_mem_render (proper item isItem) (by decide)
        (isNameChar_eq_false_of_mem_signs ',' (by decide)) (by decide)
    · simpa using nonempty
  rw [readAll, separated, List.filterMap_map, ← List.filterMap_eq_map]
  apply List.filterMap_congr
  intro item isItem
  exact read?_render (proper item isItem)

end Alternative

namespace Declaration

/-- What stands around a selector in its declaration. -/
structure Frame where
  beforeColon : Text
  afterColon : Text
  quote : Char
  after : Text
  blankBeforeColon : ∀ character ∈ beforeColon, isWhitespace character
  blankAfterColon : ∀ character ∈ afterColon, isWhitespace character
  quotes : isQuote quote

/-- The quoted selector, with the text behind it. -/
def Frame.quoted (frame : Frame) (selector : Text) : Text :=
  frame.quote :: (selector ++ frame.quote :: frame.after)

/-- The declaration of a selector, with the text behind it. -/
def Frame.around (frame : Frame) (selector : Text) : Text :=
  "selector".toList ++
    (frame.beforeColon ++ ':' :: (frame.afterColon ++ frame.quoted selector))

theorem isWhitespace_eq_false_of_isQuote {quote : Char} (quotes : isQuote quote) :
    isWhitespace quote = false := by
  simp only [isQuote, Bool.or_eq_true, beq_iff_eq] at quotes
  rcases quotes with (rfl | rfl) | rfl <;> decide

theorem untilQuote?_append {quote : Char} {selector : Text} (unquoted : quote ∉ selector)
    (rest : Text) : untilQuote? quote (selector ++ quote :: rest) = some selector := by
  have different : ∀ character ∈ selector, (character != quote) = true := by
    intro character member
    simpa using fun same : character = quote => unquoted (same ▸ member)
  have stopped : (quote :: rest).takeWhile (· != quote) = [] :=
    List.takeWhile_cons_of_neg (by simp)
  rw [untilQuote?, if_pos (by simp), List.takeWhile_append_of_pos different, stopped,
    List.append_nil]

theorem readAt?_around (frame : Frame) {selector : Text} (unquoted : frame.quote ∉ selector) :
    readAt? (frame.around selector) = some selector := by
  have property : Text.strip? "selector".toList (frame.around selector) =
      some (frame.beforeColon ++ ':' :: (frame.afterColon ++ frame.quoted selector)) :=
    Text.strip?_eq_some_iff.mpr rfl
  have toColon : Text.skipWhitespace
      (frame.beforeColon ++ ':' :: (frame.afterColon ++ frame.quoted selector)) =
        ':' :: (frame.afterColon ++ frame.quoted selector) := by
    rw [Text.skipWhitespace_append frame.blankBeforeColon,
      Text.skipWhitespace_of_not_blank (by decide)]
  have value : Text.strip? [':'] (':' :: (frame.afterColon ++ frame.quoted selector)) =
      some (frame.afterColon ++ frame.quoted selector) :=
    Text.strip?_eq_some_iff.mpr rfl
  have toQuote : Text.skipWhitespace (frame.afterColon ++ frame.quoted selector) =
      frame.quote :: (selector ++ frame.quote :: frame.after) := by
    rw [Text.skipWhitespace_append frame.blankAfterColon, Frame.quoted,
      Text.skipWhitespace_of_not_blank (isWhitespace_eq_false_of_isQuote frame.quotes)]
  simp only [readAt?, property, toColon, value, toQuote, Option.bind_eq_bind, Option.bind_some,
    if_pos frame.quotes, untilQuote?_append unquoted]

theorem readAt?_eq_none_of_not_isPrefix {text : Text} (absent : ¬ "selector".toList <+: text) :
    readAt? text = none := by
  have unstripped : Text.strip? "selector".toList text = none := by
    rw [Option.eq_none_iff_forall_ne_some]
    intro rest stripped
    exact absent ⟨rest, (Text.strip?_eq_some_iff.mp stripped).symm⟩
  rw [readAt?, unstripped]
  rfl

theorem find?_of_readAt? {text selector : Text} (read : readAt? text = some selector) :
    find? text = some selector := by
  cases text with
  | nil => exact read
  | cons character rest => rw [find?, read, Option.some_or]

/-- A text that does not name the property in front of a declaration does not hide it. -/
theorem find?_append_around {before : Text} (unnamed : ¬ "selector".toList <:+: before)
    (frame : Frame) {selector : Text} (unquoted : frame.quote ∉ selector) :
    find? (before ++ frame.around selector) = some selector := by
  induction before with
  | nil =>
      rw [List.nil_append]
      exact find?_of_readAt? (readAt?_around frame unquoted)
  | cons character before ih =>
      have later : ¬ "selector".toList <:+: before := fun inside =>
        unnamed (inside.trans (List.suffix_cons character before).isInfix)
      have passed : readAt? (character :: (before ++ frame.around selector)) = none := by
        apply readAt?_eq_none_of_not_isPrefix
        intro begins
        apply unnamed
        have inFront : "selector".toList <+: character :: before :=
          Text.isPrefix_of_isPrefix_append_word (by decide) (by simp) begins
        exact inFront.isInfix
      rw [List.cons_append, find?, passed, Option.none_or, ih later]

end Declaration

theorem Alternative.quote_not_mem_renderAll {items : List Spaced}
    (proper : ∀ item ∈ items, item.alternative.HasProperName) {quote : Char}
    (quotes : Declaration.isQuote quote) : quote ∉ renderAll items := by
  have visible := Declaration.isWhitespace_eq_false_of_isQuote quotes
  simp only [Declaration.isQuote, Bool.or_eq_true, beq_iff_eq] at quotes
  have isSign : quote ∈ "<[(*>/=)],'\"\x60".toList := by
    rcases quotes with (rfl | rfl) | rfl <;> decide
  have noBracket : quote ≠ '[' ∧ quote ≠ ']' := by
    rcases quotes with (rfl | rfl) | rfl <;> decide
  intro member
  rcases mem_renderAll member with rfl | ⟨item, isItem, inItem⟩
  · rcases quotes with (comma | comma) | comma <;> exact absurd comma (by decide)
  · exact not_mem_render (proper item isItem) visible
      (isNameChar_eq_false_of_mem_signs quote isSign) noBracket inItem

namespace Matcher

variable {before : Text} {items : List Alternative.Spaced}

theorem exists_ofDeclaration?_around (unnamed : ¬ "selector".toList <:+: before)
    (frame : Declaration.Frame) (nonempty : items ≠ [])
    (proper : ∀ item ∈ items, item.alternative.HasProperName) :
    ∃ matcher, ofDeclaration? (before ++ frame.around (Alternative.renderAll items)) =
        some matcher ∧
      matcher.alternatives = items.map (·.alternative) := by
  have unquoted := Alternative.quote_not_mem_renderAll proper frame.quotes
  have occupied : items.map (·.alternative) ≠ [] := by simpa using nonempty
  rw [ofDeclaration?, Declaration.find?_append_around unnamed frame unquoted, Option.bind_some,
    Alternative.readAll_renderAll nonempty proper, ofAlternatives?, dif_pos occupied]
  exact ⟨_, rfl, rfl⟩

/-- A declaration behind a text that does not name the property declares the alternatives whose
rendering it quotes, whatever the quote, the white space and the text behind it are.  What any
declaration declares can be rendered, with any white space, and declared again. -/
theorem ofDeclaration?_reads_rendering (before : Text)
    (unnamed : ¬ "selector".toList <:+: before) (frame : Declaration.Frame) :
    (∀ items : List Alternative.Spaced, items ≠ [] →
      (∀ item ∈ items, item.alternative.HasProperName) →
        ∃ matcher, ofDeclaration? (before ++ frame.around (Alternative.renderAll items)) =
            some matcher ∧
          matcher.alternatives = items.map (·.alternative)) ∧
    ∀ (declaration : Text) (matcher : Matcher) (items : List Alternative.Spaced),
      ofDeclaration? declaration = some matcher →
      items.map (·.alternative) = matcher.alternatives →
        ofDeclaration? (before ++ frame.around (Alternative.renderAll items)) = some matcher := by
  constructor
  · intro items nonempty proper
    exact exists_ofDeclaration?_around unnamed frame nonempty proper
  · intro declaration matcher items compiled rendered
    have declared := hasProperNames_of_ofDeclaration? compiled
    have proper : ∀ item ∈ items, item.alternative.HasProperName := by
      intro item isItem
      apply declared
      rw [← rendered]
      exact List.mem_map_of_mem isItem
    have nonempty : items ≠ [] := by
      rintro rfl
      exact matcher.nonempty rendered.symm
    obtain ⟨again, read, same⟩ := exists_ofDeclaration?_around unnamed frame nonempty proper
    rw [read, Option.some.injEq]
    obtain ⟨alternatives, occupied⟩ := matcher
    obtain ⟨others, othersOccupied⟩ := again
    simp only [mk.injEq]
    exact same.trans rendered

/-- The beginning of the property directly in front of it does not hide a declaration, and
another declaration of the same alternatives is rendered to it. -/
theorem ofDeclaration?_reads_rendering_behind_beginning :
    let before : Text := "selecto".toList
    let declaration : Text := "selector:'[ng-model]:not(x),,é'".toList
    let text : Text := "selectoselector :\n\"[ng-model] ,\té\"\"".toList
    let alternatives : List Alternative := [.attr "ng-model".toList, .element "é".toList]
    ¬ "selector".toList <:+: before ∧ (∀ alternative ∈ alternatives, alternative.HasProperName) ∧
      (∃ matcher, ofDeclaration? text = some matcher ∧ matcher.alternatives = alternatives) ∧
      ∃ matcher, ofDeclaration? declaration = some matcher ∧
        ofDeclaration? text = some matcher := by
  intro before declaration text alternatives
  have unnamed : ¬ "selector".toList <:+: before := by decide
  have proper : ∀ alternative ∈ alternatives, alternative.HasProperName :=
    List.forall_mem_cons.mpr ⟨⟨by decide, List.all_eq_true.mp (by decide +kernel)⟩,
      List.forall_mem_singleton.mpr ⟨by decide, List.all_eq_true.mp (by decide +kernel)⟩⟩
  have compiled : ofDeclaration? declaration = some ⟨alternatives, by decide⟩ := by
    decide +kernel
  have blank : ∀ character, isWhitespace character →
      ∀ other ∈ [character], isWhitespace other :=
    fun character isBlank => List.forall_mem_singleton.mpr isBlank
  let frame : Declaration.Frame :=
    ⟨[' '], ['\n'], '"', ['"'], blank ' ' (by decide), blank '\n' (by decide), by decide⟩
  let items : List Alternative.Spaced :=
    [⟨[], .attr "ng-model".toList, [' '], by simp, blank ' ' (by decide)⟩,
      ⟨['\t'], .element "é".toList, [], blank '\t' (by decide), by simp⟩]
  obtain ⟨reads, again⟩ := ofDeclaration?_reads_rendering before unnamed frame
  refine ⟨unnamed, proper, reads items (by simp [items]) ?_, _, compiled,
    again declaration _ items compiled rfl⟩
  intro item isItem
  exact proper item.alternative (List.mem_map_of_mem isItem)

end Matcher

end SelectorNavigation
