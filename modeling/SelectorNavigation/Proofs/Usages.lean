import SelectorNavigation.Proofs.NameCharacters

/-!
# The usages that a scan finds

A usage is a way to divide a text around a name: what stands in front of the name ends
in a leading delimiter, and what stands behind it begins with a closing one.  The scan
of a document for a declared selector lists every usage exactly once, from left to
right.

The scan looks for the next usage only in what follows the name found last.  Nothing
is missed by that.  A leading delimiter begins with an opening character, and behind the
first character of a usage neither its delimiter nor its name holds such a character.
So every other usage begins in front of the one that is found, where the search has
already passed, or behind its name.
-/

namespace SelectorNavigation

/-- A text has only one beginning with a given number of bytes. -/
theorem Text.append_inj_of_byteLength {first second firstRest secondRest : Text}
    (same : first ++ firstRest = second ++ secondRest)
    (length : first.byteLength = second.byteLength) : first = second := by
  induction first generalizing second with
  | nil =>
      cases second with
      | nil => rfl
      | cons character second =>
          have positive := character.utf8Size_pos
          simp only [byteLength_nil, byteLength_cons] at length
          omega
  | cons character first ih =>
      cases second with
      | nil =>
          have positive := character.utf8Size_pos
          simp only [byteLength_nil, byteLength_cons] at length
          omega
      | cons other second =>
          obtain ⟨rfl, sameTail⟩ := List.cons.inj same
          simp only [byteLength_cons, Nat.add_left_cancel_iff] at length
          rw [ih sameTail length]

namespace Alternative

/-- The text in front of a name ends in a leading delimiter. -/
def Opened : Alternative → (before : Text) → Prop
  | .element _, before => before.getLast? = some '<'
  | .attr _, before =>
      (∃ character, before.getLast? = some character ∧
        (isWhitespace character ∨ character = '[' ∨ character = '*')) ∨
      ['[', '('] <:+ before

/-- The text behind a name begins with a closing delimiter. -/
def Closed : Alternative → (after : Text) → Prop
  | .element _, after =>
      ∃ character, after.head? = some character ∧
        (character = '>' ∨ character = '/' ∨ isWhitespace character)
  | .attr _, after =>
      ∃ character, after.head? = some character ∧
        (character = '=' ∨ character = '>' ∨ character = ')' ∨ character = ']' ∨
          character = '/' ∨ isWhitespace character)

/-- The range holds the bytes of the name in a usage of the alternative. -/
def IsUsage (alternative : Alternative) (text : Text) (range : ByteRange) : Prop :=
  ∃ before after, text = before ++ alternative.name ++ after ∧
    range = ⟨before.byteLength, (before ++ alternative.name).byteLength⟩ ∧
    alternative.Opened before ∧ alternative.Closed after

/-- The leading delimiters of an alternative. -/
inductive IsLead : Alternative → Text → Prop
  | tag (name : Text) : IsLead (.element name) ['<']
  | sign (name : Text) {character : Char}
      (isSign : isWhitespace character ∨ character = '[' ∨ character = '*') :
      IsLead (.attr name) [character]
  | pair (name : Text) : IsLead (.attr name) ['[', '(']

/-- A leading delimiter is an opening character, alone or in front of a parenthesis. -/
theorem IsLead.shape {alternative : Alternative} {lead : Text}
    (isLead : alternative.IsLead lead) :
    ∃ first rest, lead = first :: rest ∧ isOpening first ∧ (rest = [] ∨ rest = ['(']) := by
  cases isLead with
  | tag name => exact ⟨'<', [], rfl, by decide, .inl rfl⟩
  | @sign name character isSign =>
      refine ⟨character, [], rfl, ?_, .inl rfl⟩
      rcases isSign with blank | rfl | rfl
      · simp [isOpening, blank]
      · decide
      · decide
  | pair name => exact ⟨'[', ['('], rfl, by decide, .inr rfl⟩

theorem opened_iff {alternative : Alternative} {before : Text} :
    alternative.Opened before ↔
      ∃ front lead, before = front ++ lead ∧ alternative.IsLead lead := by
  cases alternative with
  | element name =>
      rw [Opened, List.getLast?_eq_some_iff]
      constructor
      · rintro ⟨front, rfl⟩
        exact ⟨front, ['<'], rfl, .tag name⟩
      · rintro ⟨front, lead, rfl, isLead⟩
        cases isLead
        exact ⟨front, rfl⟩
  | attr name =>
      constructor
      · rintro (⟨character, last, isSign⟩ | ⟨front, rfl⟩)
        · obtain ⟨front, rfl⟩ := List.getLast?_eq_some_iff.mp last
          exact ⟨front, [character], rfl, .sign name isSign⟩
        · exact ⟨front, ['[', '('], rfl, .pair name⟩
      · rintro ⟨front, lead, rfl, isLead⟩
        cases isLead with
        | @sign _ character isSign => exact .inl ⟨character, by simp, isSign⟩
        | pair => exact .inr ⟨front, rfl⟩

theorem closed_iff {alternative : Alternative} {after : Text} :
    alternative.Closed after ↔
      ∃ character rest, after = character :: rest ∧ alternative.closes character := by
  cases alternative <;> cases after <;> simp [Closed, closes, or_assoc]

theorem mem_leads_iff {alternative : Alternative} {text : Text} {size : Nat} :
    size ∈ alternative.leads text ↔
      ∃ lead rest, alternative.IsLead lead ∧ text = lead ++ rest ∧ size = lead.length := by
  constructor
  · intro member
    cases text with
    | nil => cases alternative <;> simp [leads] at member
    | cons character rest =>
        cases alternative with
        | element name =>
            simp only [leads, beq_iff_eq, List.mem_ite_nil_right, List.mem_singleton] at member
            obtain ⟨rfl, rfl⟩ := member
            exact ⟨['<'], rest, .tag name, rfl, rfl⟩
        | attr name =>
            simp only [leads, Bool.or_eq_true, Bool.and_eq_true, beq_iff_eq, List.mem_append,
              List.mem_ite_nil_right, List.mem_singleton, or_assoc] at member
            rcases member with ⟨isSign, rfl⟩ | ⟨⟨rfl, second⟩, rfl⟩
            · exact ⟨[character], rest, .sign name isSign, rfl, rfl⟩
            · obtain ⟨rest, rfl⟩ := List.head?_eq_some_iff.mp second
              exact ⟨['[', '('], rest, .pair name, rfl, rfl⟩
  · rintro ⟨lead, rest, isLead, rfl, rfl⟩
    cases isLead with
    | tag name => simp [leads]
    | sign name isSign => simp [leads, or_assoc, isSign]
    | pair name => simp [leads]

theorem startsText_iff {alternative : Alternative} {text : Text} :
    alternative.startsText text ↔
      ∃ after, text = alternative.name ++ after ∧ alternative.Closed after := by
  simp only [startsText, Bool.and_eq_true, List.isPrefixOf_iff_prefix, closed_iff]
  constructor
  · rintro ⟨⟨after, rfl⟩, closing⟩
    rw [List.drop_left] at closing
    cases after with
    | nil => simp at closing
    | cons character rest => exact ⟨_, rfl, character, rest, rfl, by simpa using closing⟩
  · rintro ⟨after, rfl, character, rest, rfl, closing⟩
    exact ⟨List.prefix_append _ _, by simpa using closing⟩

/-- In front of a closing delimiter, a proper name is the whole run of name characters. -/
theorem takeWhile_name {alternative : Alternative} (proper : alternative.HasProperName)
    {after : Text} (closed : alternative.Closed after) :
    (alternative.name ++ after).takeWhile isNameChar = alternative.name := by
  obtain ⟨character, rest, rfl, closing⟩ := closed_iff.mp closed
  rw [List.takeWhile_append_of_pos proper.2,
    List.takeWhile_cons_of_neg (by simp [isNameChar_eq_false_of_closes closing]),
    List.append_nil]

/-- Usages of proper names that begin at the same place have the same delimiter and the
same name. -/
theorem lead_name_unique {first second : Alternative} (firstProper : first.HasProperName)
    (secondProper : second.HasProperName) {firstLead secondLead firstAfter secondAfter : Text}
    (firstIsLead : first.IsLead firstLead) (secondIsLead : second.IsLead secondLead)
    (firstClosed : first.Closed firstAfter) (secondClosed : second.Closed secondAfter)
    (same : firstLead ++ (first.name ++ firstAfter) = secondLead ++ (second.name ++ secondAfter)) :
    firstLead = secondLead ∧ first.name = second.name := by
  obtain ⟨firstSign, firstRest, rfl, -, firstShape⟩ := firstIsLead.shape
  obtain ⟨secondSign, secondRest, rfl, -, secondShape⟩ := secondIsLead.shape
  obtain ⟨rfl, sameTail⟩ := List.cons.inj same
  -- A proper name cannot supply the parenthesis that the other delimiter has.
  have noParenthesis : ∀ {alternative : Alternative} {after rest : Text},
      alternative.HasProperName → alternative.name ++ after ≠ '(' :: rest := by
    intro alternative after rest proper equal
    obtain ⟨character, others, named⟩ := List.exists_cons_of_ne_nil proper.1
    have isName := proper.2 character (by simp [named])
    rw [named] at equal
    obtain ⟨rfl, -⟩ := List.cons.inj equal
    exact absurd isName (by simp [isNameChar_eq_false_of_mem_signs '(' (by decide)])
  have sameRest : firstRest = secondRest := by
    rcases firstShape with rfl | rfl <;> rcases secondShape with rfl | rfl
    · rfl
    · exact absurd sameTail (noParenthesis firstProper)
    · exact absurd sameTail.symm (noParenthesis secondProper)
    · rfl
  subst sameRest
  refine ⟨rfl, ?_⟩
  rw [← takeWhile_name firstProper firstClosed, ← takeWhile_name secondProper secondClosed,
    List.append_cancel_left sameTail]

end Alternative

namespace Matcher

variable {matcher : Matcher} {text : Text} {hit : Hit} {offset : Nat} {range : ByteRange}

theorem mem_attemptsInOrder_iff {alternative : Alternative} {size : Nat} :
    (alternative, size) ∈ matcher.attemptsInOrder text ↔
      alternative ∈ matcher.alternatives ∧ size ∈ alternative.leads text := by
  simp [attemptsInOrder]

theorem mem_attempts_iff {alternative : Alternative} {size : Nat} :
    (alternative, size) ∈ matcher.attempts text ↔
      alternative ∈ matcher.alternatives ∧ size ∈ alternative.leads text := by
  simp only [attempts]
  split
  · rw [List.mem_append, List.mem_filter, List.mem_filter, mem_attemptsInOrder_iff]
    by_cases short : size = 1 <;> simp [short]
  · exact mem_attemptsInOrder_iff

theorem exists_usage_of_hitAt? (found : matcher.hitAt? text = some hit) :
    ∃ alternative ∈ matcher.alternatives, ∃ after, hit.name = alternative.name ∧
      alternative.IsLead hit.lead ∧ alternative.Closed after ∧
      text = hit.lead ++ (hit.name ++ after) := by
  obtain ⟨⟨alternative, size⟩, chosen, rfl⟩ := Option.map_eq_some_iff.mp found
  obtain ⟨member, isSize⟩ := mem_attempts_iff.mp (List.mem_of_find?_eq_some chosen)
  obtain ⟨lead, rest, isLead, rfl, rfl⟩ := Alternative.mem_leads_iff.mp isSize
  have starts := List.find?_some chosen
  simp only [List.drop_left] at starts
  obtain ⟨after, rfl, closed⟩ := Alternative.startsText_iff.mp starts
  exact ⟨alternative, member, after, rfl, by simpa using isLead, closed, by simp⟩

theorem not_usage_of_hitAt? (missing : matcher.hitAt? text = none)
    {alternative : Alternative} (member : alternative ∈ matcher.alternatives)
    {lead after : Text} (isLead : alternative.IsLead lead) (closed : alternative.Closed after) :
    text ≠ lead ++ (alternative.name ++ after) := by
  rintro rfl
  have attempted : (alternative, lead.length) ∈
      matcher.attempts (lead ++ (alternative.name ++ after)) :=
    mem_attempts_iff.mpr ⟨member, Alternative.mem_leads_iff.mpr ⟨lead, _, isLead, rfl, rfl⟩⟩
  have refused := List.find?_eq_none.mp (Option.map_eq_none_iff.mp missing) _ attempted
  apply refused
  rw [List.drop_left]
  exact Alternative.startsText_iff.mpr ⟨after, rfl, closed⟩

/-- The range holds the name of a usage that lies, with its delimiters, in a text that
begins at byte `offset`. -/
def UsageIn (matcher : Matcher) (offset : Nat) (text : Text) (range : ByteRange) : Prop :=
  ∃ alternative ∈ matcher.alternatives, ∃ front lead after,
    text = front ++ (lead ++ (alternative.name ++ after)) ∧ alternative.IsLead lead ∧
    alternative.Closed after ∧
    range = Hit.range ⟨lead, alternative.name⟩ (offset + front.byteLength)

theorem exists_isUsage_iff :
    (∃ alternative ∈ matcher.alternatives, alternative.IsUsage text range) ↔
      matcher.UsageIn 0 text range := by
  constructor
  · rintro ⟨alternative, member, before, after, rfl, rfl, opened, closed⟩
    obtain ⟨front, lead, rfl, isLead⟩ := Alternative.opened_iff.mp opened
    exact ⟨alternative, member, front, lead, after, by simp, isLead, closed,
      by simp [Hit.range, Nat.add_assoc]⟩
  · rintro ⟨alternative, member, front, lead, after, rfl, isLead, closed, rfl⟩
    exact ⟨alternative, member, front ++ lead, after, by simp,
      by simp [Hit.range, Nat.add_assoc],
      Alternative.opened_iff.mpr ⟨front, lead, rfl, isLead⟩, closed⟩

theorem UsageIn.bounds (proper : matcher.HasProperNames)
    (usage : matcher.UsageIn offset text range) :
    offset < range.start ∧ range.start < range.stop := by
  obtain ⟨alternative, member, front, lead, after, -, isLead, -, rfl⟩ := usage
  obtain ⟨sign, rest, rfl, -, -⟩ := isLead.shape
  obtain ⟨character, others, named⟩ := List.exists_cons_of_ne_nil (proper alternative member).1
  have signSize := sign.utf8Size_pos
  have characterSize := character.utf8Size_pos
  simp only [Hit.range, named, Text.byteLength_cons]
  omega

/-- Where nothing is found, the usages are those behind the first character. -/
theorem usageIn_cons_iff {character : Char} {rest : Text}
    (missing : matcher.hitAt? (character :: rest) = none) :
    matcher.UsageIn offset (character :: rest) range ↔
      matcher.UsageIn (offset + character.utf8Size) rest range := by
  constructor
  · rintro ⟨alternative, member, front, lead, after, split, isLead, closed, rfl⟩
    cases front with
    | nil => exact absurd split (not_usage_of_hitAt? missing member isLead closed)
    | cons first front =>
        obtain ⟨rfl, rfl⟩ := List.cons.inj split
        exact ⟨alternative, member, front, lead, after, rfl, isLead, closed,
          by simp [Nat.add_assoc]⟩
  · rintro ⟨alternative, member, front, lead, after, rfl, isLead, closed, rfl⟩
    exact ⟨alternative, member, character :: front, lead, after, rfl, isLead, closed,
      by simp [Nat.add_assoc]⟩

/-- What stands in front of an opening character extends past a block without such
characters. -/
theorem exists_append_of_not_isOpening {front block rest after : Text} {sign : Char}
    (opening : isOpening sign) (unopened : ∀ character ∈ block, isOpening character = false)
    (same : front ++ sign :: rest = block ++ after) :
    ∃ beyond, front = block ++ beyond ∧ after = beyond ++ sign :: rest := by
  induction block generalizing front with
  | nil => exact ⟨front, rfl, same.symm⟩
  | cons character block ih =>
      have refused := unopened character (by simp)
      cases front with
      | nil =>
          obtain ⟨rfl, -⟩ := List.cons.inj same
          rw [opening] at refused
          contradiction
      | cons first front =>
          obtain ⟨rfl, sameTail⟩ := List.cons.inj same
          obtain ⟨beyond, rfl, rfl⟩ :=
            ih (fun other member => unopened other (by simp [member])) sameTail
          exact ⟨beyond, rfl, rfl⟩

/-- Behind its first character, a usage of a proper name holds no opening character in
front of the closing delimiter. -/
theorem not_isOpening_of_mem {alternative : Alternative} (proper : alternative.HasProperName)
    {rest : Text} (shape : rest = [] ∨ rest = ['(']) :
    ∀ character ∈ rest ++ alternative.name, isOpening character = false := by
  intro character member
  rcases List.mem_append.mp member with delimits | isName
  · rcases shape with rfl | rfl
    · simp at delimits
    · obtain rfl := List.mem_singleton.mp delimits
      decide
  · have named := proper.2 character isName
    by_contra opening
    rw [isNameChar_eq_false_of_isOpening (by simpa using opening)] at named
    contradiction

/-- Where a usage is found, the usages are that one and those behind its name. -/
theorem usageIn_iff_of_hitAt? (proper : matcher.HasProperNames)
    (found : matcher.hitAt? text = some hit) :
    matcher.UsageIn offset text range ↔
      range = hit.range offset ∨
        matcher.UsageIn (hit.range offset).stop (text.drop hit.length) range := by
  obtain ⟨chosen, chosenMem, after, named, isLead, closed, split⟩ := exists_usage_of_hitAt? found
  have behind : text.drop hit.length = after := by
    rw [split, Hit.length, ← List.append_assoc, ← List.length_append, List.drop_left]
  have chosenProper := proper chosen chosenMem
  rw [behind]
  constructor
  · rintro ⟨alternative, member, front, lead, otherAfter, otherSplit, otherIsLead,
      otherClosed, rfl⟩
    cases front with
    | nil =>
        left
        obtain ⟨sameLead, sameName⟩ := Alternative.lead_name_unique (proper alternative member)
          chosenProper otherIsLead isLead otherClosed closed
          (by rw [← named, ← split, otherSplit, List.nil_append])
        simp [Hit.range, sameLead, sameName, named]
    | cons first front =>
        right
        obtain ⟨sign, rest, leadEq, -, shape⟩ := isLead.shape
        obtain ⟨otherSign, otherRest, rfl, otherOpening, -⟩ := otherIsLead.shape
        have sameText : first :: (front ++ otherSign :: (otherRest ++
            (alternative.name ++ otherAfter))) = sign :: ((rest ++ chosen.name) ++ after) := by
          simpa [leadEq, named] using otherSplit.symm.trans split
        obtain ⟨rfl, sameTail⟩ := List.cons.inj sameText
        obtain ⟨beyond, rfl, rfl⟩ := exists_append_of_not_isOpening otherOpening
          (not_isOpening_of_mem chosenProper shape) sameTail
        refine ⟨alternative, member, beyond, otherSign :: otherRest, otherAfter, by simp,
          otherIsLead, otherClosed, ?_⟩
        simp [Hit.range, leadEq, named, Nat.add_assoc]
  · rintro (rfl | ⟨alternative, member, front, lead, otherAfter, rfl, otherIsLead,
      otherClosed, rfl⟩)
    · exact ⟨chosen, chosenMem, [], hit.lead, after, by rw [split, named, List.nil_append],
        isLead, closed, by simp [Hit.range, named]⟩
    · exact ⟨alternative, member, hit.lead ++ (hit.name ++ front), lead, otherAfter,
        by simp [split], otherIsLead, otherClosed, by simp [Hit.range, Nat.add_assoc]⟩

theorem not_usageIn_of_firstUsage? (missing : matcher.firstUsage? offset text = none) :
    ¬ matcher.UsageIn offset text range := by
  induction text generalizing offset with
  | nil =>
      rintro ⟨alternative, -, front, lead, after, split, isLead, -, -⟩
      obtain ⟨sign, rest, rfl, -, -⟩ := isLead.shape
      simp at split
  | cons character rest ih =>
      simp only [firstUsage?] at missing
      split at missing
      · contradiction
      · rename_i unfound
        rw [usageIn_cons_iff unfound]
        exact ih missing

theorem usageIn_iff_of_firstUsage? (proper : matcher.HasProperNames) {first : ByteRange}
    {rest : Text} (found : matcher.firstUsage? offset text = some (first, rest)) :
    matcher.UsageIn offset text range ↔
      range = first ∨ matcher.UsageIn first.stop rest range := by
  induction text generalizing offset with
  | nil => simp [firstUsage?] at found
  | cons character tail ih =>
      simp only [firstUsage?] at found
      split at found
      · rename_i hit isHit
        simp only [Option.some.injEq, Prod.mk.injEq] at found
        obtain ⟨rfl, rfl⟩ := found
        exact usageIn_iff_of_hitAt? proper isHit
      · rename_i unfound
        rw [usageIn_cons_iff unfound]
        exact ih found

theorem mem_rangesFrom_iff (proper : matcher.HasProperNames) :
    range ∈ matcher.rangesFrom offset text ↔ matcher.UsageIn offset text range := by
  fun_induction rangesFrom matcher offset text with
  | case1 offset text missing => simp [not_usageIn_of_firstUsage? missing]
  | case2 offset text first rest found shorter ih =>
      rw [List.mem_cons, ih, usageIn_iff_of_firstUsage? proper found]

theorem spanOf_mem_scan (proper : matcher.HasProperNames) {alternative : Alternative}
    (member : alternative ∈ matcher.alternatives) (usage : alternative.IsUsage text range) :
    text.spanOf range ∈ matcher.scan text := by
  refine List.mem_map_of_mem ((mem_rangesFrom_iff proper).mpr ?_)
  exact exists_isUsage_iff.mp ⟨alternative, member, usage⟩

/-- The scan goes from left to right, and a delimiter stands between any two names. -/
theorem pairwise_rangesFrom (proper : matcher.HasProperNames) :
    (matcher.rangesFrom offset text).Pairwise fun first second =>
      first.stop < second.start := by
  fun_induction rangesFrom matcher offset text with
  | case1 offset text missing => exact .nil
  | case2 offset text first rest found shorter ih =>
      refine List.pairwise_cons.mpr ⟨fun second member => ?_, ih⟩
      exact (((mem_rangesFrom_iff proper).mp member).bounds proper).1

/-- The name of an event binding, in parentheses that no bracket precedes, is not a usage. -/
theorem not_isUsage_eventBinding {alternative : Alternative} {before name after : Text}
    (unbracketed : before.getLast? ≠ some '[') :
    ¬ alternative.IsUsage (before ++ '(' :: name ++ ')' :: after)
      ⟨(before ++ ['(']).byteLength, (before ++ '(' :: name).byteLength⟩ := by
  rintro ⟨front, rest, split, sameRange, opened, -⟩
  have sameText : before ++ ['('] ++ (name ++ ')' :: after) =
      front ++ (alternative.name ++ rest) := by
    simpa using split
  obtain rfl := Text.append_inj_of_byteLength sameText (congrArg ByteRange.start sameRange)
  cases alternative with
  | element tag => simp [Alternative.Opened] at opened
  | attr key =>
      rcases opened with ⟨character, last, isSign⟩ | ⟨front, bracketed⟩
      · simp only [List.getLast?_append, List.getLast?_singleton, Option.some_or,
          Option.some.injEq] at last
        subst last
        exact absurd isSign (by decide)
      · have sameEnd : (front ++ ['[']) ++ ['('] = before ++ ['('] := by
          simpa using bracketed
        have endsInBracket : front ++ ['['] = before := List.append_cancel_right sameEnd
        exact unbracketed (by simp [← endsInBracket])

/-- The scan for a declared selector lists the names of exactly the usages of its
alternatives, from left to right and each once.  The name of an event binding is not
among them. -/
theorem scan_lists_each_usage_once {declaration : Text} {matcher : Matcher}
    (compiled : ofDeclaration? declaration = some matcher) (text : Text) :
    ((matcher.ranges text).Pairwise fun first second =>
        first.start < second.start ∧ first.stop < second.start) ∧
      (∀ range, range ∈ matcher.ranges text ↔
        ∃ alternative ∈ matcher.alternatives, alternative.IsUsage text range) ∧
      matcher.scan text = (matcher.ranges text).map text.spanOf ∧
      ∀ before name after, text = before ++ '(' :: name ++ ')' :: after →
        before.getLast? ≠ some '[' →
        ⟨(before ++ ['(']).byteLength, (before ++ '(' :: name).byteLength⟩ ∉
          matcher.ranges text := by
  have proper := hasProperNames_of_ofDeclaration? compiled
  have lists : ∀ range, range ∈ matcher.ranges text ↔
      ∃ alternative ∈ matcher.alternatives, alternative.IsUsage text range := by
    intro range
    rw [exists_isUsage_iff, ranges, mem_rangesFrom_iff proper]
  refine ⟨?_, lists, rfl, ?_⟩
  · refine (pairwise_rangesFrom proper).imp_of_mem ?_
    intro first second firstMem _ apart
    have occupied := (((mem_rangesFrom_iff proper).mp firstMem).bounds proper).2
    exact ⟨by omega, apart⟩
  · rintro before name after rfl unbracketed reported
    obtain ⟨alternative, -, usage⟩ := (lists _).mp reported
    exact not_isUsage_eventBinding unbracketed usage

/-- The blank between two attributes closes the first usage and opens the second, and
both are listed. -/
theorem scan_lists_usages_around_one_blank :
    ∃ matcher, ofDeclaration? "selector: 'a, [b]'".toList = some matcher ∧
      ⟨3, 4⟩ ∈ matcher.ranges "<a b b>".toList ∧ ⟨5, 6⟩ ∈ matcher.ranges "<a b b>".toList := by
  have compiled : ofDeclaration? "selector: 'a, [b]'".toList =
      some ⟨[.element ['a'], .attr ['b']], by simp⟩ := by decide +kernel
  have lists := (scan_lists_each_usage_once compiled "<a b b>".toList).2.1
  refine ⟨_, compiled, (lists _).mpr ?_, (lists _).mpr ?_⟩
  · exact ⟨.attr ['b'], by simp, "<a ".toList, " b>".toList, by decide, by decide,
      .inl ⟨' ', by decide, by decide⟩, ' ', by decide, by decide⟩
  · exact ⟨.attr ['b'], by simp, "<a b ".toList, ">".toList, by decide, by decide,
      .inl ⟨' ', by decide, by decide⟩, '>', by decide, by decide⟩

end Matcher

end SelectorNavigation
