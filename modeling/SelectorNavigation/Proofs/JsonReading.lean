import SelectorNavigation.Proofs.JsonGrammar

/-!
# Reading follows the grammar

Reading a text and writing it by the rules are two sides of one relation.  What is read was
written by the rules, whatever the fuel.  What is written by the rules is read if the fuel is
at least twice its length, and reading stops behind it.

For the second direction the text behind a value matters: a number would go on with a digit
behind it.  In an array, in an object and at the end of a text, what follows a value never
continues a number.
-/

namespace SelectorNavigation

namespace Json

theorem readKey?_eq_some_iff {skim : Bool} {text key rest : Text} :
    readKey? skim text = some (key, rest) ↔
      ∃ keyText, text = keyText ++ rest ∧ SpellsKey skim key keyText := by
  constructor
  · intro read
    obtain ⟨before, divided, blanksBefore⟩ := exists_blanks text
    rw [readKey?] at read
    split at read
    · rename_i behindQuote skipped
      obtain ⟨⟨string, behindString⟩, readString, readColon⟩ := Option.bind_eq_some_iff.mp read
      obtain ⟨body, rfl, spells⟩ := exists_of_readString? readString
      obtain ⟨after, dividedAfter, blanksAfter⟩ := exists_blanks behindString
      simp only at readColon
      split at readColon
      · rename_i behindColon colon
        obtain ⟨rfl, rfl⟩ := Prod.mk.inj (Option.some.inj readColon)
        refine ⟨_, ?_, before, body, after, blanksBefore, spells, blanksAfter, rfl⟩
        rw [divided, skipped, dividedAfter, colon]
        simp
      · simp at readColon
    · simp at read
  · rintro ⟨keyText, rfl, before, body, after, blanksBefore, spells, blanksAfter, rfl⟩
    have skipped : skipBlanks (before ++ '"' :: body ++ '"' :: after ++ [':'] ++ rest) =
        '"' :: (body ++ '"' :: (after ++ ':' :: rest)) := by
      simp only [List.append_assoc, List.cons_append]
      rw [skipBlanks_append_cons blanksBefore (by decide)]
      simp
    have readString := readString?_append spells (after ++ ':' :: rest)
    have colon : skipBlanks (after ++ ':' :: rest) = ':' :: rest := by
      rw [skipBlanks_append_cons blanksAfter (by decide)]
    rw [readKey?, skipped]
    simp only [readString, Option.bind_eq_bind, Option.bind_some, colon]

section Soundness

/-- What is read as a value with this fuel was written as one. -/
def ValueSound (fuel : Nat) : Prop :=
  ∀ {care : Care} {text : Text} {value : Json} {rest : Text},
    readValue? care fuel text = some (value, rest) →
      ∃ blanks spelled, text = blanks ++ spelled ++ rest ∧ AreBlanks blanks ∧
        Spells (.value care value) spelled

/-- What is read as items with this fuel was written as items. -/
def ItemsSound (fuel : Nat) : Prop :=
  ∀ {care : Care} {text : Text} {items : List Json} {rest : Text},
    readItems? care fuel text = some (items, rest) →
      ∃ body, text = body ++ ']' :: rest ∧ Spells (.items care items) body

/-- What is read as members with this fuel was written as members. -/
def MembersSound (fuel : Nat) : Prop :=
  ∀ {skimKeys : Bool} {care : Text → Care} {text : Text} {members : Members} {rest : Text},
    readMembers? skimKeys care fuel text = some (members, rest) →
      ∃ body, text = body ++ '\x7d' :: rest ∧ Spells (.members skimKeys care members) body

theorem exists_of_strip? {word : Text} {text rest : Text} {value result : Json}
    (read : (Text.strip? word text).map (fun rest => (value, rest)) = some (result, rest)) :
    result = value ∧ text = word ++ rest := by
  obtain ⟨behind, stripped, same⟩ := Option.map_eq_some_iff.mp read
  obtain ⟨rfl, rfl⟩ := Prod.mk.inj same
  exact ⟨rfl, Text.strip?_eq_some_iff.mp stripped⟩

theorem exists_of_readNumberValue? {care : Care} {text rest : Text} {value : Json}
    (read : readNumberValue? care text = some (value, rest)) :
    ∃ spelled, text = spelled ++ rest ∧ Spells (.value care value) spelled := by
  obtain ⟨⟨parts, behind⟩, readNumber, read⟩ := Option.bind_eq_some_iff.mp read
  obtain ⟨spelled, rfl, spells⟩ := exists_of_readNumber? readNumber
  simp only [List.length_append, Nat.add_sub_cancel, List.take_left'] at read
  split at read
  · rename_i inRange
    obtain ⟨rfl, rfl⟩ := Prod.mk.inj (Option.some.inj read)
    exact ⟨spelled, rfl, .number spells (by simpa using inRange)⟩
  · simp at read

theorem valueSound_succ {fuel : Nat} (items : ItemsSound fuel) (members : MembersSound fuel) :
    ValueSound (fuel + 1) := by
  intro care text value rest read
  obtain ⟨blanks, split, areBlanks⟩ := exists_blanks text
  suffices written : ∃ spelled, skipBlanks text = spelled ++ rest ∧
      Spells (.value care value) spelled by
    obtain ⟨spelled, skipped, spells⟩ := written
    refine ⟨blanks, spelled, ?_, areBlanks, spells⟩
    rw [List.append_assoc, ← skipped, ← split]
  rw [readValue?] at read
  split at read
  · rename_i behind skipped
    obtain ⟨rfl, rfl⟩ := exists_of_strip? read
    exact ⟨_, skipped, .nullWord care⟩
  · rename_i behind skipped
    obtain ⟨rfl, rfl⟩ := exists_of_strip? read
    exact ⟨_, skipped, .trueWord care⟩
  · rename_i behind skipped
    obtain ⟨rfl, rfl⟩ := exists_of_strip? read
    exact ⟨_, skipped, .falseWord care⟩
  · rename_i behind skipped
    obtain ⟨⟨string, afterQuote⟩, readString, same⟩ := Option.map_eq_some_iff.mp read
    obtain ⟨rfl, rfl⟩ := Prod.mk.inj same
    obtain ⟨body, rfl, spells⟩ := exists_of_readString? readString
    exact ⟨'"' :: body ++ ['"'], by simp [skipped], .string spells⟩
  · rename_i behind skipped
    split at read
    · simp at read
    · rename_i inner enters
      split at read
      · rename_i afterBracket closed
        obtain ⟨rfl, rfl⟩ := Prod.mk.inj (Option.some.inj read)
        obtain ⟨inside, divided, insideBlank⟩ := exists_blanks behind
        refine ⟨'[' :: inside ++ [']'], ?_, .emptyArray enters insideBlank⟩
        rw [skipped, divided, closed]
        simp
      · obtain ⟨⟨read, afterBracket⟩, readItems, same⟩ := Option.map_eq_some_iff.mp read
        obtain ⟨rfl, rfl⟩ := Prod.mk.inj same
        obtain ⟨body, rfl, spells⟩ := items readItems
        exact ⟨'[' :: body ++ [']'], by simp [skipped], .array enters spells⟩
  · rename_i behind skipped
    split at read
    · simp at read
    · rename_i inner enters
      split at read
      · rename_i afterBrace closed
        obtain ⟨rfl, rfl⟩ := Prod.mk.inj (Option.some.inj read)
        obtain ⟨inside, divided, insideBlank⟩ := exists_blanks behind
        refine ⟨'\x7b' :: inside ++ ['\x7d'], ?_, .emptyObject enters insideBlank⟩
        rw [skipped, divided, closed]
        simp
      · obtain ⟨⟨read, afterBrace⟩, readMembers, same⟩ := Option.map_eq_some_iff.mp read
        obtain ⟨rfl, rfl⟩ := Prod.mk.inj same
        obtain ⟨body, rfl, spells⟩ := members readMembers
        rw [Members.putAll_nil]
        exact ⟨'\x7b' :: body ++ ['\x7d'], by simp [skipped], .object enters spells⟩
  · exact exists_of_readNumberValue? read

theorem itemsSound_succ {fuel : Nat} (values : ValueSound fuel) (items : ItemsSound fuel) :
    ItemsSound (fuel + 1) := by
  intro care text list rest read
  rw [readItems?] at read
  split at read
  · simp at read
  · rename_i item behind readItem
    obtain ⟨before, spelled, rfl, blanksBefore, spellsItem⟩ := values readItem
    obtain ⟨after, divided, blanksAfter⟩ := exists_blanks behind
    have element := Spells.element blanksBefore spellsItem blanksAfter
    split at read
    · rename_i afterBracket closed
      obtain ⟨rfl, rfl⟩ := Prod.mk.inj (Option.some.inj read)
      refine ⟨before ++ spelled ++ after, ?_, .lastItem element⟩
      rw [divided, closed]
      simp
    · rename_i afterComma comma
      obtain ⟨⟨others, afterBracket⟩, readOthers, same⟩ := Option.map_eq_some_iff.mp read
      obtain ⟨rfl, rfl⟩ := Prod.mk.inj same
      obtain ⟨body, rfl, spells⟩ := items readOthers
      refine ⟨before ++ spelled ++ after ++ ',' :: body, ?_, .item element spells⟩
      rw [divided, comma]
      simp
    · simp at read

theorem membersSound_succ {fuel : Nat} (values : ValueSound fuel) (members : MembersSound fuel) :
    MembersSound (fuel + 1) := by
  intro skimKeys care text list rest read
  rw [readMembers?] at read
  split at read
  · simp at read
  · rename_i key behindKey readKey
    obtain ⟨keyText, rfl, spellsKey⟩ := readKey?_eq_some_iff.mp readKey
    split at read
    · simp at read
    · rename_i value behind readValue
      obtain ⟨before, spelled, rfl, blanksBefore, spellsValue⟩ := values readValue
      obtain ⟨after, divided, blanksAfter⟩ := exists_blanks behind
      have element := Spells.element blanksBefore spellsValue blanksAfter
      split at read
      · rename_i afterBrace closed
        obtain ⟨rfl, rfl⟩ := Prod.mk.inj (Option.some.inj read)
        refine ⟨keyText ++ (before ++ spelled ++ after), ?_, .lastMember spellsKey element⟩
        rw [divided, closed]
        simp
      · rename_i afterComma comma
        obtain ⟨⟨others, afterBrace⟩, readOthers, same⟩ := Option.map_eq_some_iff.mp read
        obtain ⟨rfl, rfl⟩ := Prod.mk.inj same
        obtain ⟨body, rfl, spells⟩ := members readOthers
        refine ⟨keyText ++ (before ++ spelled ++ after) ++ ',' :: body, ?_,
          .member spellsKey element spells⟩
        rw [divided, comma]
        simp
      · simp at read

/-- What is read was written by the rules. -/
theorem reading_sound (fuel : Nat) :
    ValueSound fuel ∧ ItemsSound fuel ∧ MembersSound fuel := by
  induction fuel with
  | zero =>
      refine ⟨?_, ?_, ?_⟩
      · intro care text value rest read
        simp [readValue?] at read
      · intro care text items rest read
        simp [readItems?] at read
      · intro skimKeys care text members rest read
        simp [readMembers?] at read
  | succ fuel ih =>
      obtain ⟨values, items, members⟩ := ih
      exact ⟨valueSound_succ items members, itemsSound_succ values items,
        membersSound_succ values members⟩

end Soundness

section Completeness

theorem EndsNumber.append_blanks {blanks rest : Text} (areBlanks : AreBlanks blanks)
    (ends : EndsNumber rest) : EndsNumber (blanks ++ rest) := by
  cases blanks with
  | nil => exact ends
  | cons blank blanks =>
      rintro character ⟨⟩
      have isBlank := areBlanks blank List.mem_cons_self
      simp only [Json.isBlank, Bool.or_eq_true, beq_iff_eq] at isBlank
      rcases isBlank with ((rfl | rfl) | rfl) | rfl <;> decide

/-- A sign that can stand behind a value does not continue a number. -/
theorem endsNumber_cons {sign : Char} (isSign : sign = ',' ∨ sign = ']' ∨ sign = '\x7d')
    (rest : Text) : EndsNumber (sign :: rest) := by
  rintro character ⟨⟩
  rcases isSign with rfl | rfl | rfl <;> decide

/-- A character that begins a number. -/
def StartsNumber (character : Char) : Prop :=
  character = '-' ∨ character.isDigit

theorem SpellsNumber.exists_cons {parts : NumberParts} {text : Text}
    (spells : SpellsNumber parts text) :
    ∃ first others, text = first :: others ∧ StartsNumber first := by
  obtain ⟨isWhole, -, -⟩ := spells
  obtain ⟨digit, digits, whole, isDigit⟩ := isWhole.1.exists_cons
  cases parts.negative with
  | true => exact ⟨'-', _, rfl, .inl rfl⟩
  | false =>
      rw [whole]
      exact ⟨digit, _, rfl, .inr isDigit⟩

theorem StartsNumber.ne {character other : Char} (starts : StartsNumber character)
    (unsigned : other ≠ '-') (noDigit : other.isDigit = false) : character ≠ other := by
  rintro rfl
  rcases starts with minus | isDigit
  · exact unsigned minus
  · rw [noDigit] at isDigit
    exact Bool.false_ne_true isDigit

/-- A value begins with a character that is neither blank nor a closing bracket. -/
theorem Spells.exists_cons {care : Care} {value : Json} {text : Text}
    (spells : Spells (.value care value) text) :
    ∃ first others, text = first :: others ∧ isBlank first = false ∧ first ≠ ']' := by
  cases spells with
  | number spellsNumber =>
      obtain ⟨first, others, rfl, starts⟩ := spellsNumber.exists_cons
      refine ⟨first, others, rfl, ?_, starts.ne (by decide) rfl⟩
      simp only [isBlank, Bool.or_eq_false_iff, beq_eq_false_iff_ne]
      exact ⟨⟨⟨starts.ne (by decide) rfl, starts.ne (by decide) rfl⟩,
        starts.ne (by decide) rfl⟩, starts.ne (by decide) rfl⟩
  | _ => exact ⟨_, _, rfl, by decide, by decide⟩

theorem skipBlanks_value {care : Care} {value : Json} {blanks text : Text}
    (areBlanks : AreBlanks blanks) (spells : Spells (.value care value) text) (rest : Text) :
    skipBlanks (blanks ++ text ++ rest) = text ++ rest := by
  obtain ⟨first, others, rfl, visible, -⟩ := spells.exists_cons
  rw [List.append_assoc, skipBlanks_append areBlanks, List.cons_append, skipBlanks_cons visible]

theorem readNumberValue?_append {care : Care} {parts : NumberParts} {text rest : Text}
    (spells : SpellsNumber parts text) (inRange : care.isSkim ∨ parts.inRange)
    (ends : EndsNumber rest) :
    readNumberValue? care (text ++ rest) = some (.number text, rest) := by
  have accepted : (care.isSkim || parts.inRange) = true := by simpa using inRange
  simp only [readNumberValue?, readNumber?_append spells ends, Option.bind_eq_bind,
    Option.bind_some, accepted, if_true, List.length_append, Nat.add_sub_cancel, List.take_left']
  rfl

theorem readValue?_of_startsNumber {care : Care} {fuel : Nat} {text others : Text} {first : Char}
    (skipped : skipBlanks text = first :: others) (starts : StartsNumber first) :
    readValue? care (fuel + 1) text = readNumberValue? care (first :: others) := by
  have notWord : first ≠ 'n' ∧ first ≠ 't' ∧ first ≠ 'f' :=
    ⟨starts.ne (by decide) rfl, starts.ne (by decide) rfl, starts.ne (by decide) rfl⟩
  have notOpening : first ≠ '"' ∧ first ≠ '[' ∧ first ≠ '\x7b' :=
    ⟨starts.ne (by decide) rfl, starts.ne (by decide) rfl, starts.ne (by decide) rfl⟩
  simp [readValue?, skipped, notWord, notOpening]

/-- Between the brackets of an array with items no bracket comes first. -/
theorem Spells.skipBlanks_items {care : Care} {items : List Json} {body : Text}
    (spells : Spells (.items care items) body) (rest : Text) :
    ∃ first others, skipBlanks (body ++ rest) = first :: others ∧ first ≠ ']' := by
  have ofElement : ∀ {item : Json} {text : Text}, Spells (.element care item) text →
      ∀ rest, ∃ first others, skipBlanks (text ++ rest) = first :: others ∧ first ≠ ']' := by
    rintro item text ⟨⟩ rest
    rename_i before spelled after blanksBefore blanksAfter spellsValue
    obtain ⟨first, others, rfl, visible, unclosed⟩ := spellsValue.exists_cons
    refine ⟨first, others ++ after ++ rest, ?_, unclosed⟩
    simp [skipBlanks_append blanksBefore, skipBlanks_cons visible]
  cases spells with
  | lastItem spellsItem => exact ofElement spellsItem rest
  | item spellsItem spellsRest =>
      rw [List.append_assoc]
      exact ofElement spellsItem _

/-- Between the braces of an object with members a quote comes first. -/
theorem Spells.skipBlanks_members {skimKeys : Bool} {care : Text → Care} {members : Members}
    {body : Text} (spells : Spells (.members skimKeys care members) body) (rest : Text) :
    ∃ others, skipBlanks (body ++ rest) = '"' :: others := by
  have ofKey : ∀ {key keyText : Text}, SpellsKey skimKeys key keyText →
      ∀ rest, ∃ others, skipBlanks (keyText ++ rest) = '"' :: others := by
    rintro key keyText ⟨before, inside, after, blanksBefore, -, -, rfl⟩ rest
    refine ⟨inside ++ '"' :: after ++ [':'] ++ rest, ?_⟩
    have quoted : isBlank '"' = false := rfl
    simp [skipBlanks_append blanksBefore, skipBlanks_cons quoted]
  cases spells with
  | lastMember spellsKey spellsValue =>
      rw [List.append_assoc]
      exact ofKey spellsKey _
  | member spellsKey spellsValue spellsRest =>
      rw [List.append_assoc, List.append_assoc]
      exact ofKey spellsKey _

section Steps

variable {care : Care} {fuel : Nat} {text after behind rest : Text} {value : Json}
  (blanksAfter : AreBlanks after)

include blanksAfter

theorem readItems?_closed (read : readValue? care fuel text = some (value, after ++ ']' :: rest)) :
    readItems? care (fuel + 1) text = some ([value], rest) := by
  have closed : skipBlanks (after ++ ']' :: rest) = ']' :: rest :=
    skipBlanks_append_cons blanksAfter rfl _
  simp [readItems?, read, closed]

theorem readItems?_continued {items : List Json}
    (read : readValue? care fuel text = some (value, after ++ ',' :: behind))
    (readRest : readItems? care fuel behind = some (items, rest)) :
    readItems? care (fuel + 1) text = some (value :: items, rest) := by
  have comma : skipBlanks (after ++ ',' :: behind) = ',' :: behind :=
    skipBlanks_append_cons blanksAfter rfl _
  simp [readItems?, read, comma, readRest]

variable {skimKeys : Bool} {memberCare : Text → Care} {key keyText : Text}
  (spellsKey : SpellsKey skimKeys key keyText)

include spellsKey

theorem readMembers?_closed
    (read : readValue? (memberCare key) fuel text = some (value, after ++ '\x7d' :: rest)) :
    readMembers? skimKeys memberCare (fuel + 1) (keyText ++ text) = some ([(key, value)], rest) := by
  have readKey : readKey? skimKeys (keyText ++ text) = some (key, text) :=
    readKey?_eq_some_iff.mpr ⟨keyText, rfl, spellsKey⟩
  have closed : skipBlanks (after ++ '\x7d' :: rest) = '\x7d' :: rest :=
    skipBlanks_append_cons blanksAfter rfl _
  simp [readMembers?, readKey, read, closed]

theorem readMembers?_continued {members : Members}
    (read : readValue? (memberCare key) fuel text = some (value, after ++ ',' :: behind))
    (readRest : readMembers? skimKeys memberCare fuel behind = some (members, rest)) :
    readMembers? skimKeys memberCare (fuel + 1) (keyText ++ text) =
      some ((key, value) :: members, rest) := by
  have readKey : readKey? skimKeys (keyText ++ text) = some (key, text) :=
    readKey?_eq_some_iff.mpr ⟨keyText, rfl, spellsKey⟩
  have comma : skipBlanks (after ++ ',' :: behind) = ',' :: behind :=
    skipBlanks_append_cons blanksAfter rfl _
  simp [readMembers?, readKey, read, comma, readRest]

end Steps

/-- The reader gives back what the text spells, if it has fuel for two steps per character. -/
def ReadsAs : Phrase → Text → Prop
  | .value care value, text =>
      ∀ {blanks rest : Text} {fuel : Nat}, AreBlanks blanks → EndsNumber rest →
        2 * text.length ≤ fuel + 1 →
          readValue? care (fuel + 1) (blanks ++ text ++ rest) = some (value, rest)
  | .element care value, text =>
      ∃ after, AreBlanks after ∧
        ∀ {rest : Text} {fuel : Nat}, EndsNumber rest → 2 * text.length ≤ fuel + 1 →
          readValue? care (fuel + 1) (text ++ rest) = some (value, after ++ rest)
  | .items care items, text =>
      ∀ (rest : Text) (fuel : Nat), 2 * text.length ≤ fuel →
        readItems? care (fuel + 1) (text ++ ']' :: rest) = some (items, rest)
  | .members skimKeys care members, text =>
      ∀ (rest : Text) (fuel : Nat), 2 * text.length ≤ fuel →
        readMembers? skimKeys care (fuel + 1) (text ++ '\x7d' :: rest) = some (members, rest)

theorem Spells.length_pos {care : Care} {value : Json} {text : Text}
    (spells : Spells (.element care value) text) : 0 < text.length := by
  cases spells with
  | element blanksBefore spellsValue blanksAfter =>
      obtain ⟨first, others, rfl, -, -⟩ := spellsValue.exists_cons
      simp only [List.length_append, List.length_cons]
      omega

/-- What is written by the rules is read. -/
theorem Spells.readsAs {phrase : Phrase} {text : Text} (spells : Spells phrase text) :
    ReadsAs phrase text := by
  -- Reading a value and going on to the next one take a step each, so two per character are enough.
  induction spells with
  | nullWord care =>
      intro blanks rest fuel areBlanks ends enough
      rw [readValue?, skipBlanks_value areBlanks (.nullWord care)]
      simp [Text.strip?]
  | trueWord care =>
      intro blanks rest fuel areBlanks ends enough
      rw [readValue?, skipBlanks_value areBlanks (.trueWord care)]
      simp [Text.strip?]
  | falseWord care =>
      intro blanks rest fuel areBlanks ends enough
      rw [readValue?, skipBlanks_value areBlanks (.falseWord care)]
      simp [Text.strip?]
  | number spellsNumber inRange =>
      intro blanks rest fuel areBlanks ends enough
      have skipped := skipBlanks_value areBlanks (.number spellsNumber inRange) rest
      obtain ⟨first, others, rfl, starts⟩ := spellsNumber.exists_cons
      rw [readValue?_of_startsNumber skipped starts]
      exact readNumberValue?_append spellsNumber inRange ends
  | string spellsString =>
      intro blanks rest fuel areBlanks ends enough
      have read := readString?_append spellsString rest
      rw [readValue?, skipBlanks_value areBlanks (.string spellsString)]
      simp [read]
  | emptyArray enters areBlanks =>
      intro blanks rest fuel blanksBefore ends enough
      have closed : skipBlanks (']' :: rest) = ']' :: rest := skipBlanks_cons rfl rest
      rw [readValue?, skipBlanks_value blanksBefore (.emptyArray enters areBlanks)]
      simp [enters, skipBlanks_append areBlanks, closed]
  | @array care inner items body enters spellsItems ih =>
      intro blanks rest fuel blanksBefore ends enough
      obtain ⟨fuel, rfl⟩ : ∃ less, fuel = less + 1 := ⟨fuel - 1, by simp at enough; omega⟩
      obtain ⟨first, others, skipped, unclosed⟩ := spellsItems.skipBlanks_items (']' :: rest)
      have read := ih rest fuel (by simp at enough; omega)
      rw [readValue?, skipBlanks_value blanksBefore (.array enters spellsItems)]
      simp [enters, skipped, unclosed, read]
  | emptyObject enters areBlanks =>
      intro blanks rest fuel blanksBefore ends enough
      have closed : skipBlanks ('\x7d' :: rest) = '\x7d' :: rest := skipBlanks_cons rfl rest
      rw [readValue?, skipBlanks_value blanksBefore (.emptyObject enters areBlanks)]
      simp [enters, skipBlanks_append areBlanks, closed]
  | @object care inner members body enters spellsMembers ih =>
      intro blanks rest fuel blanksBefore ends enough
      obtain ⟨fuel, rfl⟩ : ∃ less, fuel = less + 1 := ⟨fuel - 1, by simp at enough; omega⟩
      obtain ⟨others, skipped⟩ := spellsMembers.skipBlanks_members ('\x7d' :: rest)
      have read := ih rest fuel (by simp at enough; omega)
      rw [readValue?, skipBlanks_value blanksBefore (.object enters spellsMembers)]
      simp [enters, skipped, read, Members.putAll_nil]
  | @element care value before text after blanksBefore spellsValue blanksAfter ih =>
      refine ⟨after, blanksAfter, ?_⟩
      intro rest fuel ends enough
      rw [List.append_assoc _ after]
      exact ih blanksBefore (ends.append_blanks blanksAfter) (by simp at enough; omega)
  | lastItem spellsItem ih =>
      obtain ⟨after, blanksAfter, read⟩ := ih
      intro rest fuel enough
      have occupied := spellsItem.length_pos
      obtain ⟨fuel, rfl⟩ : ∃ less, fuel = less + 1 := ⟨fuel - 1, by omega⟩
      exact readItems?_closed blanksAfter (read (endsNumber_cons (.inr (.inl rfl)) rest) enough)
  | item spellsItem spellsRest ihItem ihRest =>
      obtain ⟨after, blanksAfter, read⟩ := ihItem
      intro behind fuel enough
      have occupied := spellsItem.length_pos
      rw [List.length_append, List.length_cons] at enough
      obtain ⟨fuel, rfl⟩ : ∃ less, fuel = less + 1 := ⟨fuel - 1, by omega⟩
      rw [List.append_assoc, List.cons_append]
      refine readItems?_continued blanksAfter (read ?_ ?_) (ihRest behind fuel ?_)
      · exact endsNumber_cons (.inl rfl) _
      · omega
      · omega
  | lastMember spellsKey spellsValue ih =>
      obtain ⟨after, blanksAfter, read⟩ := ih
      intro rest fuel enough
      have occupied := spellsValue.length_pos
      rw [List.length_append] at enough
      obtain ⟨fuel, rfl⟩ : ∃ less, fuel = less + 1 := ⟨fuel - 1, by omega⟩
      rw [List.append_assoc]
      refine readMembers?_closed blanksAfter spellsKey (read ?_ ?_)
      · exact endsNumber_cons (.inr (.inr rfl)) rest
      · omega
  | member spellsKey spellsValue spellsRest ihValue ihRest =>
      obtain ⟨after, blanksAfter, read⟩ := ihValue
      intro behind fuel enough
      have occupied := spellsValue.length_pos
      rw [List.length_append, List.length_append, List.length_cons] at enough
      obtain ⟨fuel, rfl⟩ : ∃ less, fuel = less + 1 := ⟨fuel - 1, by omega⟩
      rw [List.append_assoc, List.append_assoc, List.cons_append]
      refine readMembers?_continued blanksAfter spellsKey (read ?_ ?_) (ihRest behind fuel ?_)
      · exact endsNumber_cons (.inl rfl) _
      · omega
      · omega

end Completeness

end Json

end SelectorNavigation
