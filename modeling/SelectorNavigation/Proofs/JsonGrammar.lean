import SelectorNavigation.Json.Reader
import SelectorNavigation.Proofs.OrderedMembers

/-!
# The grammar of JSON

What a text stands for is said here by rules, one for each way to write a part of it: a
number from its sign, digits and exponent, a string from plain and escaped characters, and
a value from the values inside it.  Blanks may stand around every value and every key.  An
object stands for its members with repeated keys collapsed.

How closely a part is read takes part in the rules, since the limits on numbers, escapes
and nesting depend on it.  Numbers and strings are shown to be read as they are spelled; for a
number this needs that no further digit, point or exponent follows it.
-/

namespace SelectorNavigation

namespace Json

/-- Nothing but blanks. -/
def AreBlanks (text : Text) : Prop :=
  ∀ character ∈ text, isBlank character

/-- Digits and nothing else, of which there is at least one. -/
def AreDigits (text : Text) : Prop :=
  text ≠ [] ∧ ∀ character ∈ text, character.isDigit

/-- The integer part of a number: digits without a zero in front of others. -/
def IsWhole (digits : Text) : Prop :=
  AreDigits digits ∧ ∀ second others, digits ≠ '0' :: second :: others

/-- A fraction: nothing, or a point and digits. -/
inductive SpellsFraction : Text → Text → Prop where
  | absent : SpellsFraction [] []
  | present {digits : Text} (areDigits : AreDigits digits) : SpellsFraction digits ('.' :: digits)

/-- An exponent: nothing, or its letter, an optional sign and digits. -/
inductive SpellsExponent : Bool → Text → Text → Prop where
  | absent : SpellsExponent false [] []
  | unsigned {letter : Char} {digits : Text} (isLetter : letter = 'e' ∨ letter = 'E')
      (areDigits : AreDigits digits) : SpellsExponent false digits (letter :: digits)
  | signed {letter : Char} {digits : Text} (negative : Bool)
      (isLetter : letter = 'e' ∨ letter = 'E') (areDigits : AreDigits digits) :
      SpellsExponent negative digits (letter :: (if negative then '-' else '+') :: digits)

/-- A number is spelled from its sign, its integer part, its fraction and its exponent. -/
inductive SpellsNumber (parts : NumberParts) : Text → Prop where
  | mk {fraction exponent : Text} (isWhole : IsWhole parts.whole)
      (spellsFraction : SpellsFraction parts.fraction fraction)
      (spellsExponent : SpellsExponent parts.exponentNegative parts.exponent exponent) :
      SpellsNumber parts
        ((if parts.negative then ['-'] else []) ++ parts.whole ++ fraction ++ exponent)

/-- What stands between the quotes of a string.  When skimming, escaped code units are not
decoded. -/
inductive SpellsString (skim : Bool) : Text → Text → Prop where
  | empty : SpellsString skim [] []
  | plain {character : Char} {string body : Text} (printable : ¬ character.toNat < 0x20)
      (unquoted : character ≠ '"') (unescaped : character ≠ '\\')
      (rest : SpellsString skim string body) :
      SpellsString skim (character :: string) (character :: body)
  | short {letter character : Char} {string body : Text}
      (stands : shortEscape? letter = some character) (rest : SpellsString skim string body) :
      SpellsString skim (character :: string) ('\\' :: letter :: body)
  | unit {first second third fourth : Char} {unit : Nat} {string body : Text}
      (decoded : skim = false) (stands : codeUnit? first second third fourth = some unit)
      (notLeading : isLeadingSurrogate unit = false)
      (notTrailing : isTrailingSurrogate unit = false) (rest : SpellsString skim string body) :
      SpellsString skim (Char.ofNat unit :: string)
        ('\\' :: 'u' :: first :: second :: third :: fourth :: body)
  | pair {first second third fourth first' second' third' fourth' : Char} {leading trailing : Nat}
      {string body : Text} (decoded : skim = false)
      (leads : codeUnit? first second third fourth = some leading)
      (isLeading : isLeadingSurrogate leading)
      (trails : codeUnit? first' second' third' fourth' = some trailing)
      (isTrailing : isTrailingSurrogate trailing) (rest : SpellsString skim string body) :
      SpellsString skim (ofSurrogates leading trailing :: string)
        ('\\' :: 'u' :: first :: second :: third :: fourth ::
          '\\' :: 'u' :: first' :: second' :: third' :: fourth' :: body)
  | skimmed {first second third fourth : Char} {unit : Nat} {string body : Text}
      (undecoded : skim = true) (stands : codeUnit? first second third fourth = some unit)
      (rest : SpellsString skim string body) :
      SpellsString skim ('�' :: string)
        ('\\' :: 'u' :: first :: second :: third :: fourth :: body)

/-- A key with its colon, and blanks around its quotes. -/
def SpellsKey (skim : Bool) (key : Text) (text : Text) : Prop :=
  ∃ before body after, AreBlanks before ∧ SpellsString skim key body ∧ AreBlanks after ∧
    text = before ++ '"' :: body ++ '"' :: after ++ [':']

/-- The parts of a JSON text that hold values, with the care that they are read with. -/
inductive Phrase where
  /-- A value without blanks around it. -/
  | value (care : Care) (value : Json)
  /-- A value with blanks around it. -/
  | element (care : Care) (value : Json)
  /-- What stands between the brackets of an array that is not empty. -/
  | items (care : Care) (items : List Json)
  /-- What stands between the braces of an object that is not empty. -/
  | members (skimKeys : Bool) (care : Text → Care) (members : Members)

/-- The text is one way to write the phrase. -/
inductive Spells : Phrase → Text → Prop where
  | nullWord (care : Care) : Spells (.value care .null) "null".toList
  | trueWord (care : Care) : Spells (.value care (.bool true)) "true".toList
  | falseWord (care : Care) : Spells (.value care (.bool false)) "false".toList
  | number {care : Care} {parts : NumberParts} {text : Text}
      (spellsNumber : SpellsNumber parts text) (inRange : care.isSkim ∨ parts.inRange) :
      Spells (.value care (.number text)) text
  | string {care : Care} {string body : Text}
      (spellsString : SpellsString care.isSkim string body) :
      Spells (.value care (.string string)) ('"' :: body ++ ['"'])
  | emptyArray {care inner : Care} {blanks : Text} (enters : care.inner? = some inner)
      (areBlanks : AreBlanks blanks) : Spells (.value care (.array [])) ('[' :: blanks ++ [']'])
  | array {care inner : Care} {items : List Json} {body : Text} (enters : care.inner? = some inner)
      (spellsItems : Spells (.items inner items) body) :
      Spells (.value care (.array items)) ('[' :: body ++ [']'])
  | emptyObject {care inner : Care} {blanks : Text} (enters : care.inner? = some inner)
      (areBlanks : AreBlanks blanks) :
      Spells (.value care (.object [])) ('\x7b' :: blanks ++ ['\x7d'])
  | object {care inner : Care} {members : Members} {body : Text}
      (enters : care.inner? = some inner)
      (spellsMembers : Spells (.members inner.isSkim (fun _ => inner) members) body) :
      Spells (.value care (.object members.collapsed)) ('\x7b' :: body ++ ['\x7d'])
  | element {care : Care} {value : Json} {before text after : Text}
      (blanksBefore : AreBlanks before) (spellsValue : Spells (.value care value) text)
      (blanksAfter : AreBlanks after) :
      Spells (.element care value) (before ++ text ++ after)
  | lastItem {care : Care} {item : Json} {text : Text}
      (spellsItem : Spells (.element care item) text) :
      Spells (.items care [item]) text
  | item {care : Care} {item : Json} {items : List Json} {text rest : Text}
      (spellsItem : Spells (.element care item) text)
      (spellsRest : Spells (.items care items) rest) :
      Spells (.items care (item :: items)) (text ++ ',' :: rest)
  | lastMember {skimKeys : Bool} {care : Text → Care} {key : Text} {value : Json}
      {keyText text : Text} (spellsKey : SpellsKey skimKeys key keyText)
      (spellsValue : Spells (.element (care key) value) text) :
      Spells (.members skimKeys care [(key, value)]) (keyText ++ text)
  | member {skimKeys : Bool} {care : Text → Care} {key : Text} {value : Json} {members : Members}
      {keyText text rest : Text} (spellsKey : SpellsKey skimKeys key keyText)
      (spellsValue : Spells (.element (care key) value) text)
      (spellsRest : Spells (.members skimKeys care members) rest) :
      Spells (.members skimKeys care ((key, value) :: members)) (keyText ++ text ++ ',' :: rest)

section Blanks

theorem areBlanks_nil : AreBlanks [] := by
  simp [AreBlanks]

theorem skipBlanks_append {blanks : Text} (areBlanks : AreBlanks blanks) (rest : Text) :
    skipBlanks (blanks ++ rest) = skipBlanks rest :=
  List.dropWhile_append_of_pos areBlanks

theorem skipBlanks_cons {character : Char} (visible : isBlank character = false) (rest : Text) :
    skipBlanks (character :: rest) = character :: rest :=
  List.dropWhile_cons_of_neg (by simp [visible])

theorem skipBlanks_append_cons {blanks : Text} {sign : Char} (areBlanks : AreBlanks blanks)
    (visible : isBlank sign = false) (rest : Text) :
    skipBlanks (blanks ++ sign :: rest) = sign :: rest := by
  rw [skipBlanks_append areBlanks, skipBlanks_cons visible]

theorem exists_blanks (text : Text) :
    ∃ blanks, text = blanks ++ skipBlanks text ∧ AreBlanks blanks :=
  ⟨text.takeWhile isBlank, List.takeWhile_append_dropWhile.symm, fun _ member =>
    List.mem_takeWhile_imp member⟩

theorem skipBlanks_eq_nil_iff {text : Text} : skipBlanks text = [] ↔ AreBlanks text :=
  List.dropWhile_eq_nil_iff

end Blanks

section Numbers

/-- No digit stands at the start of the text. -/
def StartsNoDigit (text : Text) : Prop :=
  ∀ character ∈ text.head?, character.isDigit = false

/-- Nothing at the start of the text can belong to a number in front of it. -/
def EndsNumber (text : Text) : Prop :=
  ∀ character ∈ text.head?,
    character.isDigit = false ∧ character ≠ '.' ∧ character ≠ 'e' ∧ character ≠ 'E'

theorem EndsNumber.startsNoDigit {text : Text} (ends : EndsNumber text) : StartsNoDigit text :=
  fun character member => (ends character member).1

theorem readDigits?_eq_some_iff {text digits rest : Text} :
    readDigits? text = some (digits, rest) ↔
      text = digits ++ rest ∧ AreDigits digits ∧ StartsNoDigit rest := by
  constructor
  · intro read
    rw [readDigits?] at read
    split at read
    · simp at read
    · rename_i occupied
      obtain ⟨rfl, rfl⟩ := Prod.mk.inj (Option.some.inj read)
      refine ⟨List.takeWhile_append_dropWhile.symm, ⟨occupied, ?_⟩, ?_⟩
      · exact fun character member => List.mem_takeWhile_imp member
      · intro character first
        have stopped := List.head?_dropWhile_not Char.isDigit text
        rw [Option.mem_def.mp first] at stopped
        exact stopped
  · rintro ⟨rfl, ⟨occupied, areDigits⟩, stops⟩
    have taken := takeWhile_append_of_head areDigits stops
    have left := dropWhile_append_of_head areDigits stops
    rw [readDigits?, taken, left]
    cases digits with
    | nil => exact absurd rfl occupied
    | cons digit digits => rfl

theorem readWhole?_eq_some_iff {text digits rest : Text} :
    readWhole? text = some (digits, rest) ↔
      text = digits ++ rest ∧ IsWhole digits ∧ StartsNoDigit rest := by
  rw [readWhole?]
  split
  · rename_i second others behind read
    simp only [reduceCtorEq, false_iff]
    rintro ⟨split, ⟨areDigits, proper⟩, stops⟩
    rw [readDigits?_eq_some_iff.mpr ⟨split, areDigits, stops⟩] at read
    exact proper second others (Prod.mk.inj (Option.some.inj read)).1
  · rename_i proper
    rw [readDigits?_eq_some_iff]
    constructor
    · rintro ⟨split, areDigits, stops⟩
      have read := readDigits?_eq_some_iff.mpr ⟨split, areDigits, stops⟩
      refine ⟨split, ⟨areDigits, ?_⟩, stops⟩
      rintro second others rfl
      exact proper second others rest read
    · rintro ⟨split, ⟨areDigits, -⟩, stops⟩
      exact ⟨split, areDigits, stops⟩

theorem exists_of_readFraction? {text digits rest : Text}
    (read : readFraction? text = some (digits, rest)) :
    ∃ spelled, text = spelled ++ rest ∧ SpellsFraction digits spelled := by
  rw [readFraction?.eq_def] at read
  split at read
  · rename_i behind
    obtain ⟨rfl, areDigits, -⟩ := readDigits?_eq_some_iff.mp read
    exact ⟨'.' :: digits, rfl, .present areDigits⟩
  · obtain ⟨rfl, rfl⟩ := Prod.mk.inj (Option.some.inj read)
    exact ⟨[], rfl, .absent⟩

theorem readFraction?_append {digits spelled rest : Text} (spells : SpellsFraction digits spelled)
    (stops : StartsNoDigit rest) (noPoint : rest.head? ≠ some '.') :
    readFraction? (spelled ++ rest) = some (digits, rest) := by
  cases spells with
  | absent =>
      rw [List.nil_append, readFraction?.eq_def]
      split
      · simp at noPoint
      · rfl
  | present areDigits =>
      exact readDigits?_eq_some_iff.mpr ⟨rfl, areDigits, stops⟩

theorem exists_of_readExponentSign {text rest : Text} {negative : Bool}
    (read : readExponentSign text = (negative, rest)) :
    (negative = false ∧ text = rest) ∨ text = (if negative then '-' else '+') :: rest := by
  rw [readExponentSign.eq_def] at read
  split at read
  · obtain ⟨rfl, rfl⟩ := Prod.mk.inj read
    exact .inr rfl
  · obtain ⟨rfl, rfl⟩ := Prod.mk.inj read
    exact .inr rfl
  · obtain ⟨rfl, rfl⟩ := Prod.mk.inj read
    exact .inl ⟨rfl, rfl⟩

theorem AreDigits.exists_cons {digits : Text} (areDigits : AreDigits digits) :
    ∃ first others, digits = first :: others ∧ first.isDigit := by
  obtain ⟨first, others, rfl⟩ := List.exists_cons_of_ne_nil areDigits.1
  exact ⟨first, others, rfl, areDigits.2 first List.mem_cons_self⟩

theorem readExponentSign_of_digit {digit : Char} (isDigit : digit.isDigit) (rest : Text) :
    readExponentSign (digit :: rest) = (false, digit :: rest) := by
  have notMinus : digit ≠ '-' := fun same => absurd (same ▸ isDigit) (by decide)
  have notPlus : digit ≠ '+' := fun same => absurd (same ▸ isDigit) (by decide)
  simp [readExponentSign, notMinus, notPlus]

theorem readSign_append {whole : Text} (areDigits : AreDigits whole) (negative : Bool)
    (rest : Text) :
    readSign ((if negative then ['-'] else []) ++ (whole ++ rest)) = (negative, whole ++ rest) := by
  cases negative with
  | true => rfl
  | false =>
      obtain ⟨first, others, rfl, isDigit⟩ := areDigits.exists_cons
      have notMinus : first ≠ '-' := fun same => absurd (same ▸ isDigit) (by decide)
      simp [readSign, notMinus]

theorem exists_of_readExponent? {text digits rest : Text} {negative : Bool}
    (read : readExponent? text = some (negative, digits, rest)) :
    ∃ spelled, text = spelled ++ rest ∧ SpellsExponent negative digits spelled := by
  cases text with
  | nil =>
      obtain ⟨rfl, rfl, rfl⟩ : false = negative ∧ [] = digits ∧ [] = rest := by
        simpa [readExponent?] using read
      exact ⟨[], rfl, .absent⟩
  | cons letter behind =>
      by_cases isLetter : letter = 'e' ∨ letter = 'E'
      · cases sign : readExponentSign behind with
        | mk isNegative behindSign =>
            obtain ⟨readDigits, rfl⟩ :
                readDigits? behindSign = some (digits, rest) ∧ isNegative = negative := by
              simpa [readExponent?, isLetter, sign, Option.bind_eq_some_iff] using read
            obtain ⟨rfl, areDigits, -⟩ := readDigits?_eq_some_iff.mp readDigits
            rcases exists_of_readExponentSign sign with ⟨rfl, rfl⟩ | rfl
            · exact ⟨letter :: digits, rfl, .unsigned isLetter areDigits⟩
            · exact ⟨letter :: (if isNegative then '-' else '+') :: digits, rfl,
                .signed isNegative isLetter areDigits⟩
      · obtain ⟨rfl, rfl, rfl⟩ : false = negative ∧ [] = digits ∧ letter :: behind = rest := by
          simpa [readExponent?, isLetter] using read
        exact ⟨[], rfl, .absent⟩

theorem readExponent?_append {digits spelled rest : Text} {negative : Bool}
    (spells : SpellsExponent negative digits spelled) (ends : EndsNumber rest) :
    readExponent? (spelled ++ rest) = some (negative, digits, rest) := by
  cases spells with
  | absent =>
      cases rest with
      | nil => rfl
      | cons character rest =>
          obtain ⟨-, -, notSmall, notLarge⟩ := ends character rfl
          simp [readExponent?, notSmall, notLarge]
  | @unsigned letter digits isLetter areDigits =>
      have read := readDigits?_eq_some_iff.mpr ⟨rfl, areDigits, ends.startsNoDigit⟩
      obtain ⟨first, others, rfl, isDigit⟩ := areDigits.exists_cons
      have unsigned := readExponentSign_of_digit isDigit (others ++ rest)
      rw [List.cons_append] at read
      simp [readExponent?, isLetter, unsigned, read]
  | @signed letter digits negative isLetter areDigits =>
      have read := readDigits?_eq_some_iff.mpr ⟨rfl, areDigits, ends.startsNoDigit⟩
      cases negative <;> simp [readExponent?, isLetter, readExponentSign, read]

theorem exists_of_readSign {text rest : Text} {negative : Bool}
    (read : readSign text = (negative, rest)) :
    text = (if negative then ['-'] else []) ++ rest := by
  rw [readSign.eq_def] at read
  split at read
  · obtain ⟨rfl, rfl⟩ := Prod.mk.inj read
    rfl
  · obtain ⟨rfl, rfl⟩ := Prod.mk.inj read
    rfl

/-- What is read as a number is spelled from the parts that were read. -/
theorem exists_of_readNumber? {text rest : Text} {parts : NumberParts}
    (read : readNumber? text = some (parts, rest)) :
    ∃ spelled, text = spelled ++ rest ∧ SpellsNumber parts spelled := by
  cases sign : readSign text with
  | mk negative behindSign =>
      simp only [readNumber?, sign] at read
      obtain ⟨⟨whole, behindWhole⟩, readWhole, read⟩ := Option.bind_eq_some_iff.mp read
      obtain ⟨⟨fraction, behindFraction⟩, readFraction, read⟩ := Option.bind_eq_some_iff.mp read
      obtain ⟨⟨exponentNegative, exponent, behind⟩, readExponent, read⟩ :=
        Option.bind_eq_some_iff.mp read
      obtain ⟨rfl, rfl⟩ := Prod.mk.inj (Option.some.inj read)
      obtain rfl := exists_of_readSign sign
      obtain ⟨rfl, isWhole, -⟩ := readWhole?_eq_some_iff.mp readWhole
      obtain ⟨fractionText, rfl, spellsFraction⟩ := exists_of_readFraction? readFraction
      obtain ⟨exponentText, rfl, spellsExponent⟩ := exists_of_readExponent? readExponent
      exact ⟨_, by simp, .mk isWhole spellsFraction spellsExponent⟩

theorem SpellsFraction.startsNoDigit {digits spelled rest : Text}
    (spells : SpellsFraction digits spelled) (stops : StartsNoDigit rest) :
    StartsNoDigit (spelled ++ rest) := by
  cases spells with
  | absent => exact stops
  | present => rintro character ⟨⟩; rfl

theorem SpellsExponent.startsNoDigit {negative : Bool} {digits spelled rest : Text}
    (spells : SpellsExponent negative digits spelled) (ends : EndsNumber rest) :
    StartsNoDigit (spelled ++ rest) ∧ (spelled ++ rest).head? ≠ some '.' := by
  cases spells with
  | absent =>
      refine ⟨ends.startsNoDigit, fun point => ?_⟩
      exact (ends '.' point).2.1 rfl
  | unsigned isLetter => rcases isLetter with rfl | rfl <;> simp [StartsNoDigit]
  | signed negative isLetter => rcases isLetter with rfl | rfl <;> simp [StartsNoDigit]

/-- A number is read as it is spelled, unless it goes on behind its spelling. -/
theorem readNumber?_append {parts : NumberParts} {spelled rest : Text}
    (spells : SpellsNumber parts spelled) (ends : EndsNumber rest) :
    readNumber? (spelled ++ rest) = some (parts, rest) := by
  obtain ⟨isWhole, spellsFraction, spellsExponent⟩ := spells
  rename_i fraction exponent
  obtain ⟨stops, noPoint⟩ := spellsExponent.startsNoDigit ends
  have sign := readSign_append isWhole.1 parts.negative (fraction ++ (exponent ++ rest))
  have readWhole := readWhole?_eq_some_iff.mpr
    ⟨rfl, isWhole, spellsFraction.startsNoDigit stops⟩
  have readFraction := readFraction?_append spellsFraction stops noPoint
  have readExponent := readExponent?_append spellsExponent ends
  simp only [List.append_assoc, readNumber?, sign, readWhole, readFraction, readExponent,
    Option.bind_eq_bind, Option.bind_some]
  rfl

end Numbers

section Strings

theorem escapedUnit?_eq_character_iff {skim : Bool} {unit : Nat} {character : Char} :
    escapedUnit? skim unit = some (.character character) ↔
      (skim = true ∧ character = '�') ∨
        (skim = false ∧ isLeadingSurrogate unit = false ∧ isTrailingSurrogate unit = false ∧
          character = Char.ofNat unit) := by
  cases skim <;> cases leads : isLeadingSurrogate unit <;>
    cases trails : isTrailingSurrogate unit <;>
    simp [escapedUnit?, leads, trails, eq_comm]

theorem escapedUnit?_eq_leading_iff {skim : Bool} {unit leading : Nat} :
    escapedUnit? skim unit = some (.leading leading) ↔
      skim = false ∧ isLeadingSurrogate unit ∧ leading = unit := by
  cases skim <;> cases leads : isLeadingSurrogate unit <;>
    cases trails : isTrailingSurrogate unit <;>
    simp [escapedUnit?, leads, trails, eq_comm]

theorem exists_of_map_prepend {character : Char} {read : Option (Text × Text)}
    {string rest : Text} (found : read.map (prepend character) = some (string, rest)) :
    ∃ others, string = character :: others ∧ read = some (others, rest) := by
  obtain ⟨⟨others, behind⟩, rfl, same⟩ := Option.map_eq_some_iff.mp found
  obtain ⟨rfl, rfl⟩ := Prod.mk.inj same
  exact ⟨others, rfl, rfl⟩

/-- What is read up to a closing quote spells the string that was read. -/
theorem exists_of_readString? {skim : Bool} {text string rest : Text}
    (read : readString? skim text = some (string, rest)) :
    ∃ body, text = body ++ '"' :: rest ∧ SpellsString skim string body := by
  fun_induction readString? skim text generalizing string with
  | case1 => simp at read
  | case2 behind =>
      obtain ⟨rfl, rfl⟩ := Prod.mk.inj (Option.some.inj read)
      exact ⟨[], rfl, .empty⟩
  | case3 => simp at read
  | case4 first second third fourth behind character stands ih =>
      obtain ⟨others, rfl, later⟩ := exists_of_map_prepend read
      obtain ⟨body, rfl, spells⟩ := ih later
      obtain ⟨unit, isUnit, stands⟩ := Option.bind_eq_some_iff.mp stands
      refine ⟨'\\' :: 'u' :: first :: second :: third :: fourth :: body, rfl, ?_⟩
      rcases escapedUnit?_eq_character_iff.mp stands with
        ⟨undecoded, rfl⟩ | ⟨decoded, notLeading, notTrailing, rfl⟩
      · exact .skimmed undecoded isUnit spells
      · exact .unit decoded isUnit notLeading notTrailing spells
  | case5 => simp at read
  | case6 first second third fourth leading stands first' second' third' fourth' behind trailing
      trails isTrailing ih =>
      obtain ⟨others, rfl, later⟩ := exists_of_map_prepend read
      obtain ⟨body, rfl, spells⟩ := ih later
      obtain ⟨unit, isUnit, stands⟩ := Option.bind_eq_some_iff.mp stands
      obtain ⟨decoded, isLeading, rfl⟩ := escapedUnit?_eq_leading_iff.mp stands
      exact ⟨_, rfl, .pair decoded isUnit isLeading trails isTrailing spells⟩
  | case7 => simp at read
  | case8 => simp at read
  | case9 => simp at read
  | case10 letter behind notUnit character stands ih =>
      obtain ⟨others, rfl, later⟩ := exists_of_map_prepend read
      obtain ⟨body, rfl, spells⟩ := ih later
      exact ⟨'\\' :: letter :: body, rfl, .short stands spells⟩
  | case11 => simp at read
  | case12 character behind unquoted notUnit notShort printable ih =>
      obtain ⟨others, rfl, later⟩ := exists_of_map_prepend read
      obtain ⟨body, rfl, spells⟩ := ih later
      simp only [Bool.or_eq_true, decide_eq_true_eq, beq_iff_eq, not_or] at printable
      exact ⟨character :: body, rfl, .plain printable.1 unquoted printable.2 spells⟩

/-- A string is read as it is spelled in front of its closing quote. -/
theorem readString?_append {skim : Bool} {string body : Text}
    (spells : SpellsString skim string body) (rest : Text) :
    readString? skim (body ++ '"' :: rest) = some (string, rest) := by
  induction spells with
  | empty => simp [readString?]
  | plain printable unquoted unescaped spells ih =>
      simp [readString?, printable, unescaped, ih, prepend]
  | @short letter character string body stands spells ih =>
      have other : letter ≠ 'u' := by
        rintro rfl
        simp [shortEscape?] at stands
      simp [readString?, other, stands, ih, prepend]
  | unit decoded stands notLeading notTrailing spells ih =>
      subst decoded
      simp [readString?, stands, escapedUnit?, notLeading, notTrailing, ih, prepend]
  | pair decoded leads isLeading trails isTrailing spells ih =>
      subst decoded
      simp [readString?, leads, escapedUnit?, isLeading, trails, isTrailing, ih, prepend]
  | skimmed undecoded stands spells ih =>
      subst undecoded
      simp [readString?, stands, escapedUnit?, ih, prepend]

end Strings

section Plain

/-- A character that stands for itself in a string. -/
def isPlain (character : Char) : Bool :=
  0x20 ≤ character.toNat && character != '"' && character != '\\'

theorem spellsString_self {skim : Bool} {string : Text} (plain : string.all isPlain) :
    SpellsString skim string string := by
  induction string with
  | nil => exact .empty
  | cons character string ih =>
      rw [List.all_cons, Bool.and_eq_true] at plain
      obtain ⟨first, others⟩ := plain
      simp only [isPlain, Bool.and_eq_true, decide_eq_true_iff, bne_iff_ne] at first
      exact .plain (by omega) first.1.2 first.2 (ih others)

theorem spellsKey_self {skim : Bool} {key : Text} (plain : key.all isPlain) :
    SpellsKey skim key ('"' :: key ++ ['"', ':']) :=
  ⟨[], key, [], areBlanks_nil, spellsString_self plain, areBlanks_nil, by simp⟩

theorem Spells.bare {care : Care} {value : Json} {text : Text}
    (spells : Spells (.value care value) text) : Spells (.element care value) text := by
  simpa using Spells.element areBlanks_nil spells areBlanks_nil

end Plain

end Json

end SelectorNavigation
