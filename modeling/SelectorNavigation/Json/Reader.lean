import SelectorNavigation.Json.Basic
import SelectorNavigation.Json.Number
import SelectorNavigation.Text.Hexadecimal

/-!
# Reading JSON

JSON is read strictly: no comments, no superfluous commas, no control characters
in strings, and nothing but blanks around the value.  A value that is read in full
must also stay within limits: its containers may not nest too deep, its numbers
must be in range and its strings may not contain half of a surrogate pair.  A value
that is only skimmed has to be well formed, but the limits do not apply to it.
-/

namespace SelectorNavigation

namespace Json

/-- How closely a value is read. -/
inductive Care where
  /-- In full, with at most this many nested containers. -/
  | full (depth : Nat)
  /-- Only for being well formed. -/
  | skim

namespace Care

/-- The care inside one more container, unless containers nest too deep. -/
def inner? : Care → Option Care
  | full 0 => none
  | full (depth + 1) => some (full depth)
  | skim => some skim

/-- Limits do not apply. -/
def isSkim : Care → Bool
  | full _ => false
  | skim => true

end Care

/-- How many containers may nest in a text that is read in full. -/
def depthLimit : Nat := 127

/-- A blank between the parts of a JSON text. -/
def isBlank (character : Char) : Bool :=
  character == ' ' || character == '\t' || character == '\n' || character == '\r'

/-- A text without the blanks it begins with. -/
def skipBlanks (text : Text) : Text :=
  text.dropWhile isBlank

/-- The code unit that four hexadecimal digits stand for. -/
def codeUnit? (first second third fourth : Char) : Option Nat := do
  return 4096 * (← hexValue? first) + 256 * (← hexValue? second) +
    16 * (← hexValue? third) + (← hexValue? fourth)

/-- The first half of a surrogate pair. -/
def isLeadingSurrogate (unit : Nat) : Bool := 0xD800 ≤ unit && unit ≤ 0xDBFF

/-- The second half of a surrogate pair. -/
def isTrailingSurrogate (unit : Nat) : Bool := 0xDC00 ≤ unit && unit ≤ 0xDFFF

/-- The character that a surrogate pair stands for. -/
def ofSurrogates (leading trailing : Nat) : Char :=
  Char.ofNat (0x10000 + 1024 * (leading - 0xD800) + (trailing - 0xDC00))

/-- The character that a backslash and one letter stand for. -/
def shortEscape? (letter : Char) : Option Char :=
  if letter == '"' || letter == '\\' || letter == '/' then some letter
  else if letter == 'b' then some '\x08'
  else if letter == 'f' then some '\x0c'
  else if letter == 'n' then some '\n'
  else if letter == 'r' then some '\r'
  else if letter == 't' then some '\t'
  else none

/-- Put a character in front of a string that was read. -/
def prepend (character : Char) (string : Text × Text) : Text × Text :=
  (character :: string.1, string.2)

/-- What an escaped code unit is in a string. -/
inductive EscapedUnit where
  /-- A character of its own. -/
  | character (character : Char)
  /-- The first half of a surrogate pair. -/
  | leading (unit : Nat)

/-- What a code unit that comes next in a string is.  When skimming it is not decoded, and
every code unit is read as a replacement character. -/
def escapedUnit? (skim : Bool) (unit : Nat) : Option EscapedUnit :=
  if skim then some (.character '�')
  else if isLeadingSurrogate unit then some (.leading unit)
  else if isTrailingSurrogate unit then none
  else some (.character (Char.ofNat unit))

/-- The rest of a string behind its opening quote, and the text behind its closing
quote. -/
def readString? (skim : Bool) : Text → Option (Text × Text)
  | [] => none
  | '"' :: rest => some ([], rest)
  | '\\' :: 'u' :: first :: second :: third :: fourth :: rest =>
      match (codeUnit? first second third fourth).bind (escapedUnit? skim) with
      | none => none
      | some (.character character) => (readString? skim rest).map (prepend character)
      | some (.leading leading) =>
          match rest with
          | '\\' :: 'u' :: first :: second :: third :: fourth :: rest =>
              match codeUnit? first second third fourth with
              | none => none
              | some trailing =>
                  if isTrailingSurrogate trailing then
                    (readString? skim rest).map (prepend (ofSurrogates leading trailing))
                  else none
          | _ => none
  | '\\' :: letter :: rest =>
      match shortEscape? letter with
      | none => none
      | some character => (readString? skim rest).map (prepend character)
  | character :: rest =>
      if character.toNat < 0x20 || character == '\\' then none
      else (readString? skim rest).map (prepend character)

/-- A number, which has to be in range when it is read in full. -/
def readNumberValue? (care : Care) (text : Text) : Option (Json × Text) := do
  let (parts, rest) ← readNumber? text
  if care.isSkim || parts.inRange then
    return (.number (text.take (text.length - rest.length)), rest)
  else none

/-- The key of a member and the text behind its colon. -/
def readKey? (skim : Bool) (text : Text) : Option (Text × Text) :=
  match skipBlanks text with
  | '"' :: rest => do
      let (key, rest) ← readString? skim rest
      match skipBlanks rest with
      | ':' :: rest => some (key, rest)
      | _ => none
  | _ => none

mutual

/-- The value at the start of a text and what follows it.  The fuel bounds the
number of steps; the length of the text is enough. -/
def readValue? (care : Care) : (fuel : Nat) → Text → Option (Json × Text)
  | 0, _ => none
  | fuel + 1, text =>
      match skipBlanks text with
      | 'n' :: rest => (Text.strip? "ull".toList rest).map fun rest => (.null, rest)
      | 't' :: rest => (Text.strip? "rue".toList rest).map fun rest => (.bool true, rest)
      | 'f' :: rest => (Text.strip? "alse".toList rest).map fun rest => (.bool false, rest)
      | '"' :: rest =>
          (readString? care.isSkim rest).map fun string => (.string string.1, string.2)
      | '[' :: rest =>
          match care.inner? with
          | none => none
          | some inner =>
              match skipBlanks rest with
              | ']' :: rest => some (.array [], rest)
              | _ => (readItems? inner fuel rest).map fun items => (.array items.1, items.2)
      | '\x7b' :: rest =>
          match care.inner? with
          | none => none
          | some inner =>
              match skipBlanks rest with
              | '\x7d' :: rest => some (.object [], rest)
              | _ =>
                  (readMembers? inner.isSkim (fun _ => inner) fuel rest).map fun members =>
                    (.object (Members.putAll [] members.1), members.2)
      | text => readNumberValue? care text

/-- The items of an array up to its closing bracket, and what follows it. -/
def readItems? (care : Care) : (fuel : Nat) → Text → Option (List Json × Text)
  | 0, _ => none
  | fuel + 1, text =>
      match readValue? care fuel text with
      | none => none
      | some (item, rest) =>
          match skipBlanks rest with
          | ']' :: rest => some ([item], rest)
          | ',' :: rest =>
              (readItems? care fuel rest).map fun items => (item :: items.1, items.2)
          | _ => none

/-- The members of an object up to its closing brace, in the order of the text and
with repetitions, and what follows the brace.  The keys are skimmed or read in full,
and the key of a member decides how closely its value is read. -/
def readMembers? (skimKeys : Bool) (care : Text → Care) :
    (fuel : Nat) → Text → Option (Members × Text)
  | 0, _ => none
  | fuel + 1, text =>
      match readKey? skimKeys text with
      | none => none
      | some (key, rest) =>
          match readValue? (care key) fuel rest with
          | none => none
          | some (value, rest) =>
              match skipBlanks rest with
              | '\x7d' :: rest => some ([(key, value)], rest)
              | ',' :: rest =>
                  (readMembers? skimKeys care fuel rest).map fun members =>
                    ((key, value) :: members.1, members.2)
              | _ => none

end

/-- What was read, when only blanks follow it. -/
def atEnd? {α : Type} (result : Option (α × Text)) : Option α :=
  result.bind fun (value, rest) => if (skipBlanks rest).isEmpty then some value else none

/-- Fuel that is enough for reading a text. -/
def fuelFor (text : Text) : Nat :=
  2 * text.length + 1

/-- Read a whole text as one value. -/
def read? (text : Text) : Option Json :=
  atEnd? (readValue? (.full depthLimit) (fuelFor text) text)

end Json

end SelectorNavigation
