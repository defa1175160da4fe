/-!
# Text and its units

A text is the list of its characters.  Documents are addressed in three units:
bytes of the UTF-8 encoding, UTF-16 code units (the columns of an editor) and
lines.  The first two are measures on a text and are defined here, together with
the place in a line where a column falls.
-/

namespace SelectorNavigation

/-- A document, a line or a name, as its characters in order. -/
abbrev Text := List Char

/-- The content of a file or the spelling of a path, as its bytes in order. -/
abbrev Bytes := List UInt8

/-- A character whose code point lies in one of the given inclusive ranges. -/
def inRanges (ranges : List (Nat × Nat)) (character : Char) : Bool :=
  ranges.any fun range => range.1 ≤ character.toNat && character.toNat ≤ range.2

/-- How many UTF-16 code units a character takes. -/
def utf16Size (character : Char) : Nat :=
  if character.toNat < 0x10000 then 1 else 2

namespace Text

/-- The length of a text in UTF-8 bytes. -/
def byteLength (text : Text) : Nat :=
  text.foldr (fun character length => character.utf8Size + length) 0

/-- The length of a text in UTF-16 code units. -/
def utf16Length (text : Text) : Nat :=
  text.foldr (fun character length => utf16Size character + length) 0

@[simp]
theorem byteLength_nil : byteLength [] = 0 :=
  rfl

@[simp]
theorem byteLength_cons (character : Char) (text : Text) :
    byteLength (character :: text) = character.utf8Size + byteLength text :=
  rfl

@[simp]
theorem byteLength_append (first second : Text) :
    byteLength (first ++ second) = byteLength first + byteLength second := by
  induction first with
  | nil => simp
  | cons character first ih => simp [ih, Nat.add_assoc]

@[simp]
theorem utf16Length_nil : utf16Length [] = 0 :=
  rfl

@[simp]
theorem utf16Length_cons (character : Char) (text : Text) :
    utf16Length (character :: text) = utf16Size character + utf16Length text :=
  rfl

@[simp]
theorem utf16Length_append (first second : Text) :
    utf16Length (first ++ second) = utf16Length first + utf16Length second := by
  induction first with
  | nil => simp
  | cons character first ih => simp [ih, Nat.add_assoc]

/-- The UTF-8 encoding of a text. -/
def utf8 (text : Text) : Bytes :=
  text.flatMap String.utf8EncodeChar

@[simp]
theorem length_utf8 (text : Text) : (utf8 text).length = byteLength text := by
  induction text with
  | nil => rfl
  | cons character text ih =>
      rw [utf8, List.flatMap_cons, List.length_append, ← utf8, ih, byteLength_cons,
        String.length_utf8EncodeChar]

/-- The text that remains after an expected beginning. -/
def strip? : (expected : Text) → (text : Text) → Option Text
  | [], text => some text
  | _ :: _, [] => none
  | first :: expected, character :: text =>
      if first == character then strip? expected text else none

/-- Stripping a beginning leaves exactly what follows it. -/
theorem strip?_eq_some_iff {expected text rest : Text} :
    strip? expected text = some rest ↔ text = expected ++ rest := by
  induction expected generalizing text with
  | nil => simp [strip?]
  | cons first expected ih =>
      cases text with
      | nil => simp [strip?]
      | cons character text =>
          by_cases same : first = character
          · simp [strip?, same, ih]
          · have different : character ≠ first := fun equal => same equal.symm
            simp [strip?, same, different]

/-- Split a line at a UTF-16 column.  A column inside a surrogate pair falls in
front of its character, and one past the end falls at the end. -/
def splitAtColumn : Nat → Text → Text × Text
  | _, [] => ([], [])
  | column, character :: rest =>
      if column < utf16Size character then ([], character :: rest)
      else
        let split := splitAtColumn (column - utf16Size character) rest
        (character :: split.1, split.2)

/-- Splitting a line loses nothing. -/
theorem splitAtColumn_append (column : Nat) (line : Text) :
    (splitAtColumn column line).1 ++ (splitAtColumn column line).2 = line := by
  induction line generalizing column with
  | nil => rfl
  | cons character rest ih =>
      simp only [splitAtColumn]
      split
      · rfl
      · simp [ih]

/-- The byte offset in a line at which a UTF-16 column falls. -/
def offsetOfColumn (line : Text) (column : Nat) : Nat :=
  byteLength (splitAtColumn column line).1

/-- The text from the first character that begins at or behind a byte offset,
with the offset at which it begins.  The text itself begins at `offset`. -/
def fromOffset (start : Nat) (offset : Nat) : Text → Nat × Text
  | [] => (offset, [])
  | character :: rest =>
      if start ≤ offset then (offset, character :: rest)
      else fromOffset start (offset + character.utf8Size) rest

end Text

namespace Bytes

/-- The text that the bytes encode in UTF-8, if they encode one. -/
def decode? (bytes : Bytes) : Option Text :=
  (String.fromUTF8? bytes.toByteArray).map String.toList

end Bytes

end SelectorNavigation
