import SelectorNavigation.Text.Position
import SelectorNavigation.Text.Word

/-!
# Resource paths in a line

A line of a component refers to its template and styles by paths such as
`./hero.component.html`.  The words of a line are found one after the other: each
begins at the first path character behind the word before it and goes on as long as
path characters follow.  The path at a column is the first word that touches it, if it
has the extension of a template or a style.  A comma behind the extension is allowed
for and does not belong to the path.
-/

namespace SelectorNavigation

namespace Resource

/-- A character of a resource path. -/
def isPathChar (character : Char) : Bool :=
  isWordChar character || character == '.' || character == '/' || character == '-'

/-- A word of a line, with the bytes that it occupies. -/
structure Word where
  range : ByteRange
  text : Text

/-- The first word of a text that begins at byte `offset`, and the text behind it. -/
def firstWord? (offset : Nat) : Text → Option (Word × Text)
  | [] => none
  | character :: rest =>
      if isPathChar character then
        let word : Text := (character :: rest).takeWhile isPathChar
        some (⟨⟨offset, offset + word.byteLength⟩, word⟩, (character :: rest).dropWhile isPathChar)
      else firstWord? (offset + character.utf8Size) rest

/-- The text behind a word is shorter than the text that was searched. -/
theorem length_of_firstWord? {offset : Nat} {text rest : Text} {word : Word}
    (found : firstWord? offset text = some (word, rest)) : rest.length < text.length := by
  induction text generalizing offset with
  | nil => simp [firstWord?] at found
  | cons character tail ih =>
      by_cases member : isPathChar character
      · simp only [firstWord?, member, if_true, Option.some.injEq, Prod.mk.injEq] at found
        rw [← found.2, List.dropWhile_cons_of_pos member]
        exact Nat.lt_succ_of_le (List.dropWhile_suffix isPathChar).length_le
      · simp only [firstWord?, member, if_false, Bool.false_eq_true] at found
        exact Nat.lt_trans (ih found) (Nat.lt_succ_self _)

/-- All words of a text that begins at byte `offset`, from left to right. -/
def wordsFrom (offset : Nat) (text : Text) : List Word :=
  match found : firstWord? offset text with
  | none => []
  | some (word, rest) =>
      have : rest.length < text.length := length_of_firstWord? found
      word :: wordsFrom word.range.stop rest
termination_by text.length

/-- The names of the extensions of templates and styles. -/
def extensions : List Text :=
  ["html".toList, "scss".toList, "css".toList, "less".toList]

/-- The whole text is a dot and the name of an extension, with at most one comma
behind it. -/
def isExtension : Text → Bool
  | '.' :: rest => extensions.any fun name => rest == name || rest == name ++ [',']
  | _ => false

/-- A text that ends with an extension. -/
def hasExtension : Text → Bool
  | [] => false
  | character :: rest => isExtension (character :: rest) || hasExtension rest

/-- A text without the commas at its end. -/
def trimCommas (text : Text) : Text :=
  (text.reverse.dropWhile (· == ',')).reverse

/-- The resource path that touches a UTF-16 column of a line. -/
def at? (line : Text) (column : Nat) : Option Text :=
  let offset := line.offsetOfColumn column
  let word? := (wordsFrom 0 line).find? fun word =>
    word.range.start ≤ offset && offset ≤ word.range.stop
  word?.bind fun word =>
    if hasExtension word.text then some (trimCommas word.text) else none

end Resource

end SelectorNavigation
