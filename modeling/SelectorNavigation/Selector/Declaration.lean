import SelectorNavigation.Text.Whitespace

/-!
# Selector declarations

A component declares its selector as the property `selector` with a quoted
value.  The first complete declaration of a text counts: one that lacks its
colon, its quote or the closing quote does not hide a later one.
-/

namespace SelectorNavigation

namespace Declaration

/-- A character that opens, and then also closes, a selector. -/
def isQuote (character : Char) : Bool :=
  character == '\'' || character == '"' || character == '\x60'

/-- The text in front of the next quote, if there is one. -/
def untilQuote? (quote : Char) (text : Text) : Option Text :=
  if text.contains quote then some (text.takeWhile (· != quote)) else none

/-- The selector of a declaration that begins at the start of the text. -/
def readAt? (text : Text) : Option Text := do
  let property ← Text.strip? "selector".toList text
  let value ← Text.strip? [':'] property.skipWhitespace
  match value.skipWhitespace with
  | quote :: rest => if isQuote quote then untilQuote? quote rest else none
  | [] => none

/-- The selector of the first complete declaration in a text. -/
def find? : Text → Option Text
  | [] => none
  | character :: rest => (readAt? (character :: rest)).or (find? rest)

end Declaration

end SelectorNavigation
