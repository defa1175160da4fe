import SelectorNavigation.Text.Basic

/-!
# Lines

A line ends at a line feed, and one carriage return directly before that line
feed belongs to the line end.  A text that ends with a line feed has no further,
empty line behind it.
-/

namespace SelectorNavigation

namespace Text

/-- What follows the first line feed of a text, if it has one. -/
def afterLineFeed? : Text → Option Text
  | [] => none
  | character :: rest => if character == '\n' then some rest else afterLineFeed? rest

/-- A text without one carriage return at its end. -/
def dropCarriageReturn (text : Text) : Text :=
  if text.getLast? == some '\r' then text.dropLast else text

/-- The first line of a text, without its line end. -/
def firstLine (text : Text) : Text :=
  let line := text.takeWhile (· != '\n')
  if (afterLineFeed? text).isSome then dropCarriageReturn line else line

/-- The line with the given number, counted from zero, without its line end. -/
def lineAt? : Nat → Text → Option Text
  | _, [] => none
  | 0, text => some (firstLine text)
  | number + 1, text => (afterLineFeed? text).bind (lineAt? number)

end Text

end SelectorNavigation
