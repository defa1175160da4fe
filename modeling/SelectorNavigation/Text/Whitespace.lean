import SelectorNavigation.Text.Basic

/-!
# White space

White space is the Unicode property of that name: the ASCII controls from tab to
carriage return, the ordinary space, and the wider blanks and separators.
-/

namespace SelectorNavigation

/-- The code points of all white-space characters, as inclusive ranges. -/
def whitespaceRanges : List (Nat × Nat) :=
  [(0x9, 0xD), (0x20, 0x20), (0x85, 0x85), (0xA0, 0xA0), (0x1680, 0x1680), (0x2000, 0x200A),
    (0x2028, 0x2029), (0x202F, 0x202F), (0x205F, 0x205F), (0x3000, 0x3000)]

/-- A white-space character. -/
def isWhitespace (character : Char) : Bool :=
  inRanges whitespaceRanges character

/-- A text without the white space it begins with. -/
def Text.skipWhitespace (text : Text) : Text :=
  text.dropWhile isWhitespace

end SelectorNavigation
