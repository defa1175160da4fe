import SelectorNavigation.Host.Mapping.East
import SelectorNavigation.Host.Mapping.Excluded
import SelectorNavigation.Host.Mapping.General
import SelectorNavigation.Host.Mapping.Ideographs
import SelectorNavigation.Host.Mapping.Presentation
import SelectorNavigation.Host.Mapping.Shifts
import SelectorNavigation.Host.Mapping.Supplementary

/-!
# The image of a domain name

Characters are replaced one by one.  A character of ASCII has its small letter as
image; for the others the tables decide, and a character that no table mentions is
its own image.
-/

namespace SelectorNavigation

namespace Host

/-- A character of ASCII. -/
def isAscii (character : Char) : Bool :=
  character.toNat < 0x80

/-- All images that are listed in blocks. -/
def imageBlocks : List ImageBlock :=
  generalImages ++ eastImages ++ ideographImages ++ presentationImages ++ supplementaryImages

/-- The image of a code point outside ASCII that has one other than itself. -/
def listedImage? (code : Nat) : Option Text :=
  shifts.findSome? (·.find? code) <|> imageBlocks.findSome? (·.find? code)

/-- The image of a character, if the character has a place in a domain name. -/
def image? (character : Char) : Option Text :=
  if isAscii character then some [character.toLower]
  else if inRanges excludedRanges character then none
  else if inRanges ignoredRanges character then some []
  else some ((listedImage? character.toNat).getD [character])

/-- A character that has a place in a domain name as it is. -/
def isStable (character : Char) : Bool :=
  image? character == some [character]

end Host

end SelectorNavigation
