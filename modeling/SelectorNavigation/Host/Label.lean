import SelectorNavigation.Host.Composition
import SelectorNavigation.Host.Direction
import SelectorNavigation.Host.Joining
import SelectorNavigation.Host.Punycode
import SelectorNavigation.Text.Mark

/-!
# Labels

A label is a part of a domain name between two dots.  A label with characters outside
ASCII is spelled in Punycode behind the mark `xn--`.  Such a spelling has to be the
spelling of a label in composed form whose characters stand for themselves.

A label begins with a letter and not with a mark of it, contains a joiner only where
it shows, and does not mix directions.
-/

namespace SelectorNavigation

namespace Host

namespace Label

/-- What the spelling of a label outside ASCII begins with. -/
def punycodeMark : Text := "xn--".toList

/-- The most characters that a label outside ASCII may have. -/
def lengthLimit : Nat := 1000

/-- The most characters that may follow the mark of Punycode. -/
def spellingLimit : Nat := 2000

/-- A character that ends a host or has another meaning in it. -/
def isForbidden (character : Char) : Bool :=
  character.toNat ≤ 0x20 || character.toNat == 0x7F ||
    "%#/:<>?@[\\]^|".toList.contains character

/-- The joiner that keeps letters apart. -/
def nonJoiner : Char := Char.ofNat 0x200C

/-- The joiner that binds letters together. -/
def joiner : Char := Char.ofNat 0x200D

/-- The first character of a text that is not passed over when letters join. -/
def firstJoining? (text : Text) : Option Char :=
  (text.dropWhile isTransparent).head?

/-- A joiner shows behind a sign that takes the vowel from a consonant.  The joiner that
keeps letters apart shows also between letters that would join without it. -/
def joinerShows (before : Text) (sign : Char) (after : Text) : Bool :=
  match before with
  | [] => false
  | previous :: _ =>
      combiningClass previous == viramaClass ||
        (sign == nonJoiner && (firstJoining? before).any joinsAfter &&
          (firstJoining? after).any joinsBefore)

/-- Every joiner in a text shows.  What precedes the text is given in reverse. -/
def joinersShow (before : Text) : Text → Bool
  | [] => true
  | character :: rest =>
      (!(character == nonJoiner || character == joiner) || joinerShows before character rest) &&
        joinersShow (character :: before) rest

/-- A label that may stand in a domain name, apart from its direction. -/
def isValid (label : Text) : Bool :=
  !label.any isForbidden && !label.head?.any isMark && joinersShow [] label &&
    (label.all isAscii || label.length ≤ lengthLimit)

/-- The directions of a label without the marks at its end. -/
def directions (label : Text) : List Direction :=
  ((label.map direction).reverse.dropWhile (· == .mark)).reverse

/-- A label all of whose characters read in the same direction as its first one. -/
def hasOneDirection (label : Text) : Bool :=
  match label.head?.map direction with
  | none => true
  | some .left =>
      let found := directions label
      found.all Direction.fitsLeft && found.getLast?.any Direction.endsLeft
  | some .right =>
      let found := directions label
      found.all Direction.fitsRight && found.getLast?.any Direction.endsRight &&
        !(found.contains .europeanDigit && found.contains .arabicDigit)
  | some _ => false

/-- A label with a character that reads from right to left. -/
def isRightToLeft (label : Text) : Bool :=
  label.any fun character => (direction character).isRightToLeft

/-- The label that a spelling behind the mark of Punycode stands for. -/
def decode? (spelling : Text) : Option Text := do
  if !spelling.all isAscii || spelling.isEmpty || spelling.getLast? == some '-' ||
      spellingLimit < spelling.length then none
  else
    let label ← Punycode.decode? spelling
    if label.all isStable && composed label == label then some label else none

/-- The label that a spelling stands for. -/
def read? (spelling : Text) : Option Text :=
  match Text.strip? punycodeMark spelling with
  | some rest => decode? rest
  | none => some spelling

/-- The spelling of a label. -/
def spell (label : Text) : Text :=
  if label.all isAscii then label else punycodeMark ++ Punycode.encode label

end Label

end Host

end SelectorNavigation
