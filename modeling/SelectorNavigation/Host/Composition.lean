import SelectorNavigation.Host.CanonicalPairs
import SelectorNavigation.Host.Mapping
import SelectorNavigation.Text.CombiningClass

/-!
# Composed texts

Equal names may be spelled differently: a letter with a mark as one character or as
two, and marks in another order.  In a composed text, marks are in the order of their
classes and every letter is joined with the marks behind it as far as there is a
single character for them.  To compose a text, its characters are taken apart, the
marks are put in order, and what fits together is joined again.

The syllables of Korean are composed by arithmetic: a syllable consists of a leading
consonant, a vowel and possibly a trailing consonant.
-/

namespace SelectorNavigation

namespace Host

/-- The code points of the Korean syllables and of their parts. -/
def syllableBase : Nat := 0xAC00

/-- The first leading consonant. -/
def leadBase : Nat := 0x1100

/-- The first vowel. -/
def vowelBase : Nat := 0x1161

/-- The code point in front of the first trailing consonant. -/
def trailBase : Nat := 0x11A7

/-- How many leading consonants there are. -/
def leadCount : Nat := 19

/-- How many vowels there are. -/
def vowelCount : Nat := 21

/-- How many ways there are to end a syllable, without a consonant included. -/
def trailCount : Nat := 28

/-- How many syllables there are. -/
def syllableCount : Nat := leadCount * vowelCount * trailCount

/-- The parts of a Korean syllable. -/
def syllableParts? (code : Nat) : Option (List Nat) :=
  if syllableBase ≤ code && code < syllableBase + syllableCount then
    let index := code - syllableBase
    let lead := leadBase + index / (vowelCount * trailCount)
    let vowel := vowelBase + index / trailCount % vowelCount
    let trail := index % trailCount
    some ([lead, vowel] ++ if trail == 0 then [] else [trailBase + trail])
  else none

/-- The syllable that two parts make up. -/
def syllable? (first second : Nat) : Option Nat :=
  if leadBase ≤ first && first < leadBase + leadCount &&
      vowelBase ≤ second && second < vowelBase + vowelCount then
    some (syllableBase +
      ((first - leadBase) * vowelCount + (second - vowelBase)) * trailCount)
  else if syllableBase ≤ first && first < syllableBase + syllableCount &&
      (first - syllableBase) % trailCount == 0 &&
      trailBase < second && second < trailBase + trailCount then
    some (first + (second - trailBase))
  else none

/-- Take a code point apart.  Pairs nest at most `depth` deep. -/
def parts (depth : Nat) (code : Nat) : List Nat :=
  match depth with
  | 0 => [code]
  | depth + 1 =>
      match syllableParts? code with
      | some letters => letters
      | none =>
          match canonicalPairs.find? (·.1 == code) with
          | some pair => parts depth pair.2.1 ++ [pair.2.2]
          | none => [code]

/-- How deep canonical pairs nest. -/
def pairDepth : Nat := 2

/-- The characters of a text, taken apart. -/
def decomposed (text : Text) : Text :=
  text.flatMap fun character => (parts pairDepth character.toNat).map Char.ofNat

/-- Put a character in front of a text, behind the marks of a lower class that the
text begins with. -/
def insertMark (character : Char) : Text → Text
  | [] => [character]
  | next :: rest =>
      if 0 < combiningClass next && combiningClass next < combiningClass character then
        next :: insertMark character rest
      else character :: next :: rest

/-- A text with its marks in the order of their classes. -/
def ordered (text : Text) : Text :=
  text.foldr insertMark []

/-- The single character for two. -/
def pair? (first second : Char) : Option Char :=
  match syllable? first.toNat second.toNat with
  | some code => some (Char.ofNat code)
  | none =>
      (canonicalPairs.find? fun pair =>
        pair.2.1 == first.toNat && pair.2.2 == second.toNat).map fun pair => Char.ofNat pair.1

/-- Join a letter with what follows it.  The marks between the letter and the text are
those that could not be joined, the last one first. -/
def joinFrom (letter : Char) (marks : Text) : Text → Text
  | [] => letter :: marks.reverse
  | next :: rest =>
      let reaches := marks.all fun mark => combiningClass mark < combiningClass next
      match if reaches then pair? letter next else none with
      | some joined => joinFrom joined marks rest
      | none =>
          if combiningClass next == 0 then letter :: marks.reverse ++ joinFrom next [] rest
          else joinFrom letter (next :: marks) rest

/-- Join the letters of an ordered text with their marks. -/
def joined : Text → Text
  | [] => []
  | first :: rest =>
      if combiningClass first == 0 then joinFrom first [] rest else first :: joined rest

/-- The composed form of a text. -/
def composed (text : Text) : Text :=
  if text.all isAscii then text else joined (ordered (decomposed text))

end Host

end SelectorNavigation
