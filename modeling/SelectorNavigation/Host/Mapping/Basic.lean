import SelectorNavigation.Text.Basic

/-!
# Images of characters

Before two domain names are compared, each of their characters is replaced by its
image.  The image of a capital letter is the small letter, and the image of a
character that repeats others for the sake of style is what it repeats.  Images are
kept in two shapes: blocks, which list the images of consecutive characters, and
shifts, which move a whole run of characters by the same distance.
-/

namespace SelectorNavigation

namespace Host

/-- The images of consecutive characters, from the first of them on. -/
structure ImageBlock where
  first : Nat
  images : List (List Nat)

/-- Characters at equal steps that are moved by the same distance. -/
structure Shift where
  first : Nat
  last : Nat
  step : Nat
  /-- The image of the first character. -/
  image : Nat

/-- The image of a code point in a block. -/
def ImageBlock.find? (block : ImageBlock) (code : Nat) : Option Text :=
  if code < block.first then none
  else (block.images[code - block.first]?).map fun image => image.map Char.ofNat

/-- The image of a code point in a run. -/
def Shift.find? (shift : Shift) (code : Nat) : Option Text :=
  if shift.first ≤ code && code ≤ shift.last && (code - shift.first) % shift.step == 0 then
    some [Char.ofNat (shift.image + (code - shift.first))]
  else none

end Host

end SelectorNavigation
