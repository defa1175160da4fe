import SelectorNavigation.Host.Label

/-!
# Domain names

A domain name is read by taking the image of its characters, composing the text and
dividing it at the dots.  Each label has to be valid, and once one label reads from
right to left, every label has to have one direction.  The normal form of a name spells
each label in ASCII.
-/

namespace SelectorNavigation

namespace Host

/-- The labels of a domain name, in composed form and not yet checked. -/
def labels? (name : Text) : Option (List Text) := do
  let images ← name.mapM image?
  ((composed images.flatten).splitOn '.').mapM Label.read?

/-- Labels that may stand together in a domain name. -/
def areValid (labels : List Text) : Bool :=
  labels.all Label.isValid &&
    (!labels.any Label.isRightToLeft || labels.all Label.hasOneDirection)

/-- The normal form of a domain name. -/
def domain? (name : Text) : Option Text := do
  let labels ← labels? name
  if areValid labels then some (['.'].intercalate (labels.map Label.spell)) else none

end Host

end SelectorNavigation
