import SelectorNavigation.Text.Whitespace
import SelectorNavigation.Text.Word

/-!
# Selector alternatives

A component or directive is selected by a comma-separated list of alternatives.
Only the head of each alternative is read: a name, which selects elements, or a
name after an opening bracket, which selects attributes.  Whatever follows the
name is ignored, and a part that does not start with a name selects nothing.
-/

namespace SelectorNavigation

/-- One alternative of a selector. -/
inductive Alternative where
  /-- Selects the elements with this tag name. -/
  | element (name : Text)
  /-- Selects the elements that carry an attribute with this name. -/
  | attr (name : Text)
deriving DecidableEq, Repr

namespace Alternative

/-- The name by which an alternative is used in templates. -/
def name : Alternative → Text
  | .element name => name
  | .attr name => name

/-- Read the head of one part of a selector. -/
def read? (part : Text) : Option Alternative :=
  let build (make : Text → Alternative) (text : Text) : Option Alternative :=
    match text.takeWhile isNameChar with
    | [] => none
    | name => some (make name)
  match part.skipWhitespace with
  | '[' :: rest => build .attr rest
  | text => build .element text

/-- The alternatives of a selector, in order. -/
def readAll (selector : Text) : List Alternative :=
  (selector.splitOn ',').filterMap read?

end Alternative

end SelectorNavigation
