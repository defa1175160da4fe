import SelectorNavigation.Path.Basic

/-!
# Lexical resolution of paths

A document names another file relative to its own directory.  The named path is
resolved by its spelling alone, without looking at the disk: two dots take back
the component before them, and have no effect where there is none.
-/

namespace SelectorNavigation

namespace Path

/-- Append one component to a resolved list of names, going up for two dots. -/
def climb (names : List Bytes) (component : Bytes) : List Bytes :=
  if component == up then names.dropLast else names ++ [component]

/-- The path that a document means by a resource path.  A document without a
directory above it is taken to stand in the empty relative directory. -/
def resolve (document resource : Path) : Path :=
  if resource.isAbsolute then
    ofComponents true (resource.components.foldl climb [])
  else
    ofComponents (document.isAbsolute && document.components != [])
      ((document.components.dropLast ++ resource.components).foldl climb [])

end Path

end SelectorNavigation
