import SelectorNavigation.Path.Resolve
import SelectorNavigation.Workspace.Documents
import SelectorNavigation.Workspace.Resource

/-!
# Definitions of resources

A resource path in a component leads to the start of the file it denotes, if there
is such a file.
-/

namespace SelectorNavigation

/-- The start of the file that the resource path at a column of a line denotes. -/
def Disk.definition? (disk : Disk) (uri : Uri) (line : Text) (column : Nat) :
    Option Location := do
  let resource ← Resource.at? line column
  let document ← uri.toFilePath?
  let target := document.resolve (Path.ofText resource)
  if disk.has target then
    return ⟨← Uri.ofFilePath? target, ⟨Position.zero, Position.zero⟩⟩
  else none

end SelectorNavigation
