import SelectorNavigation.Disk.Basic
import SelectorNavigation.Glob.PathFilter

/-!
# Walking a directory tree

A walk lists the files of a directory tree that a path filter admits.  The entries
of each directory are visited in the order of their names, whatever order the disk
lists them in, and the contents of a subdirectory stand at its place.  A directory
that the filter does not descend into is left out with all it contains, and one that
cannot be listed contributes nothing.  Links are not followed and count as files.
-/

namespace SelectorNavigation

namespace Node

/-- The path of a chain of names below the start of a walk. -/
def relative (names : List Bytes) : Path :=
  Path.ofComponents false names

/-- Join the lists found for the entries of a directory, in the order of the
names. -/
def inNameOrder (found : List (Bytes × List (List Bytes))) : List (List Bytes) :=
  (found.mergeSort fun first second => decide (first.1 ≤ second.1)).flatMap (·.2)

mutual

/-- The admitted files at a node that is reached by the given names. -/
def walk (filter : PathFilter) (names : List Bytes) : Node → List (List Bytes)
  | .directory entries =>
      if filter.descends (relative names) then
        inNameOrder (walkEntries filter names entries)
      else []
  | .lockedDirectory => []
  | .file _ => if filter.admits (relative names) then [names] else []
  | .link _ => if filter.admits (relative names) then [names] else []

/-- The admitted files at each entry of a directory. -/
def walkEntries (filter : PathFilter) (names : List Bytes) :
    List (Bytes × Node) → List (Bytes × List (List Bytes))
  | [] => []
  | (name, node) :: rest =>
      (name, walk filter (names ++ [name]) node) :: walkEntries filter names rest

end

end Node

namespace Disk

/-- The admitted files below a directory, as the names that lead to them.  Nothing
is found where there is no directory. -/
def walk (disk : Disk) (filter : PathFilter) (directory : Path) : List (List Bytes) :=
  match disk.find directory with
  | .ok (.directory entries) => Node.inNameOrder (Node.walkEntries filter [] entries)
  | _ => []

end Disk

end SelectorNavigation
