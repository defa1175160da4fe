import SelectorNavigation.Disk.Walk
import SelectorNavigation.Workspace.Basic

/-!
# Searching the workspace for files

A search has one pattern that files must match and patterns of which they may match
none.  It finds the files below the root of the workspace, and then the open
templates that are not among them yet, such as documents that were never saved.
-/

namespace SelectorNavigation

/-- What files to look for. -/
structure SearchQuery where
  /-- The glob that a file has to match. -/
  including : Text
  /-- The globs that a file may not match. -/
  excluding : List Text
deriving DecidableEq, Repr

namespace Workspace

/-- The URIs of the files on the disk that a filter admits. -/
def filesOnDisk (workspace : Workspace) (filter : PathFilter) : List Uri :=
  (workspace.disk.walk filter workspace.root).filterMap fun names =>
    Uri.ofFilePath? (workspace.root.join (Node.relative names))

/-- An open template below the root that a filter admits. -/
def admitsOpen (workspace : Workspace) (filter : PathFilter) (uri : Uri) : Bool :=
  uri.isHtml &&
    (uri.toFilePath?.bind (·.relativeTo? workspace.root)).any filter.admits

/-- The open templates below the root that a filter admits, in the order of their
URIs. -/
def openTemplates (workspace : Workspace) (filter : PathFilter) : List Uri :=
  (workspace.documents.uris.filter (workspace.admitsOpen filter)).mergeSort Uri.notAfter

/-- The files of a workspace that a filter admits: those on the disk, then the open
templates that are not among them. -/
def filesFor (workspace : Workspace) (filter : PathFilter) : List Uri :=
  let onDisk := workspace.filesOnDisk filter
  onDisk ++ (workspace.openTemplates filter).filter fun uri => !onDisk.contains uri

/-- The files that a query asks for.  A query whose globs make no filter finds
nothing. -/
def findFiles (workspace : Workspace) (query : SearchQuery) : List Uri :=
  match PathFilter.build [query.including] query.excluding with
  | .ok filter => workspace.filesFor filter
  | .error _ => []

end Workspace

end SelectorNavigation
