import SelectorNavigation.Settings.Exclude
import SelectorNavigation.Workspace.Documents

/-!
# Workspaces

A workspace is a directory on a disk together with the documents that are open in
the editor.  Its settings file stands at a fixed place below the directory.
-/

namespace SelectorNavigation

/-- A directory on a disk, with the documents open in the editor. -/
structure Workspace where
  disk : Disk
  root : Path
  documents : Documents

namespace Workspace

/-- Where the texts of the documents of a workspace come from. -/
def source (workspace : Workspace) : DocumentSource :=
  .ofDisk workspace.disk workspace.documents

/-- The place of the settings file below a directory. -/
def settingsFile (directory : Path) : Path :=
  directory.join (Path.ofText ".vscode/settings.json".toList)

/-- The settings in force on a disk, given the directory of the workspace, if there
is one, and the answers of the editor. -/
def settings (disk : Disk) (directory : Option Path) (answers : Option (List Json)) :
    ExcludeSettings :=
  let fileText := directory.bind fun directory => disk.readText? (settingsFile directory)
  ExcludeSettings.resolve fileText answers

end Workspace

end SelectorNavigation
