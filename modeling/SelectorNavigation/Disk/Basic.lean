import SelectorNavigation.Path.Basic

/-!
# The disk

The disk is a tree of directories whose leaves are files and symbolic links.  The
entries of a directory have names that can stand in a path, and no two of them have
the same.  A path is followed from the root one piece at a time.  Links on the way
are followed too, up to a fixed number of them, and two dots lead to the directory
above the one that was reached.
-/

namespace SelectorNavigation

/-- What a directory entry holds. -/
inductive Node where
  /-- A file with its content. -/
  | file (content : Bytes)
  /-- A symbolic link with its target. -/
  | link (target : Path)
  /-- A directory with its named entries. -/
  | directory (entries : List (Bytes × Node))
  /-- A directory that may neither be listed nor entered. -/
  | lockedDirectory

namespace Node

mutual

/-- Every directory at or below a node gives each of its entries a name of its own. -/
def isProper : Node → Bool
  | .directory entries => areProper entries
  | _ => true

/-- Entries with names of their own, and proper nodes under them. -/
def areProper : List (Bytes × Node) → Bool
  | [] => true
  | (name, node) :: rest =>
      Path.isEntryName name && !(rest.map (·.1)).contains name && node.isProper &&
        areProper rest

end

/-- Entries are proper when each of them is and no name occurs twice. -/
theorem areProper_iff {entries : List (Bytes × Node)} :
    areProper entries ↔
      (∀ entry ∈ entries, Path.isEntryName entry.1 ∧ entry.2.isProper) ∧
        (entries.map (·.1)).Nodup := by
  induction entries with
  | nil => simp [areProper]
  | cons entry rest ih =>
      obtain ⟨name, node⟩ := entry
      simp only [areProper, Bool.and_eq_true, ih, List.mem_cons, forall_eq_or_imp,
        List.map_cons, List.nodup_cons, Bool.not_eq_true', List.contains_eq_mem,
        decide_eq_false_iff_not]
      constructor
      · rintro ⟨⟨⟨named, absent⟩, proper⟩, others, distinct⟩
        exact ⟨⟨⟨named, proper⟩, others⟩, absent, distinct⟩
      · rintro ⟨⟨⟨named, proper⟩, others⟩, absent, distinct⟩
        exact ⟨⟨⟨named, absent⟩, proper⟩, others, distinct⟩

/-- What is found under a name among proper entries is proper. -/
theorem isProper_of_lookup {entries : List (Bytes × Node)} {name : Bytes} {node : Node}
    (proper : areProper entries) (found : entries.lookup name = some node) :
    Path.isEntryName name ∧ node.isProper := by
  obtain ⟨before, after, split, -⟩ := List.lookup_eq_some_iff.mp found
  exact (areProper_iff.mp proper).1 (name, node) (by simp [split])

end Node

/-- A disk, given by the entries of its root directory. -/
structure Disk where
  entries : List (Bytes × Node)
  /-- Every entry has a name of its own in its directory. -/
  proper : Node.areProper entries

/-- Why the disk cannot give what is asked for. -/
inductive DiskError where
  /-- No entry has the name. -/
  | notFound
  /-- A file stands where a directory is needed. -/
  | notADirectory
  /-- A directory stands where a file is needed. -/
  | isADirectory
  /-- A directory may not be entered. -/
  | permissionDenied
  /-- Too many links have to be followed. -/
  | tooManyLinks
  /-- A path contains a zero byte. -/
  | zeroByte
deriving DecidableEq, Repr

/-- The error in words. -/
def DiskError.message : DiskError → String
  | notFound => "No such file or directory (os error 2)"
  | permissionDenied => "Permission denied (os error 13)"
  | notADirectory => "Not a directory (os error 20)"
  | isADirectory => "Is a directory (os error 21)"
  | tooManyLinks => "Too many levels of symbolic links (os error 40)"
  | zeroByte => "file name contained an unexpected NUL byte"

namespace Disk

/-- How many links are followed on one path. -/
def linkLimit : Nat := 40

/-- The disk with nothing on it. -/
def empty : Disk := ⟨[], rfl⟩

/-- The root directory. -/
def root (disk : Disk) : Node := .directory disk.entries

/-- Follow pieces of a path from a node, given the directories above it, nearest
first.  At a link, `jump` goes on from the place where its target starts. -/
def followUntilLink (disk : Disk)
    (jump : Node → List Node → List Bytes → Except DiskError Node) :
    Node → List Node → List Bytes → Except DiskError Node
  | node, _, [] => .ok node
  | .directory entries, above, piece :: rest =>
      let here : Node := .directory entries
      if !Path.isComponent piece then disk.followUntilLink jump here above rest
      else if piece == Path.up then
        match above with
        | [] => disk.followUntilLink jump here [] rest
        | parent :: above => disk.followUntilLink jump parent above rest
      else
        match entries.lookup piece with
        | none => .error .notFound
        | some (.link target) =>
            if target.isAbsolute then jump disk.root [] (target.pieces ++ rest)
            else jump here above (target.pieces ++ rest)
        | some child => disk.followUntilLink jump child (here :: above) rest
  | .lockedDirectory, _, _ :: _ => .error .permissionDenied
  | _, _, _ :: _ => .error .notADirectory

/-- Follow pieces of a path from a node, going through at most the given number of
links.  The result is never a link. -/
def follow (disk : Disk) : (links : Nat) → Node → List Node → List Bytes →
    Except DiskError Node
  | 0 => disk.followUntilLink fun _ _ _ => .error .tooManyLinks
  | links + 1 => disk.followUntilLink (disk.follow links)

/-- The file or directory at an absolute path. -/
def find (disk : Disk) (path : Path) : Except DiskError Node :=
  if path.bytes.contains 0 then .error .zeroByte
  else if path.isAbsolute then disk.follow linkLimit disk.root [] path.pieces
  else .error .notFound

/-- The path leads to a file or directory. -/
def has (disk : Disk) (path : Path) : Bool :=
  (disk.find path).toOption.isSome

/-- The content of the file at a path. -/
def read (disk : Disk) (path : Path) : Except DiskError Bytes :=
  match disk.find path with
  | .ok (.file content) => .ok content
  | .ok .lockedDirectory => .error .permissionDenied
  | .ok _ => .error .isADirectory
  | .error error => .error error

/-- The text of the file at a path, if there is a file and it holds text. -/
def readText? (disk : Disk) (path : Path) : Option Text :=
  (disk.read path).toOption.bind Bytes.decode?

end Disk

end SelectorNavigation
