import SelectorNavigation.Uri.PercentCoding
import SelectorNavigation.Uri.Scheme

/-!
# Reading paths

A path is read segment by segment.  A dot segment is dropped, and a double dot takes
back the segment before it, unless that segment names a drive.  In the path of a file,
a drive at the root is written with a colon.

A tab or line break behind the drive of such a path separates the drive from what
follows it, which is then taken as it is.
-/

namespace SelectorNavigation

namespace Uri

/-- The colon or bar behind the letter of a drive. -/
def isDriveSign (character : Char) : Bool :=
  character == ':' || character == '|'

/-- A letter with a colon or bar behind it, which names a drive. -/
def isDriveLetter : Text → Bool
  | [letter, sign] => letter.isAlpha && isDriveSign sign
  | _ => false

/-- A segment that names a drive, possibly with a backslash behind it. -/
def startsWithDrive : Text → Bool
  | letter :: sign :: rest =>
      letter.isAlpha && isDriveSign sign && (rest.isEmpty || rest.head? == some '\\')
  | _ => false

/-- A segment that stays where it is. -/
def isDot (segment : Text) : Bool :=
  let lowered := segment.map Char.toLower
  lowered == ".".toList || lowered == "%2e".toList

/-- A segment that takes back the segment before it. -/
def isDoubleDot (segment : Text) : Bool :=
  let lowered := segment.map Char.toLower
  lowered == "..".toList || lowered == ".%2e".toList || lowered == "%2e.".toList ||
    lowered == "%2e%2e".toList

/-- The segments of a path, as far as it is read. -/
structure Segments where
  names : List Text
  /-- The first segment was read as a drive. -/
  hasDrive : Bool

namespace Segments

/-- The path before anything is read. -/
def empty : Segments := ⟨[], false⟩

/-- The path with one more segment. -/
def push (segments : Segments) (name : Text) : Segments :=
  { segments with names := segments.names ++ [name] }

/-- Take back the last segment, unless it names a drive. -/
def shorten (segments : Segments) : Segments :=
  if segments.names.getLast?.any startsWithDrive then segments
  else { segments with names := segments.names.dropLast }

end Segments

/-- The drive that a segment begins with and what follows it, when a dropped character
stands between them. -/
def splitDrive? (segment : Text) : Option (Text × Text) :=
  match segment.dropWhile isDropped with
  | letter :: rest =>
      match rest.dropWhile isDropped with
      | ':' :: gap :: rest =>
          let rest := significant rest
          if letter.isAlpha && isDropped gap && !rest.isEmpty then some ([letter, ':'], rest)
          else none
      | _ => none
  | [] => none

/-- A segment in a path. -/
def encodeSegment (segment : Text) : Text :=
  PercentCoding.encodeText PercentCoding.inPath (significant segment)

/-- Read one more segment.  `isLast` says that no separator follows it, so that a dot
segment leaves an empty segment behind. -/
def readSegment (kind : SchemeKind) (isLast : Bool) (segments : Segments) (segment : Text) :
    Segments :=
  let atRoot := kind == .file && segments.names.isEmpty
  let close := fun segments : Segments => if isLast then segments.push [] else segments
  match if atRoot then splitDrive? segment else none with
  | some (drive, rest) => (segments.push drive).push (encodeSegment rest)
  | none =>
      let name := encodeSegment segment
      if isDoubleDot name then close segments.shorten
      else if isDot name then close segments
      else if atRoot && isDriveLetter name then ⟨[name.take 1 ++ [':']], true⟩
      else segments.push name

/-- Read segments from left to right. -/
def readAllSegments (kind : SchemeKind) (segments : Segments) : List Text → Segments
  | [] => segments
  | segment :: rest =>
      readAllSegments kind (readSegment kind rest.isEmpty segments segment) rest

/-- Read a path, from what follows the slash of its root. -/
def readSegments (kind : SchemeKind) (text : Text) : Segments :=
  readAllSegments kind .empty (text.splitOnP kind.separates)

/-- Read the path of a file.  Empty segments at its root are dropped. -/
def readFileSegments (text : Text) : Segments :=
  let segments := readSegments .file text
  match segments.names.dropWhile List.isEmpty with
  | [] => { segments with names := [[]] }
  | names => { segments with names := names }

end Uri

end SelectorNavigation
