import SelectorNavigation.Path.Basic
import SelectorNavigation.Uri.Basic
import SelectorNavigation.Uri.PercentCoding

/-!
# URIs of files

A URI denotes a file when its path has segments and it names no host other than
the local one, whatever its scheme.  The segments are percent-decoded one by one,
so a decoded slash is a slash of the path.  In the other direction each component
of an absolute path becomes one segment.
-/

namespace SelectorNavigation

namespace Uri

/-- The URI names no host, or the local one. -/
def isLocal (uri : Uri) : Bool :=
  uri.authority.all fun authority => authority.host.all Host.isLocal

/-- A spelling that ends in a drive, which is a directory, ends in a slash. -/
def closeDrive (bytes : Bytes) : Bytes :=
  match bytes.reverse with
  | sign :: letter :: _ :: _ =>
      let isLetter := (0x41 ≤ letter && letter ≤ 0x5A) || (0x61 ≤ letter && letter ≤ 0x7A)
      if isLetter && (sign == 0x3A || sign == 0x7C) then bytes ++ [Path.slash] else bytes
  | _ => bytes

/-- The path of the file that a URI denotes. -/
def toFilePath? (uri : Uri) : Option Path :=
  match uri.path with
  | .segments (name :: names) =>
      if uri.isLocal then
        some ⟨closeDrive ((name :: names).flatMap fun name =>
          Path.slash :: PercentCoding.decode name)⟩
      else none
  | _ => none

/-- The URI of the file at an absolute path. -/
def ofFilePath? (path : Path) : Option Uri :=
  if path.isAbsolute then
    let names := path.components.map (PercentCoding.encode PercentCoding.inFileName)
    some {
      scheme := "file".toList
      authority := some Authority.empty
      path := .segments (if names.isEmpty then [[]] else names)
      query := none
      fragment := none }
  else none

end Uri

end SelectorNavigation
