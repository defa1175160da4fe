import SelectorNavigation.Text.Basic

/-!
# Paths

A path is spelled by its bytes, and a slash separates its pieces.  Empty pieces
and single dots carry no meaning, so the components of a path are the other
pieces; two dots are a component of their own.  The spelling is kept because
globs see it and because a slash at the end asks for a directory.
-/

namespace SelectorNavigation

/-- A file path as it is spelled. -/
structure Path where
  bytes : Bytes
deriving DecidableEq, Repr

namespace Path

/-- The byte between the pieces of a path. -/
def slash : UInt8 := 0x2F

/-- The piece that stays where it is. -/
def here : Bytes := [0x2E]

/-- The piece that goes one directory up. -/
def up : Bytes := [0x2E, 0x2E]

/-- The path spelled by a text. -/
def ofText (text : Text) : Path := ⟨text.utf8⟩

/-- A path that starts at the root of the disk. -/
def isAbsolute (path : Path) : Bool :=
  path.bytes.head? == some slash

/-- The stretches of a path between its slashes. -/
def pieces (path : Path) : List Bytes :=
  path.bytes.splitOn slash

/-- A piece that names a directory step of its own. -/
def isComponent (piece : Bytes) : Bool :=
  piece != [] && piece != here

/-- A piece that can name an entry of a directory. -/
def isEntryName (piece : Bytes) : Bool :=
  isComponent piece && piece != up && !piece.contains slash && !piece.contains 0

/-- The pieces of a path that carry meaning. -/
def components (path : Path) : List Bytes :=
  path.pieces.filter isComponent

/-- The path that leads through the given components. -/
def ofComponents (absolute : Bool) (components : List Bytes) : Path :=
  ⟨(if absolute then [slash] else []) ++ [slash].intercalate components⟩

/-- One path continued by another.  An absolute continuation stands alone. -/
def join (base continuation : Path) : Path :=
  if continuation.isAbsolute then continuation
  else if base.bytes == [] || base.bytes.getLast? == some slash then
    ⟨base.bytes ++ continuation.bytes⟩
  else ⟨base.bytes ++ slash :: continuation.bytes⟩

/-- The pieces that remain once the given number of components has been passed. -/
def passComponents : Nat → List Bytes → List Bytes
  | 0, pieces => pieces.dropWhile (!isComponent ·)
  | _ + 1, [] => []
  | count + 1, piece :: pieces =>
      if isComponent piece then passComponents count pieces
      else passComponents (count + 1) pieces

/-- The spelling of an absolute path as seen from an absolute directory above it,
without leading and trailing pieces that carry no meaning.  Two relative paths are not
compared: the path and the directory come from URIs, which denote absolute paths. -/
def relativeTo? (path root : Path) : Option Path :=
  if path.isAbsolute && root.isAbsolute && root.components.isPrefixOf path.components then
    let remaining := passComponents root.components.length path.pieces
    let trimmed := (remaining.reverse.dropWhile (!isComponent ·)).reverse
    some ⟨[slash].intercalate trimmed⟩
  else none

end Path

end SelectorNavigation
