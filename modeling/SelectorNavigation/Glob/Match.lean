import SelectorNavigation.Glob.Token
import SelectorNavigation.Path.Basic

/-!
# Matching globs against paths

A glob is matched against the bytes of a whole path.  Matching goes through the
tokens from the last to the first.  For the tokens already passed it keeps a
table that says, for every suffix of the path, whether they match that suffix.
Each token turns the table behind it into the table in front of it in one pass
over the path, so the work is bounded by the number of tokens times the length of
the path, whatever the stars.
-/

namespace SelectorNavigation

namespace Glob

/-- For every suffix of a path, longest first, whether some tokens match it. -/
abbrev Table := List Bool

namespace Table

/-- Only the empty suffix is matched. -/
def atEnd (path : Bytes) : Table :=
  path.map (fun _ => false) ++ [true]

/-- One byte that satisfies a test, in front of what the table matches. -/
def one (test : UInt8 → Bool) : Bytes → Table → Table
  | byte :: path, _ :: behind =>
      (test byte && behind.headD false) :: one test path behind
  | _, _ => [false]

/-- Any number of bytes that satisfy a test, in front of what the table matches. -/
def many (test : UInt8 → Bool) : Bytes → Table → Table
  | byte :: path, here :: behind =>
      let later := many test path behind
      (here || (test byte && later.headD false)) :: later
  | _, table => table

/-- What at least one of two tables matches. -/
def or (first second : Table) : Table :=
  List.zipWith (fun one other => one || other) first second

/-- The given bytes in order, in front of what the table matches. -/
def bytes (expected : Bytes) (path : Bytes) (table : Table) : Table :=
  expected.foldr (fun byte behind => one (· == byte) path behind) table

/-- One slash in front of what the table matches. -/
def slash (path : Bytes) (table : Table) : Table :=
  one (· == Path.slash) path table

/-- Any bytes at all in front of what the table matches. -/
def anything (path : Bytes) (table : Table) : Table :=
  many (fun _ => true) path table

end Table

/-- The bytes that a range in a class stands for, as inclusive ranges.  A character
is its UTF-8 bytes; a range joins the last byte of its first character to the
first byte of its last character. -/
def byteRanges (range : Char × Char) : List (UInt8 × UInt8) :=
  let first := String.utf8EncodeChar range.1
  let last := String.utf8EncodeChar range.2
  let single := fun byte : UInt8 => (byte, byte)
  if range.1 == range.2 then first.map single
  else
    first.dropLast.map single ++ [(first.getLastD 0, last.headD 0)] ++ last.tail.map single

/-- A byte that belongs to a class. -/
def inClass (negated : Bool) (ranges : List (Char × Char)) (byte : UInt8) : Bool :=
  let member := (ranges.flatMap byteRanges).any fun range =>
    range.1 ≤ byte && byte ≤ range.2
  member != negated

mutual

/-- The table in front of a token, given the table behind it. -/
def Token.table (path : Bytes) : Token → Table → Table
  | .literal character, behind => Table.bytes (String.utf8EncodeChar character) path behind
  | .any, behind => Table.one (· != Path.slash) path behind
  | .star, behind => Table.many (· != Path.slash) path behind
  | .leadingDirectories, behind =>
      Table.or behind (Table.anything path (Table.slash path behind))
  | .everythingBelow, behind => Table.slash path (Table.anything path behind)
  | .directoriesBetween, behind =>
      let last := Table.slash path behind
      Table.or last (Table.slash path (Table.anything path last))
  | .oneOf negated ranges, behind => Table.one (inClass negated ranges) path behind
  | .alternates [], behind => behind
  | .alternates (branch :: branches), behind =>
      branchesTable path branches behind (tokensTable path branch behind)

/-- The table in front of a list of tokens. -/
def tokensTable (path : Bytes) : Tokens → Table → Table
  | [], behind => behind
  | token :: tokens, behind => token.table path (tokensTable path tokens behind)

/-- The table in front of any one of the branches, or what is already found. -/
def branchesTable (path : Bytes) : List Tokens → Table → Table → Table
  | [], _, found => found
  | branch :: branches, behind, found =>
      branchesTable path branches behind (Table.or found (tokensTable path branch behind))

end

/-- A glob of nothing but directories in front, which matches every path. -/
def matchesAll : Tokens → Bool
  | [.leadingDirectories] => true
  | _ => false

/-- The tokens end in a dot and further literals without dot or slash. -/
def endsInExtension (tokens : Tokens) : Bool :=
  match (tokens.reverse.dropWhile fun token =>
      token.literal?.any fun character => character != '.' && character != '/') with
  | .literal '.' :: _ => true
  | _ => false

/-- A glob that is decided by the name of the file alone: a literal name in any
directory, or wildcards in front of a literal extension. -/
def looksAtName (tokens : Tokens) : Bool :=
  match tokens with
  | .leadingDirectories :: name =>
      if name.all Token.isLiteral then
        !name.isEmpty && name.all fun token => token.literal? != some '/'
      else endsInExtension name
  | tokens => !tokens.all Token.isLiteral && endsInExtension tokens

/-- The path leads to a parent directory, which has no name of its own. -/
def endsInParent (path : Path) : Bool :=
  path.pieces.getLast? == some Path.up

/-- A glob matches a path. -/
def isMatch (tokens : Tokens) (path : Path) : Bool :=
  matchesAll tokens ||
    (!(looksAtName tokens && endsInParent path) &&
      (tokensTable path.bytes tokens (Table.atEnd path.bytes)).headD false)

end Glob

end SelectorNavigation
