import SelectorNavigation.Glob.Token

/-!
# How deep a glob nests

A glob whose groups nest too deep is refused.  The depth counts every construct
that a part of the glob stands in: the group, the choice between its branches and
the sequence in a branch, and the constructs that classes, stars and double stars
consist of.  A sequence or choice of a single part is that part itself.
-/

namespace SelectorNavigation

namespace Glob

/-- The deepest nesting that is accepted. -/
def nestingLimit : Nat := 250

/-- How many parts of a sequence a token makes up. -/
def Token.parts : Token → Nat
  | .literal character => character.utf8Size
  | .everythingBelow => 2
  | .alternates [] => 0
  | _ => 1

/-- How many members a range adds to a class. -/
def rangeMembers (range : Char × Char) : Nat :=
  if range.1 == range.2 then range.1.utf8Size
  else range.1.utf8Size + range.2.utf8Size - 1

/-- One level for a sequence of several parts. -/
def sequenceDepth (tokens : Tokens) : Nat :=
  if 1 < tokens.foldr (fun token parts => token.parts + parts) 0 then 1 else 0

mutual

/-- How deep a token nests. -/
def Token.depth : Token → Nat
  | .literal _ => 0
  | .any => 1
  | .star => 2
  | .leadingDirectories => 4
  | .everythingBelow => 1
  | .directoriesBetween => 4
  | .oneOf _ ranges =>
      if 1 < ranges.foldr (fun range members => rangeMembers range + members) 0 then 2 else 1
  | .alternates [] => 0
  | .alternates [branch] => 1 + (sequenceDepth branch + tokensDepth branch)
  | .alternates (first :: second :: branches) =>
      2 + max (max (sequenceDepth first + tokensDepth first)
        (sequenceDepth second + tokensDepth second)) (branchesDepth branches)

/-- The deepest nesting of some tokens. -/
def tokensDepth : Tokens → Nat
  | [] => 0
  | token :: tokens => max token.depth (tokensDepth tokens)

/-- The deepest nesting of some branches. -/
def branchesDepth : List Tokens → Nat
  | [] => 0
  | branch :: branches =>
      max (sequenceDepth branch + tokensDepth branch) (branchesDepth branches)

end

/-- A glob that nests too deep to be used. -/
def isTooDeep (tokens : Tokens) : Bool :=
  nestingLimit < 1 + tokensDepth tokens

end Glob

end SelectorNavigation
