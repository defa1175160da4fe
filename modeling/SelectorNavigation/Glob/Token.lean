import SelectorNavigation.Text.Basic

/-!
# Glob tokens

A glob is a list of tokens.  Single stars and question marks stay inside one
component of a path, and double stars reach across components.  What a double
star means depends on where it stands: in front of the other components, behind
them, or between them.
-/

namespace SelectorNavigation

namespace Glob

/-- One token of a glob. -/
inductive Token where
  /-- The character itself. -/
  | literal (character : Char)
  /-- One byte other than a slash. -/
  | any
  /-- Any number of bytes other than a slash. -/
  | star
  /-- Nothing, a slash, or any directories with a slash behind them. -/
  | leadingDirectories
  /-- A slash and whatever follows it. -/
  | everythingBelow
  /-- A slash, or two slashes with whatever stands between them. -/
  | directoriesBetween
  /-- One byte of a class, or of its complement. -/
  | oneOf (negated : Bool) (ranges : List (Char × Char))
  /-- One of the branches; nothing when there is no branch. -/
  | alternates (branches : List (List Token))

/-- The tokens of a whole glob or of one branch. -/
abbrev Tokens := List Token

/-- The character of a literal token. -/
def Token.literal? : Token → Option Char
  | .literal character => some character
  | _ => none

/-- A token that stands for one character. -/
def Token.isLiteral (token : Token) : Bool :=
  token.literal?.isSome

/-- A group in which no branch is left. -/
def Token.isBlank : Token → Bool
  | .alternates [] => true
  | _ => false

end Glob

end SelectorNavigation
