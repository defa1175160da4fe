import SelectorNavigation.Text.Basic

/-!
# Schemes

The special schemes are those of the web and of files.  In their URIs a backslash
separates like a slash, and all but those of files need a host.
-/

namespace SelectorNavigation

namespace Uri

/-- How the rest of a URI is read. -/
inductive SchemeKind where
  /-- Local files; the host may be missing. -/
  | file
  /-- A scheme of the web with its usual port. -/
  | web (port : Nat)
  /-- Any other scheme. -/
  | other
deriving DecidableEq, Repr

namespace SchemeKind

/-- The kind of a scheme in lower case. -/
def ofScheme (scheme : Text) : SchemeKind :=
  if scheme == "file".toList then file
  else if scheme == "http".toList || scheme == "ws".toList then web 80
  else if scheme == "https".toList || scheme == "wss".toList then web 443
  else if scheme == "ftp".toList then web 21
  else other

/-- A scheme with rules of its own. -/
def isSpecial : SchemeKind → Bool
  | other => false
  | _ => true

/-- The port that needs no mention. -/
def usualPort : SchemeKind → Option Nat
  | web port => some port
  | _ => none

/-- A character that separates the segments of a path. -/
def separates (kind : SchemeKind) (character : Char) : Bool :=
  character == '/' || (kind.isSpecial && character == '\\')

end SchemeKind

/-- An ASCII letter, digit or one of the signs that a scheme may contain. -/
def isSchemeChar (character : Char) : Bool :=
  character.isAlphanum || character == '+' || character == '-' || character == '.'

/-- A character that is dropped anywhere in a URI. -/
def isDropped (character : Char) : Bool :=
  character == '\t' || character == '\n' || character == '\r'

/-- The characters of a part of a URI that are read. -/
def significant (text : Text) : Text :=
  text.filter (!isDropped ·)

/-- The scheme in lower case and what follows its colon. -/
def readScheme? (text : Text) : Option (Text × Text) :=
  let isPart := fun character => isSchemeChar character || isDropped character
  match significant (text.takeWhile isPart), text.dropWhile isPart with
  | first :: scheme, ':' :: rest =>
      if first.isAlpha then some ((first :: scheme).map Char.toLower, rest) else none
  | _, _ => none

end Uri

end SelectorNavigation
