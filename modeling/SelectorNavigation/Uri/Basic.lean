import SelectorNavigation.Host.Basic

/-!
# URIs

A URI consists of a scheme, an authority, a path, a query and a fragment, of
which only the scheme and the path are always there.  The parts are kept in
normalised, percent-encoded form, so that two URIs are the same exactly when
their spellings are.  A path is a list of segments, or a text without structure
as in `untitled:name`.
-/

namespace SelectorNavigation

/-- The part of a URI that names a host. -/
structure Authority where
  /-- User name and password as they are spelled, empty when there are none. -/
  userinfo : Text
  host : Option Host
  port : Option Nat
deriving DecidableEq, Repr

/-- The authority that names nothing. -/
def Authority.empty : Authority := ⟨[], none, none⟩

/-- The path of a URI. -/
inductive UriPath where
  /-- Segments, each behind a slash. -/
  | segments (names : List Text)
  /-- A text without structure. -/
  | plain (text : Text)
deriving DecidableEq, Repr

/-- A URI in normalised form. -/
structure Uri where
  scheme : Text
  authority : Option Authority
  path : UriPath
  query : Option Text
  fragment : Option Text
deriving DecidableEq, Repr

/-- The spelling of an authority. -/
def Authority.toText (authority : Authority) : Text :=
  (if authority.userinfo.isEmpty then [] else authority.userinfo ++ ['@']) ++
    (authority.host.elim [] Host.toText) ++
    (authority.port.elim [] fun port => ':' :: (toString port).toList)

/-- The spelling of a path. -/
def UriPath.toText : UriPath → Text
  | segments names => names.flatMap fun name => '/' :: name
  | plain text => text

namespace Uri

/-- Without an authority, a path whose first segment is empty would be taken for
one; a dot segment in front of it prevents that. -/
def pathGuard (uri : Uri) : Text :=
  match uri.authority, uri.path with
  | none, .segments ([] :: _ :: _) => ['/', '.']
  | _, _ => []

/-- The spelling of a URI. -/
def toText (uri : Uri) : Text :=
  uri.scheme ++ [':'] ++
    (uri.authority.elim [] fun authority => ['/', '/'] ++ authority.toText) ++
    uri.pathGuard ++ uri.path.toText ++
    (uri.query.elim [] fun query => '?' :: query) ++
    (uri.fragment.elim [] fun fragment => '#' :: fragment)

/-- The spelling of a URI as a string. -/
protected def toString (uri : Uri) : String := String.ofList uri.toText

/-- The bytes of one URI come before those of another or are the same. -/
def notAfter (first second : Uri) : Bool :=
  decide (Text.utf8 first.toText ≤ Text.utf8 second.toText)

/-- A URI whose path ends like a template. -/
def isHtml (uri : Uri) : Bool :=
  ".html".toList.isSuffixOf uri.path.toText

end Uri

end SelectorNavigation
