import SelectorNavigation.Uri.Authority
import SelectorNavigation.Uri.Segments

/-!
# Reading URIs

A URI is read leniently and normalised on the way: blanks around it and line breaks in
it are dropped, the scheme is lowered, the host and the path are brought into normal
form, and characters without a place in their part are percent-encoded.  A text without
a scheme is not a URI.
-/

namespace SelectorNavigation

namespace Uri

/-- A control or a blank, which is dropped around a URI. -/
def isOuterBlank (character : Char) : Bool :=
  character.toNat ≤ 0x20

/-- A text without the blanks around it. -/
def trim (text : Text) : Text :=
  ((text.dropWhile isOuterBlank).reverse.dropWhile isOuterBlank).reverse

/-- What follows the separator at the start of a text, if one stands there. -/
def afterSeparator? (kind : SchemeKind) (text : Text) : Option Text :=
  match text.dropWhile isDropped with
  | character :: rest => if kind.separates character then some rest else none
  | [] => none

/-- The authority and path of a file URI, from what follows two slashes.  A drive in
place of the host belongs to the path, and a drive at the root takes the place of the
host. -/
def readFileHost? (text : Text) : Option (Authority × UriPath) := do
  let kind := SchemeKind.file
  let hostText := significant (text.takeWhile (!kind.separates ·))
  if isDriveLetter hostText then
    return (.empty, .segments (readFileSegments text).names)
  else
    let pathText := text.dropWhile (!kind.separates ·)
    let host ← if hostText.isEmpty then some none else (readHost? kind hostText).map some
    if host.all Host.isLocal then
      return (.empty, .segments (readFileSegments pathText).names)
    else
      let segments := readFileSegments pathText.tail
      let host := if segments.hasDrive then none else host
      return (⟨[], host, none⟩, .segments segments.names)

/-- The authority and path of a file URI, from what follows the scheme. -/
def readFile? (text : Text) : Option (Authority × UriPath) :=
  let kind := SchemeKind.file
  match afterSeparator? kind text with
  | none => some (.empty, .segments (readFileSegments text).names)
  | some rest =>
      match afterSeparator? kind rest with
      | none => some (.empty, .segments (readFileSegments rest).names)
      | some rest => readFileHost? rest

/-- The authority and path of a URI with a web scheme. -/
def readWeb? (kind : SchemeKind) (text : Text) (atEnd : Bool) :
    Option (Authority × UriPath) := do
  let text := text.dropWhile kind.separates
  let authorityText := text.takeWhile (!kind.separates ·)
  let pathText := text.drop authorityText.length
  let (authority, _) ← readAuthority? kind authorityText (atEnd && pathText.isEmpty)
  return (authority, .segments (readSegments kind pathText.tail).names)

/-- The authority and path of a URI with any other scheme. -/
def readOther? (text : Text) (atEnd : Bool) : Option (Option Authority × UriPath) := do
  let kind := SchemeKind.other
  let path := fun text : Text => UriPath.segments (readSegments kind text).names
  match text with
  | '/' :: '/' :: text =>
      let authorityText := text.takeWhile (!kind.separates ·)
      let pathText := text.drop authorityText.length
      let (authority, rest) ← readAuthority? kind authorityText (atEnd && pathText.isEmpty)
      match rest ++ pathText with
      | [] => return (some authority, .segments [])
      | '/' :: pathText => return (some authority, path pathText)
      | pathText => return (some authority, path pathText)
  | '/' :: text => return (none, path text)
  | text => return (none, .plain (PercentCoding.encodeText PercentCoding.controls text))

/-- Read a URI. -/
def read? (text : Text) : Option Uri := do
  let (scheme, rest) ← readScheme? (trim text)
  let kind := SchemeKind.ofScheme scheme
  let (beforeFragment, fragment) := splitAtSign '#' rest
  let (body, query) := splitAtSign '?' beforeFragment
  let atEnd := fragment.isNone && query.isNone
  let querySet :=
    if kind.isSpecial then PercentCoding.inSpecialQuery else PercentCoding.inQuery
  let encoded := fun set part => PercentCoding.encodeText set (significant part)
  let query := query.map (encoded querySet)
  let fragment := fragment.map (encoded PercentCoding.inFragment)
  match kind with
  | .file =>
      let (authority, path) ← readFile? body
      return ⟨scheme, some authority, path, query, fragment⟩
  | .web _ =>
      let (authority, path) ← readWeb? kind (significant body) atEnd
      return ⟨scheme, some authority, path, query, fragment⟩
  | .other =>
      let (authority, path) ← readOther? (significant body) atEnd
      return ⟨scheme, authority, path, query, fragment⟩

end Uri

end SelectorNavigation
