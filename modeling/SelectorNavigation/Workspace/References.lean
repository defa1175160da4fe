import SelectorNavigation.Selector.Matcher
import SelectorNavigation.Workspace.Search

/-!
# References to a selector

The references to a selector are its usages in all templates that a file search
finds.  Templates are scanned one after the other in the order of the search, each
only once.  One that cannot be loaded is reported and contributes nothing.
-/

namespace SelectorNavigation

namespace References

/-- The glob of all templates. -/
def templateGlob : Text := "**/*.html".toList

/-- The query for the templates that the settings do not exclude. -/
def query (settings : ExcludeSettings) : SearchQuery where
  including := templateGlob
  excluding := settings.patterns

/-- Put a query to the file search.  It is noted beside what it finds. -/
def ask (search : SearchQuery → List Uri) (query : SearchQuery) :
    List SearchQuery × List Uri :=
  ([query], search query)

/-- Look for the templates to scan: the queries that are put, and what they find, each
file at its first place. -/
def lookFor (search : SearchQuery → List Uri) (settings : ExcludeSettings) :
    List SearchQuery × List Uri :=
  let (queries, found) := ask search (query settings)
  (queries, found.eraseDups)

/-- The templates to scan. -/
def candidates (search : SearchQuery → List Uri) (settings : ExcludeSettings) : List Uri :=
  (lookFor search settings).2

theorem candidates_eq (search : SearchQuery → List Uri) (settings : ExcludeSettings) :
    candidates search settings = (search (query settings)).eraseDups :=
  rfl

/-- The usages in one document. -/
def inDocument (matcher : Matcher) (uri : Uri) (text : Text) : List Location :=
  (matcher.scan text).map fun span => ⟨uri, span⟩

/-- What scanning some templates brought about. -/
structure Scan where
  /-- The usages, template by template. -/
  locations : List Location
  /-- The templates that were not open and had to be read. -/
  reads : List Uri
  /-- The templates that could not be loaded. -/
  failures : List DocumentError

/-- Nothing has been scanned. -/
def Scan.empty : Scan := ⟨[], [], []⟩

/-- Scan one more template.  A template without a text is noted and passed over. -/
def scanNext (source : DocumentSource) (matcher : Matcher) (scanned : Scan) (uri : Uri) :
    Scan :=
  let (read, text) := source.fetch uri
  let scanned := { scanned with reads := scanned.reads ++ read }
  match text with
  | .ok text =>
      { scanned with locations := scanned.locations ++ inDocument matcher uri text }
  | .error error => { scanned with failures := scanned.failures ++ [error] }

/-- Scan templates in order. -/
def scan (source : DocumentSource) (matcher : Matcher) (templates : List Uri) : Scan :=
  templates.foldl (scanNext source matcher) .empty

/-- The answer to a request for references. -/
structure Report where
  /-- The queries put to the file search. -/
  queries : List SearchQuery
  /-- What came of scanning the files that were found. -/
  scan : Scan

/-- Find the references to the selector that a text declares.  Without a selector
nothing is searched. -/
def find (search : SearchQuery → List Uri) (source : DocumentSource)
    (settings : ExcludeSettings) (declaration : Text) : Report :=
  match Matcher.ofDeclaration? declaration with
  | none => ⟨[], .empty⟩
  | some matcher =>
      let (queries, templates) := lookFor search settings
      ⟨queries, scan source matcher templates⟩

end References

end SelectorNavigation
