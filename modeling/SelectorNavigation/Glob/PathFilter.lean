import SelectorNavigation.Glob.Match
import SelectorNavigation.Glob.Nesting
import SelectorNavigation.Glob.Reader

/-!
# Path filters

A path filter decides which files of a directory tree are searched.  It admits a
path that no exclude glob matches and some include glob does; without any include
pattern every path counts as included.  Include patterns are the program's own,
so a fault in one is reported.  Exclude patterns come from settings, so one that
cannot be read is left out.
-/

namespace SelectorNavigation

/-- Globs that decide which paths of a directory tree are searched. -/
structure PathFilter where
  /-- The globs of which one has to match, unless there is no such condition. -/
  included : Option (List Glob.Tokens)
  /-- The globs of which none may match. -/
  excluded : List Glob.Tokens

namespace PathFilter

/-- Why a filter cannot be built. -/
inductive BuildError where
  /-- An include pattern cannot be read. -/
  | invalidGlob (pattern : Text) (reason : Glob.ReadError)
  /-- A glob of the filter nests too deep. -/
  | tooDeep
deriving DecidableEq, Repr

/-- The fault in words. -/
def BuildError.message : BuildError → String
  | invalidGlob pattern reason =>
      let shown := String.ofList pattern
      "Invalid glob pattern '" ++ shown ++ "': error parsing glob '" ++ shown ++ "': " ++
        reason.message
  | tooDeep => "Failed to build glob set"

/-- Read the include patterns; the first fault counts. -/
def readIncluded : List Text → Except BuildError (List Glob.Tokens)
  | [] => .ok []
  | pattern :: patterns =>
      match Glob.read pattern with
      | .error reason => .error (.invalidGlob pattern reason)
      | .ok tokens => (readIncluded patterns).map (tokens :: ·)

/-- The exclude patterns that can be read. -/
def readExcluded (patterns : List Text) : List Glob.Tokens :=
  patterns.filterMap fun pattern => (Glob.read pattern).toOption

/-- Build a filter from include and exclude patterns. -/
def build (including excluding : List Text) : Except BuildError PathFilter := do
  let included ← readIncluded including
  let excluded := readExcluded excluding
  if (included ++ excluded).any Glob.isTooDeep then throw .tooDeep
  return { included := if including.isEmpty then none else some included, excluded }

/-- Some glob of a list matches the path. -/
def anyMatch (globs : List Glob.Tokens) (path : Path) : Bool :=
  globs.any fun tokens => Glob.isMatch tokens path

/-- A directory whose contents are searched. -/
def descends (filter : PathFilter) (path : Path) : Bool :=
  !anyMatch filter.excluded path

/-- A file that is searched. -/
def admits (filter : PathFilter) (path : Path) : Bool :=
  !anyMatch filter.excluded path && filter.included.all fun globs => anyMatch globs path

end PathFilter

end SelectorNavigation
