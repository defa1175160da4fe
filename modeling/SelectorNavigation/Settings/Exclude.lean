import SelectorNavigation.Json.Reader

/-!
# Exclude settings

Two sections of the settings list globs of files that are not searched: one for
files in general and one for searches.  Each is an object from globs to values,
and a glob is in force when its value is `true` or an object with a condition.
The sections come from the client if it answers, else from the settings file of
the workspace, else from the defaults.

A settings file holds the two sections under their names, among any other
settings.  A file that cannot be read as strict JSON, that gives a section twice or
not as an object, counts as if it were missing.
-/

namespace SelectorNavigation

/-- The two sections of globs to exclude. -/
structure ExcludeSettings where
  files : Json.Members
  search : Json.Members

namespace ExcludeSettings

/-- The name of the section for files in general. -/
def filesSection : Text := "files.exclude".toList

/-- The name of the section for searches. -/
def searchSection : Text := "search.exclude".toList

/-- The sections that a client is asked for, in order. -/
def sections : List Text := [filesSection, searchSection]

/-- A section with all the given globs in force. -/
def allEnabled (patterns : List String) : Json.Members :=
  patterns.map fun pattern => (pattern.toList, .bool true)

/-- The section for files in general when nothing is set. -/
def defaultFiles : Json.Members :=
  allEnabled ["**/.git", "**/.svn", "**/.hg", "**/CVS", "**/.DS_Store", "**/Thumbs.db"]

/-- The section for searches when nothing is set. -/
def defaultSearch : Json.Members :=
  allEnabled ["**/node_modules", "**/bower_components", "**/*.code-search"]

/-- The settings when nothing is set. -/
def default : ExcludeSettings := ⟨defaultFiles, defaultSearch⟩

/-- A value that puts its glob in force. -/
def isEnabled : Json → Bool
  | .bool enabled => enabled
  | .object _ => true
  | _ => false

/-- The globs in force.  A glob in both sections has the place of the first and the
value of the second. -/
def patterns (settings : ExcludeSettings) : List Text :=
  let merged := Json.Members.putAll [] (settings.files ++ settings.search)
  (merged.filter fun member => isEnabled member.2).map (·.1)

/-- Patterns as one glob of alternatives, for display. -/
def showGroup (patterns : List Text) : Text :=
  ['\x7b'] ++ [','].intercalate patterns ++ ['\x7d']

/-- A section among the members of a settings file: the default if it is missing,
and nothing if it occurs twice or is not an object. -/
def section? (name : Text) (default : Json.Members) (members : Json.Members) :
    Option Json.Members :=
  match members.filter (·.1 == name) with
  | [] => some default
  | [(_, value)] => value.members?
  | _ => none

/-- The settings in the members of a settings file. -/
def ofMembers? (members : Json.Members) : Option ExcludeSettings := do
  return ⟨← section? filesSection defaultFiles members,
    ← section? searchSection defaultSearch members⟩

/-- The settings in a list of sections without names. -/
def ofItems? : List Json → Option ExcludeSettings
  | [] => some default
  | [files] => do return ⟨← files.members?, defaultSearch⟩
  | [files, search] => do return ⟨← files.members?, ← search.members?⟩
  | _ => none

/-- How closely a member of a settings file is read: the two sections in full, all
else only for being well formed. -/
def memberCare (name : Text) : Json.Care :=
  if sections.contains name then .full (Json.depthLimit - 1) else .skim

/-- Read the text of a settings file. -/
def ofText? (text : Text) : Option ExcludeSettings :=
  let fuel := Json.fuelFor text
  match Json.skipBlanks text with
  | '\x7b' :: rest =>
      match Json.skipBlanks rest with
      | '\x7d' :: rest => (Json.atEnd? (some ([], rest))).bind ofMembers?
      | _ => (Json.atEnd? (Json.readMembers? false memberCare fuel rest)).bind ofMembers?
  | '[' :: rest =>
      match Json.skipBlanks rest with
      | ']' :: rest => (Json.atEnd? (some ([], rest))).bind ofItems?
      | _ =>
          (Json.atEnd? (Json.readItems? (.full (Json.depthLimit - 1)) fuel rest)).bind
            ofItems?
  | _ => none

/-- Replace the sections for which the client gave an object.  The client answers in
the order of the sections. -/
def withAnswers (settings : ExcludeSettings) (answers : List Json) : ExcludeSettings where
  files := (answers[0]?.bind Json.members?).getD settings.files
  search := (answers[1]?.bind Json.members?).getD settings.search

/-- The settings in force, from the text of the settings file and the answers of the
client, as far as there are any. -/
def resolve (fileText : Option Text) (answers : Option (List Json)) : ExcludeSettings :=
  ((fileText.bind ofText?).getD default).withAnswers (answers.getD [])

end ExcludeSettings

end SelectorNavigation
