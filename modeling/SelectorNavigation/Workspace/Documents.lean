import SelectorNavigation.Disk.Basic
import SelectorNavigation.Text.Line
import SelectorNavigation.Text.Position
import SelectorNavigation.Uri.FilePath

/-!
# Documents

The text of a document is what the editor shows if the document is open there, and
the content of its file otherwise.  A document that is not open may fail to load,
because its URI denotes no file, because the disk cannot give the file, or because
the file holds no text.
-/

namespace SelectorNavigation

/-- A span of a document. -/
structure Location where
  uri : Uri
  span : Span
deriving DecidableEq, Repr

/-- Why the text of a document cannot be loaded. -/
inductive DocumentError where
  /-- Reading the file failed for a reason given in words. -/
  | unreadable (uri : Uri) (reason : String)
  /-- The URI denotes no file. -/
  | notAFile (uri : Uri)
  /-- The file holds something other than text. -/
  | notText (uri : Uri)
deriving DecidableEq, Repr

/-- The error as shown to a user. -/
def DocumentError.message : DocumentError → String
  | unreadable uri reason => uri.toString ++ ": " ++ reason
  | notAFile uri => "Not a file URI: " ++ uri.toString
  | notText uri => uri.toString ++ " is not a UTF-8 text document"

/-- The documents that are open in the editor, with their texts. -/
structure Documents where
  entries : List (Uri × Text)
  /-- No document is open twice. -/
  distinct : (entries.map (·.1)).Nodup

namespace Documents

/-- No document is open. -/
def empty : Documents := ⟨[], List.nodup_nil⟩

/-- The text of an open document. -/
def get? (documents : Documents) (uri : Uri) : Option Text :=
  documents.entries.lookup uri

/-- The URIs of the open documents. -/
def uris (documents : Documents) : List Uri :=
  documents.entries.map (·.1)

/-- Forget a document. -/
def erase (documents : Documents) (uri : Uri) : Documents where
  entries := documents.entries.filter (·.1 != uri)
  distinct := (List.filter_sublist.map _).nodup documents.distinct

theorem not_mem_uris_erase (documents : Documents) (uri : Uri) :
    uri ∉ (documents.erase uri).uris := by
  simp [uris, erase]

/-- Open a document or replace its text. -/
def insert (documents : Documents) (uri : Uri) (text : Text) : Documents where
  entries := (uri, text) :: (documents.erase uri).entries
  distinct := List.nodup_cons.mpr
    ⟨documents.not_mem_uris_erase uri, (documents.erase uri).distinct⟩

@[simp]
theorem get?_empty (uri : Uri) : empty.get? uri = none :=
  rfl

theorem lookup_filter_ne_self (entries : List (Uri × Text)) (uri : Uri) :
    (entries.filter (·.1 != uri)).lookup uri = none := by
  induction entries with
  | nil => rfl
  | cons entry entries ih =>
      obtain ⟨key, text⟩ := entry
      by_cases same : key = uri
      · rw [List.filter_cons_of_neg (by simp [same])]
        exact ih
      · have passed : (uri == key) = false := by
          simpa using fun equal : uri = key => same equal.symm
        rw [List.filter_cons_of_pos (by simp [same]), List.lookup_cons, passed]
        exact ih

theorem lookup_filter_ne {uri other : Uri} (different : other ≠ uri)
    (entries : List (Uri × Text)) :
    (entries.filter (·.1 != uri)).lookup other = entries.lookup other := by
  induction entries with
  | nil => rfl
  | cons entry entries ih =>
      obtain ⟨key, text⟩ := entry
      by_cases same : key = uri
      · have passed : (other == key) = false := by
          simpa [same] using different
        rw [List.filter_cons_of_neg (by simp [same]), List.lookup_cons, passed]
        exact ih
      · rw [List.filter_cons_of_pos (by simp [same]), List.lookup_cons, List.lookup_cons, ih]

/-- A forgotten document is not open. -/
@[simp]
theorem get?_erase_self (documents : Documents) (uri : Uri) :
    (documents.erase uri).get? uri = none :=
  lookup_filter_ne_self documents.entries uri

/-- Forgetting a document leaves the others alone. -/
theorem get?_erase_of_ne (documents : Documents) {uri other : Uri}
    (different : other ≠ uri) :
    (documents.erase uri).get? other = documents.get? other :=
  lookup_filter_ne different documents.entries

/-- An opened document has the text it was opened with. -/
@[simp]
theorem get?_insert_self (documents : Documents) (uri : Uri) (text : Text) :
    (documents.insert uri text).get? uri = some text := by
  simp [get?, insert]

/-- Opening a document leaves the others alone. -/
theorem get?_insert_of_ne (documents : Documents) {uri other : Uri} (text : Text)
    (different : other ≠ uri) :
    (documents.insert uri text).get? other = documents.get? other := by
  have skipped : (other == uri) = false := by simpa using different
  rw [← get?_erase_of_ne documents different]
  simp [get?, insert, List.lookup_cons, skipped]

end Documents

/-- Read the text of a document from the disk. -/
def Disk.readDocument (disk : Disk) (uri : Uri) : Except DocumentError Text :=
  match uri.toFilePath? with
  | none => .error (.notAFile uri)
  | some path =>
      match disk.read path with
      | .error error => .error (.unreadable uri error.message)
      | .ok content =>
          match content.decode? with
          | none => .error (.notText uri)
          | some text => .ok text

/-- Where the texts of documents come from. -/
structure DocumentSource where
  /-- The documents open in the editor. -/
  opened : Documents
  /-- How the text of any other document is read. -/
  read : Uri → Except DocumentError Text

namespace DocumentSource

/-- The source with the given open documents and the files of a disk. -/
def ofDisk (disk : Disk) (opened : Documents) : DocumentSource where
  opened := opened
  read := disk.readDocument

/-- Get the text of a document: what is open, or else what is read.  The first part
lists what had to be read for it. -/
def fetch (source : DocumentSource) (uri : Uri) : List Uri × Except DocumentError Text :=
  match source.opened.get? uri with
  | some text => ([], .ok text)
  | none => ([uri], source.read uri)

/-- The text of a document, or why there is none. -/
def load (source : DocumentSource) (uri : Uri) : Except DocumentError Text :=
  (source.fetch uri).2

/-- A line of a document, if the document can be loaded and has such a line. -/
def line? (source : DocumentSource) (uri : Uri) (number : Nat) : Option Text :=
  (source.load uri).toOption.bind (Text.lineAt? number)

end DocumentSource

end SelectorNavigation
