import SelectorNavigation.Proofs.FileUris
import SelectorNavigation.Proofs.Walk
import SelectorNavigation.Workspace.Search
import Mathlib.Data.List.Nodup

/-!
# What a file search finds

A file search finds files on the disk, under their canonical URIs, and open templates,
under the URIs that the editor gave them.  A file on the disk is never excluded, nor is it
found twice.  An open template is only held against its own path, so one that lies in an
excluded directory is found; and it is recognised by its URI, so a file that is open under
another URI than its canonical one is found under both.
-/

namespace SelectorNavigation

/-- A document has the text of its entry, and no other. -/
theorem Documents.get?_eq_some_iff (documents : Documents) (uri : Uri) (text : Text) :
    documents.get? uri = some text ↔ (uri, text) ∈ documents.entries := by
  constructor
  · intro found
    obtain ⟨before, after, split, -⟩ := List.lookup_eq_some_iff.mp found
    simp [split]
  · exact lookup_eq_some_of_mem documents.distinct

theorem PathFilter.build_eq_ok_of_mem_toOption {including excluding : List Text}
    {filter : PathFilter} (isFilter : filter ∈ (build including excluding).toOption) :
    build including excluding = .ok filter := by
  cases built : build including excluding with
  | ok other => simpa [built, Except.toOption] using isFilter
  | error reason => simp [built, Except.toOption] at isFilter

namespace Workspace

variable {workspace : Workspace} {filter : PathFilter} {uri : Uri}

/-- The path of the file that a URI denotes, as seen from the root. -/
def place? (workspace : Workspace) (uri : Uri) : Option Path :=
  uri.toFilePath?.bind (·.relativeTo? workspace.root)

/-- The URI denotes a file below the root that a filter excludes, alone or together with a
directory that it lies in. -/
def DenotesExcluded (workspace : Workspace) (filter : PathFilter) (uri : Uri) : Prop :=
  ∃ place ∈ workspace.place? uri,
    PathFilter.anyMatch filter.excluded place ∨ filter.Excludes place.components

instance (workspace : Workspace) (filter : PathFilter) (uri : Uri) :
    Decidable (workspace.DenotesExcluded filter uri) :=
  inferInstanceAs (Decidable (∃ place ∈ workspace.place? uri, _ ∨ _))

/-- A file with an admitted path is excluded only for a directory that it lies in, up to
how its path is spelled. -/
theorem denotesExcluded_iff_of_admits {place : Path} (isPlace : place ∈ workspace.place? uri)
    (admitted : filter.admits place) :
    workspace.DenotesExcluded filter uri ↔ filter.Excludes place.components := by
  have unmatched : ¬ PathFilter.anyMatch filter.excluded place := by
    simpa [PathFilter.descends] using filter.descends_of_admits admitted
  simp [DenotesExcluded, Option.mem_def.mp isPlace, unmatched]

theorem isStep_of_mem_walk {names : List Bytes}
    (found : names ∈ workspace.disk.walk filter workspace.root) :
    ∀ name ∈ names, Path.IsStep name := by
  obtain ⟨entries, leaf, isDirectory, leads, -⟩ := Disk.mem_walk_iff.mp found
  have proper := Disk.isProper_of_find isDirectory
  exact fun name isName =>
    Path.isStep_of_isEntryName (leads.isEntryName_of_mem proper name isName)

theorem components_relative_of_mem_walk {names : List Bytes}
    (found : names ∈ workspace.disk.walk filter workspace.root) :
    (Node.relative names).components = names :=
  Path.components_ofComponents (isStep_of_mem_walk found)

/-- The URI built from the names that a walk finds denotes the place they lead to. -/
theorem place?_of_mem_walk {names : List Bytes}
    (found : names ∈ workspace.disk.walk filter workspace.root)
    (built : Uri.ofFilePath? (workspace.root.join (Node.relative names)) = some uri) :
    workspace.place? uri = some (Node.relative names) :=
  Uri.relativeTo?_of_ofFilePath?_join (isStep_of_mem_walk found) built

/-- Files on the disk are found under canonical URIs. -/
theorem isCanonical_of_mem_filesOnDisk (member : uri ∈ workspace.filesOnDisk filter) :
    uri.IsCanonical := by
  obtain ⟨names, -, built⟩ := List.mem_filterMap.mp member
  exact Uri.isCanonical_of_ofFilePath? built

theorem not_denotesExcluded_of_mem_filesOnDisk (member : uri ∈ workspace.filesOnDisk filter) :
    ¬ workspace.DenotesExcluded filter uri := by
  obtain ⟨names, found, built⟩ := List.mem_filterMap.mp member
  obtain ⟨-, -, -, -, -, admitted, kept⟩ := Disk.mem_walk_iff.mp found
  rwa [denotesExcluded_iff_of_admits (place?_of_mem_walk found built) admitted,
    components_relative_of_mem_walk found]

theorem nodup_filesOnDisk (workspace : Workspace) (filter : PathFilter) :
    (workspace.filesOnDisk filter).Nodup := by
  refine List.pairwise_filterMap.mpr
    ((workspace.disk.pairwise_walk filter workspace.root).imp_of_mem ?_)
  rintro names others found otherFound less uri built _ otherBuilt rfl
  have samePlace : Node.relative names = Node.relative others :=
    Option.some.inj
      ((place?_of_mem_walk found built).symm.trans (place?_of_mem_walk otherFound otherBuilt))
  have same : names = others := by
    rw [← components_relative_of_mem_walk found, samePlace,
      components_relative_of_mem_walk otherFound]
  exact List.lt_irrefl _ (same ▸ less)

theorem mem_openTemplates_iff :
    uri ∈ workspace.openTemplates filter ↔
      uri ∈ workspace.documents.uris ∧ workspace.admitsOpen filter uri := by
  rw [openTemplates, List.mem_mergeSort, List.mem_filter]

theorem nodup_openTemplates (workspace : Workspace) (filter : PathFilter) :
    (workspace.openTemplates filter).Nodup :=
  (List.mergeSort_perm _ _).nodup_iff.mpr (workspace.documents.distinct.filter _)

theorem mem_filesFor_iff :
    uri ∈ workspace.filesFor filter ↔
      uri ∈ workspace.filesOnDisk filter ∨
        (uri ∈ workspace.documents.uris ∧ workspace.admitsOpen filter uri) := by
  by_cases onDisk : uri ∈ workspace.filesOnDisk filter <;>
    simp [filesFor, onDisk, mem_openTemplates_iff]

theorem nodup_filesFor (workspace : Workspace) (filter : PathFilter) :
    (workspace.filesFor filter).Nodup := by
  refine List.nodup_append.mpr ⟨nodup_filesOnDisk workspace filter,
    (nodup_openTemplates workspace filter).filter _, ?_⟩
  rintro uri onDisk _ later rfl
  simp [onDisk] at later

theorem findFiles_eq {query : SearchQuery}
    (built : PathFilter.build [query.including] query.excluding = .ok filter) :
    workspace.findFiles query = workspace.filesFor filter := by
  simp only [findFiles, built]

theorem admitsOpen_iff :
    workspace.admitsOpen filter uri ↔
      uri.isHtml ∧ ∃ place ∈ workspace.place? uri, filter.admits place := by
  simp only [admitsOpen, Bool.and_eq_true, Option.any_eq_true, place?, Option.mem_def]

/-- No file found on the disk is excluded.  All that is found avoids the excluded places
exactly if no open template with an admitted path lies in an excluded directory. -/
theorem findFiles_avoids_excluded_iff (workspace : Workspace) (query : SearchQuery)
    (built : PathFilter.build [query.including] query.excluding = .ok filter) :
    (∀ uri ∈ workspace.filesOnDisk filter, ¬ workspace.DenotesExcluded filter uri) ∧
    ((∀ uri ∈ workspace.findFiles query, ¬ workspace.DenotesExcluded filter uri) ↔
      ∀ uri ∈ workspace.documents.uris, uri.isHtml →
        ∀ place ∈ workspace.place? uri, filter.admits place →
          ¬ filter.Excludes place.components) := by
  refine ⟨fun uri => not_denotesExcluded_of_mem_filesOnDisk, ?_⟩
  rw [findFiles_eq built]
  constructor
  · intro avoided uri isOpen isHtml place isPlace admitted excluded
    refine avoided uri (mem_filesFor_iff.mpr (Or.inr ⟨isOpen, ?_⟩)) ?_
    · exact admitsOpen_iff.mpr ⟨isHtml, place, isPlace, admitted⟩
    · exact (denotesExcluded_iff_of_admits isPlace admitted).mpr excluded
  · intro avoided uri found
    rcases mem_filesFor_iff.mp found with onDisk | ⟨isOpen, admitted⟩
    · exact not_denotesExcluded_of_mem_filesOnDisk onDisk
    · obtain ⟨isHtml, place, isPlace, admitted⟩ := admitsOpen_iff.mp admitted
      rw [denotesExcluded_iff_of_admits isPlace admitted]
      exact avoided uri isOpen isHtml place isPlace admitted

/-- An open template outside of the excluded directories causes nothing excluded to be
found. -/
theorem findFiles_avoids_node_modules :
    let opened : Uri := ⟨"file".toList, some .empty,
      .segments ["r".toList, "src".toList, "a.html".toList], none, none⟩
    let workspace : Workspace :=
      ⟨.empty, .ofText "/r".toList, Documents.empty.insert opened []⟩
    let query : SearchQuery := ⟨"**/*.html".toList, ["**/node_modules".toList]⟩
    ∃ filter, PathFilter.build [query.including] query.excluding = .ok filter ∧
      ∀ uri ∈ workspace.findFiles query, ¬ workspace.DenotesExcluded filter uri := by
  intro opened workspace query
  have evaluated :
      ∃ filter ∈ (PathFilter.build [query.including] query.excluding).toOption,
        ∀ uri ∈ workspace.documents.uris, uri.isHtml →
          ∀ place ∈ workspace.place? uri, filter.admits place →
            ¬ filter.Excludes place.components := by
    decide +kernel
  obtain ⟨filter, isFilter, avoided⟩ := evaluated
  have built := PathFilter.build_eq_ok_of_mem_toOption isFilter
  exact ⟨filter, built, (findFiles_avoids_excluded_iff workspace query built).2.mpr avoided⟩

/-- An open template in a directory that is excluded by its name is found. -/
theorem findFiles_lists_open_template_in_node_modules :
    let opened : Uri := ⟨"file".toList, some .empty,
      .segments ["r".toList, "node_modules".toList, "a.html".toList], none, none⟩
    let workspace : Workspace :=
      ⟨.empty, .ofText "/r".toList, Documents.empty.insert opened []⟩
    let query : SearchQuery := ⟨"**/*.html".toList, ["**/node_modules".toList]⟩
    ∃ filter ∈ (PathFilter.build [query.including] query.excluding).toOption,
      workspace.findFiles query = [opened] ∧ workspace.DenotesExcluded filter opened := by
  decide +kernel

theorem nodup_findFiles (workspace : Workspace) (query : SearchQuery) :
    (workspace.findFiles query).Nodup := by
  unfold findFiles
  split
  · exact nodup_filesFor workspace _
  · exact List.nodup_nil

/-- What is found and not open is found under a canonical URI. -/
theorem isCanonical_of_mem_findFiles {query : SearchQuery}
    (found : uri ∈ workspace.findFiles query) (closed : uri ∉ workspace.documents.uris) :
    uri.IsCanonical := by
  unfold findFiles at found
  split at found
  · rcases mem_filesFor_iff.mp found with onDisk | ⟨isOpen, -⟩
    · exact isCanonical_of_mem_filesOnDisk onDisk
    · exact absurd isOpen closed
  · simp at found

theorem fetch_of_mem_uris (isOpen : uri ∈ workspace.documents.uris) :
    ∃ text, (uri, text) ∈ workspace.documents.entries ∧
      workspace.source.fetch uri = ([], .ok text) := by
  obtain ⟨⟨_, text⟩, member, rfl⟩ := List.mem_map.mp isOpen
  refine ⟨text, member, ?_⟩
  have opened := (workspace.documents.get?_eq_some_iff _ text).mpr member
  simp [DocumentSource.fetch, source, DocumentSource.ofDisk, opened]

/-- A search finds no URI twice.  Two URIs it finds for the same file include one that the
editor chose and that is not canonical.  A file that is open under its canonical URI is
never read from the disk, under whatever URI it is found. -/
theorem findFiles_repeats_only_open_spellings (workspace : Workspace) (query : SearchQuery) :
    (workspace.findFiles query).Nodup ∧
    (∀ first ∈ workspace.findFiles query, ∀ second ∈ workspace.findFiles query,
      first ≠ second → ∀ path, first.toFilePath? = some path → second.toFilePath? = some path →
        (first ∈ workspace.documents.uris ∧ ¬ first.IsCanonical) ∨
          (second ∈ workspace.documents.uris ∧ ¬ second.IsCanonical)) ∧
    (∀ uri ∈ workspace.findFiles query, ∀ opened ∈ workspace.documents.uris,
      opened.IsCanonical → uri.toFilePath? = opened.toFilePath? →
        ∃ text, (uri, text) ∈ workspace.documents.entries ∧
          workspace.source.fetch uri = ([], .ok text)) := by
  refine ⟨nodup_findFiles workspace query, ?_, ?_⟩
  · intro first firstFound second secondFound different path firstPath secondPath
    by_contra neither
    obtain ⟨notFirst, notSecond⟩ := not_or.mp neither
    have canonical : ∀ uri ∈ workspace.findFiles query,
        ¬ (uri ∈ workspace.documents.uris ∧ ¬ uri.IsCanonical) → uri.IsCanonical := by
      intro uri found excused
      by_contra uncanonical
      exact uncanonical
        (isCanonical_of_mem_findFiles found fun isOpen => excused ⟨isOpen, uncanonical⟩)
    exact different ((canonical first firstFound notFirst).eq_of_toFilePath?_eq
      (canonical second secondFound notSecond) (firstPath.trans secondPath.symm))
  · intro uri found opened isOpen openCanonical samePath
    refine fetch_of_mem_uris ?_
    by_contra closed
    have canonical := isCanonical_of_mem_findFiles found closed
    exact closed (canonical.eq_of_toFilePath?_eq openCanonical samePath ▸ isOpen)

/-- A file that is open under a needlessly encoded name is found under two URIs, and for
one of them its old text is read from the disk. -/
theorem findFiles_lists_file_under_two_uris :
    let disk : Disk := ⟨[(Text.utf8 "r".toList,
      .directory [(Text.utf8 "a.html".toList, .file (Text.utf8 "<a>".toList))])],
      by decide +kernel⟩
    let canonical : Uri := ⟨"file".toList, some .empty,
      .segments ["r".toList, "a.html".toList], none, none⟩
    let opened : Uri := ⟨"file".toList, some .empty,
      .segments ["r".toList, "%61.html".toList], none, none⟩
    let workspace : Workspace :=
      ⟨disk, .ofText "/r".toList, Documents.empty.insert opened []⟩
    workspace.findFiles ⟨"**/*.html".toList, []⟩ = [canonical, opened] ∧
      canonical.toFilePath? = some (.ofText "/r/a.html".toList) ∧
      opened.toFilePath? = some (.ofText "/r/a.html".toList) ∧
      (workspace.source.fetch canonical).1 = [canonical] ∧
      (workspace.source.load canonical).toOption = some "<a>".toList := by
  decide +kernel

end Workspace

end SelectorNavigation
