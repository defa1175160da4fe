import SelectorNavigation.Proofs.Buffers
import SelectorNavigation.Proofs.Search
import SelectorNavigation.Proofs.UriSpelling

/-!
# The order of what a file search finds

A file search lists the files on the disk and behind them the open templates that it has not
listed yet, in the order of their spellings.  URIs that come from the editor or from the disk
are told apart by their spellings, so this order is strict.  What is listed then depends on
which documents are open, and not on the order in which they were opened.
-/

namespace SelectorNavigation

/-- The spelling of one URI comes before that of another. -/
def Uri.Precedes (first second : Uri) : Prop :=
  Text.utf8 first.toText < Text.utf8 second.toText

theorem Uri.Precedes.asymm {first second : Uri} (less : first.Precedes second) :
    ¬ second.Precedes first :=
  List.lt_asymm less

namespace Documents

variable {uri : Uri}

/-- Every open document has a URI that comes from the editor or from the disk. -/
def Arise (documents : Documents) : Prop :=
  ∀ uri ∈ documents.uris, uri.Arises

theorem mem_uris_erase {documents : Documents} {closed : Uri} :
    uri ∈ (documents.erase closed).uris ↔ uri ∈ documents.uris ∧ uri ≠ closed := by
  simp only [uris, erase, List.mem_map, List.mem_filter, bne_iff_ne]
  constructor
  · rintro ⟨entry, ⟨member, other⟩, rfl⟩
    exact ⟨⟨entry, member, rfl⟩, other⟩
  · rintro ⟨⟨entry, member, rfl⟩, other⟩
    exact ⟨entry, ⟨member, other⟩, rfl⟩

theorem mem_uris_insert {documents : Documents} {opened : Uri} {text : Text} :
    uri ∈ (documents.insert opened text).uris ↔ uri = opened ∨ uri ∈ documents.uris := by
  have split : (documents.insert opened text).uris =
      opened :: (documents.erase opened).uris := rfl
  rw [split, List.mem_cons, mem_uris_erase]
  by_cases same : uri = opened <;> simp [same]

/-- The documents that are open once some have been opened one after the other. -/
def openAll (opened : List (Uri × Text)) : Documents :=
  opened.foldl (fun documents entry => documents.insert entry.1 entry.2) .empty

theorem mem_uris_openAll {opened : List (Uri × Text)} :
    uri ∈ (openAll opened).uris ↔ uri ∈ opened.map (·.1) := by
  have opening : ∀ documents : Documents,
      uri ∈ (opened.foldl (fun documents entry => documents.insert entry.1 entry.2)
        documents).uris ↔ uri ∈ documents.uris ∨ uri ∈ opened.map (·.1) := by
    induction opened with
    | nil => simp
    | cons entry opened ih =>
        intro documents
        rw [List.foldl_cons, ih, mem_uris_insert, List.map_cons, List.mem_cons]
        tauto
  rw [openAll, opening]
  simp [uris, empty]

end Documents

namespace Session

variable {session : Session} {disk : Disk} {replies : EditorReplies} {message : Message}

theorem documents_step_of_not_running (idle : session.phase ≠ .running) :
    (session.step disk replies message).session.documents = session.documents := by
  unfold step
  split
  · rfl
  · rfl
  · contradiction
  · contradiction
  · unfold start
    split <;> rfl
  · rfl
  · rfl
  · rfl

theorem arise_withDocument_insert (arisen : session.documents.Arise) (spelling text : Text) :
    (session.withDocument spelling (·.insert · text)).documents.Arise := by
  unfold withDocument
  cases isRead : Uri.read? spelling with
  | none => exact arisen
  | some opened =>
      intro uri isOpen
      rcases Documents.mem_uris_insert.mp isOpen with rfl | earlier
      · exact .read isRead
      · exact arisen uri earlier

theorem arise_withDocument_erase (arisen : session.documents.Arise) (spelling : Text) :
    (session.withDocument spelling (·.erase ·)).documents.Arise := by
  unfold withDocument
  cases Uri.read? spelling with
  | none => exact arisen
  | some closed =>
      intro uri isOpen
      exact arisen uri (Documents.mem_uris_erase.mp isOpen).1

theorem arise_note (arisen : session.documents.Arise) (notification : Notification) :
    (session.note notification).session.documents.Arise := by
  cases notification with
  | started | exit => exact arisen
  | opened spelling text => exact arise_withDocument_insert arisen spelling text
  | closed spelling => exact arise_withDocument_erase arisen spelling
  | changed spelling texts =>
      cases texts with
      | nil => exact arisen
      | cons text _ => exact arise_withDocument_insert arisen spelling text
  | saved spelling text =>
      cases text with
      | none => exact arisen
      | some text => exact arise_withDocument_insert arisen spelling text

theorem arise_step (arisen : session.documents.Arise) :
    (session.step disk replies message).session.documents.Arise := by
  by_cases running : session.phase = .running
  · rw [step_of_running running]
    cases message with
    | notification notification => exact arise_note arisen notification
    | request request =>
        by_cases ending : request = .shutdown
        · subst ending
          exact List.forall_mem_nil _
        · rw [react, session_handle ending]
          exact arisen
  · rw [documents_step_of_not_running running]
    exact arisen

/-- The session after it has taken a step for each of some messages, with the disk and the
replies of the editor at that time. -/
def stepAll (session : Session) (events : List (Disk × EditorReplies × Message)) : Session :=
  events.foldl (fun session (disk, replies, message) =>
    (session.step disk replies message).session) session

/-- The editor names every document that is open in the course of a session. -/
theorem arise_stepAll (events : List (Disk × EditorReplies × Message))
    (arisen : session.documents.Arise) : (session.stepAll events).documents.Arise := by
  induction events generalizing session with
  | nil => exact arisen
  | cons event events ih => exact ih (arise_step arisen)

end Session

namespace Workspace

variable {workspace : Workspace} {filter : PathFilter} {uri : Uri}

theorem isSome_toFilePath?_of_mem_filesOnDisk (member : uri ∈ workspace.filesOnDisk filter) :
    uri.toFilePath?.isSome := by
  obtain ⟨names, found, built⟩ := List.mem_filterMap.mp member
  rw [Uri.toFilePath?_of_ofFilePath? built]
  rfl

theorem isSome_toFilePath?_of_admitsOpen (admitted : workspace.admitsOpen filter uri) :
    uri.toFilePath?.isSome := by
  obtain ⟨-, place, isPlace, -⟩ := admitsOpen_iff.mp admitted
  obtain ⟨path, denoted, -⟩ := Option.bind_eq_some_iff.mp isPlace
  rw [denoted]
  rfl

/-- What a search finds is told apart by its spelling. -/
theorem eq_of_mem_filesFor_of_toText_eq (arisen : workspace.documents.Arise) {first second : Uri}
    (firstFound : first ∈ workspace.filesFor filter)
    (secondFound : second ∈ workspace.filesFor filter) (same : first.toText = second.toText) :
    first = second := by
  have proper : ∀ uri ∈ workspace.filesFor filter, uri.IsProper ∧ uri.toFilePath?.isSome := by
    intro uri found
    rcases mem_filesFor_iff.mp found with onDisk | ⟨isOpen, admitted⟩
    · obtain ⟨names, -, built⟩ := List.mem_filterMap.mp onDisk
      exact ⟨(Uri.Arises.built built).isProper, isSome_toFilePath?_of_mem_filesOnDisk onDisk⟩
    · exact ⟨(arisen uri isOpen).isProper, isSome_toFilePath?_of_admitsOpen admitted⟩
  obtain ⟨firstProper, firstFile⟩ := proper first firstFound
  obtain ⟨secondProper, secondFile⟩ := proper second secondFound
  exact Uri.eq_of_toText_eq firstProper secondProper firstFile secondFile same

theorem nodup_spellings (arisen : workspace.documents.Arise) (filter : PathFilter) :
    ((workspace.filesFor filter).map Uri.toText).Nodup := by
  refine (nodup_filesFor workspace filter).map_on ?_
  intro first firstFound second secondFound same
  exact eq_of_mem_filesFor_of_toText_eq arisen firstFound secondFound same

theorem pairwise_openTemplates (arisen : workspace.documents.Arise) (filter : PathFilter) :
    (workspace.openTemplates filter).Pairwise Uri.Precedes := by
  refine pairwise_mergeSort_keys (fun uri : Uri => Text.utf8 uri.toText) ?_
  refine (workspace.documents.distinct.filter _).map_on ?_
  intro first firstMember second secondMember same
  have found : ∀ uri ∈ workspace.documents.uris.filter (workspace.admitsOpen filter),
      uri ∈ workspace.filesFor filter := fun uri member =>
    mem_filesFor_iff.mpr (.inr (List.mem_filter.mp member))
  exact eq_of_mem_filesFor_of_toText_eq arisen (found first firstMember)
    (found second secondMember) (Text.utf8_injective same)

/-- The open templates depend on which documents are open alone. -/
theorem openTemplates_congr {documents : Documents} (arisen : workspace.documents.Arise)
    (same : ∀ uri, uri ∈ documents.uris ↔ uri ∈ workspace.documents.uris) :
    ({ workspace with documents } : Workspace).openTemplates filter =
      workspace.openTemplates filter := by
  have othersArisen : documents.Arise := fun uri isOpen => arisen uri ((same uri).mp isOpen)
  refine eq_of_pairwise_of_mem_iff (fun _ _ => Uri.Precedes.asymm)
    (pairwise_openTemplates othersArisen filter) (pairwise_openTemplates arisen filter)
    fun uri => ?_
  rw [mem_openTemplates_iff, mem_openTemplates_iff]
  exact and_congr_left fun _ => same uri

theorem findFiles_congr {documents : Documents} (arisen : workspace.documents.Arise)
    (same : ∀ uri, uri ∈ documents.uris ↔ uri ∈ workspace.documents.uris) (query : SearchQuery) :
    ({ workspace with documents } : Workspace).findFiles query = workspace.findFiles query := by
  unfold findFiles
  cases PathFilter.build [query.including] query.excluding with
  | ok filter =>
      simp only [filesFor, openTemplates_congr arisen same]
      rfl
  | error reason => rfl

theorem mem_filter_openTemplates_iff :
    uri ∈ (workspace.openTemplates filter).filter (!(workspace.filesOnDisk filter).contains ·) ↔
      uri ∈ workspace.documents.uris ∧ uri.isHtml ∧
        (∃ path ∈ uri.toFilePath?, ∃ place ∈ path.relativeTo? workspace.root,
          filter.admits place) ∧ uri ∉ workspace.filesOnDisk filter := by
  have placed : (∃ place ∈ workspace.place? uri, filter.admits place) ↔
      ∃ path ∈ uri.toFilePath?, ∃ place ∈ path.relativeTo? workspace.root,
        filter.admits place := by
    simp only [place?, Option.mem_def, Option.bind_eq_some_iff]
    constructor
    · rintro ⟨place, ⟨path, denoted, below⟩, admitted⟩
      exact ⟨path, denoted, place, below, admitted⟩
    · rintro ⟨path, denoted, place, below, admitted⟩
      exact ⟨place, ⟨path, denoted, below⟩, admitted⟩
  rw [List.mem_filter, mem_openTemplates_iff, admitsOpen_iff, placed]
  simp [and_assoc]

/-- A file search leaves nothing to be removed from the templates to scan. -/
theorem candidates_findFiles (workspace : Workspace) (settings : ExcludeSettings) :
    References.candidates workspace.findFiles settings =
      workspace.findFiles (References.query settings) := by
  rw [References.candidates_eq]
  exact eraseDups_eq_self (nodup_findFiles workspace _)

/-- Behind the files on the disk a search lists, in strictly increasing order, exactly the
open templates below the root that the filter admits and that are not listed yet.  It lists no
URI twice.  The list depends on which documents are open alone, not on the order in which they
were opened or are held, and it is what a search for references scans. -/
theorem findFiles_appends_open_templates (workspace : Workspace) (query : SearchQuery)
    (arisen : workspace.documents.Arise)
    (built : PathFilter.build [query.including] query.excluding = .ok filter) :
    (∃ opened : List Uri,
      workspace.findFiles query = workspace.filesOnDisk filter ++ opened ∧
      opened.Pairwise Uri.Precedes ∧
      ∀ uri, uri ∈ opened ↔
        uri ∈ workspace.documents.uris ∧ uri.isHtml ∧
          (∃ path ∈ uri.toFilePath?, ∃ place ∈ path.relativeTo? workspace.root,
            filter.admits place) ∧ uri ∉ workspace.filesOnDisk filter) ∧
    ((workspace.findFiles query).map Uri.toText).Nodup ∧
    (∀ documents : Documents, documents.uris.Perm workspace.documents.uris →
      ({ workspace with documents } : Workspace).findFiles query = workspace.findFiles query) ∧
    (∀ opened : List (Uri × Text),
      (∀ uri, uri ∈ opened.map (·.1) ↔ uri ∈ workspace.documents.uris) →
        ({ workspace with documents := .openAll opened } : Workspace).findFiles query =
          workspace.findFiles query) ∧
    (∀ settings, query = References.query settings →
      References.candidates workspace.findFiles settings = workspace.findFiles query) := by
  refine ⟨⟨_, findFiles_eq built, ?_, fun uri => mem_filter_openTemplates_iff⟩, ?_, ?_, ?_, ?_⟩
  · exact (pairwise_openTemplates arisen filter).filter _
  · rw [findFiles_eq built]
    exact nodup_spellings arisen filter
  · intro documents reordered
    exact findFiles_congr arisen (fun uri => reordered.mem_iff) query
  · intro opened same
    exact findFiles_congr arisen (fun uri => Documents.mem_uris_openAll.trans (same uri)) query
  · rintro settings rfl
    exact candidates_findFiles workspace settings

/-- Whichever of two templates is opened first, they are listed in the order of their
spellings behind the file on the disk, which is open as well. -/
theorem findFiles_lists_open_templates_in_order :
    let name (text : String) : Bytes := Text.utf8 text.toList
    let uri (text : String) : Uri :=
      ⟨"file".toList, some .empty, .segments ["r".toList, text.toList], none, none⟩
    let disk : Disk := ⟨[(name "r", .directory [(name "b.html", .file [])])], by decide +kernel⟩
    let opening (spelling : String) : Disk × Session.EditorReplies × Session.Message :=
      (disk, ⟨none, true⟩, .notification (.opened spelling.toList []))
    let workspace (spellings : List String) : Workspace :=
      ⟨disk, .ofText "/r".toList,
        (Session.stepAll ⟨.running, none, .empty⟩ (spellings.map opening)).documents⟩
    let forth := workspace ["file:///r/c.html", "file:///r/b.html", "file:///r/a.html"]
    let back := workspace ["file:///r/a.html", "file:///r/b.html", "file:///r/c.html"]
    let query : SearchQuery := ⟨"**/*.html".toList, []⟩
    forth.documents.Arise ∧
      (∃ filter, PathFilter.build [query.including] query.excluding = .ok filter) ∧
      forth.findFiles query = [uri "b.html", uri "a.html", uri "c.html"] ∧
      back.findFiles query = [uri "b.html", uri "a.html", uri "c.html"] := by
  intro name uri disk opening workspace forth back query
  have arisen : forth.documents.Arise := Session.arise_stepAll _ (List.forall_mem_nil _)
  have evaluated :
      ∃ filter ∈ (PathFilter.build [query.including] query.excluding).toOption,
        forth.filesOnDisk filter = [uri "b.html"] ∧
          (forth.documents.uris.filter fun opened => opened.isHtml ∧
            (∃ path ∈ opened.toFilePath?, ∃ place ∈ path.relativeTo? forth.root,
              filter.admits place) ∧ opened ∉ forth.filesOnDisk filter) =
            [uri "a.html", uri "c.html"] := by
    decide +kernel
  obtain ⟨filter, isFilter, onDisk, selected⟩ := evaluated
  have built := PathFilter.build_eq_ok_of_mem_toOption isFilter
  obtain ⟨⟨opened, listed, ordered, members⟩, -, reordered, -⟩ :=
    findFiles_appends_open_templates forth query arisen built
  have precedes : Text.utf8 (uri "a.html").toText < Text.utf8 (uri "c.html").toText := by
    decide +kernel
  have inOrder : opened = [uri "a.html", uri "c.html"] := by
    refine eq_of_pairwise_of_mem_iff (fun _ _ => Uri.Precedes.asymm) ordered
      (List.pairwise_pair.mpr precedes) fun other => ?_
    rw [members, ← selected, List.mem_filter, decide_eq_true_iff]
  have forthListed : forth.findFiles query = [uri "b.html", uri "a.html", uri "c.html"] := by
    rw [listed, onDisk, inOrder, List.singleton_append]
  have permuted : back.documents.uris.Perm forth.documents.uris := by
    have reversed : back.documents.uris = forth.documents.uris.reverse := by decide +kernel
    rw [reversed]
    exact List.reverse_perm _
  exact ⟨arisen, ⟨filter, built⟩, forthListed,
    (reordered back.documents permuted).trans forthListed⟩

end Workspace

end SelectorNavigation
