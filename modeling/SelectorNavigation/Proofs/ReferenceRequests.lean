import SelectorNavigation.Proofs.References
import SelectorNavigation.Proofs.SearchOrder
import Mathlib.Data.Finset.Card

/-!
# Messages of a request for references

A request for references that finds a selector and a workspace keeps the editor informed: it
asks for the configuration, announces a task, says how many templates it scans, shows one
error for each template that does not load, and ends the task with the number of usages.  Any
other request for references is answered without a message.
-/

namespace SelectorNavigation

namespace DocumentSource

variable {source : DocumentSource} {uri : Uri} {number : Nat}

/-- Why a document does not load. -/
def loadError? (source : DocumentSource) (uri : Uri) : Option DocumentError :=
  match source.load uri with
  | .ok _ => none
  | .error error => some error

/-- An open document loads; any other one loads if it can be read. -/
theorem loadError?_eq (source : DocumentSource) (uri : Uri) :
    source.loadError? uri = if source.mustRead uri then source.readError? uri else none := by
  unfold loadError? load fetch mustRead readError?
  cases source.opened.get? uri with
  | some text => rfl
  | none => rfl

theorem line?_eq_some_iff {line : Text} :
    source.line? uri number = some line ↔
      ∃ text, source.load uri = .ok text ∧ text.lineAt? number = some line := by
  unfold line?
  cases source.load uri with
  | ok text => simp [Except.toOption]
  | error error => simp [Except.toOption]

theorem line?_eq_none_iff :
    source.line? uri number = none ↔
      ∀ text, source.load uri = .ok text → text.lineAt? number = none := by
  unfold line?
  cases source.load uri with
  | ok text => simp [Except.toOption]
  | error error => simp [Except.toOption]

end DocumentSource

theorem References.failures_scan (source : DocumentSource) (matcher : Matcher)
    (templates : List Uri) :
    (scan source matcher templates).failures = templates.filterMap source.loadError? := by
  rw [scan_eq, List.filterMap_filter]
  exact List.filterMap_congr fun uri _ => (source.loadError?_eq uri).symm

namespace Session

/-- What an editor shows of the task that a server reports on. -/
inductive Display where
  | idle
  | announced (token : Text)
  | underWay (token : Text)
deriving DecidableEq

/-- How a display changes with a message.  A task is announced, then begins, may be reported on
and ends, all under one token, before the next one is announced. -/
def Display.take? : Display → ServerMessage → Option Display
  | .idle, .askProgress token => some (.announced token)
  | .announced token, .progress other (.begun _ _) =>
      if other = token then some (.underWay token) else none
  | .underWay token, .progress other (.report _) =>
      if other = token then some (.underWay token) else none
  | .underWay token, .progress other (.finished _) =>
      if other = token then some .idle else none
  | display, .askConfiguration _ | display, .showError _ | display, .log _ => some display
  | _, _ => none

/-- An idle display can follow the messages and is idle again behind them. -/
def AreBracketed (messages : List ServerMessage) : Prop :=
  messages.foldlM Display.take? .idle = some .idle

theorem AreBracketed.append {first second : List ServerMessage}
    (firstBracketed : AreBracketed first) (secondBracketed : AreBracketed second) :
    AreBracketed (first ++ second) := by
  rw [AreBracketed, List.foldlM_append, firstBracketed]
  exact secondBracketed

theorem foldlM_showErrors (display : Display) (errors : List DocumentError) :
    (errors.map fun error => ServerMessage.showError error.message.toList).foldlM Display.take?
      display = some display := by
  induction errors with
  | nil => rfl
  | cons error errors ih =>
      have unmoved : display.take? (.showError error.message.toList) = some display := by
        cases display <;> rfl
      rw [List.map_cons, List.foldlM_cons, unmoved]
      exact ih

variable {session : Session} {disk : Disk} {replies : EditorReplies} {uri : Uri} {line : Nat}
  {declaration : Text} {matcher : Matcher} {root : Path}

theorem step_references {spelling : Text} (running : session.phase = .running)
    (isUri : Uri.read? spelling = some uri) :
    session.step disk replies (.request (.references spelling line)) =
      session.references disk replies uri line := by
  rw [step_of_running running, react, handle, isUri]

theorem references_of_no_line
    (missing : (DocumentSource.ofDisk disk session.documents).line? uri line = none) :
    session.references disk replies uri line = ⟨session, .answer .nothing, []⟩ := by
  rw [references, missing]
  rfl

theorem references_of_no_search
    (isLine : (DocumentSource.ofDisk disk session.documents).line? uri line = some declaration)
    (unanswerable : Matcher.ofDeclaration? declaration = none ∨ session.rootPath? = none) :
    session.references disk replies uri line = ⟨session, .answer (.locations []), []⟩ := by
  rw [references, isLine]
  rcases unanswerable with undeclared | rootless
  · simp only [undeclared]
    rfl
  · simp only [rootless]
    split
    · contradiction
    · rfl

theorem references_of_search
    (isLine : (DocumentSource.ofDisk disk session.documents).line? uri line = some declaration)
    (declared : Matcher.ofDeclaration? declaration = some matcher)
    (rooted : session.rootPath? = some root) :
    session.references disk replies uri line =
      session.findUsages disk replies root matcher := by
  rw [references, isLine]
  simp only [declared, rooted]

theorem reply_references_eq_nothing_iff :
    (session.references disk replies uri line).reply = .answer .nothing ↔
      (DocumentSource.ofDisk disk session.documents).line? uri line = none := by
  constructor
  · intro unanswered
    unfold references at unanswered
    split at unanswered
    · assumption
    · split at unanswered <;> cases unanswered
  · intro missing
    rw [references_of_no_line missing]

/-- A search for usages scans exactly what the file search finds and reports what it counts. -/
theorem findUsages_eq (session : Session) (disk : Disk) (replies : EditorReplies) (root : Path)
    (declared : Matcher.ofDeclaration? declaration = some matcher) :
    let workspace : Workspace := ⟨disk, root, session.documents⟩
    let answers := replies.configuration.bind Json.items?
    let settings := Workspace.settings disk (some root) answers
    let found := workspace.findFiles (References.query settings)
    let usages :=
      (References.find workspace.findFiles workspace.source settings declaration).scan.locations
    session.findUsages disk replies root matcher =
      ⟨session, .answer (.locations usages),
        [.askConfiguration ExcludeSettings.sections, .askProgress progressToken,
          .progress progressToken (.begun "Finding selector references".toList
            ("Searching templates for ".toList ++ matcher.names)),
          .progress progressToken (.report
            ("Scanning ".toList ++ shown found.toFinset.card ++ " templates".toList))] ++
        (found.filterMap workspace.source.loadError?).map (.showError ·.message.toList) ++
        [.progress progressToken (.finished
          ("Found ".toList ++ shown usages.length ++ " references".toList))]⟩ := by
  intro workspace answers settings found usages
  have distinct : found.Nodup := Workspace.nodup_findFiles workspace _
  have scanned : usages = (References.scan workspace.source matcher found).locations := by
    simp only [usages, References.find_eq_candidates declared]
    rw [Workspace.candidates_findFiles]
  rw [scanned, List.toFinset_card_of_nodup distinct, ← References.failures_scan]
  simp only [findUsages, Workspace.candidates_findFiles]
  rfl

theorem areBracketed_findUsages (session : Session) (disk : Disk) (replies : EditorReplies)
    (root : Path) (matcher : Matcher) :
    AreBracketed (session.findUsages disk replies root matcher).sent := by
  -- The errors between the stages leave the task under way.
  simp only [AreBracketed, findUsages, List.foldlM_append]
  simp [Display.take?, foldlM_showErrors]

theorem areBracketed_references (session : Session) (disk : Disk) (replies : EditorReplies)
    (uri : Uri) (line : Nat) :
    AreBracketed (session.references disk replies uri line).sent := by
  unfold references
  split
  · rfl
  · split
    · exact areBracketed_findUsages session disk replies _ _
    · rfl

theorem areBracketed_handle (session : Session) (disk : Disk) (replies : EditorReplies)
    (request : Request) : AreBracketed (session.handle disk replies request).sent := by
  cases request with
  | start | shutdown => rfl
  | references spelling line =>
      unfold handle
      dsimp only
      split
      · exact areBracketed_references session disk replies _ line
      · rfl
  | definition spelling position =>
      unfold handle definition
      dsimp only
      split
      · split <;> rfl
      · rfl

theorem areBracketed_note (session : Session) (notification : Notification) :
    AreBracketed (session.note notification).sent := by
  cases notification with
  | started | opened | closed | exit => rfl
  | changed spelling texts => cases texts <;> rfl
  | saved spelling text => cases text <;> rfl

theorem areBracketed_step (session : Session) (disk : Disk) (replies : EditorReplies)
    (message : Message) : AreBracketed (session.step disk replies message).sent := by
  unfold step
  split
  · rfl
  · rfl
  · exact areBracketed_note session _
  · exact areBracketed_handle session disk replies _
  · unfold start
    split <;> rfl
  · rfl
  · rfl
  · rfl

/-- All messages that the server sends in the course of some steps. -/
def sentAll (session : Session) : List (Disk × EditorReplies × Message) → List ServerMessage
  | [] => []
  | (disk, replies, message) :: events =>
      let outcome := session.step disk replies message
      outcome.sent ++ outcome.session.sentAll events

/-- In the course of a session every task that is announced ends before the next one. -/
theorem areBracketed_sentAll (session : Session) (events : List (Disk × EditorReplies × Message)) :
    AreBracketed (session.sentAll events) := by
  induction events generalizing session with
  | nil => rfl
  | cons event events ih =>
      obtain ⟨disk, replies, message⟩ := event
      exact (areBracketed_step session disk replies message).append (ih _)

/-- A request for references leaves the session as it is.  It is answered by nothing exactly if
there is no such line, and by no places if the line declares no selector or the session has no
directory, both without a message.  Otherwise the editor is asked for its configuration and for
leave to report progress, and learns under one token that the task begins, how many different
templates are scanned, which of them do not load, and how many usages there are.  The answer is
the usages that a search for references finds.  Whether the editor agrees to show progress makes
no difference. -/
theorem references_informs_editor (session : Session) (disk : Disk) (replies : EditorReplies)
    (spelling : Text) (line : Nat) {uri : Uri} (running : session.phase = .running)
    (isUri : Uri.read? spelling = some uri) :
    let request := Message.request (.references spelling line)
    let outcome := session.step disk replies request
    let source := DocumentSource.ofDisk disk session.documents
    outcome.session = session ∧
    (∀ acceptsProgress,
      session.step disk { replies with acceptsProgress } request = outcome) ∧
    AreBracketed outcome.sent ∧
    (outcome.reply = .answer .nothing ↔
      ∀ text, source.load uri = .ok text → text.lineAt? line = none) ∧
    (outcome.reply = .answer .nothing → outcome.sent = []) ∧
    (∀ text declaration, source.load uri = .ok text → text.lineAt? line = some declaration →
      (Matcher.ofDeclaration? declaration = none ∨ session.rootPath? = none →
        outcome.reply = .answer (.locations []) ∧ outcome.sent = []) ∧
      (∀ matcher root, Matcher.ofDeclaration? declaration = some matcher →
        session.rootPath? = some root →
        let workspace : Workspace := ⟨disk, root, session.documents⟩
        let answers := replies.configuration.bind Json.items?
        let settings := Workspace.settings disk (some root) answers
        let found := workspace.findFiles (References.query settings)
        let usages :=
          (References.find workspace.findFiles source settings declaration).scan.locations
        outcome.reply = .answer (.locations usages) ∧
        outcome.sent =
          [.askConfiguration ExcludeSettings.sections, .askProgress progressToken,
            .progress progressToken (.begun "Finding selector references".toList
              ("Searching templates for ".toList ++ matcher.names)),
            .progress progressToken (.report
              ("Scanning ".toList ++ shown found.toFinset.card ++ " templates".toList))] ++
          (found.filterMap source.loadError?).map (.showError ·.message.toList) ++
          [.progress progressToken (.finished
            ("Found ".toList ++ shown usages.length ++ " references".toList))])) := by
  intro request outcome source
  have stepped : outcome = session.references disk replies uri line :=
    step_references running isUri
  refine ⟨?_, ?_, ?_, ?_, ?_, ?_⟩
  · rw [stepped]
    exact session.session_references disk replies uri line
  · intro acceptsProgress
    rw [stepped, step_references running isUri]
    rfl
  · exact areBracketed_step session disk replies request
  · rw [stepped, ← DocumentSource.line?_eq_none_iff]
    exact reply_references_eq_nothing_iff
  · intro unanswered
    rw [stepped] at unanswered ⊢
    rw [references_of_no_line (reply_references_eq_nothing_iff.mp unanswered)]
  · intro text declaration loaded isLine
    have found := DocumentSource.line?_eq_some_iff.mpr ⟨text, loaded, isLine⟩
    rw [stepped]
    constructor
    · intro unanswerable
      rw [references_of_no_search found unanswerable]
      exact ⟨rfl, rfl⟩
    · intro matcher root declared rooted
      rw [references_of_search found declared rooted,
        session.findUsages_eq disk replies root declared]
      exact ⟨rfl, rfl⟩

/-- A template that does not load is counted and shown between the stages of the task, also in
an editor that refuses to show progress. -/
theorem references_shows_unreadable_template :
    let name (text : String) : Bytes := Text.utf8 text.toList
    let disk : Disk :=
      ⟨[(name "r", .directory [(name "a.html", .file [0xFF])])], by decide +kernel⟩
    let uri (names : List String) : Uri :=
      ⟨"file".toList, some .empty, .segments (names.map String.toList), none, none⟩
    let spelling : Text := "file:///r/d.ts".toList
    let session : Session := ⟨.running, some (uri ["r"]),
      Documents.empty.insert (uri ["r", "d.ts"]) "  selector: 'app-d',".toList⟩
    let outcome := session.step disk ⟨none, false⟩ (.request (.references spelling 0))
    let progress (stage : Progress) : ServerMessage := .progress progressToken stage
    session.phase = .running ∧ Uri.read? spelling = some (uri ["r", "d.ts"]) ∧
      outcome.reply = .answer (.locations []) ∧
      outcome.sent =
        [.askConfiguration ExcludeSettings.sections, .askProgress progressToken,
          progress (.begun "Finding selector references".toList
            "Searching templates for app-d".toList),
          progress (.report "Scanning 1 templates".toList),
          .showError "file:///r/a.html is not a UTF-8 text document".toList,
          progress (.finished "Found 0 references".toList)] := by
  intro name disk uri spelling session outcome progress
  have running : session.phase = .running := rfl
  have isUri : Uri.read? spelling = some (uri ["r", "d.ts"]) := by decide +kernel
  obtain ⟨-, -, -, -, -, informed⟩ :=
    references_informs_editor session disk ⟨none, false⟩ spelling 0 running isUri
  have evaluated : ∃ matcher ∈ Matcher.ofDeclaration? "  selector: 'app-d',".toList,
      matcher.names = "app-d".toList := by
    decide +kernel
  obtain ⟨matcher, declared, named⟩ := evaluated
  have rooted : session.rootPath? = some (.ofText "/r".toList) := by decide +kernel
  obtain ⟨replied, sent⟩ := (informed _ _ rfl rfl).2 matcher _ declared rooted
  refine ⟨running, isUri, replied.trans ?_, sent.trans ?_⟩
  · decide +kernel
  · rw [named]
    decide +kernel

end Session

end SelectorNavigation
