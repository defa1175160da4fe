import SelectorNavigation.Session.Message
import SelectorNavigation.Text.Quoted
import SelectorNavigation.Uri.Reader
import SelectorNavigation.Workspace.Definition
import SelectorNavigation.Workspace.References

/-!
# Sessions

A session is started once, runs, is shut down, and is over after an exit.  Requests
outside the running phase are refused and notifications are dropped, except that an
exit is always accepted.  A running session holds the root of the workspace and the
open documents.  Every step is a function of the session, the disk, the replies of
the editor and the message.
-/

namespace SelectorNavigation

/-- The phases of a session. -/
inductive Phase where
  | fresh
  | running
  | shutDown
  | over
deriving DecidableEq, Repr

/-- The state of a session. -/
structure Session where
  phase : Phase
  /-- The URI of the workspace, if the editor named one. -/
  root : Option Uri
  /-- The documents open in the editor. -/
  documents : Documents

namespace Session

/-- A session that has not been started. -/
def fresh : Session := ⟨.fresh, none, .empty⟩

/-- The result of one step: the session after it, the reply and the messages that
the server sent on the way. -/
structure Outcome where
  session : Session
  reply : Reply
  sent : List ServerMessage

/-- The directory of the workspace. -/
def rootPath? (session : Session) : Option Path :=
  session.root.bind Uri.toFilePath?

/-- A step that changes nothing and sends nothing. -/
def answering (session : Session) (answer : Answer) : Outcome :=
  ⟨session, .answer answer, []⟩

/-- A step that refuses a request. -/
def refusing (session : Session) (refusal : Refusal) : Outcome :=
  ⟨session, .refusal refusal, []⟩

/-- A step that only changes the session. -/
def silently (session : Session) : Outcome :=
  ⟨session, .silence, []⟩

/-- Read all URIs of a list, or none. -/
def readUris? : List Text → Option (List Uri)
  | [] => some []
  | text :: texts => do return (← Uri.read? text) :: (← readUris? texts)

/-- Read a URI that may be missing. -/
def readOptionalUri? : Option Text → Option (Option Uri)
  | none => some none
  | some text => (Uri.read? text).map some

/-- The token under which a search for references reports its progress. -/
def progressToken : Text := "angular-selector-references".toList

/-- A number in words of a message. -/
def shown (number : Nat) : Text := (toString number).toList

/-- Find the usages of a selector in a workspace, reporting progress. -/
def findUsages (session : Session) (disk : Disk) (replies : EditorReplies)
    (root : Path) (matcher : Matcher) : Outcome :=
  let workspace : Workspace := ⟨disk, root, session.documents⟩
  let settings := Workspace.settings disk (some root) replies.settings
  let templates := References.candidates workspace.findFiles settings
  let scan := References.scan workspace.source matcher templates
  let progress := ServerMessage.progress progressToken
  { session
    reply := .answer (.locations scan.locations)
    sent :=
      [.askConfiguration ExcludeSettings.sections, .askProgress progressToken,
        progress (.begun "Finding selector references".toList
          ("Searching templates for ".toList ++ matcher.names)),
        progress (.report
          ("Scanning ".toList ++ shown templates.length ++ " templates".toList))] ++
      scan.failures.map (fun error => .showError error.message.toList) ++
      [progress (.finished
        ("Found ".toList ++ shown scan.locations.length ++ " references".toList))] }

/-- Answer a request for references to the selector declared in a line. -/
def references (session : Session) (disk : Disk) (replies : EditorReplies) (uri : Uri)
    (line : Nat) : Outcome :=
  match (DocumentSource.ofDisk disk session.documents).line? uri line with
  | none => session.answering .nothing
  | some text =>
      match Matcher.ofDeclaration? text, session.rootPath? with
      | some matcher, some root => session.findUsages disk replies root matcher
      | _, _ => session.answering (.locations [])

/-- Answer a request for the definition of the resource at a position. -/
def definition (session : Session) (disk : Disk) (uri : Uri) (position : Position) :
    Outcome :=
  let line? := (DocumentSource.ofDisk disk session.documents).line? uri position.line
  match line?.bind fun line => disk.definition? uri line position.column with
  | some location => session.answering (.location location)
  | none => session.answering .nothing

/-- Start a session. -/
def start (session : Session) (root : Option Text) (folders : List Text) : Outcome :=
  match readOptionalUri? root, readUris? folders with
  | some root, some folders =>
      { session with phase := .running, root := root.or folders.head? }.answering .capabilities
  | _, _ => session.refusing .invalidParameters

/-- React to a request in a running session. -/
def handle (session : Session) (disk : Disk) (replies : EditorReplies) : Request → Outcome
  | .start _ _ => session.refusing .invalidRequest
  | .references uri line =>
      match Uri.read? uri with
      | some uri => session.references disk replies uri line
      | none => session.refusing .invalidParameters
  | .definition uri position =>
      match Uri.read? uri with
      | some uri => session.definition disk uri position
      | none => session.refusing .invalidParameters
  | .shutdown => { session with phase := .shutDown, documents := .empty }.answering .nothing

/-- Change the open documents, if the URI can be read. -/
def withDocument (session : Session) (uri : Text)
    (change : Documents → Uri → Documents) : Session :=
  match Uri.read? uri with
  | some uri => { session with documents := change session.documents uri }
  | none => session

/-- The root of the workspace as the log shows it. -/
def shownRoot (session : Session) : Text :=
  match session.rootPath? with
  | some root => "Some(".toList ++ root.bytes.quoted ++ [')']
  | none => "None".toList

/-- The message that the log of the editor gets when it is ready. -/
def greeting (session : Session) : Text :=
  "Angular selector language server initialized (root: ".toList ++ session.shownRoot ++ [')']

/-- React to a notification in a running session.  Of several changes to a document
the first one counts. -/
def note (session : Session) : Notification → Outcome
  | .started => ⟨session, .silence, [.log session.greeting]⟩
  | .opened uri text => (session.withDocument uri (·.insert · text)).silently
  | .changed uri texts =>
      match texts with
      | [] => session.silently
      | text :: _ => (session.withDocument uri (·.insert · text)).silently
  | .saved uri text =>
      match text with
      | none => session.silently
      | some text => (session.withDocument uri (·.insert · text)).silently
  | .closed uri => (session.withDocument uri (·.erase ·)).silently
  | .exit => { session with phase := .over }.silently

/-- React to a message. -/
def step (session : Session) (disk : Disk) (replies : EditorReplies) (message : Message) :
    Outcome :=
  match session.phase, message with
  | .over, _ => ⟨session, .over, []⟩
  | _, .notification .exit => session.note .exit
  | .running, .notification notification => session.note notification
  | .running, .request request => session.handle disk replies request
  | .fresh, .request (.start root folders) => session.start root folders
  | .fresh, .request _ => session.refusing .notStarted
  | .shutDown, .request _ => session.refusing .invalidRequest
  | _, .notification _ => session.silently

end Session

end SelectorNavigation
