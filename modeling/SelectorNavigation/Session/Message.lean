import SelectorNavigation.Settings.Exclude
import SelectorNavigation.Workspace.Documents

/-!
# Messages of a session

An editor and the server exchange messages.  The editor sends requests, which are
answered, and notifications, which are not.  While it works on a request the server
may ask the editor for its configuration, report progress and show messages.  URIs
in messages of the editor are still unread, because one that cannot be read makes
its message invalid.
-/

namespace SelectorNavigation

namespace Session

/-- What the editor asks for. -/
inductive Request where
  /-- Start the session for a root or, failing that, the first of some folders. -/
  | start (root : Option Text) (folders : List Text)
  /-- Find the usages of the selector that a line declares. -/
  | references (uri : Text) (line : Nat)
  /-- Find the file that the resource path at a position denotes. -/
  | definition (uri : Text) (position : Position)
  /-- End all work. -/
  | shutdown

/-- What the editor tells the server. -/
inductive Notification where
  /-- The editor is ready for messages. -/
  | started
  /-- A document was opened with a text. -/
  | opened (uri text : Text)
  /-- A document was changed to one or more whole texts. -/
  | changed (uri : Text) (texts : List Text)
  /-- A document was saved, possibly with its text. -/
  | saved (uri : Text) (text : Option Text)
  /-- A document was closed. -/
  | closed (uri : Text)
  /-- The session is over. -/
  | exit

/-- A message of the editor. -/
inductive Message where
  | request (request : Request)
  | notification (notification : Notification)

/-- How the editor answers what the server asks while it works on a request. -/
structure EditorReplies where
  /-- The configuration, unless the editor refuses to give it. -/
  configuration : Option Json
  /-- The editor agrees to show progress. -/
  acceptsProgress : Bool := true

/-- The settings that the editor gives, one for each section it was asked for.  An
answer that is not a list counts as a refusal. -/
def EditorReplies.settings (replies : EditorReplies) : Option (List Json) :=
  replies.configuration.bind Json.items?

/-- A stage of a task that the editor shows. -/
inductive Progress where
  | begun (title message : Text)
  | report (message : Text)
  | finished (message : Text)
deriving DecidableEq, Repr

/-- A message of the server. -/
inductive ServerMessage where
  /-- Ask for sections of the configuration. -/
  | askConfiguration (sections : List Text)
  /-- Ask for leave to report progress under a token. -/
  | askProgress (token : Text)
  /-- Report progress under a token. -/
  | progress (token : Text) (stage : Progress)
  /-- Show an error to the user. -/
  | showError (message : Text)
  /-- Write to the log of the editor. -/
  | log (message : Text)
deriving DecidableEq, Repr

/-- Why a request is refused. -/
inductive Refusal where
  /-- The session has not been started. -/
  | notStarted
  /-- The request does not fit the state of the session. -/
  | invalidRequest
  /-- A URI in the request cannot be read. -/
  | invalidParameters
deriving DecidableEq, Repr

/-- What a request gives when it is not refused. -/
inductive Answer where
  /-- Nothing. -/
  | nothing
  /-- What the server can do. -/
  | capabilities
  /-- A list of places. -/
  | locations (locations : List Location)
  /-- A single place. -/
  | location (location : Location)
deriving DecidableEq, Repr

/-- How the server reacts to a message. -/
inductive Reply where
  /-- Notifications get no reply. -/
  | silence
  | answer (answer : Answer)
  | refusal (refusal : Refusal)
  /-- The session is over and nothing is received any more. -/
  | over
deriving DecidableEq, Repr

end Session

end SelectorNavigation
