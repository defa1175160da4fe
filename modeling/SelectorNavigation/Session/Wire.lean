import SelectorNavigation.Session.Message

/-!
# Messages as JSON

What the server sends is written as JSON: for each of its own messages a method and
parameters, for an answer a result, and for a refusal a code and a text.
-/

namespace SelectorNavigation

namespace Json

/-- A string value. -/
def ofString (text : String) : Json := .string text.toList

/-- A number value. -/
def ofNat (number : Nat) : Json := .number (toString number).toList

/-- An object with the given members. -/
def ofMembers (members : List (String × Json)) : Json :=
  .object (members.map fun member => (member.1.toList, member.2))

end Json

/-- A position as JSON. -/
def Position.toJson (position : Position) : Json :=
  .ofMembers [("line", .ofNat position.line), ("character", .ofNat position.column)]

/-- A span as JSON. -/
def Span.toJson (span : Span) : Json :=
  .ofMembers [("start", span.start.toJson), ("end", span.stop.toJson)]

/-- A place in a document as JSON. -/
def Location.toJson (location : Location) : Json :=
  .ofMembers [("uri", .string location.uri.toText), ("range", location.span.toJson)]

namespace Session

/-- What the server can do: it takes whole texts of documents and finds definitions
and references. -/
def capabilities : Json :=
  .ofMembers [
    ("capabilities", .ofMembers [("textDocumentSync", .ofNat 1),
      ("definitionProvider", .bool true), ("referencesProvider", .bool true)]),
    ("serverInfo", .ofMembers [("name", .ofString "angular-selector-lsp"),
      ("version", .ofString "0.1.0")])]

/-- An answer as JSON. -/
def Answer.toJson : Answer → Json
  | nothing => .null
  | capabilities => Session.capabilities
  | locations places => .array (places.map Location.toJson)
  | location place => place.toJson

/-- The code of a refusal. -/
def Refusal.code : Refusal → Int
  | notStarted => -32002
  | invalidRequest => -32600
  | invalidParameters => -32602

/-- The fixed text of a refusal, where it has one. -/
def Refusal.message? : Refusal → Option String
  | notStarted => some "Server not initialized"
  | invalidRequest => some "Invalid request"
  | invalidParameters => none

/-- A stage of a task as JSON. -/
def Progress.toJson : Progress → Json
  | begun title message =>
      .ofMembers [("kind", .ofString "begin"), ("title", .string title),
        ("cancellable", .bool false), ("message", .string message)]
  | report message =>
      .ofMembers [("kind", .ofString "report"), ("cancellable", .bool false),
        ("message", .string message)]
  | finished message =>
      .ofMembers [("kind", .ofString "end"), ("message", .string message)]

/-- The number by which the editor tells an error from other messages. -/
def errorLevel : Nat := 1

/-- The number by which the editor tells information from other messages. -/
def infoLevel : Nat := 3

namespace ServerMessage

/-- The method of a message. -/
def method : ServerMessage → String
  | askConfiguration _ => "workspace/configuration"
  | askProgress _ => "window/workDoneProgress/create"
  | progress _ _ => "$/progress"
  | showError _ => "window/showMessage"
  | log _ => "window/logMessage"

/-- The parameters of a message. -/
def parameters : ServerMessage → Json
  | askConfiguration sections =>
      .ofMembers [("items", .array (sections.map fun name =>
        .ofMembers [("section", .string name)]))]
  | askProgress token => .ofMembers [("token", .string token)]
  | progress token stage => .ofMembers [("token", .string token), ("value", stage.toJson)]
  | showError message =>
      .ofMembers [("type", .ofNat errorLevel), ("message", .string message)]
  | log message => .ofMembers [("type", .ofNat infoLevel), ("message", .string message)]

end ServerMessage

end Session

end SelectorNavigation
