import RoutineAtlas.Protocol.Encode
import RoutineAtlas.Protocol.Method
import RoutineAtlas.Text.Edit

/-!
# Messages of a session

What a client and the server say to each other. A message of the client names a method; its
parameters are read into an `Event` or a `Question` once they fit the shape of the method.
-/

namespace RoutineAtlas

/-- A message of a client. -/
structure ClientMessage where
  /-- The client waits for a response. -/
  isRequest : Bool
  method : String
  params : Option Json

/-- Why a request is refused. -/
inductive RequestError where
  | notInitialized
  | invalidRequest
  /-- The name of the method is repeated if it is not known at all. -/
  | methodNotFound (name : Option String)
  | invalidParams (message : String)
deriving DecidableEq, Repr

namespace RequestError

/-- The number of an error. -/
def code : RequestError → Int
  | notInitialized => -32002
  | invalidRequest => -32600
  | methodNotFound _ => -32601
  | invalidParams _ => -32602

/-- What is said about an error. -/
def message : RequestError → String
  | notInitialized => "Server not initialized"
  | invalidRequest => "Invalid request"
  | methodNotFound _ => "Method not found"
  | invalidParams message => message

/-- An error as JSON. -/
def json (e : RequestError) : Json :=
  let data := match e with
    | methodNotFound name => name.map Json.string
    | _ => none
  .record [("code", some (.int e.code)), ("message", some (.string e.message)), ("data", data)]

end RequestError

/-- A notification for the client. -/
inductive ServerNotice where
  | diagnostics (u : Url) (found : List Diagnostic)
  /-- A line for the log of the client. -/
  | logged (severity : LogSeverity) (message : String)
  /-- A message for the user. -/
  | shown (severity : LogSeverity) (message : String)
deriving DecidableEq, Repr

namespace ServerNotice

/-- The method of a notification. -/
def method : ServerNotice → String
  | diagnostics _ _ => "textDocument/publishDiagnostics"
  | logged _ _ => "window/logMessage"
  | shown _ _ => "window/showMessage"

/-- The parameters of a notification. -/
def params : ServerNotice → Json
  | diagnostics u found =>
    .object [("uri", u.toText.json), ("diagnostics", .array (found.map Diagnostic.json))]
  | logged severity message =>
    .object [("type", .ofNat severity.number), ("message", .string message)]
  | shown severity message =>
    .object [("type", .ofNat severity.number), ("message", .string message)]

end ServerNotice

/-- What a message of a client leads to. -/
structure Reply where
  /-- The response, if one is due. -/
  response : Option (Except RequestError Json)
  notices : List ServerNotice

namespace Reply

/-- No answer at all. -/
def silent : Reply :=
  ⟨none, []⟩

/-- A response to a request, and nothing to any other message. -/
def toRequest (m : ClientMessage) (response : Except RequestError Json) : Reply :=
  ⟨if m.isRequest then some response else none, []⟩

end Reply

/-- Something that happened at the client. -/
inductive Event where
  | initialized
  | opened (u : Url) (text : Text)
  | changed (u : Url) (changes : List TextChange)
  /-- A document was saved, with its text if the client sends it along. -/
  | saved (u : Url) (text : Option Text)
  | closed (u : Url)
  | filesChanged (us : List Url)
deriving DecidableEq, Repr

/-- A question of the client. -/
inductive Question where
  | hover (u : Url) (here : Cursor)
  | definition (u : Url) (here : Cursor)
  | references (u : Url) (here : Cursor)
  | completion (u : Url) (here : Cursor)
  | semanticTokens (u : Url)
  | documentSymbol (u : Url)
  | workspaceSymbol (query : Text)
deriving DecidableEq, Repr

namespace Json

/-- A member that is a string. -/
def text? (v : Json) (name : String) : Option Text :=
  ((v.get? name).bind string?).map String.toList

/-- A member that is a URL. -/
def url? (v : Json) (name : String) : Option Url := do
  match Url.ofText (← v.text? name) with
  | .ok u => some u
  | .error _ => none

/-- The URL of the member for a document. -/
def documentUrl? (v : Json) : Option Url := do
  (← v.get? "textDocument").url? "uri"

/-- A member that is a position. -/
def cursor? (v : Json) (name : String) : Option Cursor := do
  let here ← v.get? name
  return ⟨← (← here.get? "line").nat?, ← (← here.get? "character").nat?⟩

/-- A member that is a range. -/
def range? (v : Json) (name : String) : Option Range := do
  let r ← v.get? name
  return ⟨← r.cursor? "start", ← r.cursor? "end"⟩

/-- A change of a document. -/
def textChange? (v : Json) : Option TextChange := do
  return ⟨v.range? "range", ← v.text? "text"⟩

/-- The items of a member that is a list. -/
def items? (v : Json) (name : String) : Option (List Json) :=
  (v.get? name).bind array?

end Json

namespace EventMethod

/-- The event that fitting parameters describe. -/
def read? (e : EventMethod) (v : Json) : Option Event :=
  match e with
  | initialized => some .initialized
  | didOpen => do
    let document ← v.get? "textDocument"
    return .opened (← document.url? "uri") (← document.text? "text")
  | didChange => do
    return .changed (← v.documentUrl?) (← (← v.items? "contentChanges").mapM Json.textChange?)
  | didSave => do return .saved (← v.documentUrl?) (v.text? "text")
  | didClose => do return .closed (← v.documentUrl?)
  | didChangeWatchedFiles => do
    return .filesChanged (← (← v.items? "changes").mapM fun change => change.url? "uri")

end EventMethod

namespace QueryMethod

/-- The question that fitting parameters ask. -/
def read? (q : QueryMethod) (v : Json) : Option Question :=
  match q with
  | hover => do return .hover (← v.documentUrl?) (← v.cursor? "position")
  | definition => do return .definition (← v.documentUrl?) (← v.cursor? "position")
  | references => do return .references (← v.documentUrl?) (← v.cursor? "position")
  | completion => do return .completion (← v.documentUrl?) (← v.cursor? "position")
  | semanticTokens => do return .semanticTokens (← v.documentUrl?)
  | documentSymbol => do return .documentSymbol (← v.documentUrl?)
  | workspaceSymbol => do return .workspaceSymbol (← v.text? "query")

end QueryMethod

namespace ClientMessage

/-- The parameters of a message in the normal form of a shape, if they fit it. -/
def fitting (m : ClientMessage) (shape : Shape) : Except RequestError Json :=
  match m.params with
  | none => .error (.invalidParams "Missing params field")
  | some v => (shape.fit false v).mapError .invalidParams

/-- What `read?` makes of the parameters of a message, if they fit a shape. -/
def decode {α : Type} (m : ClientMessage) (shape : Shape) (read? : Json → Option α) :
    Except RequestError α := do
  match read? (← m.fitting shape) with
  | some a => return a
  | none => throw .invalidRequest

end ClientMessage

end RoutineAtlas
