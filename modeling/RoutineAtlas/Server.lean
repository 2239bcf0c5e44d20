import RoutineAtlas.Protocol.Message
import RoutineAtlas.Settings.Load
import RoutineAtlas.Workspace.Scan

/-!
# The language server

A session with an editor. The server keeps the text of every open document and analyses it again
with every change; whenever the workspace has changed, the diagnostics of all open documents are
sent, since a change in one file can bring problems to its callers.
-/

namespace RoutineAtlas

/-- How far a session has come. -/
inductive Phase where
  | fresh
  | running
  | shutDown
  | exited
deriving DecidableEq, Repr

/-- The workspace of a session with its settings. -/
structure Project where
  root : Path
  settings : Settings
  workspace : Workspace
deriving DecidableEq, Repr

/-- A server. -/
structure Server where
  phase : Phase
  project : Option Project
  /-- The open documents with their texts. -/
  documents : List (Url × Text)
deriving DecidableEq, Repr

/-- What a server finds around it. -/
structure Surroundings where
  disk : Disk
  /-- The home directory of the user. -/
  home : Path
deriving DecidableEq, Repr

namespace Project

/-- The diagnostics of a document, if it has been analysed. -/
def publish? (p : Project) (u : Url) : Option ServerNotice := do
  let found ← p.workspace.diagnostics? p.settings (← documentPath? u)
  return .diagnostics u found

/-- The messages for the user that the workspace has logged since it had `old` entries. -/
def alertsSince (p : Project) (old : Nat) : List ServerNotice :=
  (p.workspace.log.drop old).filterMap fun e => e.alert.map (.shown e.severity)

/-- The answer to a question. -/
def answer (p : Project) (q : Question) : Json :=
  let w := p.workspace
  let at? {α : Type} (u : Url) (f : Path → Option α) (json : α → Json) : Json :=
    .orNull (((documentPath? u).bind f).map json)
  match q with
  | .hover u here => at? u (w.hover? p.settings · here) Hover.json
  | .definition u here => at? u (w.definition? · here) fun ls => .array (ls.map Location.json)
  | .references u here => at? u (w.references? · here) fun ls => .array (ls.map Location.json)
  | .completion u here => at? u (w.complete? p.settings · here) CompletionList.json
  | .semanticTokens u =>
    .orNull ((w.semanticTokens? p.settings u).map fun ts =>
      .object [("data", SemanticToken.dataJson ts)])
  | .documentSymbol u => at? u w.outline? fun ss => .array (ss.map RoutineSymbol.json)
  | .workspaceSymbol query => .array ((w.search query).map FoundSymbol.json)

end Project

namespace Server

/-- A server before its first message. -/
def fresh : Server :=
  ⟨.fresh, none, []⟩

/-- The text of an open document. -/
def text? (s : Server) (u : Url) : Option Text :=
  s.documents.lookup u

/-- The server with a document open. -/
def withText (s : Server) (u : Url) (text : Text) : Server :=
  { s with documents := (s.documents.filter fun entry => entry.1 != u) ++ [(u, text)] }

/-- The server with a document closed. -/
def withoutText (s : Server) (u : Url) : Server :=
  { s with documents := s.documents.filter fun entry => entry.1 != u }

/-- The server with another workspace. -/
def withWorkspace (s : Server) (p : Project) (w : Workspace) : Server :=
  { s with project := some { p with workspace := w } }

/-- The diagnostics of all open documents. -/
def publishAll (s : Server) : List ServerNotice :=
  match s.project with
  | some p => s.documents.filterMap fun entry => p.publish? entry.1
  | none => []

/-- Analyse a text as the present version of a document. -/
def reindex (s : Server) (u : Url) (text : Text) (withChecks : Bool) :
    List ServerNotice × Server :=
  match s.project, documentPath? u with
  | some p, some path =>
    let (outcome, w) := p.workspace.indexFile path text withChecks
    let s := s.withWorkspace p w
    match outcome with
    | .committed _ => (s.publishAll, s)
    | .superseded _ => ([], s)
  | _, _ => ([], s)

/-- Bring a document that is not open in line with the disk. A document without a file is
forgotten. -/
def reload (around : Surroundings) (s : Server) (u : Url) : List ServerNotice × Server :=
  match s.project, documentPath? u with
  | some p, some path =>
    match if isVirtualDocument path then none else around.disk.read? path with
    | some text => s.reindex u text true
    | none =>
      let (removed, w) := p.workspace.removeFile path
      let s := s.withWorkspace p w
      (if removed.isSome then .diagnostics u [] :: s.publishAll else [], s)
  | _, _ => ([], s)

/-- Bring those of some documents that are not open in line with the disk. -/
def reloadAll (around : Surroundings) (s : Server) : List Url → List ServerNotice × Server
  | [] => ([], s)
  | u :: rest =>
    let (first, s) := if (s.text? u).isSome then ([], s) else reload around s u
    let (others, s) := reloadAll around s rest
    (first ++ others, s)

/-- Index the workspace for the first time. -/
def indexProject (around : Surroundings) (s : Server) : List ServerNotice × Server :=
  match s.project with
  | none => ([], s)
  | some p =>
    let (result, w) := p.workspace.scan around.disk [p.root] false
    let s := s.withWorkspace p w
    match result with
    | .error e => ([.shown .error ("Failed to index workspace: " ++ e.message)], s)
    | .ok summary =>
      let alerts := { p with workspace := w }.alertsSince p.workspace.log.length
      let line := "Indexed " ++ toString summary.indexed.length ++ " files, " ++
        toString summary.routines ++ " routines, " ++ toString summary.problems ++ " problems"
      (alerts ++ .logged .info line :: s.publishAll, s)

/-- Take note of an event. -/
def handle (around : Surroundings) (s : Server) (e : Event) : List ServerNotice × Server :=
  match e with
  | .initialized => indexProject around s
  | .opened u text => (s.withText u text).reindex u text true
  | .changed u changes =>
    let text := ((s.text? u).getD []).editAll changes
    let checks := (s.project.map (·.settings.checkOnChange)).getD true
    (s.withText u text).reindex u text checks
  | .saved u (some text) => (s.withText u text).reindex u text true
  | .saved u none =>
    match s.text? u with
    | some text => s.reindex u text true
    | none => reload around s u
  | .closed u => reload around (s.withoutText u) u
  | .filesChanged us => reloadAll around s us

/-! ## Sessions -/

/-- The client can show semantic tokens, as far as it tells what it can do with documents. -/
def showsSemanticTokens (capabilities : Json) : Bool :=
  match capabilities.get? "textDocument" with
  | some (.object fields) =>
    match Json.get? (.object fields) "semanticTokens" with
    | some (.object _) => true
    | _ => false
  | _ => true

/-- The root directory that the first message of a session names: that of the first folder, or else
the one given on its own. -/
def rootOf? (params : Json) : Option Path :=
  let folder := ((params.items? "workspaceFolders").bind (·.head?)).bind (·.url? "uri")
  (folder.bind (·.filePath?)) <|> ((params.url? "rootUri").bind (·.filePath?))

/-- What the server can do. -/
def capabilities (settings : Settings) : Json :=
  .record
    [("textDocumentSync", some (.object
        [("openClose", .bool true), ("change", .ofNat 2),
          ("save", .object [("includeText", .bool true)])])),
      ("hoverProvider", some (.bool true)),
      ("definitionProvider", some (.bool true)),
      ("referencesProvider", some (.bool true)),
      ("documentSymbolProvider", some (.bool true)),
      ("workspaceSymbolProvider", some (.bool true)),
      ("completionProvider", some (.object
        [("resolveProvider", .bool false),
          ("triggerCharacters", .array [.string ">", .string "/"])])),
      ("semanticTokensProvider", if settings.semanticTokens then
        some (.object [("legend", SemanticToken.legendJson), ("full", .bool true)]) else none)]

/-- The version of the server. -/
def version : String :=
  "0.1.0"

/-- Begin a session: find the root of the workspace and its settings. Settings that cannot be read
are those where nothing has been chosen. -/
def begin (around : Surroundings) (s : Server) (params : Json) : Json × Server :=
  let root := (rootOf? params).getD (Disk.absolute around.disk.start)
  let shows := showsSemanticTokens ((params.get? "capabilities").getD .null)
  let settings := match Settings.load around.disk around.home root shows with
    | .ok settings => settings
    | .error _ => .default
  let result : Json := .object
    [("capabilities", capabilities settings),
      ("serverInfo", .object [("name", .string serverName), ("version", .string version)])]
  (result, { s with
    phase := .running
    project := some ⟨root, settings, .empty settings.filePatterns⟩ })

/-- The error that a message meets outside the running phase. -/
def phaseError? (s : Server) : Option RequestError :=
  match s.phase with
  | .fresh => some .notInitialized
  | .running => none
  | .shutDown => some .invalidRequest
  | .exited => some .invalidRequest

/-- The end of the running phase. A shutdown message has no parameters. -/
def stop (s : Server) (m : ClientMessage) : Reply × Server :=
  match s.phaseError? with
  | some e => (.toRequest m (.error e), s)
  | none =>
    let response : Except RequestError Json := match m.params with
      | none => .ok .null
      | some v => .error (.invalidParams ("Unexpected params: " ++ v.compact))
    (.toRequest m response, { s with phase := .shutDown })

/-- The first message of a session. -/
def start (around : Surroundings) (s : Server) (m : ClientMessage) : Reply × Server :=
  if s.phase != .fresh then (.toRequest m (.error .invalidRequest), s)
  else if !m.isRequest then (.silent, s)
  else
    match m.fitting Method.startShape with
    | .error e => (.toRequest m (.error e), s)
    | .ok params =>
      let (result, s) := begin around s params
      (.toRequest m (.ok result), s)

/-- A message about an event. -/
def notify (around : Surroundings) (s : Server) (m : ClientMessage) (e : EventMethod) :
    Reply × Server :=
  match s.phaseError? with
  | some err => (.toRequest m (.error err), s)
  | none =>
    if m.isRequest then (.toRequest m (.error .invalidRequest), s)
    else
      match m.decode e.shape e.read? with
      | .error _ => (.silent, s)
      | .ok event =>
        let (notices, s) := handle around s event
        (⟨none, notices⟩, s)

/-- A message that asks a question. -/
def ask (s : Server) (m : ClientMessage) (q : QueryMethod) : Reply :=
  match s.phaseError? with
  | some e => .toRequest m (.error e)
  | none =>
    .toRequest m (do
      let question ← m.decode q.shape q.read?
      return .orNull (s.project.map (·.answer question)))

/-- A message that asks a question without an answer. -/
def refuse (s : Server) (m : ClientMessage) (shape : Shape) : Reply :=
  match s.phaseError? with
  | some e => .toRequest m (.error e)
  | none =>
    .toRequest m (do
      let _ ← m.fitting shape
      throw (.methodNotFound none))

/-- A message with an unknown method. Those of some methods may be ignored. -/
def unknown (m : ClientMessage) : Reply :=
  if m.method.startsWith "$/" then .silent
  else .toRequest m (.error (.methodNotFound (some m.method)))

/-- Take a message; nothing if the session is over. -/
def step (around : Surroundings) (s : Server) (m : ClientMessage) : Option (Reply × Server) :=
  if s.phase == .exited then none
  else
    match Method.ofName? m.method with
    | some .start => some (start around s m)
    | some .shutdown => some (s.stop m)
    | some .exit => some (.silent, { s with phase := .exited })
    | some (.event e) => some (notify around s m e)
    | some (.query q) => some (s.ask m q, s)
    | some (.refused shape) => some (s.refuse m shape, s)
    | some .ignored =>
      some (.toRequest m (.error (s.phaseError?.getD .invalidRequest)), s)
    | none => some (unknown m, s)

end Server

end RoutineAtlas
