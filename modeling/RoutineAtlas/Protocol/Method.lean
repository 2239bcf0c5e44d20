import RoutineAtlas.Protocol.Shape.Capability

/-!
# Methods

The methods of the language server protocol that the server knows. Many of them it knows only to
refuse them, after a look at their parameters.
-/

namespace RoutineAtlas

/-- The questions that the server answers. -/
inductive QueryMethod where
  | hover
  | definition
  | references
  | completion
  | semanticTokens
  | documentSymbol
  | workspaceSymbol
deriving DecidableEq, Repr

/-- The events that the server takes note of. -/
inductive EventMethod where
  | initialized
  | didOpen
  | didChange
  | didSave
  | didClose
  | didChangeWatchedFiles
deriving DecidableEq, Repr

/-- A method. -/
inductive Method where
  /-- The first message of a session. -/
  | start
  | shutdown
  | exit
  | query (q : QueryMethod)
  | event (e : EventMethod)
  /-- A question without an answer. -/
  | refused (shape : Shape)
  /-- An event of no interest. -/
  | ignored
deriving Repr

namespace Shape

/-- An item of a hierarchy that a client sends back from an earlier answer. -/
def hierarchyItem (name : String) (tags : Shape) : Shape :=
  record name
    [("name", string), ("kind", signed), ("tags", optional tags), ("detail", optional string),
      ("uri", url), ("range", range), ("selectionRange", range), ("data", optional any)]

/-- Parameters with an item of a hierarchy. -/
def onItem (name : String) (item : Shape) : Shape :=
  spread name [("item", item)] [progress, pieces]

/-- An item of a hierarchy of calls. -/
def callItem : Shape :=
  hierarchyItem "CallHierarchyItem" (list signed)

/-- An item of a hierarchy of types. -/
def typeItem : Shape :=
  hierarchyItem "TypeHierarchyItem" signed

/-- How a document is laid out. -/
def formatting : Shape :=
  loose "FormattingOptions"
    [("tabSize", unsigned), ("insertSpaces", bool), ("trimTrailingWhitespace", optional bool),
      ("insertFinalNewline", optional bool), ("trimFinalNewlines", optional bool)]
    (choice "FormattingProperty" [bool, signed, string])

/-- The files that are about to be made, renamed or deleted. -/
def files (name item : String) (members : List String) : Shape :=
  record name [("files", list (record item (members.map fun m => (m, string))))]

/-- A completion that a client sends back from an earlier answer. -/
def completionItem : Shape :=
  record "CompletionItem"
    [("label", string),
      ("labelDetails", optional (record "CompletionItemLabelDetails"
        [("detail", optional string), ("description", optional string)])),
      ("kind", optional signed), ("detail", optional string),
      ("documentation", optional (plainOrMarkup "Documentation")),
      ("deprecated", optional bool), ("preselect", optional bool), ("sortText", optional string),
      ("filterText", optional string), ("insertText", optional string),
      ("insertTextFormat", optional signed), ("insertTextMode", optional signed),
      ("textEdit", optional (choice "CompletionTextEdit"
        [edit, record "InsertReplaceEdit"
          [("newText", string), ("insert", range), ("replace", range)]])),
      ("additionalTextEdits", optional (list edit)), ("command", optional command),
      ("commitCharacters", optional (list string)), ("data", optional any),
      ("tags", optional (list signed))]

/-- A note between the characters of a line that a client sends back from an earlier answer. -/
def inlayHint : Shape :=
  record "InlayHint"
    [("position", position),
      ("label", choice "InlayHintLabel"
        [string, list (record "InlayHintLabelPart"
          [("value", string), ("tooltip", optional (plainOrMarkup "InlayHintLabelPartTooltip")),
            ("location", optional location), ("command", optional command)])]),
      ("kind", optional signed), ("textEdits", optional (list edit)),
      ("tooltip", optional (plainOrMarkup "InlayHintTooltip")),
      ("paddingLeft", optional bool), ("paddingRight", optional bool), ("data", optional any)]

/-- The signatures of a call that a client shows at present. -/
def signatureHelp : Shape :=
  record "SignatureHelp"
    [("signatures", list (record "SignatureInformation"
        [("label", string), ("documentation", optional (plainOrMarkup "Documentation")),
          ("parameters", optional (list (record "ParameterInformation"
            [("label", choice "ParameterLabel" [string, pair unsigned]),
              ("documentation", optional (plainOrMarkup "Documentation"))]))),
          ("activeParameter", optional unsigned)])),
      ("activeSignature", optional unsigned), ("activeParameter", optional unsigned)]

/-- A code action that a client sends back from an earlier answer. -/
def codeAction : Shape :=
  record "CodeAction"
    [("title", string), ("kind", optional string), ("diagnostics", optional (list diagnostic)),
      ("edit", optional workspaceEdit), ("command", optional command),
      ("isPreferred", optional bool),
      ("disabled", optional (record "CodeActionDisabled" [("reason", string)])),
      ("data", optional any)]

/-- The methods that are refused, with their parameters. -/
def ofRefused : List (String × Shape) :=
  [("textDocument/willSaveWaitUntil",
      record "WillSaveTextDocumentParams" [("textDocument", document), ("reason", signed)]),
    ("textDocument/declaration", onPlace "GotoDefinitionParams" [] [progress, pieces]),
    ("textDocument/typeDefinition", onPlace "GotoDefinitionParams" [] [progress, pieces]),
    ("textDocument/implementation", onPlace "GotoDefinitionParams" [] [progress, pieces]),
    ("textDocument/prepareCallHierarchy", onPlace "CallHierarchyPrepareParams" [] [progress]),
    ("callHierarchy/incomingCalls", onItem "CallHierarchyIncomingCallsParams" callItem),
    ("callHierarchy/outgoingCalls", onItem "CallHierarchyOutgoingCallsParams" callItem),
    ("textDocument/prepareTypeHierarchy", onPlace "TypeHierarchyPrepareParams" [] [progress]),
    ("typeHierarchy/supertypes", onItem "TypeHierarchySupertypesParams" typeItem),
    ("typeHierarchy/subtypes", onItem "TypeHierarchySubtypesParams" typeItem),
    ("textDocument/documentHighlight", onPlace "DocumentHighlightParams" [] [progress, pieces]),
    ("textDocument/documentLink", onDocument "DocumentLinkParams" [] [progress, pieces]),
    ("documentLink/resolve",
      record "DocumentLink"
        [("range", range), ("target", optional url), ("tooltip", optional string),
          ("data", optional any)]),
    ("textDocument/codeLens", onDocument "CodeLensParams" [] [progress, pieces]),
    ("codeLens/resolve",
      record "CodeLens"
        [("range", range), ("command", optional command), ("data", optional any)]),
    ("textDocument/foldingRange", onDocument "FoldingRangeParams" [] [progress, pieces]),
    ("textDocument/selectionRange",
      onDocument "SelectionRangeParams" [("positions", list position)] [progress, pieces]),
    ("textDocument/semanticTokens/full/delta",
      onDocument "SemanticTokensDeltaParams" [("previousResultId", string)] [progress, pieces]),
    ("textDocument/semanticTokens/range",
      onDocument "SemanticTokensRangeParams" [("range", range)] [progress, pieces]),
    ("textDocument/inlineValue",
      onDocument "InlineValueParams"
        [("range", range),
          ("context", record "InlineValueContext"
            [("frameId", signed), ("stoppedLocation", range)])] [progress]),
    ("textDocument/inlayHint", onDocument "InlayHintParams" [("range", range)] [progress]),
    ("inlayHint/resolve", inlayHint),
    ("textDocument/moniker", onPlace "MonikerParams" [] [progress, pieces]),
    ("completionItem/resolve", completionItem),
    ("textDocument/diagnostic",
      onDocument "DocumentDiagnosticParams"
        [("identifier", optional string), ("previousResultId", optional string)]
        [progress, pieces]),
    ("workspace/diagnostic",
      spread "WorkspaceDiagnosticParams"
        [("identifier", optional string),
          ("previousResultIds",
            list (record "PreviousResultId" [("uri", url), ("value", string)]))]
        [progress, pieces]),
    ("textDocument/signatureHelp",
      onPlace "SignatureHelpParams"
        [("context", optional (record "SignatureHelpContext"
          [("triggerKind", signed), ("triggerCharacter", optional string),
            ("isRetrigger", bool), ("activeSignatureHelp", optional signatureHelp)]))]
        [progress]),
    ("textDocument/codeAction",
      onDocument "CodeActionParams"
        [("range", range),
          ("context", record "CodeActionContext"
            [("diagnostics", list diagnostic), ("only", optional (list string)),
              ("triggerKind", optional signed)])] [progress, pieces]),
    ("codeAction/resolve", codeAction),
    ("textDocument/documentColor", onDocument "DocumentColorParams" [] [progress, pieces]),
    ("textDocument/colorPresentation",
      onDocument "ColorPresentationParams"
        [("color", record "Color"
            [("red", number), ("green", number), ("blue", number), ("alpha", number)]),
          ("range", range)] [progress, pieces]),
    ("textDocument/formatting",
      onDocument "DocumentFormattingParams" [("options", formatting)] [progress]),
    ("textDocument/rangeFormatting",
      onDocument "DocumentRangeFormattingParams" [("range", range), ("options", formatting)]
        [progress]),
    ("textDocument/onTypeFormatting",
      onPlace "DocumentOnTypeFormattingParams" [("ch", string), ("options", formatting)] []),
    ("textDocument/rename", onPlace "RenameParams" [("newName", string)] [progress]),
    ("textDocument/prepareRename", place),
    ("textDocument/linkedEditingRange", onPlace "LinkedEditingRangeParams" [] [progress]),
    ("workspaceSymbol/resolve",
      record "WorkspaceSymbol"
        [("name", string), ("kind", signed), ("tags", optional (list signed)),
          ("containerName", optional string),
          ("location", choice "OneOf" [location, record "WorkspaceLocation" [("uri", url)]]),
          ("data", optional any)]),
    ("workspace/willCreateFiles", files "CreateFilesParams" "FileCreate" ["uri"]),
    ("workspace/willRenameFiles", files "RenameFilesParams" "FileRename" ["oldUri", "newUri"]),
    ("workspace/willDeleteFiles", files "DeleteFilesParams" "FileDelete" ["uri"]),
    ("workspace/executeCommand",
      spread "ExecuteCommandParams"
        [("command", string), ("arguments", defaulted (list any))] [progress])]

end Shape

namespace QueryMethod

/-- The name of a question. -/
def name : QueryMethod → String
  | hover => "textDocument/hover"
  | definition => "textDocument/definition"
  | references => "textDocument/references"
  | completion => "textDocument/completion"
  | semanticTokens => "textDocument/semanticTokens/full"
  | documentSymbol => "textDocument/documentSymbol"
  | workspaceSymbol => "workspace/symbol"

/-- All questions. -/
def all : List QueryMethod :=
  [hover, definition, references, completion, semanticTokens, documentSymbol, workspaceSymbol]

/-- The parameters of a question. -/
def shape : QueryMethod → Shape
  | hover => .onPlace "HoverParams" [] [.progress]
  | definition => .onPlace "GotoDefinitionParams" [] [.progress, .pieces]
  | references =>
    .onPlace "ReferenceParams"
      [("context", .record "ReferenceContext" [("includeDeclaration", .bool)])]
      [.progress, .pieces]
  | completion =>
    .onPlace "CompletionParams"
      [("context", .optional (.record "CompletionContext"
        [("triggerKind", .signed), ("triggerCharacter", .optional .string)]))]
      [.progress, .pieces]
  | semanticTokens => .onDocument "SemanticTokensParams" [] [.progress, .pieces]
  | documentSymbol => .onDocument "DocumentSymbolParams" [] [.progress, .pieces]
  | workspaceSymbol =>
    .spread "WorkspaceSymbolParams" [("query", .string)] [.pieces, .progress]

end QueryMethod

namespace EventMethod

/-- The name of an event. -/
def name : EventMethod → String
  | initialized => "initialized"
  | didOpen => "textDocument/didOpen"
  | didChange => "textDocument/didChange"
  | didSave => "textDocument/didSave"
  | didClose => "textDocument/didClose"
  | didChangeWatchedFiles => "workspace/didChangeWatchedFiles"

/-- All events. -/
def all : List EventMethod :=
  [initialized, didOpen, didChange, didSave, didClose, didChangeWatchedFiles]

/-- The parameters of an event. -/
def shape : EventMethod → Shape
  | initialized => .record "InitializedParams" []
  | didOpen =>
    .record "DidOpenTextDocumentParams"
      [("textDocument", .record "TextDocumentItem"
        [("uri", .url), ("languageId", .string), ("version", .signed), ("text", .string)])]
  | didChange =>
    .record "DidChangeTextDocumentParams"
      [("textDocument", .record "VersionedTextDocumentIdentifier"
          [("uri", .url), ("version", .signed)]),
        ("contentChanges", .list (.record "TextDocumentContentChangeEvent"
          [("range", .optional .range), ("rangeLength", .optional .unsigned),
            ("text", .string)]))]
  | didSave =>
    .record "DidSaveTextDocumentParams"
      [("textDocument", .document), ("text", .optional .string)]
  | didClose => .record "DidCloseTextDocumentParams" [("textDocument", .document)]
  | didChangeWatchedFiles =>
    .record "DidChangeWatchedFilesParams"
      [("changes", .list (.record "FileEvent" [("uri", .url), ("type", .signed)]))]

end EventMethod

namespace Method

/-- The events of no interest. -/
def ignoredNames : List String :=
  ["$/cancelRequest", "textDocument/willSave", "workspace/didChangeConfiguration",
    "workspace/didChangeWorkspaceFolders", "workspace/didCreateFiles",
    "workspace/didRenameFiles", "workspace/didDeleteFiles"]

/-- The method with a name. -/
def ofName? (name : String) : Option Method :=
  if name == "initialize" then some start
  else if name == "shutdown" then some shutdown
  else if name == "exit" then some exit
  else if ignoredNames.contains name then some ignored
  else
    ((QueryMethod.all.find? fun q => q.name == name).map query) <|>
      ((EventMethod.all.find? fun e => e.name == name).map event) <|>
      ((Shape.ofRefused.lookup name).map refused)

/-- The parameters of the first message of a session. -/
def startShape : Shape :=
  .record "InitializeParams"
    [("processId", .optional .unsigned), ("rootPath", .optional .string),
      ("rootUri", .defaulted (.optional .url)), ("initializationOptions", .optional .any),
      ("capabilities", .clientCapabilities),
      ("trace", .defaulted (.optional (.word ["off", "messages", "verbose"]))),
      ("workspaceFolders", .optional (.list (.record "WorkspaceFolder"
        [("uri", .url), ("name", .string)]))),
      ("clientInfo", .optional (.record "ClientInfo"
        [("name", .string), ("version", .optional .string)])),
      ("locale", .optional .string)]

end Method

end RoutineAtlas
