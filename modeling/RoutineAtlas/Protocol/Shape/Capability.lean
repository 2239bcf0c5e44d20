import RoutineAtlas.Protocol.Shape.Document

/-!
# Shapes of capabilities

What a client may tell about itself in its first message.
-/

namespace RoutineAtlas.Shape

/-- An ability that only can be registered later. -/
def registration : Shape :=
  flags "DynamicRegistrationClientCapabilities" ["dynamicRegistration"]

/-- Abilities about a feature that can be registered later. -/
def registered (name : String) (members : List (String × Shape)) : Shape :=
  record name (("dynamicRegistration", optional bool) :: members)

/-- Numbers that a client knows. -/
def valueSet (name : String) : Shape :=
  record name [("valueSet", optional (list signed))]

/-- Tags that a client knows. -/
def tagSupport : Shape :=
  defaulted (flagOr (record "TagSupport" [("valueSet", list signed)]))

/-- Members that a client can fetch later. -/
def properties (name : String) : Shape :=
  record name [("properties", list string)]

/-- A view that a client can bring up to date on request. -/
def refresh (name : String) : Shape :=
  flags name ["refreshSupport"]

/-- What a client can do in a workspace. -/
def workspaceCapabilities : Shape :=
  record "WorkspaceClientCapabilities"
    [("applyEdit", optional bool),
      ("workspaceEdit", optional (record "WorkspaceEditClientCapabilities"
        [("documentChanges", optional bool),
          ("resourceOperations", optional (list (word ["create", "rename", "delete"]))),
          ("failureHandling",
            optional (word ["abort", "transactional", "textOnlyTransactional", "undo"])),
          ("normalizesLineEndings", optional bool),
          ("changeAnnotationSupport", optional
            (flags "ChangeAnnotationWorkspaceEditClientCapabilities" ["groupsOnLabel"]))])),
      ("didChangeConfiguration", optional registration),
      ("didChangeWatchedFiles", optional (flags "DidChangeWatchedFilesClientCapabilities"
        ["dynamicRegistration", "relativePatternSupport"])),
      ("symbol", optional (registered "WorkspaceSymbolClientCapabilities"
        [("symbolKind", optional (valueSet "SymbolKindCapability")), ("tagSupport", tagSupport),
          ("resolveSupport", optional (properties "WorkspaceSymbolResolveSupportCapability"))])),
      ("executeCommand", optional registration),
      ("workspaceFolders", optional bool),
      ("configuration", optional bool),
      ("semanticTokens", optional (refresh "SemanticTokensWorkspaceClientCapabilities")),
      ("codeLens", optional (refresh "CodeLensWorkspaceClientCapabilities")),
      ("fileOperations", optional (flags "WorkspaceFileOperationsClientCapabilities"
        ["dynamicRegistration", "didCreate", "willCreate", "didRename", "willRename", "didDelete",
          "willDelete"])),
      ("inlineValue", optional (refresh "InlineValueWorkspaceClientCapabilities")),
      ("inlayHint", optional (refresh "InlayHintWorkspaceClientCapabilities")),
      ("diagnostic", optional (refresh "DiagnosticWorkspaceClientCapabilities"))]

/-- What a client can do with completions. -/
def completionCapabilities : Shape :=
  registered "CompletionClientCapabilities"
    [("completionItem", optional (record "CompletionItemCapability"
        [("snippetSupport", optional bool), ("commitCharactersSupport", optional bool),
          ("documentationFormat", optional (list markupKind)),
          ("deprecatedSupport", optional bool), ("preselectSupport", optional bool),
          ("tagSupport", tagSupport), ("insertReplaceSupport", optional bool),
          ("resolveSupport", optional (properties "CompletionItemCapabilityResolveSupport")),
          ("insertTextModeSupport",
            optional (record "InsertTextModeSupport" [("valueSet", list signed)])),
          ("labelDetailsSupport", optional bool)])),
      ("completionItemKind", optional (valueSet "CompletionItemKindCapability")),
      ("contextSupport", optional bool),
      ("insertTextMode", optional signed),
      ("completionList", optional (record "CompletionListCapability"
        [("itemDefaults", optional (list string))]))]

/-- What a client can do with the signatures of calls. -/
def signatureCapabilities : Shape :=
  registered "SignatureHelpClientCapabilities"
    [("signatureInformation", optional (record "SignatureInformationSettings"
        [("documentationFormat", optional (list markupKind)),
          ("parameterInformation",
            optional (flags "ParameterInformationSettings" ["labelOffsetSupport"])),
          ("activeParameterSupport", optional bool)])),
      ("contextSupport", optional bool)]

/-- What a client can do with links to other places. -/
def linkCapabilities : Shape :=
  flags "GotoCapability" ["dynamicRegistration", "linkSupport"]

/-- What a client can do with code actions. -/
def codeActionCapabilities : Shape :=
  registered "CodeActionClientCapabilities"
    [("codeActionLiteralSupport", optional (record "CodeActionLiteralSupport"
        [("codeActionKind", record "CodeActionKindLiteralSupport" [("valueSet", list string)])])),
      ("isPreferredSupport", optional bool),
      ("disabledSupport", optional bool),
      ("dataSupport", optional bool),
      ("resolveSupport", optional (properties "CodeActionCapabilityResolveSupport")),
      ("honorsChangeAnnotations", optional bool)]

/-- What a client can do with semantic tokens. -/
def semanticTokenCapabilities : Shape :=
  registered "SemanticTokensClientCapabilities"
    [("requests", record "SemanticTokensClientCapabilitiesRequests"
        [("range", optional bool),
          ("full", optional (choice "SemanticTokensFullOptions"
            [bool, spread "Delta" [("delta", optional bool)] []]))]),
      ("tokenTypes", list string),
      ("tokenModifiers", list string),
      ("formats", list string),
      ("overlappingTokenSupport", optional bool),
      ("multilineTokenSupport", optional bool),
      ("serverCancelSupport", optional bool),
      ("augmentsSyntaxTokens", optional bool)]

/-- What a client can do with a document. -/
def documentCapabilities : Shape :=
  record "TextDocumentClientCapabilities"
    [("synchronization", optional (flags "TextDocumentSyncClientCapabilities"
        ["dynamicRegistration", "willSave", "willSaveWaitUntil", "didSave"])),
      ("completion", optional completionCapabilities),
      ("hover", optional (registered "HoverClientCapabilities"
        [("contentFormat", optional (list markupKind))])),
      ("signatureHelp", optional signatureCapabilities),
      ("references", optional registration),
      ("documentHighlight", optional registration),
      ("documentSymbol", optional (registered "DocumentSymbolClientCapabilities"
        [("symbolKind", optional (valueSet "SymbolKindCapability")),
          ("hierarchicalDocumentSymbolSupport", optional bool), ("tagSupport", tagSupport)])),
      ("formatting", optional registration),
      ("rangeFormatting", optional registration),
      ("onTypeFormatting", optional registration),
      ("declaration", optional linkCapabilities),
      ("definition", optional linkCapabilities),
      ("typeDefinition", optional linkCapabilities),
      ("implementation", optional linkCapabilities),
      ("codeAction", optional codeActionCapabilities),
      ("codeLens", optional registration),
      ("documentLink", optional (flags "DocumentLinkClientCapabilities"
        ["dynamicRegistration", "tooltipSupport"])),
      ("colorProvider", optional registration),
      ("rename", optional (registered "RenameClientCapabilities"
        [("prepareSupport", optional bool), ("prepareSupportDefaultBehavior", optional signed),
          ("honorsChangeAnnotations", optional bool)])),
      ("publishDiagnostics", optional (record "PublishDiagnosticsClientCapabilities"
        [("relatedInformation", optional bool), ("tagSupport", tagSupport),
          ("versionSupport", optional bool), ("codeDescriptionSupport", optional bool),
          ("dataSupport", optional bool)])),
      ("foldingRange", optional (registered "FoldingRangeClientCapabilities"
        [("rangeLimit", optional unsigned), ("lineFoldingOnly", optional bool),
          ("foldingRangeKind", optional (record "FoldingRangeKindCapability"
            [("valueSet", optional (list (word ["comment", "imports", "region"])))])),
          ("foldingRange", optional (flags "FoldingRangeCapability" ["collapsedText"]))])),
      ("selectionRange",
        optional (flags "SelectionRangeClientCapabilities" ["dynamicRegistration"])),
      ("linkedEditingRange", optional registration),
      ("callHierarchy", optional registration),
      ("semanticTokens", optional semanticTokenCapabilities),
      ("moniker", optional registration),
      ("typeHierarchy", optional registration),
      ("inlineValue", optional registration),
      ("inlayHint", optional (registered "InlayHintClientCapabilities"
        [("resolveSupport", optional (properties "InlayHintResolveClientCapabilities"))])),
      ("diagnostic", optional (flags "DiagnosticClientCapabilities"
        ["dynamicRegistration", "relatedDocumentSupport"]))]

/-- What a client can show in its windows. -/
def windowCapabilities : Shape :=
  record "WindowClientCapabilities"
    [("workDoneProgress", optional bool),
      ("showMessage", optional (record "ShowMessageRequestClientCapabilities"
        [("messageActionItem",
          optional (flags "MessageActionItemCapabilities" ["additionalPropertiesSupport"]))])),
      ("showDocument", optional (record "ShowDocumentClientCapabilities" [("support", bool)]))]

/-- What a client can do in general. -/
def generalCapabilities : Shape :=
  record "GeneralClientCapabilities"
    [("regularExpressions", optional (record "RegularExpressionsClientCapabilities"
        [("engine", string), ("version", optional string)])),
      ("markdown", optional (record "MarkdownClientCapabilities"
        [("parser", string), ("version", optional string),
          ("allowedTags", optional (list string))])),
      ("staleRequestSupport", optional (record "StaleRequestSupportClientCapabilities"
        [("cancel", bool), ("retryOnContentModified", list string)])),
      ("positionEncodings", optional (list string))]

/-- What a client can do. -/
def clientCapabilities : Shape :=
  record "ClientCapabilities"
    [("workspace", optional workspaceCapabilities),
      ("textDocument", optional documentCapabilities),
      ("window", optional windowCapabilities),
      ("general", optional generalCapabilities),
      ("experimental", optional any)]

end RoutineAtlas.Shape
