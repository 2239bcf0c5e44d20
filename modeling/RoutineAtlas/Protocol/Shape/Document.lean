import RoutineAtlas.Protocol.Shape

/-!
# Shapes about documents

Positions and ranges, edits, commands and diagnostics, as many messages hold them.
-/

namespace RoutineAtlas.Shape

/-- A number or a string. -/
def token : Shape :=
  choice "NumberOrString" [signed, string]

/-- A document by its URL. -/
def document : Shape :=
  record "TextDocumentIdentifier" [("uri", url)]

/-- A position in a document. -/
def position : Shape :=
  record "Position" [("line", unsigned), ("character", unsigned)]

/-- A range of a document. -/
def range : Shape :=
  record "Range" [("start", position), ("end", position)]

/-- A range of some document. -/
def location : Shape :=
  record "Location" [("uri", url), ("range", range)]

/-- A document and a position in it. -/
def place : Shape :=
  record "TextDocumentPositionParams" [("textDocument", document), ("position", position)]

/-- The token by which a client asks how far the work is. -/
def progress : Shape :=
  record "WorkDoneProgressParams" [("workDoneToken", optional token)]

/-- The token by which a client asks for results in parts. -/
def pieces : Shape :=
  record "PartialResultParams" [("partialResultToken", optional token)]

/-! ## Text -/

/-- The languages that text for a user is written in. -/
def markupKind : Shape :=
  word ["plaintext", "markdown"]

/-- Text for a user. -/
def markup : Shape :=
  record "MarkupContent" [("kind", markupKind), ("value", string)]

/-- Text for a user, or plain text. -/
def plainOrMarkup (name : String) : Shape :=
  choice name [string, markup]

/-! ## Edits and commands -/

/-- A command. -/
def command : Shape :=
  record "Command" [("title", string), ("command", string), ("arguments", optional (list any))]

/-- An edit of a document. -/
def edit : Shape :=
  record "TextEdit" [("range", range), ("newText", string)]

/-- Edits of one version of a document. -/
def documentEdit : Shape :=
  record "TextDocumentEdit"
    [("textDocument", record "OptionalVersionedTextDocumentIdentifier"
        [("uri", url), ("version", optional signed)]),
      ("edits", list (choice "OneOf" [edit]))]

/-- Some switches that may be given. -/
def flags (name : String) (members : List String) : Shape :=
  record name (members.map fun m => (m, optional bool))

/-- A change of the files on disk. -/
def fileOperation : Shape :=
  tagged "kind"
    [("create", record "CreateFile"
        [("uri", url),
          ("options", optional (flags "CreateFileOptions" ["overwrite", "ignoreIfExists"])),
          ("annotationId", optional string)]),
      ("rename", record "RenameFile"
        [("oldUri", url), ("newUri", url),
          ("options", optional (flags "RenameFileOptions" ["overwrite", "ignoreIfExists"])),
          ("annotationId", optional string)]),
      ("delete", record "DeleteFile"
        [("uri", url),
          ("options", optional (record "DeleteFileOptions"
            [("recursive", optional bool), ("ignoreIfNotExists", optional bool),
              ("annotationId", optional string)]))])]

/-- Edits of several documents. -/
def workspaceEdit : Shape :=
  record "WorkspaceEdit"
    [("changes", defaulted (optional (map "map" true (list edit)))),
      ("documentChanges", optional (choice "DocumentChanges"
        [list documentEdit,
          list (choice "DocumentChangeOperation" [fileOperation, documentEdit])])),
      ("changeAnnotations", optional (map "a map" false (record "ChangeAnnotation"
        [("label", string), ("needsConfirmation", optional bool),
          ("description", optional string)])))]

/-! ## Diagnostics -/

/-- A problem that a client has been told. -/
def diagnostic : Shape :=
  record "Diagnostic"
    [("range", range), ("severity", optional signed), ("code", optional token),
      ("codeDescription", optional (record "CodeDescription" [("href", url)])),
      ("source", optional string), ("message", string),
      ("relatedInformation", optional (list (record "DiagnosticRelatedInformation"
        [("location", location), ("message", string)]))),
      ("tags", optional (list signed)), ("data", optional any)]

/-! ## Parameters -/

/-- Parameters with a document, and with some more members. -/
def onDocument (name : String) (more : List (String × Shape)) (parts : List Shape) : Shape :=
  spread name (("textDocument", document) :: more) parts

/-- Parameters with a document and a position, and with some more members. -/
def onPlace (name : String) (more : List (String × Shape)) (parts : List Shape) : Shape :=
  spread name more (place :: parts)

end RoutineAtlas.Shape
