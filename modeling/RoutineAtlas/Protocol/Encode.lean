import RoutineAtlas.Json
import RoutineAtlas.Query.Completion
import RoutineAtlas.Query.Diagnostic
import RoutineAtlas.Query.Hover
import RoutineAtlas.Query.SemanticToken
import RoutineAtlas.Query.Symbol

/-!
# Answers as messages

How answers are written for an editor: the JSON of the language server protocol.
-/

namespace RoutineAtlas

/-- Text as a JSON string. -/
def Text.json (t : Text) : Json :=
  .string (String.ofList t)

/-- A cursor as a position. -/
def Cursor.json (c : Cursor) : Json :=
  .object [("line", .ofNat c.line), ("character", .ofNat c.character)]

/-- A range. -/
def Range.json (r : Range) : Json :=
  .object [("start", r.start.json), ("end", r.stop.json)]

/-- A location. -/
def Location.json (l : Location) : Json :=
  .object [("uri", l.url.toText.json), ("range", l.range.json)]

/-- The number of a severity. -/
def Severity.number : Severity → Nat
  | error => 1
  | warning => 2
  | information => 3

/-- The name under which problems are reported. -/
def serverName : String :=
  "idl-index"

/-- A diagnostic. -/
def Diagnostic.json (d : Diagnostic) : Json :=
  .record [("range", some d.range.json), ("severity", some (.ofNat d.severity.number)),
    ("code", some (.ofNat d.code)), ("source", some (.string serverName)),
    ("message", some (.string d.message)),
    ("tags", if d.isUnnecessary then some (.array [.ofNat 1]) else none)]

/-- Text in Markdown. -/
def markdownJson (text : String) : Json :=
  .object [("kind", .string "markdown"), ("value", .string text)]

/-- A hover text. -/
def Hover.json (h : Hover) : Json :=
  .object [("contents", markdownJson h.markdown), ("range", h.range.json)]

/-- The number of a symbol kind. -/
def SymbolKind.number : SymbolKind → Nat
  | method => 6
  | keyword => 7
  | function => 12
  | argument => 13

/-- A parameter in an outline. -/
def ParameterSymbol.json (s : ParameterSymbol) : Json :=
  .object [("name", s.name.json), ("kind", .ofNat s.kind.number), ("range", s.range.json),
    ("selectionRange", s.range.json)]

/-- A routine in an outline. -/
def RoutineSymbol.json (s : RoutineSymbol) : Json :=
  let children := if s.parameters.isEmpty then none
    else some (Json.array (s.parameters.map (·.json)))
  .record [("name", some s.name.json), ("detail", some (.string s.detail)),
    ("kind", some (.ofNat s.kind.number)), ("range", some s.range.json),
    ("selectionRange", some s.nameRange.json), ("children", children)]

/-- A routine found in the workspace. -/
def FoundSymbol.json (s : FoundSymbol) : Json :=
  .record [("name", some s.name.json), ("kind", some (.ofNat s.kind.number)),
    ("location", some s.location.json), ("containerName", s.container.map (·.json))]

/-- The number of a completion kind. -/
def CompletionKind.number : CompletionKind → Nat
  | method => 2
  | function => 3
  | variableName => 6
  | keyword => 10

/-- A number with at least five digits. -/
def paddedRank (n : Nat) : String :=
  let digits := Nat.toDigits 10 n
  String.ofList (List.replicate (5 - digits.length) '0' ++ digits)

/-- A completion at a place of the list. -/
def CompletionItem.json (rank : Nat) (item : CompletionItem) : Json :=
  .record [("label", some item.label.json),
    ("labelDetails", item.fullName.map fun name => .object [("description", name.json)]),
    ("kind", some (.ofNat item.kind.number)), ("detail", some (.string item.detail)),
    ("documentation", item.documentation.map markdownJson),
    ("sortText", some (.string (paddedRank rank))),
    ("insertText", item.insertText.map (·.json))]

/-- A list of completions. -/
def CompletionList.json (list : CompletionList) : Json :=
  .object [("isIncomplete", .bool list.isIncomplete),
    ("items", .array (list.items.mapIdx fun rank item => item.json rank))]

/-- The numbers that semantic tokens are sent as. -/
def SemanticToken.dataJson (tokens : List SemanticToken) : Json :=
  .array ((SemanticToken.encode tokens).flatMap fun d => d.numbers.map Json.ofNat)

/-- The names of the classes and properties of semantic tokens, in the order of their numbers. -/
def SemanticToken.legendJson : Json :=
  .object [("tokenTypes", .array (SemanticClass.all.map fun c => .string c.name)),
    ("tokenModifiers", .array (TokenModifiers.names.map Json.string))]

/-- The number of a message's severity. -/
def LogSeverity.number : LogSeverity → Nat
  | error => 1
  | warning => 2
  | info => 3

end RoutineAtlas
