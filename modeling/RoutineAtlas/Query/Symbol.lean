import RoutineAtlas.Fuzzy
import RoutineAtlas.Query.Location

/-!
# Symbols

The outline of a file, and the search for routines in a whole workspace.
-/

namespace RoutineAtlas

/-- What a symbol stands for. -/
inductive SymbolKind where
  | function
  | method
  | argument
  | keyword
deriving DecidableEq, Repr

/-- The symbol kind of a routine. -/
def SymbolKind.ofRoutine (kind : RoutineKind) : SymbolKind :=
  if kind.isMethod then .method else .function

/-- A parameter in the outline of a file. -/
structure ParameterSymbol where
  name : Text
  kind : SymbolKind
  range : Range
deriving DecidableEq, Repr

/-- A routine in the outline of a file. -/
structure RoutineSymbol where
  name : Text
  detail : String
  kind : SymbolKind
  /-- From the start of the definition to the end of the routine. -/
  range : Range
  nameRange : Range
  parameters : List ParameterSymbol
deriving DecidableEq, Repr

/-- A routine found in the workspace. -/
structure FoundSymbol where
  name : Text
  kind : SymbolKind
  location : Location
  /-- The name of the file that the routine is in. -/
  container : Option Text
deriving DecidableEq, Repr

/-- The outline of a routine that ends at `stop`. -/
def RoutineSymbol.of (s : Signature) (stop : Span) : RoutineSymbol :=
  { name := s.name
    detail := s.kind.label
    kind := .ofRoutine s.kind
    range := s.start.through stop
    nameRange := s.nameSpan.range
    parameters :=
      s.args.map (fun a => ⟨a.name, .argument, a.span.range⟩) ++
        s.keywords.map fun k => ⟨k.name, .keyword, k.span.range⟩ }

/-- A routine as a search result, if its file has a URL. -/
def FoundSymbol.of? (s : Signature) : Option FoundSymbol :=
  (Location.of? s.file s.nameSpan).map fun location =>
    ⟨s.name, .ofRoutine s.kind, location, s.file.fileName?.bind FileName.text?⟩

namespace Workspace

/-- The outline of a file. -/
def outline? (w : Workspace) (p : Path) : Option (List RoutineSymbol) := do
  let record := (← w.file? p).analysis.record
  return record.routines.filterMap fun r =>
    record.scopes[r.scope]?.map fun scope => .of r.signature scope.stop

/-- The routines that fit a query, the best first. An empty query fits all. -/
def search (w : Workspace) (query : Text) : List FoundSymbol :=
  let all := w.table.routines.filterMap FoundSymbol.of?
  if query.isEmpty then all
  else
    let atoms := Fuzzy.atoms query
    let scored := all.map fun s => (Fuzzy.score atoms s.name, s)
    let fitting := scored.filter fun entry => 0 < entry.1
    (fitting.mergeSort fun a b => b.1 ≤ a.1).map (·.2)

end Workspace

end RoutineAtlas
