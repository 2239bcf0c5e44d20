import RoutineAtlas.Document
import RoutineAtlas.Query.Selection

/-!
# Definitions and references

Where the thing under the cursor is defined, and where it is used.
-/

namespace RoutineAtlas

/-- A stretch of a document. -/
structure Location where
  url : Url
  range : Range
deriving DecidableEq, Repr

/-- A span of a file, if the file has a URL. -/
def Location.of? (p : Path) (span : Span) : Option Location :=
  (documentUrl? p).map fun url => ⟨url, span.range⟩

namespace Workspace

/-- Where the thing under the cursor is defined. -/
def definition? (w : Workspace) (p : Path) (here : Cursor) : Option (List Location) := do
  let location ← match ← w.select? p here with
    | .binding _ b _ => Location.of? p b.definition
    | .routine s _ _ => Location.of? s.file s.nameSpan
    | .keyword s k _ => Location.of? s.file k.span
  return [location]

/-- The calls of a file that mean the routine `s`. -/
def callsMeaning (w : Workspace) (s : Signature) (entry : FileEntry) : List CallSite :=
  (entry.analysis.record.callsTo s.key).filter fun c =>
    (entry.analysis.resolveCall (w.lookup entry.path) c).any (·.same s)

/-- Where the thing under the cursor is used: every occurrence of a variable, or every call of a
routine in the whole workspace. A keyword counts as its routine. -/
def references? (w : Workspace) (p : Path) (here : Cursor) : Option (List Location) := do
  let callsOf (s : Signature) : List Location :=
    w.entries.flatMap fun entry =>
      (w.callsMeaning s entry).filterMap fun c => Location.of? entry.path c.span
  match ← w.select? p here with
  | .binding _ b _ =>
    let url ← documentUrl? p
    return b.occurrences.map fun o => ⟨url, o.span.range⟩
  | .routine s _ _ => return callsOf s
  | .keyword s _ _ => return callsOf s

end Workspace

end RoutineAtlas
