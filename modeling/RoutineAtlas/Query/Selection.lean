import RoutineAtlas.Workspace

/-!
# Selections

What the cursor points at: a routine, a keyword or a variable. Routine and keyword names are
looked at first, in headers and then in calls; the first call that the cursor touches decides, even
if nothing is known about it.
-/

namespace RoutineAtlas

/-- What the cursor points at, with the span that it touches. -/
inductive Selection where
  /-- A variable of the scope of that number. -/
  | binding (scope : Nat) (binding : Binding) (span : Span)
  /-- A routine, at its definition or where it is called. -/
  | routine (signature : Signature) (span : Span) (atDefinition : Bool)
  /-- A keyword of a routine, in its header or in a call. -/
  | keyword (signature : Signature) (keyword : Keyword) (span : Span)
deriving DecidableEq, Repr

namespace Selection

/-- What the cursor points at in the header of a routine. -/
def inHeader? (here : Cursor) (s : Signature) : Option Selection :=
  if s.nameSpan.touches here then some (.routine s s.nameSpan true)
  else (s.keywords.find? fun k => k.span.touches here).map fun k => .keyword s k k.span

/-- What the cursor points at in a call, given what the call means. The outer option says whether
the cursor touches the call at all. -/
def inCall? (here : Cursor) (c : CallSite) (callee : Option Signature) :
    Option (Option Selection) :=
  if c.span.touches here then some (callee.map fun s => .routine s c.span false)
  else
    (c.keywords.find? fun k => k.span.touches here).map fun k => do
      let s ← callee
      let keyword ← s.resolveKeyword? k.name
      return .keyword s keyword k.span

/-- What the cursor points at among the occurrences of a variable. -/
def inBinding? (here : Cursor) (scope : Nat) (b : Binding) : Option Selection :=
  (b.occurrences.find? fun o => o.span.touches here).map fun o => .binding scope b o.span

/-- What the cursor points at among the variables of scopes numbered from `n` on. -/
def inScopes? (here : Cursor) (n : Nat) : List Scope → Option Selection
  | [] => none
  | s :: rest =>
    match s.bindings.findSome? (inBinding? here n) with
    | some selection => some selection
    | none => inScopes? here (n + 1) rest

/-- What the cursor points at in a file, given the routines of other files. -/
def find? (a : Analysis) (lookup : RoutineLookup) (here : Cursor) : Option Selection :=
  match a.record.signatures.findSome? (inHeader? here) with
  | some selection => some selection
  | none =>
    match a.record.calls.findSome? fun c => inCall? here c (a.resolveCall lookup c) with
    | some selection => selection
    | none => inScopes? here 0 a.record.scopes

end Selection

namespace Workspace

/-- What the cursor points at in a file of the workspace. -/
def select? (w : Workspace) (p : Path) (here : Cursor) : Option Selection := do
  let entry ← w.file? p
  Selection.find? entry.analysis (w.lookup p) here

/-- The documentation of a routine, from the file that defines it. -/
def docsOf? (w : Workspace) (s : Signature) : Option DocBlock := do
  let entry ← w.file? s.file
  entry.analysis.docsFor? s

/-- The documentation of a parameter of a routine. -/
def parameterDocs? (w : Workspace) (s : Signature) (tag : DocTag) (name : Text) :
    Option DocEntry := do
  (← w.docsOf? s).entryNamed? tag name

end Workspace

end RoutineAtlas
