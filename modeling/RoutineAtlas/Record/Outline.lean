import RoutineAtlas.Record
import RoutineAtlas.Routine.Header
import RoutineAtlas.Scope.Content

/-!
# Outlines

Reading the statements of a file into its record. `Outline.add` takes one statement at a time: a
header begins a routine, a lone `end` outside of any block ends it, and every other statement goes
to the scope at hand, which is that of the routine or that of the main level.
-/

namespace RoutineAtlas

/-- A routine whose `end` has not come yet. -/
structure OpenRoutine where
  /-- The number of the routine. -/
  routine : Nat
  /-- The number of its scope. -/
  scope : Nat
  /-- How many blocks are open within it. -/
  depth : Nat
  start : Span
deriving DecidableEq, Repr

/-- What the statements so far have shown. -/
structure Outline where
  routines : List Routine
  scopes : List ScopeDraft
  problems : List Problem
  openRoutine : Option OpenRoutine
  /-- The number of the main level's scope, once it has a statement. -/
  mainScope : Option Nat
  /-- How many blocks are open at the main level. -/
  mainDepth : Nat
deriving DecidableEq, Repr

namespace Outline

/-- No statement has been read. -/
def empty : Outline :=
  ⟨[], [], [], none, none, 0⟩

/-- Report the open routine, if there is one, as missing its end. -/
def abandon (o : Outline) : Outline :=
  match o.openRoutine with
  | some r =>
    { o with problems := o.problems ++ [.plain .missingEnd r.start], openRoutine := none }
  | none => o

/-- The variables that a header binds. -/
def headerBindings (s : Signature) : List Binding :=
  let afterArgs := s.args.foldl
    (fun bs a => occur bs a.name .argument ⟨a.span, .definition⟩) []
  s.keywords.foldl
    (fun bs k => occur bs k.target (.keyword k.name) ⟨k.targetSpan, .definition⟩) afterArgs

/-- Report a routine that the file has already defined. -/
def redefinition (o : Outline) (s : Signature) : List Problem :=
  if o.routines.any fun r => r.signature.key == s.key then
    [.about .duplicateRoutine s.name s.nameSpan]
  else []

/-- Begin a routine. -/
def begin (o : Outline) (s : Signature) : Outline :=
  let scope := o.scopes.length
  let routine := o.routines.length
  { o with
    routines := o.routines ++ [⟨s, scope, false⟩]
    scopes := o.scopes ++ [⟨.routine routine, s.start, s.stop, headerBindings s, []⟩]
    problems := o.problems ++ o.redefinition s
    openRoutine := some ⟨routine, scope, 0, s.start⟩ }

/-- Read a header: the word that begins it and what follows. -/
def addHeader (o : Outline) (file : Path) (word : Token) (after : List Token) : Outline :=
  let header := Header.read file word after
  let o := { o with problems := o.problems ++ header.problems }
  match header.signature with
  | some s => o.begin s
  | none => o

/-- End the open routine with the statement `s`. -/
def close (o : Outline) (r : OpenRoutine) (s : Statement) : Outline :=
  { o with
    routines := o.routines.modify r.routine fun routine => { routine with closed := true }
    scopes := o.scopes.modify r.scope fun d => { d with stop := s.stop }
    openRoutine := none }

/-- Put a statement into a scope. -/
def put (o : Outline) (scope : Nat) (s : Statement) : Outline :=
  { o with
    scopes := o.scopes.modify scope fun d =>
      { d with stop := s.stop, statements := d.statements ++ [s] } }

/-- The scope of the main level, begun at `start` if it has no statement yet. -/
def withMain (o : Outline) (start : Span) : Nat × Outline :=
  match o.mainScope with
  | some scope => (scope, o)
  | none =>
    let scope := o.scopes.length
    (scope, { o with
      scopes := o.scopes ++ [⟨.main, start, start, [], []⟩]
      mainScope := some scope })

/-- Read a statement at the main level; an `end` outside of any block ends the main program and
says nothing else. -/
def addToMain (o : Outline) (first : Token) (s : Statement) : Outline :=
  if s.isSingle "end" && o.mainDepth == 0 then o
  else
    let (scope, o) := o.withMain first.start
    ({ o with mainDepth := s.depthAfter o.mainDepth }).put scope s

/-- Read a statement inside of a routine. -/
def addToRoutine (o : Outline) (r : OpenRoutine) (s : Statement) : Outline :=
  if s.isSingle "end" && r.depth == 0 then o.close r s
  else ({ o with openRoutine := some { r with depth := s.depthAfter r.depth } }).put r.scope s

/-- Read a statement. -/
def add (file : Path) (o : Outline) (s : Statement) : Outline :=
  match s with
  | [] => o
  | first :: after =>
    if first.startsRoutine then o.abandon.addHeader file first after
    else
      match o.openRoutine with
      | some r => o.addToRoutine r s
      | none => o.addToMain first s

/-- Read all statements of a file. -/
def ofStatements (file : Path) (statements : List Statement) : Outline :=
  (statements.foldl (add file) empty).abandon

/-- The record of the statements read. -/
def record (o : Outline) : Record :=
  { routines := o.routines
    scopes := o.scopes.mapIdx fun i d => d.scope i
    calls := (o.scopes.mapIdx fun i d => d.calls i).flatten }

end Outline

/-- The structure of a file, given its tokens, and the problems found on the way. -/
def Record.ofTokens (file : Path) (tokens : List Token) : Record × List Problem :=
  let o := Outline.ofStatements file (Statement.split tokens)
  (o.record, o.problems)

end RoutineAtlas
