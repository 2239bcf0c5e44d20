import RoutineAtlas.Call
import RoutineAtlas.Routine.Signature
import RoutineAtlas.Scope

/-!
# Records

What the analysis of a file keeps of its structure: the routines, the scopes and the calls.
-/

namespace RoutineAtlas

/-- A routine of a file. -/
structure Routine where
  signature : Signature
  /-- The number of the routine's scope. -/
  scope : Nat
  /-- The routine has its `end`: neither another definition nor the end of the file came first. -/
  closed : Bool
deriving DecidableEq, Repr

/-- The structure of a file. -/
structure Record where
  routines : List Routine
  scopes : List Scope
  calls : List CallSite
deriving DecidableEq, Repr

namespace Record

/-- The number of the scope at the cursor: that of the routine around it, else that of the main
level. -/
def scopeAt? (r : Record) (here : Cursor) : Option Nat :=
  match r.scopes.findIdx? fun s => s.isRoutine && s.contains here with
  | some i => some i
  | none => r.scopes.findIdx? fun s => s.kind == .main

/-- The routine that a scope belongs to. -/
def routineOfScope? (r : Record) (scope : Nat) : Option Routine := do
  match (← r.scopes[scope]?).kind with
  | .routine i => r.routines[i]?
  | .main => none

/-- The routine whose definition starts there. -/
def routineStartingAt? (r : Record) (span : Span) : Option Routine :=
  r.routines.find? fun routine => routine.signature.start == span

/-- The signatures of the routines. -/
def signatures (r : Record) : List Signature :=
  r.routines.map (·.signature)

/-- The calls that may mean the routine of the given key. -/
def callsTo (r : Record) (key : RoutineKey) : List CallSite :=
  r.calls.filter fun c =>
    c.kind == key.kind &&
      if c.isUnqualifiedMethod then key.methodName.sameName c.name else c.name.sameName key.name

end Record

end RoutineAtlas
