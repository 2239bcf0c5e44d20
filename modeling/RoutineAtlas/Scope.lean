import RoutineAtlas.Span
import RoutineAtlas.Text.Case

/-!
# Scopes and variables

Every routine has a scope, and so has the main level of a file. A scope holds the variables that
occur in it, each with all of its occurrences in reading order.
-/

namespace RoutineAtlas

/-- Whether an occurrence of a variable gives it a value or reads it. -/
inductive OccurrenceRole where
  | definition
  | reference
deriving DecidableEq, Repr

/-- An occurrence of a variable. -/
structure Occurrence where
  span : Span
  role : OccurrenceRole
deriving DecidableEq, Repr

/-- How a variable comes into its scope. -/
inductive BindingKind where
  | argument
  /-- Bound by the keyword of that name. -/
  | keyword (name : Text)
  | localVariable
  /-- A member of the common block of that name. -/
  | common (block : Text)
deriving DecidableEq, Repr

/-- A variable of a scope. -/
structure Binding where
  /-- The name in small letters. -/
  name : Text
  kind : BindingKind
  occurrences : List Occurrence
deriving DecidableEq, Repr

namespace Binding

/-- Where the variable occurs first. -/
def first (b : Binding) : Span :=
  (b.occurrences.head?.map (·.span)).getD ⟨0, 0, 0⟩

/-- Where the variable first gets a value; where it occurs first if it is only ever read. -/
def definition (b : Binding) : Span :=
  ((b.occurrences.find? fun o => o.role == .definition).map (·.span)).getD b.first

/-- The variable is used: it is shared by a common block, occurs more than once or is read. -/
def isUsed (b : Binding) : Bool :=
  (match b.kind with
    | .common _ => true
    | _ => false) ||
    b.occurrences.length > 1 || b.occurrences.any fun o => o.role == .reference

end Binding

/-- Add an occurrence of the variable `name`. A variable that did not occur before comes last and
is of the given kind. -/
def occur (bindings : List Binding) (name : Text) (kind : BindingKind) (o : Occurrence) :
    List Binding :=
  match bindings with
  | [] => [⟨name.lower, kind, [o]⟩]
  | b :: bs =>
    if b.name == name.lower then { b with occurrences := b.occurrences ++ [o] } :: bs
    else b :: occur bs name kind o

/-- What a scope belongs to: the routine of that number, or the main level. -/
inductive ScopeKind where
  | routine (index : Nat)
  | main
deriving DecidableEq, Repr

/-- A scope: where it starts and ends, and its variables. -/
structure Scope where
  kind : ScopeKind
  start : Span
  stop : Span
  bindings : List Binding
deriving DecidableEq, Repr

namespace Scope

/-- The cursor is within the scope. -/
def contains (s : Scope) (here : Cursor) : Bool :=
  s.start.encloses s.stop here

/-- The scope belongs to a routine. -/
def isRoutine (s : Scope) : Bool :=
  match s.kind with
  | .routine _ => true
  | .main => false

/-- The variable called `name`. -/
def binding? (s : Scope) (name : Text) : Option Binding :=
  s.bindings.find? fun b => b.name.sameName name

end Scope

end RoutineAtlas
