import RoutineAtlas.Scope
import RoutineAtlas.Statement.Role

/-!
# The content of a scope

The variables and the calls that the statements of a scope hold. A name followed by a parenthesis
is a variable if the scope gives it a value anywhere, else a function.
-/

namespace RoutineAtlas

/-- Something that a statement says about its scope. -/
inductive Finding where
  | occurrence (name : Text) (kind : BindingKind) (occurrence : Occurrence)
  | call (site : CallSite)
deriving DecidableEq, Repr

namespace Finding

/-- Add what has been found to the variables of a scope. -/
def bind (bindings : List Binding) : Finding → List Binding
  | occurrence name kind o => occur bindings name kind o
  | call _ => bindings

/-- The call that has been found. -/
def call? : Finding → Option CallSite
  | occurrence _ _ _ => none
  | call site => some site

/-- An occurrence of a token as a variable. -/
def ofToken (t : Token) (kind : BindingKind) (role : OccurrenceRole) : Finding :=
  .occurrence t.text kind ⟨t.start, role⟩

/-- What an identifier in a role says about scope number `scope`. -/
def ofRole? (scope : Nat) (p : Place) : IdentifierRole → Option Finding
  | .definition => some (ofToken p.token .localVariable .definition)
  | .reference => some (ofToken p.token .localVariable .reference)
  | .call kind => some (.call (p.call kind scope))
  | .aside => none

end Finding

/-- What a statement says about scope number `scope`, whose variables with a value are `known`. -/
def Statement.findings (s : Statement) (scope : Nat) (known : List Text) : List Finding :=
  if s.isSilent then []
  else if s.isCommon then
    let block := (s[1]?.map (·.text)).getD []
    s.commonMembers.map fun t => .ofToken t (.common block) .definition
  else if s.isLabel then []
  else (s.roles known).filterMap fun (p, role) => Finding.ofRole? scope p role

/-- A scope before its statements have been read: its head has bound some variables. -/
structure ScopeDraft where
  kind : ScopeKind
  start : Span
  stop : Span
  bindings : List Binding
  statements : List Statement
deriving DecidableEq, Repr

namespace ScopeDraft

/-- The variables that get a value in the scope, in small letters. -/
def known (d : ScopeDraft) : List Text :=
  d.bindings.map (·.name) ++ d.statements.flatMap (·.defined)

/-- All that the statements say about the scope, which has number `index`. -/
def findings (d : ScopeDraft) (index : Nat) : List Finding :=
  let known := d.known
  d.statements.flatMap fun s => s.findings index known

/-- The scope with all of its variables. -/
def scope (d : ScopeDraft) (index : Nat) : Scope :=
  ⟨d.kind, d.start, d.stop, (d.findings index).foldl Finding.bind d.bindings⟩

/-- The calls in the scope. -/
def calls (d : ScopeDraft) (index : Nat) : List CallSite :=
  (d.findings index).filterMap (·.call?)

end ScopeDraft

end RoutineAtlas
