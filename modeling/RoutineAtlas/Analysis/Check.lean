import RoutineAtlas.Analysis
import RoutineAtlas.Analysis.Docs

/-!
# Checks

The checks that come after reading a file: documentation against signatures, variables that are
never used, and calls against the routines they mean. Other files matter only through a
`RoutineLookup`.
-/

namespace RoutineAtlas

/-- The routines defined outside of the file at hand. -/
structure RoutineLookup where
  /-- The routine of that key. -/
  routine : RoutineKey → Option Signature
  /-- The method of that name, a function or not, whatever its class; nothing if there are
  several. -/
  method : (name : Text) → (isFunction : Bool) → Option Signature

namespace RoutineLookup

/-- No routines at all. -/
def none : RoutineLookup :=
  ⟨fun _ => .none, fun _ _ => .none⟩

end RoutineLookup

namespace Analysis

/-- The file's own methods that a call without a class may mean. -/
def ownMethods (a : Analysis) (c : CallSite) : List Signature :=
  a.record.signatures.filter fun s => s.kind == c.kind && s.key.methodName.sameName c.name

/-- The routine that a call of the file means. The file's own routines come first, and of several
with one key the last is meant; a method without a class must be the only one of its name. -/
def resolveCall (a : Analysis) (lookup : RoutineLookup) (c : CallSite) : Option Signature :=
  if c.isUnqualifiedMethod then
    match a.ownMethods c with
    | [] => lookup.method c.name c.kind.isFunction
    | [s] => some s
    | _ => none
  else
    match (a.record.signatures.filter fun s => s.key == c.key).getLast? with
    | some s => some s
    | none => lookup.routine c.key

end Analysis

namespace CallSite

/-- The keywords passed that the called routine does not have. -/
def unknownKeywords (c : CallSite) (s : Signature) : List Problem :=
  if s.acceptsExtra then []
  else
    let wrong := c.keywords.filter fun k =>
      !isExtraKeyword k.name && (s.resolveKeyword? k.name).isNone
    wrong.map fun k => .about .unknownKeyword k.name.lower k.span

/-- The report of a call that passes more arguments than the routine takes. -/
def surplus (c : CallSite) (s : Signature) : List Problem :=
  if s.args.length < c.positional then
    let code := ProblemCode.tooManyArguments
    [⟨code.number, code.messageFor (String.ofList s.name.lower), c.span, c.stop⟩]
  else []

/-- Check a call against the routine it means. -/
def check (c : CallSite) (s : Signature) : List Problem :=
  c.unknownKeywords s ++ c.surplus s

end CallSite

namespace Record

/-- The variables that are never used. -/
def unusedVariables (r : Record) : List Problem :=
  let unused := (r.scopes.flatMap (·.bindings)).filter fun b => !b.isUsed
  unused.map fun b => .about .unusedVariable b.name b.first

end Record

namespace Analysis

/-- Check the documentation of the file's routines. -/
def checkDocs (a : Analysis) : List Problem :=
  a.record.signatures.flatMap fun s => ((a.docsFor? s).map (Docs.check s)).getD []

/-- Check the calls of the file. -/
def checkCalls (a : Analysis) (lookup : RoutineLookup) : List Problem :=
  a.record.calls.flatMap fun c => ((a.resolveCall lookup c).map c.check).getD []

/-- All checks of a file, by where the problems start. -/
def check (a : Analysis) (lookup : RoutineLookup) : List Problem :=
  Problem.sort (a.checkDocs ++ a.record.unusedVariables ++ a.checkCalls lookup)

/-- The file with its checks done anew. -/
def checked (a : Analysis) (lookup : RoutineLookup) : Analysis :=
  { a with checkProblems := a.check lookup }

/-- Read a file and, if asked to, check it. -/
def run (path : Path) (text : Text) (withChecks : Bool) (lookup : RoutineLookup) : Analysis :=
  let a := Analysis.read path text
  if withChecks then a.checked lookup else a

end Analysis

end RoutineAtlas
