import RoutineAtlas.Problem.Code
import RoutineAtlas.Span

/-!
# Problems

A problem is a number, a text for people and the stretch of source it is about.
-/

namespace RoutineAtlas

/-- One reported problem. The number may be one that this analysis never gives, since problems can
be read back from a report. -/
structure Problem where
  code : Nat
  info : String
  start : Span
  stop : Span
deriving DecidableEq, Repr

namespace Problem

/-- A problem with a text of its own on a single span. -/
def on (code : ProblemCode) (info : String) (span : Span) : Problem :=
  ⟨code.number, info, span, span⟩

/-- A problem that only says what kind it is. -/
def plain (code : ProblemCode) (span : Span) : Problem :=
  .on code code.message span

/-- A problem about the named thing. -/
def about (code : ProblemCode) (name : List Char) (span : Span) : Problem :=
  .on code (code.messageFor (String.ofList name)) span

/-- The kind of a problem, if its number is known. -/
def kind? (p : Problem) : Option ProblemCode :=
  ProblemCode.ofNumber? p.code

/-- How grave a problem is; one of unknown kind is a warning. -/
def severity (p : Problem) : Severity :=
  match p.kind? with
  | some code => code.severity
  | none => .warning

/-- The stretch of source a problem is about. -/
def range (p : Problem) : Range :=
  p.start.through p.stop

/-- Problems by where they start; those that start together keep their order. -/
def sort (ps : List Problem) : List Problem :=
  ps.mergeSort fun p q => p.start.startsBy q.start

end Problem

end RoutineAtlas
