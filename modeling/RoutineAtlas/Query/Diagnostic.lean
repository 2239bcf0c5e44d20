import RoutineAtlas.Settings
import RoutineAtlas.Workspace

/-!
# Diagnostics

The problems of a file as an editor shows them.
-/

namespace RoutineAtlas

/-- A problem as an editor shows it. -/
structure Diagnostic where
  range : Range
  severity : Severity
  code : Nat
  message : String
  /-- The code concerned does nothing and may be shown faded. -/
  isUnnecessary : Bool
deriving DecidableEq, Repr

/-- The diagnostic of a problem. -/
def Diagnostic.ofProblem (p : Problem) : Diagnostic :=
  ⟨p.range, p.severity, p.code, p.info, p.kind? == some .unusedVariable⟩

/-- The diagnostics of a file, without those that the settings disable. -/
def Workspace.diagnostics? (w : Workspace) (settings : Settings) (p : Path) :
    Option (List Diagnostic) := do
  let entry ← w.file? p
  let reported := entry.analysis.problems.filter fun q => !settings.isDisabled q.code
  return reported.map Diagnostic.ofProblem

end RoutineAtlas
