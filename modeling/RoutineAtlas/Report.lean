import RoutineAtlas.Json.Print
import RoutineAtlas.Settings.Load
import RoutineAtlas.Workspace.Scan

/-!
# Reports

Checking whole directories at once: every problem of every file below them, except those that the
settings disable, as lines of text or as JSON. The settings are those of the first directory, and
files are named as they are seen from there.
-/

namespace RoutineAtlas

/-- Why directories cannot be checked. -/
inductive CheckError where
  | noDirectory
  /-- The first directory leads nowhere. -/
  | baseUnresolved (error : PathError)
  | rootUnresolved (root : Path) (error : PathError)
  | settings (error : SettingsError)
  | scan (error : ScanError)
deriving DecidableEq, Repr

namespace CheckError

/-- What is said about the failure, from the outer to the inner cause. -/
def message : CheckError → String
  | noDirectory => "No directory given"
  | baseUnresolved e => "Failed to resolve workspace root: " ++ e.message
  | rootUnresolved root e => "Failed to resolve " ++ root.toString ++ ": " ++ e.message
  | settings e => e.message
  | scan e =>
    match e.cause? with
    | some cause => e.message ++ ": " ++ cause
    | none => e.message

end CheckError

/-- The problems of a file. -/
structure FileProblems where
  /-- The path as it is shown. -/
  path : Path
  problems : List Problem
deriving DecidableEq, Repr

/-- What a check has found. -/
structure Report where
  /-- The number of files that were read. -/
  files : Nat
  /-- The files with problems, by the characters of their paths. -/
  problems : List FileProblems
  /-- The files that could not be read. -/
  failed : List FailedFile
deriving DecidableEq, Repr

/-- The word for a severity. -/
def Severity.label : Severity → String
  | error => "error"
  | warning => "warning"
  | information => "info"

/-- A span as a list of its line, its column and its length. -/
def Span.json (s : Span) : Json :=
  .array [.ofNat s.line, .ofNat s.column, .ofNat s.length]

namespace Problem

/-- A problem as a line of a report. Lines and columns are counted from one. -/
def line (p : Problem) (path : Path) : String :=
  path.toString ++ ":" ++ toString (p.start.line + 1) ++ ":" ++ toString (p.start.column + 1) ++
    ": " ++ p.severity.label ++ " [" ++ toString p.code ++ "] " ++ p.info ++ "\n"

/-- A problem as JSON. -/
def json (p : Problem) : Json :=
  .object [("code", .ofNat p.code), ("info", .string p.info), ("start", p.start.json),
    ("end", p.stop.json)]

end Problem

namespace FailedFile

/-- A file that could not be read, as a line of a report. -/
def line (f : FailedFile) : String :=
  f.path.toString ++ ": could not be read: " ++ f.reason ++ "\n"

/-- A file that could not be read, as JSON. -/
def json (f : FailedFile) : Json :=
  .object [("path", .string f.path.toString), ("reason", .string f.reason)]

end FailedFile

namespace Report

/-- The number of problems of a severity. -/
def count (r : Report) (severity : Severity) : Nat :=
  (r.problems.flatMap (·.problems)).countP fun p => p.severity == severity

/-- The report as lines of text. -/
def text (r : Report) : String :=
  let problems := r.problems.flatMap fun f => f.problems.map fun p => p.line f.path
  let total := toString r.files ++ " files checked: " ++ toString (r.count .error) ++
    " errors, " ++ toString (r.count .warning) ++ " warnings\n"
  String.join (problems ++ total :: r.failed.map FailedFile.line)

/-- The report as JSON. -/
def json (r : Report) : Json :=
  .object
    [("problems", .object (r.problems.map fun f =>
        (f.path.toString, .array (f.problems.map Problem.json)))),
      ("failed", .array (r.failed.map FailedFile.json))]

/-- The report as it is printed. -/
def output (r : Report) (asJson : Bool) : String :=
  if asJson then r.json.pretty ++ "\n" else r.text

/-- The report on a workspace, seen from the directory `base`. -/
def ofWorkspace (w : Workspace) (settings : Settings) (failed : List FailedFile) (base : Path) :
    Report :=
  let entries := w.entries
  let shown := entries.map fun e =>
    let problems := e.analysis.problems.filter fun p => !settings.isDisabled p.code
    FileProblems.mk (e.path.relativeTo base) problems
  { files := entries.length
    problems := (shown.filter fun f => !f.problems.isEmpty).mergeSort fun a b =>
      Text.le a.path.shown b.path.shown
    failed := failed.map fun f => { f with path := f.path.relativeTo base } }

end Report

/-- Follow the roots to check. -/
def resolveRoots (disk : Disk) : List Path → Except CheckError (List Path)
  | [] => .ok []
  | root :: rest =>
    match disk.resolve root with
    | .error e => .error (.rootUnresolved root e)
    | .ok p => do return p :: (← resolveRoots disk rest)

/-- Check all files below some directories. -/
def check (disk : Disk) (home : Path) (roots : List Path) : Except CheckError Report := do
  let first ← match roots with
    | [] => .error .noDirectory
    | root :: _ => .ok root
  let base ← (disk.resolve first).mapError .baseUnresolved
  let settings ← (Settings.load disk home base true).mapError .settings
  let roots ← resolveRoots disk roots
  let (summary, w) ←
    ((Workspace.empty settings.filePatterns).indexRoots disk roots false).mapError .scan
  return .ofWorkspace w settings summary.failed base

end RoutineAtlas
