import RoutineAtlas.Disk
import RoutineAtlas.Glob
import RoutineAtlas.Text.Quoted
import RoutineAtlas.Workspace

/-!
# Indexing whole directories

Reading all files below some directories whose names match the workspace's patterns. All routines
are registered before any file is checked, so the order of the files does not matter to the checks.
-/

namespace RoutineAtlas

/-- Why directories cannot be indexed. -/
inductive ScanError where
  | missingRoot (root : Path)
  | invalidPattern (pattern : Text) (error : GlobError)
deriving DecidableEq, Repr

namespace ScanError

/-- What a report says about the failure. -/
def message : ScanError → String
  | missingRoot root =>
    "workspace root " ++ root.toString ++ " does not exist or is not a directory"
  | invalidPattern pattern _ => "invalid file pattern " ++ String.ofList pattern.quoted

/-- The deeper cause of a failure, if there is one. -/
def cause? : ScanError → Option String
  | missingRoot _ => none
  | invalidPattern _ error => some error.message

end ScanError

/-- A file that could not be read. -/
structure FailedFile where
  path : Path
  reason : String
deriving DecidableEq, Repr

/-- What indexing some directories came to. -/
structure ScanSummary where
  indexed : List Path
  failed : List FailedFile
  /-- The number of routines in the table. -/
  routines : Nat
  problems : Nat
deriving DecidableEq, Repr

namespace FailedFile

/-- The log entry on a file that could not be read. -/
def logEntry (f : FailedFile) : LogEntry :=
  let name := (f.path.fileName?.map fun n => String.ofList (FileName.shown n)).getD f.path.toString
  (LogEntry.quiet .warning ("Failed to read " ++ f.path.toString ++ ": " ++ f.reason)).withAlert
    (name ++ " could not be read and was not indexed")

end FailedFile

/-- Why a file that is no text cannot be read. -/
def notText : String :=
  "stream did not contain valid UTF-8"

namespace Workspace

/-- A name that directories are searched without. -/
def isHidden (name : Text) : Bool :=
  name.head? == some '.'

/-- The files below a directory that match one of the patterns. Hidden files and directories are
left out. -/
def matchingFiles (disk : Disk) (patterns : List Glob) (root : Path) : List Path :=
  let wanted (names : List Text) : Bool :=
    !names.any isHidden && names.getLast?.any fun name => patterns.any (·.accepts name)
  ((disk.filesBelow root).filter wanted).map fun names =>
    names.foldl (fun p name => p.join (.ofText name)) root

/-- A sorted list of paths with each path once. -/
def dedupSorted : List Path → List Path
  | [] => []
  | p :: rest =>
    match dedupSorted rest with
    | [] => [p]
    | q :: qs => if p.same q then p :: qs else p :: q :: qs

/-- The compiled patterns of the workspace. -/
def compiledPatterns (w : Workspace) : Except ScanError (List Glob) :=
  w.patterns.mapM fun pattern =>
    match Glob.ofText pattern with
    | .ok g => .ok g
    | .error e => .error (.invalidPattern pattern e)

/-- Submit and read the files at some paths. -/
def readAll (disk : Disk) (w : Workspace) :
    List Path → List (Ticket × Analysis) × List FailedFile × Workspace
  | [] => ([], [], w)
  | p :: rest =>
    let (t, w) := w.submit p
    let (read, failed, w) := readAll disk w rest
    match disk.read? p with
    | some text => ((t, .read p text) :: read, failed, w)
    | none => (read, ⟨p, notText⟩ :: failed, w)

/-- Register the routines of files that have been read; the answer names the keys that changed. -/
def registerAll (table : SymbolTable) :
    List (Ticket × Analysis) → List RoutineKey × SymbolTable
  | [] => ([], table)
  | (t, a) :: rest =>
    let (changed, table) := table.replaceFile t.path a.record.signatures
    let (more, table) := registerAll table rest
    (changed ++ more, table)

/-- Check a file that has been read, and put it into the workspace. -/
def recordFile (w : Workspace) (t : Ticket) (a : Analysis) : FileEntry × Workspace :=
  let entry : FileEntry := ⟨t.path, t.version, a.checked (w.lookup t.path)⟩
  (entry, { w with files := w.files.insert t.path entry })

/-- Put all files that have been read into the workspace. -/
def recordAll (w : Workspace) : List (Ticket × Analysis) → List FileEntry × Workspace
  | [] => ([], w)
  | (t, a) :: rest =>
    let (entry, w) := w.recordFile t a
    let (entries, w) := w.recordAll rest
    (entry :: entries, w)

/-- The workspace without its files. -/
def cleared (w : Workspace) : Workspace :=
  { w with files := [], table := .empty, generation := w.generation + 1 }

/-- Index the files at some paths. An incremental run checks the other files again whose callees
changed. -/
def indexPaths (w : Workspace) (disk : Disk) (paths : List Path) (incremental : Bool) :
    ScanSummary × Workspace :=
  let (read, failed, w) := readAll disk w paths
  let w := { w with log := w.log ++ failed.map FailedFile.logEntry }
  let (changed, table) := registerAll w.table read
  let (entries, w) := (w.withTable changed table).recordAll read
  let indexed := entries.map FileEntry.path
  let summary : ScanSummary :=
    { indexed := indexed
      failed := failed
      routines := w.table.size
      problems := (entries.flatMap fun e => e.analysis.problems).length }
  (summary, if incremental then w.recheck changed indexed else w)

/-- The matching files below some directories, each once and in order. -/
def filesToIndex (disk : Disk) (patterns : List Glob) (roots : List Path) : List Path :=
  dedupSorted ((roots.flatMap (matchingFiles disk patterns)).mergeSort Path.le)

/-- Index every matching file below the roots. An incremental run adds to the workspace, any other
starts from an empty one. -/
def scan (w : Workspace) (disk : Disk) (roots : List Path) (incremental : Bool) :
    Except ScanError ScanSummary × Workspace :=
  match roots.find? fun root => !disk.isDir root with
  | some root => (.error (.missingRoot root), w)
  | none =>
    match w.compiledPatterns with
    | .error e => (.error e, w)
    | .ok patterns =>
      let w := if incremental then w else w.cleared
      let (summary, w) := w.indexPaths disk (filesToIndex disk patterns roots) incremental
      (.ok summary, w)

/-- Index every matching file below the roots, for a caller that goes no further if that fails. -/
def indexRoots (w : Workspace) (disk : Disk) (roots : List Path) (incremental : Bool) :
    Except ScanError (ScanSummary × Workspace) :=
  let (result, w) := w.scan disk roots incremental
  result.map fun summary => (summary, w)

end Workspace

end RoutineAtlas
