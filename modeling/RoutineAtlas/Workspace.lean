import RoutineAtlas.Log
import RoutineAtlas.SymbolTable

/-!
# Workspaces

All analysed files of a workspace and the table of their routines. A file is analysed in three
steps, which may interleave with those of other files: `submit` numbers the new version of the
file, `analyze` reads and checks it, and `commit` puts the result into the workspace, unless a later
version of the same file has been submitted since.

A commit that changes how a routine can be called has the files that call it checked again, and an
analysis that was checked against an older table is checked again when it is committed.
-/

namespace RoutineAtlas

/-- A file of the workspace. -/
structure FileEntry where
  path : Path
  /-- The number with which the analysis was submitted. -/
  version : Nat
  analysis : Analysis
deriving DecidableEq, Repr

/-- A submitted version of a file. -/
structure Ticket where
  path : Path
  version : Nat
  /-- The generation of the table that the analysis was checked against. -/
  checkedAgainst : Option Nat
deriving DecidableEq, Repr

/-- What became of a commit. -/
inductive Outcome where
  | committed (entry : FileEntry)
  /-- A later version has been submitted, and nothing has changed. -/
  | superseded (version : Nat)
deriving DecidableEq, Repr

/-- A workspace. -/
structure Workspace where
  /-- The patterns that the names of the workspace's files match. -/
  patterns : List Text
  files : PathMap FileEntry
  table : SymbolTable
  /-- Counts the changes of the table that a caller could notice. -/
  generation : Nat
  /-- The number of versions that have been submitted of each file. -/
  versions : PathMap Nat
  log : List LogEntry
deriving DecidableEq, Repr

namespace Workspace

/-- A workspace without files. -/
def empty (patterns : List Text) : Workspace :=
  ⟨patterns, [], .empty, 0, [], []⟩

/-- The number of versions that have been submitted of a file. -/
def versionOf (w : Workspace) (p : Path) : Nat :=
  (w.versions.get? p).getD 0

/-- Submit a new version of a file. -/
def submit (w : Workspace) (p : Path) : Ticket × Workspace :=
  let version := w.versionOf p + 1
  (⟨p, version, none⟩, { w with versions := w.versions.insert p version })

/-- No later version of the file has been submitted. -/
def isCurrent (w : Workspace) (t : Ticket) : Bool :=
  w.versions.get? t.path == some t.version

/-- The routines that a file can call beyond its own. -/
def lookup (w : Workspace) (p : Path) : RoutineLookup :=
  w.table.excluding p

/-- Analyse a text as if it were the file at a path, and change nothing. -/
def preview (w : Workspace) (p : Path) (text : Text) (withChecks : Bool) : Analysis :=
  .run p text withChecks (w.lookup p)

/-- Analyse the text of a submitted version. The ticket notes which generation of the table the
checks saw. -/
def analyze (w : Workspace) (t : Ticket) (text : Text) (withChecks : Bool) : Ticket × Analysis :=
  ({ t with checkedAgainst := if withChecks then some w.generation else none },
    w.preview t.path text withChecks)

/-- Check again the files that call a routine whose interface changed, but for those to skip. -/
def recheck (w : Workspace) (changed : List RoutineKey) (skip : List Path) : Workspace :=
  let affected (e : FileEntry) : Bool :=
    !skip.any (fun p => p.same e.path) &&
      changed.any fun key => !(e.analysis.record.callsTo key).isEmpty
  let update (e : FileEntry) : FileEntry :=
    if affected e then { e with analysis := e.analysis.checked (w.lookup e.path) } else e
  { w with files := w.files.mapValues update }

/-- Take over a changed table. The generation counts the change if any interface changed. -/
def withTable (w : Workspace) (changed : List RoutineKey) (table : SymbolTable) : Workspace :=
  { w with
    table := table
    generation := if changed.isEmpty then w.generation else w.generation + 1 }

/-- Commit an analysis of a submitted version. -/
def commit (w : Workspace) (t : Ticket) (a : Analysis) : Outcome × Workspace :=
  if w.isCurrent t then
    let stale := t.checkedAgainst.any (· != w.generation)
    let a := if stale then a.checked (w.lookup t.path) else a
    let (changed, table) := w.table.replaceFile t.path a.record.signatures
    let entry : FileEntry := ⟨t.path, t.version, a⟩
    let w := w.withTable changed table
    let w := { w with files := w.files.insert t.path entry }
    (.committed entry, w.recheck changed [t.path])
  else (.superseded t.version, w)

/-- Analyse and commit a new version of a file at once. -/
def indexFile (w : Workspace) (p : Path) (text : Text) (withChecks : Bool) :
    Outcome × Workspace :=
  let (t, w) := w.submit p
  let (t, a) := w.analyze t text withChecks
  w.commit t a

/-- Forget a file. Versions of it that are still to be committed are superseded. -/
def removeFile (w : Workspace) (p : Path) : Option FileEntry × Workspace :=
  let w := (w.submit p).2
  let (changed, table) := w.table.removeFile p
  let removed := w.files.get? p
  let w := { w with files := w.files.erase p }
  (removed, (w.withTable changed table).recheck changed [])

/-- The entry of a file. -/
def file? (w : Workspace) (p : Path) : Option FileEntry :=
  w.files.get? p

/-- The paths of all files, in their order. -/
def paths (w : Workspace) : List Path :=
  (w.files.map (·.1)).mergeSort Path.le

/-- The entries of all files, by their paths. -/
def entries (w : Workspace) : List FileEntry :=
  w.files.values.mergeSort fun a b => a.path.le b.path

end Workspace

end RoutineAtlas
