import RoutineAtlas.Proofs.PathOrder
import RoutineAtlas.Proofs.Session

/-!
# Indexing directories is indexing file by file

Indexing directories registers all routines first, checks every file once against the finished
table, and has the other files checked again once. Indexing the same files one by one registers,
checks and checks again in turn, against tables that are not finished. Both come to the same files
and the same table: a check against an unfinished table is done again as soon as a key changes that
the file calls, and what no such change touches is the same for the finished table.

The proof gives indexing one by one the closed form that `file?_indexPaths` states of the batch.

## Main definitions

* `Workspace.indexEach` — index the files that can be read, one after the other.
* `FileEntry.rechecked_rechecked` — checking again twice is checking again once.
* `Workspace.file?_indexEach`, `Workspace.table_indexEach` — the closed form.
-/

namespace RoutineAtlas

variable {t t' : SymbolTable} {changed more : List RoutineKey}

/-- A check is as good as one against a later table if no changed key is called. -/
theorem Analysis.checked_eq_of_agreeBut (ht : t.WellFormed) (ht' : t'.WellFormed)
    (hagree : SymbolTable.AgreeBut more t t') {a : Analysis} (h : a.record.callsAny more = false)
    (p : Path) : a.checked (t.excluding p) = a.checked (t'.excluding p) :=
  a.checked_congr (SymbolTable.check_eq_of_agreeBut ht ht' hagree p
    (Record.callsTo_eq_nil_of_callsAny h))

namespace FileEntry

variable {e : FileEntry}

theorem rechecked_eq_self (h : e.analysis.record.callsAny changed = false) :
    e.rechecked t changed = e := by
  simp [rechecked, h]

theorem rechecked_eq_checked (h : e.analysis.record.callsAny changed = true) :
    e.rechecked t changed = { e with analysis := e.analysis.checked (t.excluding e.path) } := by
  simp [rechecked, h]

/-- Checking again after two changes of the table is checking again after both. -/
theorem rechecked_rechecked (ht : t.WellFormed) (ht' : t'.WellFormed)
    (hagree : SymbolTable.AgreeBut more t t') (e : FileEntry) (changed : List RoutineKey) :
    (e.rechecked t changed).rechecked t' more = e.rechecked t' (changed ++ more) := by
  cases hchanged : e.analysis.record.callsAny changed with
  | false =>
    rw [rechecked_eq_self hchanged]
    simp only [rechecked, Record.callsAny_append, hchanged, Bool.false_or]
  | true =>
    have hboth : e.analysis.record.callsAny (changed ++ more) = true := by
      rw [Record.callsAny_append, hchanged, Bool.true_or]
    rw [rechecked_eq_checked hchanged, rechecked_eq_checked hboth]
    cases hmore : e.analysis.record.callsAny more with
    | true => exact rechecked_eq_checked hmore
    | false =>
      rw [← Analysis.checked_eq_of_agreeBut ht ht' hagree hmore]
      exact rechecked_eq_self hmore

end FileEntry

namespace Workspace

variable {w w' : Workspace} {disk : Disk} {paths : List Path}

/-- Index the files that can be read, one after the other. -/
def indexEach (disk : Disk) (w : Workspace) : List Path → Workspace
  | [] => w
  | p :: rest =>
    match disk.read? p with
    | some text => indexEach disk (w.indexFile p text true).2 rest
    | none => indexEach disk w rest

/-- The paths differ from one another. -/
def Distinct (paths : List Path) : Prop :=
  paths.Pairwise fun p q => p.same q = false

/-- A reading depends on nothing of the workspace but the versions of the files read. -/
theorem readAll_congr (h : ∀ p ∈ paths, w.versionOf p = w'.versionOf p) :
    (readAll disk w paths).1 = (readAll disk w' paths).1 := by
  induction paths generalizing w w' with
  | nil => rfl
  | cons p rest ih =>
    obtain ⟨hp, hrest⟩ := List.forall_mem_cons.1 h
    have hlater : (readAll disk (w.submit p).2 rest).1 = (readAll disk (w'.submit p).2 rest).1 := by
      apply ih
      intro q hq
      rw [versionOf_submit, versionOf_submit, hrest q hq]
    have hticket : (w.submit p).1 = (w'.submit p).1 := by
      simp only [submit, hp]
    simp only [readAll]
    split
    · simp only [hlater, hticket]
    · exact hlater

/-- The files that follow are read as if the first one had been indexed on its own. -/
theorem readAll_cons_of_some {p : Path} {text : Text} (hread : disk.read? p = some text)
    (w : Workspace) (rest : List Path) : (readAll disk w (p :: rest)).1 =
      ((w.submit p).1, .read p text) :: (readAll disk (w.indexFile p text true).2 rest).1 := by
  have hlater : (readAll disk (w.submit p).2 rest).1 =
      (readAll disk (w.indexFile p text true).2 rest).1 := by
    apply readAll_congr
    intro q _
    rw [indexFile_eq, versionOf_store]
  simp only [readAll, hread, hlater]

/-- A path that cannot be read changes no other reading. -/
theorem readAll_cons_of_none {p : Path} {rest : List Path} (hread : disk.read? p = none)
    (hdistinct : ∀ q ∈ rest, p.same q = false) :
    (readAll disk w (p :: rest)).1 = (readAll disk w rest).1 := by
  have hlater : (readAll disk (w.submit p).2 rest).1 = (readAll disk w rest).1 := by
    apply readAll_congr
    intro q hq
    rw [versionOf_submit, hdistinct q hq]
    rfl
  simp only [readAll, hread]
  exact hlater

theorem table_indexFile (w : Workspace) (p : Path) (text : Text) (withChecks : Bool) :
    (w.indexFile p text withChecks).2.table =
      (w.table.replaceFile p (Analysis.read p text).record.signatures).2 := by
  rw [indexFile_eq, table_store]
  cases withChecks <;> rfl

theorem tableAfter_cons_of_some {p : Path} {text : Text} (hread : disk.read? p = some text)
    (w : Workspace) (rest : List Path) :
    w.tableAfter disk (p :: rest) = (w.indexFile p text true).2.tableAfter disk rest := by
  rw [tableAfter, tableAfter, readAll_cons_of_some hread, registerAll_cons, table_indexFile]
  rfl

theorem changedByAll_cons_of_some {p : Path} {text : Text} (hread : disk.read? p = some text)
    (w : Workspace) (rest : List Path) : w.changedByAll disk (p :: rest) =
      (w.table.replaceFile p (Analysis.read p text).record.signatures).1 ++
        (w.indexFile p text true).2.changedByAll disk rest := by
  rw [changedByAll, changedByAll, readAll_cons_of_some hread, registerAll_cons, table_indexFile]
  rfl

/-- Indexing a file stores it, and checks the callers of what it changed again. -/
theorem Sound.file?_indexFile (h : w.Sound) (p q : Path) (text : Text) (withChecks : Bool) :
    (w.indexFile p text withChecks).2.file? q =
      if p.same q then some ⟨p, w.versionOf p + 1, w.preview p text withChecks⟩
      else (w.file? q).map fun e => e.rechecked (w.indexFile p text withChecks).2.table
        (w.table.replaceFile p (Analysis.read p text).record.signatures).1 := by
  rw [indexFile_eq, (h.submit p).file?_store]
  cases withChecks <;> rfl

theorem table_indexEach (hdistinct : Distinct paths) :
    (indexEach disk w paths).table = w.tableAfter disk paths := by
  induction paths generalizing w with
  | nil => rfl
  | cons p rest ih =>
    obtain ⟨hp, hrest⟩ := List.pairwise_cons.1 hdistinct
    rw [indexEach]
    cases hread : disk.read? p with
    | some text =>
      rw [tableAfter_cons_of_some hread]
      exact ih hrest
    | none =>
      rw [tableAfter, readAll_cons_of_none hread hp]
      exact ih hrest

/-- A file that is indexed before others comes to be what it is in a batch with them: its first
check is repeated if one of them changes a key that it calls, and good enough if not. -/
theorem rechecked_first {p : Path} {text : Text} (h : w.Sound) (rest : List Path) :
    let w₁ := (w.indexFile p text true).2
    FileEntry.rechecked ⟨p, w.versionOf p + 1, w.preview p text true⟩ (w₁.tableAfter disk rest)
        (w₁.changedByAll disk rest) =
      recorded (w₁.tableAfter disk rest) ((w.submit p).1, .read p text) := by
  intro w₁
  have hw₁ : w₁.Sound := h.indexFile p text true
  have hpreview : w.preview p text true =
      (Analysis.read p text).checked (w₁.table.excluding p) := by
    rw [table_indexFile]
    exact Analysis.checked_congr _
      (SymbolTable.check_replaceFile_self h.table (Analysis.isOf_read p text) _).symm
  rw [hpreview]
  cases hcalls : (Analysis.read p text).record.callsAny (w₁.changedByAll disk rest) with
  | true => exact FileEntry.rechecked_eq_checked hcalls
  | false =>
    rw [Analysis.checked_eq_of_agreeBut hw₁.table (hw₁.wellFormed_tableAfter disk rest)
      (hw₁.agreeBut_tableAfter disk rest) hcalls]
    exact FileEntry.rechecked_eq_self hcalls

/-- Indexing files one by one comes to what `file?_indexPaths` says of indexing them at once. -/
theorem file?_indexEach (h : w.Sound) (hdistinct : Distinct paths) (q : Path) :
    (indexEach disk w paths).file? q =
      ((lastRead q (readAll disk w paths).1).map (recorded (w.tableAfter disk paths))).or
        ((w.file? q).map fun e =>
          e.rechecked (w.tableAfter disk paths) (w.changedByAll disk paths)) := by
  induction paths generalizing w with
  | nil =>
    have hself : (fun e : FileEntry =>
        e.rechecked (w.tableAfter disk []) (w.changedByAll disk [])) = id :=
      funext fun e => FileEntry.rechecked_eq_self rfl
    rw [hself, Option.map_id]
    rfl
  | cons p rest ih =>
    obtain ⟨hp, hrest⟩ := List.pairwise_cons.1 hdistinct
    rw [indexEach]
    cases hread : disk.read? p with
    | none =>
      rw [tableAfter, changedByAll, readAll_cons_of_none hread hp]
      exact ih h hrest
    | some text =>
      have hw₁ : (w.indexFile p text true).2.Sound := h.indexFile p text true
      rw [tableAfter_cons_of_some hread, changedByAll_cons_of_some hread,
        readAll_cons_of_some hread, lastRead_cons]
      refine (ih hw₁ hrest).trans ?_
      cases lastRead q (readAll disk (w.indexFile p text true).2 rest).1 with
      | some x => rfl
      | none =>
        -- no later file stands at `q`: it is the first one, or one that was there before
        have hpath : (w.submit p).1.path = p := rfl
        rw [h.file?_indexFile, hpath]
        cases p.same q with
        | true => exact congrArg some (rechecked_first h rest)
        | false =>
          simp only [Bool.false_eq_true, if_false, Option.map_none, Option.none_or, Option.map_map]
          congr 1
          funext e
          exact FileEntry.rechecked_rechecked hw₁.table (hw₁.wellFormed_tableAfter disk rest)
            (hw₁.agreeBut_tableAfter disk rest) e _

/-! ## From either start -/

/-- The workspace that a run adds to: as it is, or emptied of its files and its table. -/
def basis (w : Workspace) (incremental : Bool) : Workspace :=
  if incremental then w else { w with files := [], table := .empty }

theorem Sound.basis (h : w.Sound) (incremental : Bool) : (w.basis incremental).Sound := by
  cases incremental with
  | true => exact h
  | false => exact ⟨SymbolTable.wellFormed_empty, fun p e he => by cases he⟩

theorem readAll_runStart (w : Workspace) (disk : Disk) (paths : List Path) (incremental : Bool) :
    (readAll disk (w.runStart incremental) paths).1 =
      (readAll disk (w.basis incremental) paths).1 :=
  readAll_congr fun _ _ => by cases incremental <;> rfl

theorem tableAfter_runStart (w : Workspace) (disk : Disk) (paths : List Path)
    (incremental : Bool) : (w.runStart incremental).tableAfter disk paths =
      (w.basis incremental).tableAfter disk paths := by
  rw [tableAfter, tableAfter, readAll_runStart]
  cases incremental <;> rfl

theorem table_indexPaths_eq_indexEach (w : Workspace) (disk : Disk) (hdistinct : Distinct paths)
    (incremental : Bool) : ((w.runStart incremental).indexPaths disk paths incremental).2.table =
      (indexEach disk (w.basis incremental) paths).table := by
  rw [table_indexPaths, tableAfter_runStart, table_indexEach hdistinct]

theorem file?_indexPaths_eq_indexEach (h : w.Sound) (disk : Disk) (hdistinct : Distinct paths)
    (incremental : Bool) (q : Path) :
    ((w.runStart incremental).indexPaths disk paths incremental).2.file? q =
      (indexEach disk (w.basis incremental) paths).file? q := by
  rw [file?_indexPaths _ _ _ _ _ (h.runStart incremental),
    file?_indexEach (h.basis incremental) hdistinct, readAll_runStart, tableAfter_runStart]
  cases incremental <;> rfl

/-! ## Versions -/

theorem countP_same_of_distinct (hdistinct : Distinct paths) (q : Path) :
    paths.countP (·.same q) = if paths.any (·.same q) then 1 else 0 := by
  induction paths with
  | nil => rfl
  | cons p rest ih =>
    obtain ⟨hp, hrest⟩ := List.pairwise_cons.1 hdistinct
    rw [List.countP_cons, List.any_cons]
    cases hsame : p.same q with
    | false => simpa using ih hrest
    | true =>
      have hnone : rest.countP (·.same q) = 0 := by
        rw [List.countP_eq_zero]
        intro r hr
        rw [← Path.same_right hsame, Path.same_comm, hp r hr]
        simp
      simp [hnone]

theorem versionOf_indexPaths_runStart (w : Workspace) (disk : Disk) (hdistinct : Distinct paths)
    (incremental : Bool) (q : Path) :
    ((w.runStart incremental).indexPaths disk paths incremental).2.versionOf q =
      w.versionOf q + if paths.any (·.same q) then 1 else 0 := by
  rw [versionOf_indexPaths, versionOf_submitAll, countP_same_of_distinct hdistinct]
  cases incremental <;> rfl

/-! ## Whole directories -/

/-- A run over directories that finds the files at `paths` and makes `w'` of `w`, compared with
indexing these files one by one. -/
structure OneByOne (w : Workspace) (disk : Disk) (globs : List Glob) (roots : List Path)
    (incremental : Bool) (paths : List Path) (summary : ScanSummary) (w' : Workspace) : Prop where
  /-- The paths are those of the matching files, in order and each once. -/
  sorted : Path.StrictlySorted paths
  matching : ∀ p ∈ paths, ∃ root ∈ roots, ∃ names, Matches disk globs root names p
  complete : ∀ root ∈ roots, ∀ names p, Matches disk globs root names p →
    ∃ q ∈ paths, q.same p = true
  /-- All files and the table are those that come of indexing one by one. -/
  files : ∀ q, w'.file? q = (indexEach disk (w.basis incremental) paths).file? q
  table : w'.table = (indexEach disk (w.basis incremental) paths).table
  /-- What can be read is indexed, and all else reported. -/
  indexed : summary.indexed = paths.filter fun p => (disk.read? p).isSome
  failed : summary.failed =
    (paths.filter fun p => (disk.read? p).isNone).map fun p => ⟨p, notText⟩
  /-- Every path counts one version more, whether it could be read or not. -/
  versions : ∀ q, w'.versionOf q = w.versionOf q + if paths.any (·.same q) then 1 else 0

theorem oneByOne_indexPaths (h : w.Sound) {globs : List Glob} {roots : List Path}
    (hroots : ∀ root ∈ roots, disk.isDir root = true) (incremental : Bool) :
    let paths := filesToIndex disk globs roots
    let result := (w.runStart incremental).indexPaths disk paths incremental
    w.OneByOne disk globs roots incremental paths result.1 result.2 := by
  intro paths result
  have hsorted : Path.StrictlySorted paths := strictlySorted_filesToIndex hroots
  have hdistinct : Distinct paths := hsorted.imp fun h => h.2
  exact
    { sorted := hsorted
      matching := fun p hp => matches_of_mem_filesToIndex hp
      complete := fun root hroot names p h => h.exists_mem_filesToIndex hroot
      files := file?_indexPaths_eq_indexEach h disk hdistinct incremental
      table := table_indexPaths_eq_indexEach w disk hdistinct incremental
      indexed := by rw [indexed_indexPaths, paths_readAll]
      failed := failed_indexPaths _ disk paths incremental
      versions := versionOf_indexPaths_runStart w disk hdistinct incremental }

end Workspace

/-- In every session, indexing directories fails for a missing root or a pattern that is none, and
then changes nothing, or does what indexing the matching files one by one does. -/
theorem Session.batch_eq_one_by_one (patterns : List Text) (steps : List Step) (disk : Disk)
    (roots : List Path) (incremental : Bool) :
    let s := (start patterns).run steps
    match s.workspace.scan disk roots incremental with
    | (.error e, w') => w' = s.workspace ∧ s.step (.scan disk roots incremental) = s ∧
        ((∃ root ∈ roots, disk.isDir root = false ∧ e = .missingRoot root) ∨
          s.workspace.compiledPatterns = .error e)
    | (.ok summary, w') => ∃ globs paths, s.workspace.compiledPatterns = .ok globs ∧
        s.workspace.OneByOne disk globs roots incremental paths summary w' := by
  intro s
  rcases hscan : s.workspace.scan disk roots incremental with ⟨e | summary, w'⟩
  · obtain ⟨rfl, hcause⟩ := Workspace.scan_eq_error _ _ hscan
    exact ⟨rfl, by simp [Session.step, hscan], hcause⟩
  · obtain ⟨hroots, globs, hglobs, heq⟩ := Workspace.scan_eq_ok _ _ hscan
    refine ⟨globs, Workspace.filesToIndex disk globs roots, hglobs, ?_⟩
    obtain ⟨rfl, rfl⟩ := Prod.ext_iff.1 heq
    exact Workspace.oneByOne_indexPaths (sound_run patterns steps) hroots incremental

/-- Two roots, one of them below the other and spelled differently, with a file that is text, one
that is not, a hidden one and one that no pattern accepts. -/
theorem Session.batch_eq_one_by_one_two_roots :
    let disk : Disk := ⟨[([['d']], .directory), ([['d'], ['a']], .file ⟨[], false⟩),
      ([['d'], ['.', 'h']], .file (.ofText [])), ([['d'], ['e']], .directory),
      ([['d'], ['e'], ['b']], .file (.ofText ['x'])),
      ([['d'], ['e'], ['c', 'c']], .file (.ofText []))], []⟩
    let roots : List Path := [.ofText ['d'], .ofText ['d', '/', '/', 'e']]
    let w := Workspace.empty [['?']]
    ∃ summary w', w.scan disk roots false = (.ok summary, w') ∧
      summary.indexed = [.ofText ['d', '/', 'e', '/', 'b']] ∧
      summary.failed = [⟨.ofText ['d', '/', 'a'], notText⟩] ∧
      ∃ globs paths, w.compiledPatterns = .ok globs ∧
        w.OneByOne disk globs roots false paths summary w' := by
  intro disk roots w
  have hscan := batch_eq_one_by_one [['?']] [] disk roots false
  have hw : ((start [['?']]).run []).workspace = w := rfl
  simp only [hw] at hscan
  split at hscan
  · rcases hscan.2.2 with ⟨root, hroot, hmissing, -⟩ | hpatterns
    · have hfound : ∀ root ∈ roots, disk.isDir root = true := by decide
      rw [hfound root hroot] at hmissing
      cases hmissing
    · cases hpatterns
  · rename_i summary w' heq
    obtain ⟨-, globs, hglobs, hresult⟩ := Workspace.scan_eq_ok _ _ heq
    obtain rfl : [⟨[.anyChar]⟩] = globs := Except.ok.inj hglobs
    have hfiles : Workspace.filesToIndex disk [⟨[.anyChar]⟩] roots =
        [.ofText ['d', '/', 'a'], .ofText ['d', '/', 'e', '/', 'b']] := by
      rw [Workspace.filesToIndex, List.mergeSort_of_pairwise (by decide +kernel)]
      decide +kernel
    rw [hfiles] at hresult
    have hindexed : summary.indexed = [.ofText ['d', '/', 'e', '/', 'b']] :=
      (congrArg (fun r => r.1.indexed) hresult).trans (by decide +kernel)
    have hfailed : summary.failed = [⟨.ofText ['d', '/', 'a'], notText⟩] :=
      (congrArg (fun r => r.1.failed) hresult).trans (by decide +kernel)
    exact ⟨summary, w', heq, hindexed, hfailed, hscan⟩

end RoutineAtlas
