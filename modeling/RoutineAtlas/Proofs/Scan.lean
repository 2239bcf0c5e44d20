import RoutineAtlas.Proofs.Workspace
import RoutineAtlas.Workspace.Scan

/-!
# What indexing directories does to a workspace

Indexing a list of paths submits all of them, registers the routines of those that can be read,
and then stores these files, checked against the finished table. The equations here say so for
every view of the workspace; none of them asks that the paths differ.

## Main definitions

* `Workspace.submitAll` — submitting without reading.
* `Workspace.lastRead` — the reading of a path that is stored in the end.
* `Workspace.file?_indexPaths` — the files after a run.
-/

namespace RoutineAtlas.Workspace

variable (w : Workspace) (disk : Disk) (paths : List Path) (p q : Path)

/-! ## Submitting and reading -/

/-- Submit files one after the other. -/
def submitAll : Workspace :=
  paths.foldl (fun w p => (w.submit p).2) w

@[simp] theorem table_submitAll : (w.submitAll paths).table = w.table := by
  induction paths generalizing w with
  | nil => rfl
  | cons p rest ih => exact ih (w.submit p).2

@[simp] theorem generation_submitAll : (w.submitAll paths).generation = w.generation := by
  induction paths generalizing w with
  | nil => rfl
  | cons p rest ih => exact ih (w.submit p).2

@[simp] theorem file?_submitAll : (w.submitAll paths).file? q = w.file? q := by
  induction paths generalizing w with
  | nil => rfl
  | cons p rest ih => exact ih (w.submit p).2

theorem versionOf_submitAll :
    (w.submitAll paths).versionOf q = w.versionOf q + paths.countP (·.same q) := by
  induction paths generalizing w with
  | nil => rfl
  | cons p rest ih =>
    have hcons : w.submitAll (p :: rest) = (w.submit p).2.submitAll rest := rfl
    rw [hcons, ih, versionOf_submit, List.countP_cons]
    omega

theorem workspace_readAll : (readAll disk w paths).2.2 = w.submitAll paths := by
  induction paths generalizing w with
  | nil => rfl
  | cons p rest ih =>
    have hcons : w.submitAll (p :: rest) = (w.submit p).2.submitAll rest := rfl
    rw [hcons, ← ih]
    simp only [readAll]
    split <;> rfl

theorem failed_readAll : (readAll disk w paths).2.1 =
    (paths.filter fun p => (disk.read? p).isNone).map fun p => ⟨p, notText⟩ := by
  induction paths generalizing w with
  | nil => rfl
  | cons p rest ih =>
    simp only [readAll]
    cases hread : disk.read? p with
    | some text => simp [hread, ih]
    | none => simp [hread, ih]

theorem paths_readAll : (readAll disk w paths).1.map (·.1.path) =
    paths.filter fun p => (disk.read? p).isSome := by
  induction paths generalizing w with
  | nil => rfl
  | cons p rest ih =>
    simp only [readAll]
    cases hread : disk.read? p with
    | some text =>
      simp only [hread, Option.isSome_some, List.filter_cons_of_pos, List.map_cons, ih]
      rfl
    | none => simpa [hread] using ih _

/-- What a reading is: the text of one of the paths, under a number that none before it had. -/
structure ReadFrom (x : Ticket × Analysis) : Prop where
  mem : x.1.path ∈ paths
  above : w.versionOf x.1.path < x.1.version
  le : x.1.version ≤ (w.submitAll paths).versionOf x.1.path
  text : ∃ text, disk.read? x.1.path = some text ∧ x.2 = .read x.1.path text

theorem readFrom_of_mem {x : Ticket × Analysis} (h : x ∈ (readAll disk w paths).1) :
    ReadFrom w disk paths x := by
  induction paths generalizing w with
  | nil => simp [readAll] at h
  | cons p rest ih =>
    have hcons : w.submitAll (p :: rest) = (w.submit p).2.submitAll rest := rfl
    have later (hx : x ∈ (readAll disk (w.submit p).2 rest).1) : ReadFrom w disk (p :: rest) x := by
      obtain ⟨hmem, habove, hle, htext⟩ := ih (w.submit p).2 hx
      rw [versionOf_submit] at habove
      exact ⟨List.mem_cons_of_mem _ hmem, by omega, hcons ▸ hle, htext⟩
    simp only [readAll] at h
    split at h
    · rename_i text hread
      rcases List.mem_cons.1 h with rfl | h
      · refine ⟨by simp [submit], by simp [submit], ?_, text, hread, rfl⟩
        rw [hcons, versionOf_submitAll, versionOf_submit]
        simp only [submit, Path.same_self, if_true]
        omega
      · exact later h
    · exact later h

/-- The routines of a reading are of the file read. -/
theorem isOf_of_mem_readAll {x : Ticket × Analysis} (h : x ∈ (readAll disk w paths).1) :
    x.2.IsOf x.1.path := by
  obtain ⟨text, -, htext⟩ := (readFrom_of_mem w disk paths h).text
  rw [htext]
  exact Analysis.isOf_read x.1.path text

/-! ## Registering and recording -/

theorem registerAll_cons (table : SymbolTable) (x : Ticket × Analysis)
    (rest : List (Ticket × Analysis)) :
    registerAll table (x :: rest) =
      let first := table.replaceFile x.1.path x.2.record.signatures
      let after := registerAll first.2 rest
      (first.1 ++ after.1, after.2) :=
  rfl

theorem wellFormed_registerAll {table : SymbolTable} (h : table.WellFormed)
    (read : List (Ticket × Analysis)) : (registerAll table read).2.WellFormed := by
  induction read generalizing table with
  | nil => exact h
  | cons x rest ih => exact ih (h.replaceFile x.1.path x.2.record.signatures)

theorem agreeBut_registerAll {table : SymbolTable} (h : table.WellFormed)
    {read : List (Ticket × Analysis)}
    (hread : ∀ x ∈ read, x.2.IsOf x.1.path) :
    SymbolTable.AgreeBut (registerAll table read).1 table (registerAll table read).2 := by
  induction read generalizing table with
  | nil => exact .refl _ _
  | cons x rest ih =>
    obtain ⟨hx, hrest⟩ := List.forall_mem_cons.1 hread
    exact (SymbolTable.agreeBut_replaceFile h hx).trans
      (ih (h.replaceFile x.1.path x.2.record.signatures) hrest)

/-- The entry that a reading is stored as. -/
def recorded (table : SymbolTable) (x : Ticket × Analysis) : FileEntry :=
  ⟨x.1.path, x.1.version, x.2.checked (table.excluding x.1.path)⟩

/-- The reading of a path that is stored in the end. -/
def lastRead (read : List (Ticket × Analysis)) : Option (Ticket × Analysis) :=
  read.reverse.find? fun x => x.1.path.same q

theorem lastRead_cons (x : Ticket × Analysis) (rest : List (Ticket × Analysis)) :
    lastRead q (x :: rest) = (lastRead q rest).or (if x.1.path.same q then some x else none) := by
  rw [lastRead, List.reverse_cons, List.find?_append, List.find?_singleton]
  rfl

theorem of_lastRead {read : List (Ticket × Analysis)} {x : Ticket × Analysis}
    (h : lastRead q read = some x) : x ∈ read ∧ x.1.path.same q = true :=
  ⟨by simpa using List.mem_of_find?_eq_some h, by simpa using List.find?_some h⟩

theorem lastRead_eq_none {read : List (Ticket × Analysis)} (h : lastRead q read = none) :
    (read.map (·.1.path)).any (fun p => p.same q) = false := by
  simpa [lastRead] using h

theorem recordAll_cons (x : Ticket × Analysis) (rest : List (Ticket × Analysis)) :
    w.recordAll (x :: rest) =
      let first := w.recordFile x.1 x.2
      let after := first.2.recordAll rest
      (first.1 :: after.1, after.2) :=
  rfl

section RecordAll

variable (read : List (Ticket × Analysis))

@[simp] theorem table_recordAll : (w.recordAll read).2.table = w.table := by
  induction read generalizing w with
  | nil => rfl
  | cons x rest ih => exact ih (w.recordFile x.1 x.2).2

@[simp] theorem generation_recordAll : (w.recordAll read).2.generation = w.generation := by
  induction read generalizing w with
  | nil => rfl
  | cons x rest ih => exact ih (w.recordFile x.1 x.2).2

@[simp] theorem versionOf_recordAll : (w.recordAll read).2.versionOf q = w.versionOf q := by
  induction read generalizing w with
  | nil => rfl
  | cons x rest ih => exact ih (w.recordFile x.1 x.2).2

theorem paths_recordAll : (w.recordAll read).1.map FileEntry.path = read.map (·.1.path) := by
  induction read generalizing w with
  | nil => rfl
  | cons x rest ih =>
    rw [recordAll_cons, List.map_cons, List.map_cons, ih]
    rfl

theorem file?_recordAll : (w.recordAll read).2.file? q =
    ((lastRead q read).map (recorded w.table)).or (w.file? q) := by
  induction read generalizing w with
  | nil => rfl
  | cons x rest ih =>
    have hget : (w.recordFile x.1 x.2).2.file? q =
        if x.1.path.same q then some (recorded w.table x) else w.file? q :=
      PathMap.get?_insert _ _ _ _
    have htable : (w.recordFile x.1 x.2).2.table = w.table := rfl
    rw [recordAll_cons, ih, htable, hget, lastRead_cons]
    cases lastRead q rest with
    | some y => rfl
    | none => split <;> rfl

end RecordAll

/-! ## A whole run -/

section Run

variable (incremental : Bool)

/-- The keys that a run changes, over all files that it reads. -/
def changedByAll : List RoutineKey :=
  (registerAll w.table (readAll disk w paths).1).1

/-- The table of a run once all files that it reads are registered. -/
def tableAfter : SymbolTable :=
  (registerAll w.table (readAll disk w paths).1).2

theorem Sound.wellFormed_tableAfter {w : Workspace} (h : w.Sound) :
    (w.tableAfter disk paths).WellFormed :=
  wellFormed_registerAll h.table _

theorem Sound.agreeBut_tableAfter {w : Workspace} (h : w.Sound) :
    SymbolTable.AgreeBut (w.changedByAll disk paths) w.table (w.tableAfter disk paths) :=
  agreeBut_registerAll h.table fun _ hx => isOf_of_mem_readAll w disk paths hx

/-- The workspace of a run when all files are registered and none is stored. -/
def registered : Workspace :=
  let submitted := { w.submitAll paths with
    log := (w.submitAll paths).log ++ (readAll disk w paths).2.1.map FailedFile.logEntry }
  submitted.withTable (w.changedByAll disk paths) (w.tableAfter disk paths)

theorem indexPaths_snd : (w.indexPaths disk paths incremental).2 =
    let stored := (w.registered disk paths).recordAll (readAll disk w paths).1
    if incremental then
      stored.2.recheck (w.changedByAll disk paths) (stored.1.map FileEntry.path)
    else stored.2 := by
  have hlog : (w.indexPaths disk paths incremental).2 =
      let submitted := { (readAll disk w paths).2.2 with
        log := (readAll disk w paths).2.2.log ++
          (readAll disk w paths).2.1.map FailedFile.logEntry }
      let changed := (registerAll submitted.table (readAll disk w paths).1).1
      let table := (registerAll submitted.table (readAll disk w paths).1).2
      let stored := (submitted.withTable changed table).recordAll (readAll disk w paths).1
      if incremental then stored.2.recheck changed (stored.1.map FileEntry.path)
      else stored.2 := rfl
  rw [hlog, workspace_readAll]
  simp only [table_submitAll]
  rfl

theorem indexed_indexPaths : (w.indexPaths disk paths incremental).1.indexed =
    (readAll disk w paths).1.map (·.1.path) :=
  paths_recordAll _ _

theorem failed_indexPaths : (w.indexPaths disk paths incremental).1.failed =
    (paths.filter fun p => (disk.read? p).isNone).map fun p => ⟨p, notText⟩ :=
  failed_readAll w disk paths

/-- Every path of a run is either indexed or reported as unreadable. -/
theorem countP_visited (good : Path → Bool) :
    let summary := (w.indexPaths disk paths incremental).1
    (summary.indexed ++ summary.failed.map FailedFile.path).countP good = paths.countP good := by
  intro summary
  have hfailed : summary.failed.map FailedFile.path =
      paths.filter fun p => !(disk.read? p).isSome := by
    rw [failed_indexPaths, List.map_map]
    simp [Function.comp_def]
  rw [hfailed, indexed_indexPaths, paths_readAll, List.countP_append,
    ← List.countP_eq_countP_filter_add]

theorem table_indexPaths :
    (w.indexPaths disk paths incremental).2.table = w.tableAfter disk paths := by
  rw [indexPaths_snd]
  cases incremental <;> exact table_recordAll (w.registered disk paths) (readAll disk w paths).1

theorem generation_indexPaths : (w.indexPaths disk paths incremental).2.generation =
    if (w.changedByAll disk paths).isEmpty then w.generation else w.generation + 1 := by
  have hstored : ((w.registered disk paths).recordAll (readAll disk w paths).1).2.generation =
      if (w.changedByAll disk paths).isEmpty then w.generation else w.generation + 1 := by
    rw [generation_recordAll]
    simp [registered, withTable]
  rw [indexPaths_snd]
  cases incremental <;> exact hstored

theorem versionOf_indexPaths : (w.indexPaths disk paths incremental).2.versionOf q =
    (w.submitAll paths).versionOf q := by
  have hstored : ((w.registered disk paths).recordAll (readAll disk w paths).1).2.versionOf q =
      (w.submitAll paths).versionOf q := by
    rw [versionOf_recordAll]
    rfl
  rw [indexPaths_snd]
  cases incremental <;> exact hstored

/-- A run stores the last reading of every path that it could read. All other files stay, and an
incremental run checks those again that call a changed key. -/
theorem file?_indexPaths (h : w.Sound) : (w.indexPaths disk paths incremental).2.file? q =
    ((lastRead q (readAll disk w paths).1).map (recorded (w.tableAfter disk paths))).or
      ((w.file? q).map fun e =>
        if incremental then e.rechecked (w.tableAfter disk paths) (w.changedByAll disk paths)
        else e) := by
  have hstored : ((w.registered disk paths).recordAll (readAll disk w paths).1).2.file? q =
      ((lastRead q (readAll disk w paths).1).map (recorded (w.tableAfter disk paths))).or
        (w.file? q) := by
    rw [file?_recordAll]
    congr 1
    exact file?_submitAll w paths q
  rw [indexPaths_snd]
  cases incremental with
  | false => simpa using hstored
  | true =>
    simp only [if_true]
    rw [file?_recheck, hstored, paths_recordAll, table_recordAll]
    cases hlast : lastRead q (readAll disk w paths).1 with
    | some x =>
      have hskip : ((readAll disk w paths).1.map (·.1.path)).any
          (fun p => p.same x.1.path) = true :=
        List.any_eq_true.2 ⟨x.1.path, List.mem_map.2 ⟨x, (of_lastRead q hlast).1, rfl⟩, by simp⟩
      simp [recorded, hskip]
    | none =>
      cases hfile : w.file? q with
      | none => rfl
      | some e =>
        have hskip : ((readAll disk w paths).1.map (·.1.path)).any
            (fun p => p.same e.path) = false := by
          simp only [Path.same_right (h.placed q e hfile)]
          exact lastRead_eq_none q hlast
        simp only [Option.map_none, Option.none_or, Option.map_some, hskip, Bool.false_eq_true,
          if_false]
        rfl

theorem Sound.indexPaths {w : Workspace} (h : w.Sound) :
    (w.indexPaths disk paths incremental).2.Sound where
  table := by
    rw [table_indexPaths]
    exact h.wellFormed_tableAfter disk paths
  placed := by
    intro q e he
    rw [file?_indexPaths _ _ _ _ _ h] at he
    cases hlast : lastRead q (readAll disk w paths).1 with
    | some x =>
      rw [hlast] at he
      obtain rfl := Option.some.inj he
      exact (of_lastRead q hlast).2
    | none =>
      rw [hlast] at he
      obtain ⟨old, hold, rfl⟩ := Option.map_eq_some_iff.1 he
      have hplaced := h.placed q old hold
      split
      · rwa [FileEntry.path_rechecked]
      · exact hplaced

end Run

theorem Sound.cleared {w : Workspace} : w.cleared.Sound where
  table := SymbolTable.wellFormed_empty
  placed := by
    intro p e he
    simp [Workspace.cleared, file?] at he

/-- Where a run starts: at the workspace as it is, or at an empty one. -/
def runStart (incremental : Bool) : Workspace :=
  if incremental then w else w.cleared

theorem Sound.runStart {w : Workspace} (h : w.Sound) (incremental : Bool) :
    (w.runStart incremental).Sound := by
  cases incremental
  · exact Sound.cleared
  · exact h

/-- A run that succeeds has found every root and compiled every pattern. -/
theorem scan_eq_ok {roots : List Path} {incremental : Bool} {summary : ScanSummary}
    {w' : Workspace} (h : w.scan disk roots incremental = (.ok summary, w')) :
    (∀ root ∈ roots, disk.isDir root = true) ∧
      ∃ globs, w.compiledPatterns = .ok globs ∧
        (summary, w') = (w.runStart incremental).indexPaths disk (filesToIndex disk globs roots)
          incremental := by
  unfold scan at h
  split at h
  · cases h
  · rename_i hroots
    split at h
    · cases h
    · rename_i globs hglobs
      refine ⟨by simpa using hroots, globs, hglobs, ?_⟩
      obtain ⟨hsummary, hw⟩ := Prod.mk.inj h
      exact Prod.ext (Except.ok.inj hsummary).symm hw.symm

/-- A run that fails has missed a root or met a pattern that is none, and has left the workspace as
it was. -/
theorem scan_eq_error {roots : List Path} {incremental : Bool} {e : ScanError} {w' : Workspace}
    (h : w.scan disk roots incremental = (.error e, w')) :
    w' = w ∧ ((∃ root ∈ roots, disk.isDir root = false ∧ e = .missingRoot root) ∨
      w.compiledPatterns = .error e) := by
  unfold scan at h
  split at h
  · rename_i root hroot
    obtain ⟨herror, hw⟩ := Prod.mk.inj h
    have hmissing : disk.isDir root = false := by simpa using List.find?_some hroot
    exact ⟨hw.symm, .inl ⟨root, List.mem_of_find?_eq_some hroot, hmissing,
      (Except.error.inj herror).symm⟩⟩
  · split at h
    · rename_i e' he'
      obtain ⟨herror, hw⟩ := Prod.mk.inj h
      obtain rfl := Except.error.inj herror
      exact ⟨hw.symm, .inr he'⟩
    · cases h

end RoutineAtlas.Workspace
