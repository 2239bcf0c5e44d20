import RoutineAtlas.Proofs.Agreement
import RoutineAtlas.Proofs.Record
import RoutineAtlas.Workspace

/-!
# What each operation does to a workspace

A workspace is read through its files, its table, its generation and its versions. The operations
on single files are cut here into named steps, and every step gets one equation for each of these
views.

`Sound` collects what every operation keeps, whatever is committed: the table is well formed, and
an entry stands at its own path.

## Main definitions

* `FileEntry.rechecked` — a file after the interfaces of some keys have changed.
* `Workspace.upToDate` — the analysis that a commit stores.
* `Workspace.store` — what an accepted commit does.
* `Workspace.Sound` — well-formed table, entries at their paths.
-/

namespace RoutineAtlas

/-- Some call of the file may mean one of the keys. -/
def Record.callsAny (r : Record) (keys : List RoutineKey) : Bool :=
  keys.any fun key => !(r.callsTo key).isEmpty

theorem Record.callsTo_eq_nil_of_callsAny {r : Record} {keys : List RoutineKey}
    (h : r.callsAny keys = false) : ∀ key ∈ keys, r.callsTo key = [] := by
  simpa [callsAny] using h

theorem Record.callsAny_append (r : Record) (keys more : List RoutineKey) :
    r.callsAny (keys ++ more) = (r.callsAny keys || r.callsAny more) := by
  simp [callsAny]

/-- The file with its checks done anew if one of its calls may mean a changed key. -/
def FileEntry.rechecked (e : FileEntry) (table : SymbolTable) (changed : List RoutineKey) :
    FileEntry :=
  if e.analysis.record.callsAny changed then
    { e with analysis := e.analysis.checked (table.excluding e.path) }
  else e

namespace FileEntry

variable (e : FileEntry) (table : SymbolTable) (changed : List RoutineKey)

@[simp] theorem path_rechecked : (e.rechecked table changed).path = e.path := by
  unfold rechecked; split <;> rfl

@[simp] theorem version_rechecked : (e.rechecked table changed).version = e.version := by
  unfold rechecked; split <;> rfl

@[simp] theorem record_rechecked :
    (e.rechecked table changed).analysis.record = e.analysis.record := by
  unfold rechecked; split <;> rfl

end FileEntry

namespace Workspace

variable (w : Workspace) (p q : Path) (t : Ticket) (a : Analysis)

/-! ## Submitting -/

@[simp] theorem table_submit : (w.submit p).2.table = w.table := rfl
@[simp] theorem generation_submit : (w.submit p).2.generation = w.generation := rfl
@[simp] theorem file?_submit : (w.submit p).2.file? q = w.file? q := rfl

theorem versionOf_submit :
    (w.submit p).2.versionOf q = w.versionOf q + if p.same q then 1 else 0 := by
  have hget : (w.submit p).2.versions.get? q =
      if p.same q then some (w.versionOf p + 1) else w.versions.get? q :=
    PathMap.get?_insert _ _ _ _
  rw [versionOf, hget]
  split
  · rename_i h
    rw [Option.getD_some, versionOf, PathMap.get?_congr _ h]
    rfl
  · rfl

theorem versionOf_congr {p q : Path} (h : p.same q = true) : w.versionOf p = w.versionOf q := by
  rw [versionOf, PathMap.get?_congr _ h]
  rfl

/-- A ticket is current if it has the last version that was submitted of its file. -/
theorem isCurrent_iff (h : t.version ≠ 0) :
    w.isCurrent t = true ↔ w.versionOf t.path = t.version := by
  rw [isCurrent, beq_iff_eq, versionOf]
  cases w.versions.get? t.path with
  | none => simpa using Ne.symm h
  | some v => simp

theorem version_of_isCurrent (h : w.isCurrent t = true) : w.versionOf t.path = t.version := by
  rw [isCurrent, beq_iff_eq] at h
  rw [versionOf, h]
  rfl

/-! ## Checking again -/

section Recheck

variable (changed : List RoutineKey) (skip : List Path)

@[simp] theorem table_recheck : (w.recheck changed skip).table = w.table := rfl
@[simp] theorem generation_recheck : (w.recheck changed skip).generation = w.generation := rfl

theorem file?_recheck : (w.recheck changed skip).file? p =
    (w.file? p).map fun e =>
      if skip.any (fun q => q.same e.path) then e else e.rechecked w.table changed := by
  have hfiles : (w.recheck changed skip).file? p = (w.files.mapValues fun e =>
      if !skip.any (fun q => q.same e.path) && e.analysis.record.callsAny changed then
        { e with analysis := e.analysis.checked (w.lookup e.path) }
      else e).get? p := rfl
  rw [hfiles, PathMap.get?_mapValues]
  congr 1
  funext e
  unfold FileEntry.rechecked
  cases skip.any (fun q => q.same e.path) <;> rfl

end Recheck

/-! ## Committing -/

/-- The analysis that a commit stores: done anew if it was checked against another generation. -/
def upToDate : Analysis :=
  if t.checkedAgainst.any (· != w.generation) then a.checked (w.lookup t.path) else a

@[simp] theorem record_upToDate : (w.upToDate t a).record = a.record := by
  unfold upToDate; split <;> rfl

theorem isOf_upToDate {t : Ticket} {a : Analysis} {p : Path} (h : a.IsOf p) :
    (w.upToDate t a).IsOf p := by
  rw [Analysis.IsOf, record_upToDate]
  exact h

/-- The keys that a commit of `a` changes for others. -/
def changedBy : List RoutineKey :=
  (w.table.replaceFile t.path a.record.signatures).1

/-- What an accepted commit of an analysis does. -/
def store : Workspace :=
  let table := (w.table.replaceFile t.path a.record.signatures).2
  let stored := { w.withTable (w.changedBy t a) table with
    files := w.files.insert t.path ⟨t.path, t.version, a⟩ }
  stored.recheck (w.changedBy t a) [t.path]

theorem commit_eq : w.commit t a =
    if w.isCurrent t then
      (.committed ⟨t.path, t.version, w.upToDate t a⟩, w.store t (w.upToDate t a))
    else (.superseded t.version, w) :=
  rfl

theorem table_store :
    (w.store t a).table = (w.table.replaceFile t.path a.record.signatures).2 := rfl

theorem generation_store : (w.store t a).generation =
    if (w.changedBy t a).isEmpty then w.generation else w.generation + 1 := rfl

@[simp] theorem versionOf_store : (w.store t a).versionOf p = w.versionOf p := rfl

theorem file?_store : (w.store t a).file? p =
    if t.path.same p then some ⟨t.path, t.version, a⟩
    else (w.file? p).map fun e =>
      if t.path.same e.path then e else e.rechecked (w.store t a).table (w.changedBy t a) := by
  rw [store, file?_recheck]
  have hget : (w.files.insert t.path ⟨t.path, t.version, a⟩).get? p =
      if t.path.same p then some ⟨t.path, t.version, a⟩ else w.files.get? p :=
    PathMap.get?_insert _ _ _ _
  rw [file?, hget]
  split
  · simp
  · simp [file?, withTable]

/-- The file of an accepted commit is stored, for every spelling of its path. -/
theorem file?_commit (h : w.isCurrent t = true) (hp : t.path.same p = true) :
    (w.commit t a).2.file? p = some ⟨t.path, t.version, w.upToDate t a⟩ := by
  rw [commit_eq, if_pos h, file?_store, if_pos hp]

/-- The ticket with which a file is indexed at once. -/
def directTicket (withChecks : Bool) : Ticket :=
  ⟨p, w.versionOf p + 1, if withChecks then some w.generation else none⟩

/-- A file that is indexed at once is always committed, and never checked twice. -/
theorem indexFile_eq (text : Text) (withChecks : Bool) : w.indexFile p text withChecks =
    (.committed ⟨p, w.versionOf p + 1, w.preview p text withChecks⟩,
      (w.submit p).2.store (w.directTicket p withChecks) (w.preview p text withChecks)) := by
  have hcommit : w.indexFile p text withChecks =
      (w.submit p).2.commit (w.directTicket p withChecks) (w.preview p text withChecks) := rfl
  have hcurrent : (w.submit p).2.isCurrent (w.directTicket p withChecks) = true := by
    rw [isCurrent_iff _ _ (Nat.succ_ne_zero _), versionOf_submit, directTicket, Path.same_self]
    rfl
  have hfresh : (w.submit p).2.upToDate (w.directTicket p withChecks)
      (w.preview p text withChecks) = w.preview p text withChecks := by
    cases withChecks <;> simp [upToDate, directTicket]
  rw [hcommit, commit_eq, if_pos hcurrent, hfresh]
  rfl

/-! ## Forgetting a file -/

theorem table_removeFile : (w.removeFile p).2.table = (w.table.removeFile p).2 := rfl

theorem generation_removeFile : (w.removeFile p).2.generation =
    if (w.table.removeFile p).1.isEmpty then w.generation else w.generation + 1 := rfl

theorem versionOf_removeFile :
    (w.removeFile p).2.versionOf q = w.versionOf q + if p.same q then 1 else 0 :=
  w.versionOf_submit p q

theorem file?_removeFile : (w.removeFile p).2.file? q =
    if p.same q then none
    else (w.file? q).map fun e =>
      e.rechecked (w.table.removeFile p).2 (w.table.removeFile p).1 := by
  let dropped : Workspace := { (w.submit p).2 with files := w.files.erase p }
  have hremove : (w.removeFile p).2 = (dropped.withTable (w.table.removeFile p).1
      (w.table.removeFile p).2).recheck (w.table.removeFile p).1 [] := rfl
  have hget : (w.files.erase p).get? q = if p.same q then none else w.files.get? q :=
    PathMap.get?_erase _ _ _
  rw [hremove, file?_recheck]
  have hfile : (dropped.withTable (w.table.removeFile p).1 (w.table.removeFile p).2).file? q =
      (w.files.erase p).get? q := rfl
  rw [hfile, hget]
  split <;> rfl

/-! ## What every operation keeps -/

/-- The table is well formed, and an entry stands at its own path. -/
structure Sound (w : Workspace) : Prop where
  table : w.table.WellFormed
  placed : ∀ p e, w.file? p = some e → e.path.same p = true

theorem sound_empty (patterns : List Text) : (empty patterns).Sound where
  table := SymbolTable.wellFormed_empty
  placed := by
    intro p e he
    simp [empty, file?] at he

variable {w}

theorem Sound.submit (h : w.Sound) : (w.submit p).2.Sound :=
  ⟨h.table, h.placed⟩

/-- Away from the committed path, an accepted commit only checks again. -/
theorem Sound.file?_store (h : w.Sound) : (w.store t a).file? p =
    if t.path.same p then some ⟨t.path, t.version, a⟩
    else (w.file? p).map fun e => e.rechecked (w.store t a).table (w.changedBy t a) := by
  rw [Workspace.file?_store]
  split
  · rfl
  · rename_i hp
    cases hfile : w.file? p with
    | none => rfl
    | some e =>
      have : t.path.same e.path = false := by
        rw [Path.same_right (h.placed p e hfile)]
        simpa using hp
      simp [this]

theorem Sound.store (h : w.Sound) : (w.store t a).Sound where
  table := h.table.replaceFile t.path a.record.signatures
  placed := by
    intro p e he
    rw [h.file?_store] at he
    split at he
    · rename_i hp
      obtain rfl := Option.some.inj he
      exact hp
    · obtain ⟨old, hold, rfl⟩ := Option.map_eq_some_iff.1 he
      rw [FileEntry.path_rechecked]
      exact h.placed p old hold

theorem Sound.indexFile (h : w.Sound) (text : Text) (withChecks : Bool) :
    (w.indexFile p text withChecks).2.Sound := by
  rw [indexFile_eq]
  exact (h.submit p).store _ _

theorem Sound.removeFile (h : w.Sound) : (w.removeFile p).2.Sound where
  table := h.table.removeFile p
  placed := by
    intro q e he
    rw [file?_removeFile] at he
    split at he
    · cases he
    · obtain ⟨old, hold, rfl⟩ := Option.map_eq_some_iff.1 he
      rw [FileEntry.path_rechecked]
      exact h.placed q old hold

end Workspace

end RoutineAtlas
