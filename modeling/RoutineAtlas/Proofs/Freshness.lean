import RoutineAtlas.Proofs.Session

/-!
# No check is ever stale

The checks of a file depend on the routines of all other files, and are not done again whenever one
of those changes: a change of the table has only those files checked again that call a changed key,
and an analysis that waits for its commit is not looked at at all. Instead its ticket notes the
generation of the table that it was checked against, and a commit checks again if that has passed.

What makes this enough is `SymbolTable.AgreeBut`: outside of the changed keys nothing that a check
could see is different. So a file that calls none of them is told what it was told before, and a
table of the same generation tells every file the same.

## Main definitions

* `FileEntry.Settled` — the stored checks are those of the present table, or were never asked for.
* `Workspace.Follows` — a later workspace of the same generation tells every file the same.
* `Submission.Pending` — what is known of an analysis that waits for its commit.
* `Session.checks_never_stale` — every file of every run is settled.
-/

namespace RoutineAtlas

/-! ## Files -/

/-- The checks of the file at `p` are those that the table calls for, or were not asked for and
never done. -/
def FileEntry.Settled (e : FileEntry) (table : SymbolTable) (p : Path) (withChecks : Option Bool) :
    Prop :=
  e.analysis.checkProblems = e.analysis.check (table.excluding p) ∨
    (withChecks = some false ∧ e.analysis.checkProblems = [])

/-- Checking the callers of the changed keys again is enough to settle all files. -/
theorem FileEntry.Settled.rechecked {e : FileEntry} {t t' : SymbolTable} {p : Path}
    {withChecks : Option Bool} (h : e.Settled t p withChecks) {changed : List RoutineKey}
    (ht : t.WellFormed) (ht' : t'.WellFormed) (hagree : SymbolTable.AgreeBut changed t t')
    (hplaced : e.path.same p = true) : (e.rechecked t' changed).Settled t' p withChecks := by
  unfold FileEntry.rechecked
  split
  · left
    rw [Analysis.checkProblems_checked, Analysis.check_checked,
      SymbolTable.excluding_congr t' hplaced]
  · rename_i hcalls
    have htold : e.analysis.check (t.excluding p) = e.analysis.check (t'.excluding p) :=
      SymbolTable.check_eq_of_agreeBut ht ht' hagree p
        (Record.callsTo_eq_nil_of_callsAny (Bool.not_eq_true _ ▸ hcalls))
    rcases h with hfresh | hnever
    · exact .inl (hfresh.trans htold)
    · exact .inr hnever

/-! ## Workspaces -/

namespace Workspace

/-- The second workspace is a later one, and if its generation is the same then it tells every file
what the first one does. -/
structure Follows (w w' : Workspace) : Prop where
  le : w.generation ≤ w'.generation
  told : w'.generation = w.generation →
    ∀ p a, Analysis.check a (w'.lookup p) = a.check (w.lookup p)

variable {w w' w'' : Workspace}

theorem Follows.refl (w : Workspace) : w.Follows w :=
  ⟨Nat.le_refl _, fun _ _ _ => rfl⟩

theorem Follows.trans (h : w.Follows w') (h' : w'.Follows w'') : w.Follows w'' where
  le := Nat.le_trans h.le h'.le
  told := by
    intro hgeneration p a
    have hle := h.le
    have hle' := h'.le
    rw [h'.told (by omega), h.told (by omega)]

/-- The generation counts every change of the table that a check could notice. -/
theorem follows_of_agreeBut {changed : List RoutineKey} (hw : w.table.WellFormed)
    (hw' : w'.table.WellFormed) (hagree : SymbolTable.AgreeBut changed w.table w'.table)
    (hgeneration : w'.generation =
      if changed.isEmpty then w.generation else w.generation + 1) : w.Follows w' := by
  cases changed with
  | nil =>
    have hsame : w'.generation = w.generation := hgeneration
    refine ⟨Nat.le_of_eq hsame.symm, ?_⟩
    intro _ p a
    exact (SymbolTable.check_eq_of_agreeBut hw hw' hagree p (by simp)).symm
  | cons key rest =>
    have hnext : w'.generation = w.generation + 1 := hgeneration
    exact ⟨by omega, fun hsame => by omega⟩

theorem follows_submit (w : Workspace) (p : Path) : w.Follows (w.submit p).2 :=
  ⟨Nat.le_refl _, fun _ _ _ => rfl⟩

theorem Sound.follows_store (h : w.Sound) {t : Ticket} {a : Analysis}
    (ha : a.IsOf t.path) : w.Follows (w.store t a) :=
  follows_of_agreeBut h.table (h.store t a).table (SymbolTable.agreeBut_replaceFile h.table ha)
    (generation_store w t a)

theorem Sound.follows_removeFile (h : w.Sound) (p : Path) : w.Follows (w.removeFile p).2 :=
  follows_of_agreeBut h.table (h.removeFile p).table (SymbolTable.agreeBut_removeFile h.table p)
    (generation_removeFile w p)

theorem Sound.follows_indexPaths (h : w.Sound) (disk : Disk) (paths : List Path)
    (incremental : Bool) : w.Follows (w.indexPaths disk paths incremental).2 := by
  refine follows_of_agreeBut h.table (h.indexPaths disk paths incremental).table ?_
    (generation_indexPaths w disk paths incremental)
  rw [table_indexPaths]
  exact h.agreeBut_tableAfter disk paths

/-- A run that starts from nothing is of a new generation in any case. -/
theorem follows_runStart (w : Workspace) (incremental : Bool) :
    w.Follows (w.runStart incremental) := by
  cases incremental with
  | true => exact .refl w
  | false =>
    have hnext : (w.runStart false).generation = w.generation + 1 := rfl
    exact ⟨by omega, fun hsame => by omega⟩

/-- All files are settled, where the map says which of them were to be checked. -/
def AllSettled (w : Workspace) (withChecks : PathMap Bool) : Prop :=
  ∀ p e, w.file? p = some e → e.Settled w.table p (withChecks.get? p)

variable {withChecks : PathMap Bool}

/-- A commit settles its own file if the analysis is settled before: the file's own definitions are
no part of what it is told. -/
theorem AllSettled.store (h : w.AllSettled withChecks) (hw : w.Sound) {t : Ticket} {a : Analysis}
    {flag : Bool} (ha : a.IsOf t.path)
    (hsettled : FileEntry.Settled ⟨t.path, t.version, a⟩ w.table t.path (some flag)) :
    (w.store t a).AllSettled (withChecks.insert t.path flag) := by
  intro p e he
  rw [hw.file?_store] at he
  rw [PathMap.get?_insert]
  split at he
  · rename_i hp
    obtain rfl := Option.some.inj he
    rw [if_pos hp]
    rcases hsettled with hfresh | hnever
    · left
      rw [table_store, ← SymbolTable.excluding_congr _ hp,
        SymbolTable.check_replaceFile_self hw.table ha]
      exact hfresh
    · exact .inr hnever
  · rename_i hp
    obtain ⟨old, hold, rfl⟩ := Option.map_eq_some_iff.1 he
    rw [if_neg hp]
    exact (h p old hold).rechecked hw.table (hw.store t a).table
      (SymbolTable.agreeBut_replaceFile hw.table ha) (hw.placed p old hold)

theorem AllSettled.removeFile (h : w.AllSettled withChecks) (hw : w.Sound) (p : Path) :
    (w.removeFile p).2.AllSettled withChecks := by
  intro q e he
  rw [file?_removeFile] at he
  split at he
  · cases he
  · obtain ⟨old, hold, rfl⟩ := Option.map_eq_some_iff.1 he
    exact (h q old hold).rechecked hw.table (hw.removeFile p).table
      (SymbolTable.agreeBut_removeFile hw.table p) (hw.placed q old hold)

theorem AllSettled.runStart (h : w.AllSettled withChecks) (incremental : Bool) :
    (w.runStart incremental).AllSettled withChecks := by
  cases incremental with
  | true => exact h
  | false =>
    intro p e he
    cases he

theorem get?_insertAll_of_not_any {paths : List Path} {q : Path}
    (h : paths.any (fun p => p.same q) = false) (flag : Bool) (m : PathMap Bool) :
    (paths.foldl (fun m p => m.insert p flag) m).get? q = m.get? q := by
  induction paths generalizing m with
  | nil => rfl
  | cons p rest ih =>
    rw [List.any_cons, Bool.or_eq_false_iff] at h
    rw [List.foldl_cons, ih h.2, PathMap.get?_insert, h.1]
    rfl

/-- A run settles all files that it reads, and the others as a commit does. -/
theorem AllSettled.indexPaths {incremental : Bool}
    (h : (w.runStart incremental).AllSettled withChecks) (hw : (w.runStart incremental).Sound)
    (disk : Disk) (paths : List Path) :
    let result := (w.runStart incremental).indexPaths disk paths incremental
    result.2.AllSettled (result.1.indexed.foldl (fun m p => m.insert p true) withChecks) := by
  intro result q e he
  rw [file?_indexPaths _ _ _ _ _ hw] at he
  rw [table_indexPaths, indexed_indexPaths]
  cases hlast : lastRead q (readAll disk (w.runStart incremental) paths).1 with
  | some x =>
    rw [hlast] at he
    obtain rfl := Option.some.inj he
    left
    rw [← SymbolTable.excluding_congr _ (of_lastRead q hlast).2]
    rfl
  | none =>
    -- a file that was not read is an old one, so the run was incremental
    rw [hlast] at he
    obtain ⟨old, hold, rfl⟩ := Option.map_eq_some_iff.1 he
    rw [get?_insertAll_of_not_any (lastRead_eq_none q hlast)]
    cases incremental with
    | false => cases hold
    | true =>
      rw [if_pos rfl]
      exact (h q old hold).rechecked hw.table (hw.wellFormed_tableAfter disk paths)
        (hw.agreeBut_tableAfter disk paths) (hw.placed q old hold)

end Workspace

/-! ## Sessions -/

/-- What is known of an analysis that waits for its commit: it has not been checked, or it has been
against some generation, and if that is the present one then the checks are the present ones. -/
structure Submission.Pending (w : Workspace) (sub : Submission) (a : Analysis) : Prop where
  own : a.IsOf sub.ticket.path
  unchecked : sub.ticket.checkedAgainst = none → a.checkProblems = []
  checked : ∀ g, sub.ticket.checkedAgainst = some g → g ≤ w.generation ∧
    (g = w.generation → a.checkProblems = a.check (w.lookup sub.ticket.path))

namespace Submission.Pending

variable {w w' : Workspace} {sub : Submission} {a : Analysis}

theorem of_follows (h : sub.Pending w a) (hw : w.Follows w') : sub.Pending w' a where
  own := h.own
  unchecked := h.unchecked
  checked := by
    intro g hg
    obtain ⟨hle, hsame⟩ := h.checked g hg
    have hlater := hw.le
    refine ⟨by omega, ?_⟩
    intro heq
    rw [hw.told (by omega)]
    exact hsame (by omega)

theorem analyze (w : Workspace) (sub : Submission) (text : Text) (withChecks : Bool) :
    (sub.analyze w text withChecks).Pending w (w.preview sub.ticket.path text withChecks) where
  own := Analysis.isOf_run _ text withChecks _
  unchecked := by
    intro hnone
    cases withChecks with
    | true => cases hnone
    | false => rfl
  checked := by
    intro g hg
    cases withChecks with
    | true =>
      obtain rfl := Option.some.inj hg
      exact ⟨Nat.le_refl _, fun _ => rfl⟩
    | false => cases hg

/-- A commit checks again if the generation has passed, so what it stores is settled. -/
theorem settled (h : sub.Pending w a) :
    FileEntry.Settled ⟨sub.ticket.path, sub.ticket.version, w.upToDate sub.ticket a⟩ w.table
      sub.ticket.path (some sub.ticket.checkedAgainst.isSome) := by
  unfold Workspace.upToDate
  cases hagainst : sub.ticket.checkedAgainst with
  | none => exact .inr ⟨rfl, h.unchecked hagainst⟩
  | some g =>
    left
    rw [Option.any_some]
    split
    · rfl
    · rename_i hg
      exact (h.checked g hagainst).2 (by simpa using hg)

end Submission.Pending

namespace Session

variable {s s' : Session} {step : Step}

/-- All files are settled, and the last analysis of every submission is known to be pending. -/
structure Fresh (s : Session) : Prop where
  sound : s.workspace.Sound
  settled : s.workspace.AllSettled s.withChecks
  pending : ∀ sub ∈ s.submissions, ∀ a, sub.Last a → sub.Pending s.workspace a

theorem fresh_start (patterns : List Text) : (start patterns).Fresh where
  sound := Workspace.sound_empty patterns
  settled := by
    intro p e he
    cases he
  pending := by simp [start]

/-- A step leads to a later workspace, if it commits only what is pending. -/
theorem Fresh.follows (h : s.Fresh) (heffect : s.Effect step s')
    (hpermits : s.Permits Submission.Last step) : s.workspace.Follows s'.workspace := by
  cases heffect with
  | idle => exact .refl _
  | submit p => exact Workspace.follows_submit _ p
  | analyze => exact .refl _
  | commit hsub a =>
    have hpending := h.pending _ (List.mem_of_getElem? hsub) a (hpermits _ hsub)
    exact h.sound.follows_store (Workspace.isOf_upToDate _ hpending.own)
  | index p text withChecks =>
    exact (Workspace.follows_submit _ p).trans
      ((h.sound.submit p).follows_store (Analysis.isOf_run p text withChecks _))
  | remove p => exact h.sound.follows_removeFile p
  | scan hok hresult =>
    rw [hresult]
    exact (Workspace.follows_runStart _ _).trans ((h.sound.runStart _).follows_indexPaths _ _ _)

theorem Fresh.pending_of_effect (h : s.Fresh) (heffect : s.Effect step s')
    (hpermits : s.Permits Submission.Last step) :
    ∀ sub ∈ s'.submissions, ∀ a, sub.Last a → sub.Pending s'.workspace a := by
  intro sub hsub a ha
  have hfollows := h.follows heffect hpermits
  rcases heffect.mem_submissions hsub with hold | ⟨p, -, rfl⟩ | ⟨text, withChecks, old, -, rfl⟩
  · exact (h.pending sub hold a ha).of_follows hfollows
  · cases ha
  · obtain rfl := Option.some.inj ha
    exact (Submission.Pending.analyze s.workspace old text withChecks).of_follows hfollows

theorem Fresh.settled_of_effect (h : s.Fresh) (heffect : s.Effect step s')
    (hpermits : s.Permits Submission.Last step) : s'.workspace.AllSettled s'.withChecks := by
  cases heffect with
  | idle => exact h.settled
  | submit p => exact h.settled
  | analyze => exact h.settled
  | commit hsub a =>
    have hpending := h.pending _ (List.mem_of_getElem? hsub) a (hpermits _ hsub)
    exact h.settled.store h.sound (Workspace.isOf_upToDate _ hpending.own) hpending.settled
  | index p text withChecks =>
    apply Workspace.AllSettled.store (w := (s.workspace.submit p).2) h.settled (h.sound.submit p)
      (Analysis.isOf_run p text withChecks _)
    cases withChecks with
    | true => exact .inl rfl
    | false => exact .inr ⟨rfl, rfl⟩
  | remove p => exact h.settled.removeFile h.sound p
  | scan hok hresult =>
    rw [hresult]
    refine Workspace.AllSettled.indexPaths ?_ (h.sound.runStart _) _ _
    exact h.settled.runStart _

theorem Fresh.of_effect (h : s.Fresh) (heffect : s.Effect step s')
    (hpermits : s.Permits Submission.Last step) : s'.Fresh :=
  ⟨heffect.sound h.sound, h.settled_of_effect heffect hpermits,
    h.pending_of_effect heffect hpermits⟩

/-- After every run whose commits are of the last analysis of a submission, the checks stored with
a file are those that the present table calls for, or the file was committed without checks and has
none. -/
theorem checks_never_stale (patterns : List Text) (steps : List Step)
    (hsteps : (start patterns).Obeys Submission.Last steps) (p : Path) (e : FileEntry)
    (he : ((start patterns).run steps).workspace.file? p = some e) :
    let s := (start patterns).run steps
    e.analysis.checkProblems = e.analysis.check (s.workspace.lookup p) ∨
      (s.withChecks.get? p = some false ∧ e.analysis.checkProblems = []) := by
  intro s
  have hrun : s.Fresh :=
    run_invariant Fresh.of_effect (fresh_start patterns) hsteps
  exact hrun.settled p e he

/-- A call is checked while nothing is known of its routine, and committed after another file has
defined it with fewer arguments. -/
theorem checks_never_stale_late_commit :
    let path := Path.ofText ['a']
    let text := "foo, 1, 2\n".toList
    let steps := [.submit path, .analyze 0 text true,
      .index (.ofText ['b']) "pro foo, x\nend\n".toList true,
      .commit 0 ((Workspace.empty []).preview path text true)]
    let s := (start []).run steps
    (start []).Obeys Submission.Last steps ∧ ∃ e, s.workspace.file? path = some e ∧
      (e.analysis.checkProblems = e.analysis.check (s.workspace.lookup path) ∨
        (s.withChecks.get? path = some false ∧ e.analysis.checkProblems = [])) := by
  intro path text steps s
  have hsteps : (start []).Obeys Submission.Last steps := by
    refine ⟨trivial, trivial, trivial, ?_, trivial⟩
    intro sub hsub
    simp only [Session.step, submissions_withOutcome] at hsub
    obtain rfl := Option.some.inj hsub
    rfl
  have hindexed : (s.workspace.file? path).isSome = true := by
    simp only [s, steps, start, run_cons, run_nil, Session.step, submissions_withOutcome,
      List.nil_append, List.getElem?_cons_zero, List.set_cons_zero, workspace_withOutcome,
      Workspace.indexFile_eq]
    exact congrArg Option.isSome (Workspace.file?_commit _ _ _ _ rfl (Path.same_self _))
  obtain ⟨e, he⟩ := Option.isSome_iff_exists.1 hindexed
  exact ⟨hsteps, e, he, checks_never_stale [] steps hsteps path e he⟩

end Session

end RoutineAtlas
