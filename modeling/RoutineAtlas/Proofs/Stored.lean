import RoutineAtlas.Proofs.Session

/-!
# Stored files are readings

As long as a submission is committed with an analysis of its own, every file of a workspace is what
some text shows when it is read under the path of the file; only the checks are done anew now and
then. And every path has one file: a list of all files shows each of them where it is looked up.

## Main definitions

* `PathMap.Distinct` — no two keys of a map are the same path.
* `Analysis.IsReading` — the analysis is a reading of some text.
* `Workspace.StoresReadings` — one file for every path, and each of them a reading.
* `Session.storesReadings_run` — so it is after every run.
-/

namespace RoutineAtlas

/-! ## Distinct keys -/

namespace PathMap

variable {α : Type} {m : PathMap α} {p : Path} {a : α}

/-- No two keys of the map are the same path. -/
def Distinct (m : PathMap α) : Prop :=
  m.Pairwise fun x y => x.1.same y.1 = false

theorem key_of_mem_insert {x : Path × α} (h : x ∈ PathMap.insert m p a) :
    x.1 = p ∨ ∃ y ∈ m, y.1 = x.1 := by
  induction m with
  | nil => exact .inl (by rw [List.mem_singleton.1 h])
  | cons entry rest ih =>
    rw [PathMap.insert] at h
    split at h
    · rcases List.mem_cons.1 h with rfl | h
      · exact .inr ⟨entry, by simp, rfl⟩
      · exact .inr ⟨x, by simp [h], rfl⟩
    · rcases List.mem_cons.1 h with rfl | h
      · exact .inr ⟨x, by simp, rfl⟩
      · obtain hp | ⟨y, hy, heq⟩ := ih h
        · exact .inl hp
        · exact .inr ⟨y, by simp [hy], heq⟩

theorem Distinct.insert (h : m.Distinct) (p : Path) (a : α) : (PathMap.insert m p a).Distinct := by
  induction m with
  | nil => exact List.pairwise_singleton _ _
  | cons entry rest ih =>
    obtain ⟨hentry, hrest⟩ := List.pairwise_cons.1 h
    rw [PathMap.insert]
    split
    · exact List.pairwise_cons.2 ⟨hentry, hrest⟩
    · rename_i hp
      refine List.pairwise_cons.2 ⟨?_, ih hrest⟩
      intro x hx
      obtain hx | ⟨y, hy, heq⟩ := key_of_mem_insert hx
      · rw [hx]
        simpa using hp
      · rw [← heq]
        exact hentry y hy

theorem Distinct.erase (h : m.Distinct) (p : Path) : (PathMap.erase m p).Distinct :=
  List.Pairwise.filter _ h

theorem Distinct.mapValues (h : m.Distinct) (f : α → α) : (m.mapValues f).Distinct :=
  List.pairwise_map.2 h

/-- What a map lists under a path is what it has there. -/
theorem Distinct.get?_of_mem (h : m.Distinct) (hmem : (p, a) ∈ m) : m.get? p = some a := by
  induction m with
  | nil => cases hmem
  | cons entry rest ih =>
    obtain ⟨hentry, hrest⟩ := List.pairwise_cons.1 h
    rw [get?, List.find?_cons]
    rcases List.mem_cons.1 hmem with rfl | hmem
    · simp
    · rw [hentry (p, a) hmem]
      exact ih hrest hmem

theorem mem_values_of_get? (h : m.get? p = some a) : a ∈ m.values := by
  obtain ⟨entry, hentry, rfl⟩ := Option.map_eq_some_iff.1 h
  exact List.mem_map.2 ⟨entry, List.mem_of_find?_eq_some hentry, rfl⟩

end PathMap

/-! ## Readings -/

namespace Analysis

variable {a : Analysis} {path : Path}

/-- The analysis is what some text shows when it is read under the path, whatever its checks say. -/
def IsReading (a : Analysis) (path : Path) : Prop :=
  ∃ text problems, a = { Analysis.read path text with checkProblems := problems }

theorem isReading_read (path : Path) (text : Text) : (Analysis.read path text).IsReading path :=
  ⟨text, [], rfl⟩

theorem IsReading.checked (h : a.IsReading path) (lookup : RoutineLookup) :
    (a.checked lookup).IsReading path := by
  obtain ⟨text, problems, rfl⟩ := h
  exact ⟨text, _, rfl⟩

theorem isReading_run (path : Path) (text : Text) (withChecks : Bool) (lookup : RoutineLookup) :
    (Analysis.run path text withChecks lookup).IsReading path := by
  cases withChecks with
  | true => exact (isReading_read path text).checked lookup
  | false => exact isReading_read path text

theorem IsReading.isOf (h : a.IsReading path) : ∀ s ∈ a.record.signatures, s.file = path := by
  obtain ⟨text, problems, rfl⟩ := h
  intro s hs
  obtain ⟨r, hr, rfl⟩ := List.mem_map.1 hs
  exact Outline.within_ofStatements path _ r hr

end Analysis

/-- The file is a reading, under its own path. -/
def FileEntry.IsReading (e : FileEntry) : Prop :=
  e.analysis.IsReading e.path

theorem FileEntry.IsReading.rechecked {e : FileEntry} (h : e.IsReading) (table : SymbolTable)
    (changed : List RoutineKey) : (e.rechecked table changed).IsReading := by
  unfold FileEntry.rechecked
  split
  · exact Analysis.IsReading.checked h _
  · exact h

/-! ## Workspaces -/

namespace Workspace

/-- Every path has one file, and every file is a reading. -/
structure StoresReadings (w : Workspace) : Prop where
  distinct : w.files.Distinct
  readings : ∀ p e, w.file? p = some e → e.IsReading

variable {w : Workspace}

theorem storesReadings_empty (patterns : List Text) : (empty patterns).StoresReadings where
  distinct := List.Pairwise.nil
  readings := nofun

theorem mem_entries {e : FileEntry} : e ∈ w.entries ↔ e ∈ w.files.values :=
  (List.mergeSort_perm _ _).mem_iff

theorem mem_entries_of_file? {p : Path} {e : FileEntry} (h : w.file? p = some e) : e ∈ w.entries :=
  mem_entries.2 (PathMap.mem_values_of_get? h)

/-- Every file that is listed is the one at its path. -/
theorem StoresReadings.file?_of_mem_entries (h : w.StoresReadings) (hw : w.Sound) {e : FileEntry}
    (he : e ∈ w.entries) : w.file? e.path = some e := by
  obtain ⟨⟨key, e'⟩, hmem, rfl⟩ := List.mem_map.1 (mem_entries.1 he)
  have hkey : w.file? key = some e' := h.distinct.get?_of_mem hmem
  rw [← hkey]
  exact PathMap.get?_congr _ (hw.placed key e' hkey)

theorem StoresReadings.submit (h : w.StoresReadings) (p : Path) :
    (w.submit p).2.StoresReadings :=
  ⟨h.distinct, h.readings⟩

theorem distinct_recheck (h : w.files.Distinct) (changed : List RoutineKey) (skip : List Path) :
    (w.recheck changed skip).files.Distinct := by
  unfold recheck
  dsimp only
  exact h.mapValues _

theorem StoresReadings.store (h : w.StoresReadings) (hw : w.Sound) {t : Ticket} {a : Analysis}
    (ha : a.IsReading t.path) : (w.store t a).StoresReadings where
  distinct := distinct_recheck (h.distinct.insert t.path ⟨t.path, t.version, a⟩) _ _
  readings := by
    intro p e he
    rw [hw.file?_store] at he
    split at he
    · obtain rfl := Option.some.inj he
      exact ha
    · obtain ⟨old, hold, rfl⟩ := Option.map_eq_some_iff.1 he
      exact (h.readings p old hold).rechecked _ _

theorem isReading_upToDate {t : Ticket} {a : Analysis} (h : a.IsReading t.path) :
    (w.upToDate t a).IsReading t.path := by
  unfold upToDate
  split
  · exact h.checked _
  · exact h

theorem StoresReadings.removeFile (h : w.StoresReadings) (p : Path) :
    (w.removeFile p).2.StoresReadings where
  distinct := distinct_recheck (h.distinct.erase p) _ _
  readings := by
    intro q e he
    rw [file?_removeFile] at he
    split at he
    · cases he
    · obtain ⟨old, hold, rfl⟩ := Option.map_eq_some_iff.1 he
      exact (h.readings q old hold).rechecked _ _

theorem StoresReadings.runStart (h : w.StoresReadings) (incremental : Bool) :
    (w.runStart incremental).StoresReadings := by
  cases incremental with
  | true => exact h
  | false => exact ⟨List.Pairwise.nil, nofun⟩

theorem distinct_recordAll (h : w.files.Distinct) (read : List (Ticket × Analysis)) :
    (w.recordAll read).2.files.Distinct := by
  induction read generalizing w with
  | nil => exact h
  | cons x rest ih => exact ih (h.insert x.1.path _)

theorem files_submitAll (w : Workspace) (paths : List Path) :
    (w.submitAll paths).files = w.files := by
  induction paths generalizing w with
  | nil => rfl
  | cons p rest ih => exact ih (w.submit p).2

theorem StoresReadings.indexPaths (h : w.StoresReadings) (hw : w.Sound) (disk : Disk)
    (paths : List Path) (incremental : Bool) :
    (w.indexPaths disk paths incremental).2.StoresReadings where
  distinct := by
    have hstart : (w.registered disk paths).files.Distinct := by
      have hfiles : (w.registered disk paths).files = (w.submitAll paths).files := rfl
      rw [hfiles, files_submitAll]
      exact h.distinct
    have hstored := distinct_recordAll hstart (readAll disk w paths).1
    rw [indexPaths_snd]
    cases incremental with
    | true => exact distinct_recheck hstored _ _
    | false => exact hstored
  readings := by
    intro q e he
    rw [file?_indexPaths _ _ _ _ _ hw] at he
    cases hlast : lastRead q (readAll disk w paths).1 with
    | some x =>
      rw [hlast] at he
      obtain rfl := Option.some.inj he
      obtain ⟨text, -, htext⟩ := (readFrom_of_mem w disk paths (of_lastRead q hlast).1).text
      have hx : x.2.IsReading x.1.path := htext ▸ Analysis.isReading_read x.1.path text
      exact hx.checked _
    | none =>
      rw [hlast] at he
      obtain ⟨old, hold, rfl⟩ := Option.map_eq_some_iff.1 he
      split
      · exact (h.readings q old hold).rechecked _ _
      · exact h.readings q old hold

end Workspace

/-! ## Sessions -/

namespace Session

variable {s s' : Session} {step : Step}

/-- Files are readings, and so is what has been analysed for a submission. -/
structure OfReadings (s : Session) : Prop where
  sound : s.workspace.Sound
  stored : s.workspace.StoresReadings
  own : ∀ sub ∈ s.submissions, ∀ a ∈ sub.analyses, a.IsReading sub.ticket.path

theorem OfReadings.own_of_effect (h : s.OfReadings) (heffect : s.Effect step s') :
    ∀ sub ∈ s'.submissions, ∀ a ∈ sub.analyses, a.IsReading sub.ticket.path := by
  intro sub hsub a ha
  rcases heffect.mem_submissions hsub with hold | ⟨p, -, rfl⟩ | ⟨text, withChecks, old, hold, rfl⟩
  · exact h.own sub hold a ha
  · cases ha
  · rcases List.mem_cons.1 ha with rfl | ha
    · exact Analysis.isReading_run _ text withChecks _
    · exact h.own old hold a ha

theorem OfReadings.of_effect (h : s.OfReadings) (heffect : s.Effect step s')
    (hpermits : s.Permits Submission.Own step) : s'.OfReadings := by
  refine ⟨heffect.sound h.sound, ?_, h.own_of_effect heffect⟩
  cases heffect with
  | idle => exact h.stored
  | submit p => exact h.stored.submit p
  | analyze => exact h.stored
  | commit hsub a =>
    have hown := h.own _ (List.mem_of_getElem? hsub) a (hpermits _ hsub)
    exact h.stored.store h.sound (Workspace.isReading_upToDate hown)
  | index p text withChecks =>
    exact (h.stored.submit p).store (h.sound.submit p)
      (Analysis.isReading_run p text withChecks _)
  | remove p => exact h.stored.removeFile p
  | scan hok hresult =>
    rw [hresult]
    exact (h.stored.runStart _).indexPaths (h.sound.runStart _) _ _ _

/-- After every run that commits only what was analysed for a submission, every path has one file,
and every file is a reading. -/
theorem storesReadings_run (patterns : List Text) {steps : List Step}
    (hsteps : (start patterns).Obeys Submission.Own steps) :
    ((start patterns).run steps).workspace.StoresReadings := by
  have hstart : (start patterns).OfReadings :=
    ⟨Workspace.sound_empty patterns, Workspace.storesReadings_empty patterns, by simp [start]⟩
  exact (run_invariant OfReadings.of_effect hstart hsteps).stored

end Session

end RoutineAtlas
