import RoutineAtlas.Proofs.Events
import RoutineAtlas.Proofs.History

/-!
# Open documents and the workspace

A server holds the text of every open document, and its workspace holds an analysis of every file.
Five kinds of events write to the one or the other: a document is opened, changed or saved with its
text, and then it is indexed; it is closed or saved without ever having been opened, and then its
file is read from the disk or forgotten; files are said to have changed on the disk, and then those
of them that are not open are read again. Whatever the disk holds meanwhile, the workspace shows
every open document with the text that the editor shows.

Texts are kept by URL and files by path, so this needs that no two URLs of the run lead to one path
(`Url.Apart`). It is proved for the steps that events are made of (`Server.lasting_inStep`), and by
that for runs.

## Main definitions

* `Workspace.HasText` — the file at a path is analysed with the given text.
* `Server.InStep` — the workspace has the texts of all open documents.
* `Server.open_documents_indexed` — after every run it has.
-/

namespace RoutineAtlas

/-- Two documents that are one, or that are analysed under different paths. -/
def Url.Apart (u v : Url) : Prop :=
  u = v ∨ ∀ p ∈ documentPath? u, ∀ q ∈ documentPath? v, p.same q = false

instance (u v : Url) : Decidable (u.Apart v) :=
  inferInstanceAs (Decidable (_ ∨ _))

/-! ## The files of a workspace -/

namespace Workspace

variable {w : Workspace} {p q : Path} {text : Text}

/-- The file at the path is the given text, read under that path, whatever its checks say. -/
def HasText (w : Workspace) (p : Path) (text : Text) : Prop :=
  ∃ e, w.file? p = some e ∧ e.path = p ∧ e.Shows text

theorem hasText_indexFile (hw : w.Sound) (p : Path) (text : Text) (withChecks : Bool) :
    (w.indexFile p text withChecks).2.HasText p text := by
  refine ⟨⟨p, w.versionOf p + 1, w.preview p text withChecks⟩, ?_, rfl, ?_⟩
  · rw [indexFile_eq, (hw.submit p).file?_store]
    exact if_pos (Path.same_self p)
  · cases withChecks <;> exact ⟨_, rfl⟩

/-- What becomes of another file leaves the text of a file alone. -/
theorem HasText.indexFile (h : w.HasText q text) (hw : w.Sound) (hpq : p.same q = false)
    (other : Text) (withChecks : Bool) : (w.indexFile p other withChecks).2.HasText q text := by
  obtain ⟨e, he, hpath, hshows⟩ := h
  have hfile := (hw.submit p).file?_store q (w.directTicket p withChecks)
    (w.preview p other withChecks)
  have hother : (w.directTicket p withChecks).path.same q = false := hpq
  rw [hother, if_neg Bool.false_ne_true, file?_submit, he] at hfile
  rw [indexFile_eq]
  exact ⟨_, hfile, by rw [FileEntry.path_rechecked, hpath], hshows.rechecked _ _⟩

theorem HasText.removeFile (h : w.HasText q text) (hpq : p.same q = false) :
    (w.removeFile p).2.HasText q text := by
  obtain ⟨e, he, hpath, hshows⟩ := h
  have hfile := w.file?_removeFile p q
  rw [hpq, if_neg Bool.false_ne_true, he] at hfile
  exact ⟨_, hfile, by rw [FileEntry.path_rechecked, hpath], hshows.rechecked _ _⟩

end Workspace

/-! ## Events -/

namespace Server

variable {us : List Url} {s : Server} {u : Url} {text : Text} {p : Project} {path : Path}

/-- Indexing a document sends the diagnostics of all open documents, as they are afterwards. -/
theorem reindex_eq (hproject : s.project = some p) (hpath : documentPath? u = some path)
    (text : Text) (withChecks : Bool) :
    let s' := s.withWorkspace p (p.workspace.indexFile path text withChecks).2
    s.reindex u text withChecks = (s'.publishAll, s') := by
  unfold reindex
  rw [hproject, hpath]
  simp only [Workspace.indexFile_eq]

theorem reindex_of_none (hpath : documentPath? u = none) (text : Text) (withChecks : Bool) :
    s.reindex u text withChecks = ([], s) := by
  unfold reindex
  rw [hpath]
  split
  · rename_i hsome
    cases hsome
  · rfl

/-- Reading a document again indexes what the disk holds, or removes what it does not. A file that
is removed has no diagnostics left. -/
theorem reload_eq (around : Surroundings) (hproject : s.project = some p)
    (hpath : documentPath? u = some path) :
    let s' := s.withWorkspace p (p.workspace.removeFile path).2
    (∃ text, reload around s u = s.reindex u text true) ∨
      reload around s u = (if (p.workspace.removeFile path).1.isSome then
        .diagnostics u [] :: s'.publishAll else [], s') := by
  unfold reload
  rw [hproject, hpath]
  dsimp only
  split
  · exact .inl ⟨_, rfl⟩
  · exact .inr rfl

theorem reload_of_none (around : Surroundings) (hpath : documentPath? u = none) :
    reload around s u = ([], s) := by
  unfold reload
  rw [hpath]
  split
  · rename_i hsome
    cases hsome
  · rfl

/-- The workspace has the text of every open document but perhaps `except`. All open documents are
among `us`. -/
structure InStepBut (except : Option Url) (us : List Url) (s : Server) : Prop where
  known : ∀ u, (s.text? u).isSome = true → u ∈ us
  project : ∃ p, s.project = some p ∧ p.workspace.Sound ∧
    ∀ u text path, some u ≠ except → s.text? u = some text → documentPath? u = some path →
      p.workspace.HasText path text

/-- The workspace has the texts of all open documents, which are among `us`. -/
abbrev InStep (us : List Url) (s : Server) : Prop :=
  s.InStepBut none us

theorem InStep.but (h : s.InStep us) (u : Url) : s.InStepBut (some u) us := by
  obtain ⟨hknown, p, hproject, hsound, hshows⟩ := h
  exact ⟨hknown, p, hproject, hsound, fun v text path _ => hshows v text path (by simp)⟩

theorem InStep.withText (h : s.InStep us) (hu : u ∈ us) (text : Text) :
    (s.withText u text).InStepBut (some u) us := by
  obtain ⟨hknown, p, hproject, hsound, hshows⟩ := h
  refine ⟨?_, p, hproject, hsound, ?_⟩
  · intro v hv
    by_cases hvu : v = u
    · rwa [hvu]
    · rw [text?_withText, if_neg hvu] at hv
      exact hknown v hv
  · intro v shown path hvu hshown
    rw [text?_withText, if_neg (by simpa using hvu)] at hshown
    exact hshows v shown path (by simp) hshown

theorem InStep.withoutText (h : s.InStep us) (u : Url) : (s.withoutText u).InStep us := by
  obtain ⟨hknown, p, hproject, hsound, hshows⟩ := h
  refine ⟨?_, p, hproject, hsound, ?_⟩
  · intro v hv
    rw [text?_withoutText] at hv
    split at hv
    · cases hv
    · exact hknown v hv
  · intro v shown path _ hshown
    rw [text?_withoutText] at hshown
    split at hshown
    · cases hshown
    · exact hshows v shown path (by simp) hshown

/-- Open documents apart from `u` have paths of their own. -/
theorem InStepBut.apart (h : s.InStepBut (some u) us) (hus : ∀ v ∈ us, u.Apart v)
    (hpath : documentPath? u = some path) {v : Url} (hv : (s.text? v).isSome = true) (hvu : v ≠ u)
    {q : Path} (hq : documentPath? v = some q) : path.same q = false :=
  (hus v (h.known v hv)).resolve_left (Ne.symm hvu) path hpath q hq

/-- Indexing a document brings it in step, and keeps the others that are apart from it. -/
theorem InStepBut.reindex (h : s.InStepBut (some u) us) (hus : ∀ v ∈ us, u.Apart v)
    (htext : ∀ shown, s.text? u = some shown → shown = text) (withChecks : Bool) :
    (s.reindex u text withChecks).2.InStep us := by
  have hbut := h
  obtain ⟨hknown, p, hproject, hsound, hshows⟩ := h
  cases hpath : documentPath? u with
  | none =>
    rw [reindex_of_none hpath]
    refine ⟨hknown, p, hproject, hsound, ?_⟩
    intro v shown q _ hshown hq
    refine hshows v shown q ?_ hshown hq
    rintro ⟨rfl⟩
    rw [hpath] at hq
    cases hq
  | some path =>
    rw [reindex_eq hproject hpath]
    refine ⟨hknown, _, rfl, hsound.indexFile path text withChecks, ?_⟩
    intro v shown q _ hshown hq
    rw [text?_withWorkspace] at hshown
    by_cases hvu : v = u
    · subst hvu
      obtain rfl : path = q := Option.some.inj (hpath.symm.trans hq)
      rw [htext shown hshown]
      exact Workspace.hasText_indexFile hsound path text withChecks
    · refine (hshows v shown q (by simpa using hvu) hshown hq).indexFile hsound ?_ _ _
      exact hbut.apart hus hpath (by simp [hshown]) hvu hq

/-- Reading a document again that is not open keeps all open documents. -/
theorem InStep.reload (h : s.InStep us) (hus : ∀ v ∈ us, u.Apart v) (hclosed : s.text? u = none)
    (around : Surroundings) : (Server.reload around s u).2.InStep us := by
  have hbut := h.but u
  obtain ⟨p, hproject, hsound, hshows⟩ := h.project
  cases hpath : documentPath? u with
  | none =>
    rw [reload_of_none around hpath]
    exact h
  | some path =>
    rcases reload_eq around hproject hpath with ⟨text, hindexed⟩ | hremoved
    · rw [hindexed]
      exact hbut.reindex hus (by simp [hclosed]) true
    · rw [hremoved]
      refine ⟨h.known, _, rfl, hsound.removeFile path, ?_⟩
      intro v shown q _ hshown hq
      rw [text?_withWorkspace] at hshown
      have hvu : v ≠ u := by
        rintro rfl
        rw [hclosed] at hshown
        cases hshown
      exact (hshows v shown q (by simp) hshown hq).removeFile
        (hbut.apart hus hpath (by simp [hshown]) hvu hq)

/-- The steps about documents keep the workspace in step. -/
theorem lasting_inStep (hus : ∀ u ∈ us, ∀ v ∈ us, u.Apart v) :
    Lasting us fun _ s => s.InStep us where
  written _ _ u text withChecks h hu _ :=
    (h.withText hu text).reindex (hus u hu) (by simp [text?_withText]) withChecks
  again _ _ u _ h hu hopen := (h.but u).reindex (hus u hu) (by simp [hopen]) true
  closed _ _ u h _ := h.withoutText u
  reloaded _ _ u around h hu hclosed := h.reload (hus u hu) hclosed around

/-- A server that has begun a session and indexed its workspace once. -/
def started (around later : Surroundings) (params : Json) : Server :=
  (handle later (begin around fresh params).2 .initialized).2

/-- The first scan of the workspace fails, or it indexes what is found on the disk. -/
theorem indexProject_snd (around : Surroundings) (hproject : s.project = some p) :
    (indexProject around s).2 = s ∨ ∃ paths, (indexProject around s).2 =
      s.withWorkspace p ((p.workspace.runStart false).indexPaths around.disk paths false).2 := by
  rw [indexProject, hproject]
  dsimp only
  rcases hscan : p.workspace.scan around.disk [p.root] false with ⟨e | summary, w⟩
  · obtain ⟨rfl, -⟩ := Workspace.scan_eq_error _ _ hscan
    left
    simp only [withWorkspace, ← hproject]
  · obtain ⟨-, globs, -, hresult⟩ := Workspace.scan_eq_ok _ _ hscan
    exact .inr ⟨Workspace.filesToIndex around.disk globs [p.root], by rw [← hresult]⟩

/-- At the start of a session no document is open. -/
theorem inStep_started (around later : Surroundings) (params : Json) (us : List Url) :
    (started around later params).InStep us := by
  have hbegun : (begin around fresh params).2.InStep us :=
    ⟨nofun, _, rfl, Workspace.sound_empty _, nofun⟩
  obtain ⟨p, hproject, hsound, -⟩ := hbegun.project
  have hstarted : started around later params =
      (indexProject later (begin around fresh params).2).2 := rfl
  rw [hstarted]
  rcases indexProject_snd later hproject with hfailed | ⟨paths, hscanned⟩
  · rwa [hfailed]
  · rw [hscanned]
    have hindexed := (hsound.runStart false).indexPaths later.disk paths false
    exact ⟨hbegun.known, _, rfl, hindexed, nofun⟩

theorem InStep.handleAll (h : s.InStep us) {events : List (Surroundings × Event)}
    (hevents : ∀ x ∈ events, x.2 ≠ .initialized ∧ x.2.urls ⊆ us)
    (hus : ∀ u ∈ us, ∀ v ∈ us, u.Apart v) : (s.handleAll events).InStep us :=
  (lasting_inStep hus).handleAll [] h hevents

/-- After every run of events about documents, the workspace shows every open document as the
analysis of its present text, whatever the disk held meanwhile and whichever files were said to have
changed on it. -/
theorem open_documents_indexed (around later : Surroundings) (params : Json)
    (events : List (Surroundings × Event)) (hevents : ∀ x ∈ events, x.2 ≠ .initialized)
    (hapart : ∀ u ∈ events.flatMap (·.2.urls), ∀ v ∈ events.flatMap (·.2.urls), u.Apart v) :
    let s := (started around later params).handleAll events
    ∃ project, s.project = some project ∧
      ∀ u text path, s.text? u = some text → documentPath? u = some path →
        ∃ e, project.workspace.file? path = some e ∧ e.path = path ∧
          e.analysis.tokens = (Analysis.read path text).tokens ∧
          e.analysis.blocks = (Analysis.read path text).blocks ∧
          e.analysis.record = (Analysis.read path text).record ∧
          e.analysis.parseProblems = (Analysis.read path text).parseProblems := by
  intro s
  have hknown : ∀ x ∈ events, x.2 ≠ .initialized ∧ x.2.urls ⊆ events.flatMap (·.2.urls) :=
    fun x hx => ⟨hevents x hx, fun u hu => List.mem_flatMap.2 ⟨x, hx, hu⟩⟩
  obtain ⟨project, hproject, -, hshows⟩ :=
    ((inStep_started around later params _).handleAll hknown hapart).project
  refine ⟨project, hproject, ?_⟩
  intro u text path hopen hpath
  obtain ⟨e, hfile, rfl, problems, hanalysis⟩ := hshows u text path (by simp) hopen hpath
  refine ⟨e, hfile, rfl, ?_⟩
  rw [hanalysis]
  exact ⟨rfl, rfl, rfl, rfl⟩

/-- A document that was opened and edited, and whose file, with another text, is said to have
changed; a second one was opened and closed. -/
theorem open_documents_indexed_announced :
    let u : Url := ⟨Url.fileScheme, some (.ofHost (.name [])), "/a.pro".toList, none, none⟩
    let v : Url := ⟨"untitled".toList, none, "b".toList, none, none⟩
    let around : Surroundings :=
      ⟨⟨[(["a.pro".toList], .file (.ofText "pro other\nend\n".toList))], []⟩, .ofText ['/']⟩
    let events : List (Surroundings × Event) :=
      [(around, .opened u "pro a\nend\n".toList), (around, .opened v "a\n".toList),
        (around, .changed u [⟨none, "pro b\nend\n".toList⟩]), (around, .closed v),
        (around, .filesChanged [u, v]), (around, .saved u none)]
    let s := (started around around .null).handleAll events
    s.text? u = some "pro b\nend\n".toList ∧
      ∃ project, s.project = some project ∧
        ∃ e, project.workspace.file? (.ofText "/a.pro".toList) = some e ∧
          e.analysis.record.signatures =
            (Analysis.read (.ofText "/a.pro".toList) "pro b\nend\n".toList).record.signatures := by
  intro u v around events s
  have hopen : s.text? u = some "pro b\nend\n".toList := by decide +kernel
  obtain ⟨project, hproject, hshows⟩ :=
    open_documents_indexed around around .null events (by decide) (by decide +kernel)
  obtain ⟨e, hfile, -, -, -, hrecord, -⟩ :=
    hshows u _ (.ofText "/a.pro".toList) hopen (by decide +kernel)
  exact ⟨hopen, project, hproject, e, hfile, congrArg Record.signatures hrecord⟩

end Server

end RoutineAtlas
