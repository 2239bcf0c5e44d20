import RoutineAtlas.Proofs.Publication

/-!
# What the editor shows of closed documents

A document that is closed is brought in line with the disk. If its file cannot be read, or if it has
none, it is forgotten and an empty list is sent for it. If the file can be read, it is indexed, and
then the lists of all open documents are sent. The closed document is not one of them any more. So
the client goes on showing the list it was sent last, whatever the file on the disk holds.

This is the list that the workspace has now if the document was closed with the text of the file,
and if the checks had been done on that text. Otherwise it may be left over from another text.

## Main definitions

* `Surroundings.fileText?` — what is read of a document that is not open.
* `Workspace.AllChecked` — all files have been checked against the present table.
* `Server.Forgotten` — the client shows nothing of the documents that the workspace does not have.
* `Server.closed_documents_shown` — what the client shows of a closed document.
-/

namespace RoutineAtlas

open ServerNotice (lastFor? diagnosticsFor?)

/-- The text that is read for a document that is not open. A document without a file has none. -/
def Surroundings.fileText? (around : Surroundings) (path : Path) : Option Text :=
  if isVirtualDocument path then none else around.disk.read? path

/-! ## Checks -/

namespace Workspace

variable {w : Workspace} {p : Path} {text : Text}

/-- All files have been checked against the present table. -/
def AllChecked (w : Workspace) : Prop :=
  ∀ p e, w.file? p = some e → e.analysis.checkProblems = e.analysis.check (w.lookup p)

theorem AllSettled.allChecked {withChecks : PathMap Bool} (h : w.AllSettled withChecks)
    (hchecks : ∀ q, withChecks.get? q ≠ some false) : w.AllChecked := by
  intro q e he
  rcases h q e he with hfresh | ⟨hnever, -⟩
  · exact hfresh
  · exact absurd hnever (hchecks q)

theorem AllChecked.settled (h : w.AllChecked) : w.AllSettled [] :=
  fun q e he => .inl (h q e he)

theorem AllChecked.indexFile (h : w.AllChecked) (hw : w.Sound) (p : Path) (text : Text) :
    (w.indexFile p text true).2.AllChecked := by
  have hsettled : (w.submit p).2.AllSettled [] := h.settled
  have hstored : ((w.submit p).2.store (w.directTicket p true)
      (w.preview p text true)).AllSettled (PathMap.insert [] p true) :=
    hsettled.store (hw.submit p) (Analysis.isOf_run p text true (w.lookup p)) (.inl rfl)
  rw [indexFile_eq]
  refine hstored.allChecked fun q => ?_
  rw [PathMap.get?_insert]
  split <;> simp

theorem AllChecked.removeFile (h : w.AllChecked) (hw : w.Sound) (p : Path) :
    (w.removeFile p).2.AllChecked :=
  (h.settled.removeFile hw p).allChecked (by simp)

theorem allChecked_indexPaths (hw : w.Sound) (disk : Disk) (paths : List Path) :
    ((w.runStart false).indexPaths disk paths false).2.AllChecked := by
  have hnone : (w.runStart false).AllSettled [] := by
    intro q e he
    cases he
  refine (hnone.indexPaths (hw.runStart false) disk paths).allChecked ?_
  intro q
  have hinsert (read : List Path) (m : PathMap Bool) (hm : m.get? q ≠ some false) :
      (read.foldl (fun m p => m.insert p true) m).get? q ≠ some false := by
    induction read generalizing m with
    | nil => exact hm
    | cons p rest ih =>
      apply ih
      rw [PathMap.get?_insert]
      split
      · simp
      · exact hm
  exact hinsert _ [] (by simp)

/-- A file that has its text and its checks is left as it is when the text is indexed again. -/
theorem HasText.diagnostics?_indexFile (h : w.HasText p text) (hw : w.Sound)
    (hchecked : ∀ e, w.file? p = some e →
      e.analysis.checkProblems = e.analysis.check (w.lookup p)) (settings : Settings) :
    (w.indexFile p text true).2.diagnostics? settings p = w.diagnostics? settings p := by
  obtain ⟨e, he, rfl, problems, hanalysis⟩ := h
  have hpreview : w.preview e.path text true = e.analysis := by
    have hchecks := hchecked e he
    rw [hanalysis] at hchecks ⊢
    exact congrArg (fun found => { Analysis.read e.path text with checkProblems := found })
      hchecks.symm
  rw [diagnostics?, diagnostics?, hw.file?_indexFile, if_pos (Path.same_self e.path), he, hpreview]
  rfl

end Workspace

/-! ## Notifications -/

theorem ServerNotice.mem_of_lastFor? {u : Url} {found : List Diagnostic} {sent : List ServerNotice}
    (h : lastFor? u sent = some found) : .diagnostics u found ∈ sent := by
  obtain ⟨n, hn, hfound⟩ := List.mem_filterMap.1 (List.mem_of_getLast? h)
  rwa [← diagnosticsFor?_eq_some_iff.1 hfound]

theorem ServerNotice.lastFor?_append_diagnostics (u v : Url) (found : List Diagnostic)
    (sent : List ServerNotice) : lastFor? u (sent ++ [.diagnostics v found]) =
      if v = u then some found else lastFor? u sent := by
  rw [lastFor?_append]
  by_cases hvu : v = u <;> simp [lastFor?, diagnosticsFor?, hvu]

namespace Server

variable {us : List Url} {s : Server} {u v : Url} {text : Text} {p : Project} {path : Path}
  {sent : List ServerNotice} {found : List Diagnostic}

/-- What is sent when the lists of all open documents are. -/
theorem of_lastFor?_publishAll (hproject : s.project = some p)
    (h : lastFor? u s.publishAll = some found) :
    (∃ text, (u, text) ∈ s.documents) ∧ ∃ path, documentPath? u = some path ∧
      p.workspace.diagnostics? p.settings path = some found := by
  have hmem := ServerNotice.mem_of_lastFor? h
  rw [publishAll, hproject] at hmem
  obtain ⟨entry, hentry, hpublish⟩ := List.mem_filterMap.1 hmem
  obtain ⟨path, list, hpath, hlist, heq⟩ := Project.publish?_eq_some_iff.1 hpublish
  obtain ⟨rfl, rfl⟩ := ServerNotice.diagnostics.inj heq
  exact ⟨⟨entry.2, hentry⟩, path, hpath, hlist⟩

/-- A document that has been closed is not among those whose lists are sent. -/
theorem lastFor?_publishAll_withoutText (s : Server) (u : Url) (p : Project) (w : Workspace) :
    lastFor? u ((s.withoutText u).withWorkspace p w).publishAll = none := by
  apply Option.eq_none_iff_forall_ne_some.2
  intro found hfound
  obtain ⟨⟨text, hentry⟩, -⟩ := of_lastFor?_publishAll rfl hfound
  simpa using (List.mem_filter.1 hentry).2

theorem reload_of_read {around : Surroundings} (hproject : s.project = some p)
    (hpath : documentPath? u = some path) (hread : around.fileText? path = some text) :
    reload around s u = s.reindex u text true := by
  unfold reload
  rw [hproject, hpath]
  dsimp only
  rw [show (if isVirtualDocument path then none else around.disk.read? path) = some text from hread]

theorem reload_of_unread {around : Surroundings} (hproject : s.project = some p)
    (hpath : documentPath? u = some path) (hread : around.fileText? path = none) :
    let s' := s.withWorkspace p (p.workspace.removeFile path).2
    reload around s u = (if (p.workspace.removeFile path).1.isSome then
      .diagnostics u [] :: s'.publishAll else [], s') := by
  unfold reload
  rw [hproject, hpath]
  dsimp only
  rw [show (if isVirtualDocument path then none else around.disk.read? path) = none from hread]

/-! ## Runs -/

/-- Where the client shows a list for a document that the workspace does not have, the list is
empty. -/
def Forgotten (us : List Url) (sent : List ServerNotice) (s : Server) : Prop :=
  ∀ p u found, s.project = some p → u ∈ us → lastFor? u sent = some found →
    ∃ path, documentPath? u = some path ∧ (p.workspace.file? path = none → found = [])

/-- A list that is sent with those of all open documents is that of a file of the workspace. -/
theorem Forgotten.append_publishAll (h : s.Forgotten us sent) :
    s.Forgotten us (sent ++ s.publishAll) := by
  intro p u found hproject hu hfound
  rw [ServerNotice.lastFor?_append, Option.or_eq_some_iff] at hfound
  rcases hfound with hpublished | ⟨-, hbefore⟩
  · obtain ⟨-, path, hpath, hlist⟩ := of_lastFor?_publishAll hproject hpublished
    refine ⟨path, hpath, fun hnone => ?_⟩
    rw [Workspace.diagnostics?, hnone] at hlist
    cases hlist
  · exact h p u found hproject hu hbefore

theorem Forgotten.reindex (h : s.Forgotten us sent) (hproject : s.project = some p)
    (hsound : p.workspace.Sound) (v : Url) (text : Text) (withChecks : Bool) :
    (s.reindex v text withChecks).2.Forgotten us (sent ++ (s.reindex v text withChecks).1) := by
  cases hpath : documentPath? v with
  | none =>
    rw [reindex_of_none hpath, List.append_nil]
    exact h
  | some path =>
    rw [reindex_eq hproject hpath]
    apply Forgotten.append_publishAll
    rintro _ u found ⟨rfl⟩ hu hfound
    obtain ⟨q, hq, hempty⟩ := h p u found hproject hu hfound
    refine ⟨q, hq, fun hnone => hempty ?_⟩
    rw [hsound.file?_indexFile] at hnone
    split at hnone
    · cases hnone
    · exact Option.map_eq_none_iff.1 hnone

/-- Removing a file leaves the other documents what they had. -/
theorem Forgotten.removeFile (h : s.Forgotten us sent) (hproject : s.project = some p) (hu : u ∈ us)
    (huv : v ≠ u) (hapart : v.Apart u) (hpath : documentPath? v = some path)
    (hfound : lastFor? u sent = some found) : ∃ q, documentPath? u = some q ∧
      ((p.workspace.removeFile path).2.file? q = none → found = []) := by
  obtain ⟨q, hq, hempty⟩ := h p u found hproject hu hfound
  refine ⟨q, hq, fun hnone => hempty ?_⟩
  have hother : path.same q = false := hapart.resolve_left huv path hpath q hq
  rw [Workspace.file?_removeFile, hother, if_neg Bool.false_ne_true] at hnone
  exact Option.map_eq_none_iff.1 hnone

theorem Forgotten.reload (h : s.Forgotten us sent) (hproject : s.project = some p)
    (hsound : p.workspace.Sound) (hus : ∀ u ∈ us, v.Apart u) (around : Surroundings) :
    (Server.reload around s v).2.Forgotten us (sent ++ (Server.reload around s v).1) := by
  cases hpath : documentPath? v with
  | none =>
    rw [reload_of_none around hpath, List.append_nil]
    exact h
  | some path =>
    cases hread : around.fileText? path with
    | some text =>
      rw [reload_of_read hproject hpath hread]
      exact h.reindex hproject hsound v text true
    | none =>
      rw [reload_of_unread hproject hpath hread]
      cases hremoved : (p.workspace.removeFile path).1 with
      | some e =>
        rw [Option.isSome_some, if_pos rfl, List.append_cons]
        apply Forgotten.append_publishAll
        rintro _ u found ⟨rfl⟩ hu hfound
        rw [ServerNotice.lastFor?_append_diagnostics] at hfound
        split at hfound
        · rename_i hvu
          exact ⟨path, hvu ▸ hpath, fun _ => (Option.some.inj hfound).symm⟩
        · rename_i hvu
          exact h.removeFile hproject hu hvu (hus u hu) hpath hfound
      | none =>
        rw [Option.isSome_none, if_neg Bool.false_ne_true, List.append_nil]
        rintro _ u found ⟨rfl⟩ hu hfound
        by_cases hvu : v = u
        · -- the file was not there, so the list was empty already
          subst hvu
          obtain ⟨q, hq, hempty⟩ := h p v found hproject hu hfound
          obtain rfl := Option.some.inj (hpath.symm.trans hq)
          exact ⟨path, hpath, fun _ => hempty hremoved⟩
        · exact h.removeFile hproject hu hvu (hus u hu) hpath hfound

/-- The workspace is sound, and its files are checked if the settings ask for it. -/
def Checks (s : Server) : Prop :=
  ∃ p, s.project = some p ∧ p.workspace.Sound ∧
    (p.settings.checkOnChange = true → p.workspace.AllChecked)

theorem Checks.reindex (h : s.Checks) (u : Url) (text : Text) {withChecks : Bool}
    (hchecks : ∀ p, s.project = some p → p.settings.checkOnChange = true → withChecks = true) :
    (s.reindex u text withChecks).2.Checks := by
  cases hpath : documentPath? u with
  | none =>
    rw [reindex_of_none hpath]
    exact h
  | some path =>
    obtain ⟨p, hproject, hsound, hchecked⟩ := h
    rw [reindex_eq hproject hpath]
    refine ⟨_, rfl, hsound.indexFile path text withChecks, ?_⟩
    intro hsetting
    obtain rfl := hchecks p hproject hsetting
    exact (hchecked hsetting).indexFile hsound path text

theorem Checks.reload (h : s.Checks) (u : Url) (around : Surroundings) :
    (Server.reload around s u).2.Checks := by
  cases hpath : documentPath? u with
  | none =>
    rw [reload_of_none around hpath]
    exact h
  | some path =>
    have hbefore := h
    obtain ⟨p, hproject, hsound, hchecked⟩ := h
    rcases reload_eq around hproject hpath with ⟨text, hindexed⟩ | hremoved
    · rw [hindexed]
      exact hbefore.reindex u text fun _ _ _ => rfl
    · rw [hremoved]
      exact ⟨_, rfl, hsound.removeFile path, fun hsetting =>
        (hchecked hsetting).removeFile hsound path⟩

/-- The client is up to date with the open documents and with the forgotten ones. If the settings
ask for it, all files are checked. -/
structure Told (us : List Url) (sent : List ServerNotice) (s : Server) : Prop where
  upToDate : s.UpToDate us sent
  forgotten : s.Forgotten us sent
  checks : s.Checks

theorem lasting_told (hus : ∀ u ∈ us, ∀ v ∈ us, u.Apart v) : Lasting us (Told us) where
  written sent s u text withChecks h hu hchecks := by
    obtain ⟨p, hproject, hsound, -⟩ := h.checks
    have hforgotten : (s.withText u text).Forgotten us sent := h.forgotten
    have hchecked : (s.withText u text).Checks := h.checks
    exact ⟨(h.upToDate.withText hu text).reindex (hus u hu) (by simp [text?_withText]) withChecks,
      hforgotten.reindex hproject hsound u text withChecks, hchecked.reindex u text hchecks⟩
  again sent s u text h hu hopen := by
    obtain ⟨p, hproject, hsound, -⟩ := h.checks
    exact ⟨(h.upToDate.but u).reindex (hus u hu) (by simp [hopen]) true,
      h.forgotten.reindex hproject hsound u text true, h.checks.reindex u text (by simp)⟩
  closed sent s u h _ := ⟨h.upToDate.withoutText u, h.forgotten, h.checks⟩
  reloaded sent s u around h hu hclosed := by
    obtain ⟨p, hproject, hsound, -⟩ := h.checks
    exact ⟨h.upToDate.reload (hus u hu) hclosed around,
      h.forgotten.reload hproject hsound (hus u hu) around, h.checks.reload u around⟩

/-- The first scan sends no lists while no document is open. -/
theorem lastFor?_indexProject (hdocuments : s.documents = []) (around : Surroundings) (u : Url) :
    lastFor? u (indexProject around s).1 = none := by
  have hnotices : ∀ n ∈ (indexProject around s).1, n.diagnosticsFor? u = none := by
    rw [indexProject]
    split
    · simp
    · rename_i p _
      rcases p.workspace.scan around.disk [p.root] false with ⟨e | summary, w⟩
      · simp [diagnosticsFor?]
      · dsimp only
        have hnone : (s.withWorkspace p w).publishAll = [] := by
          simp [publishAll, withWorkspace, hdocuments]
        rw [hnone]
        intro n hn
        rcases List.mem_append.1 hn with halert | hline
        · obtain ⟨entry, -, hentry⟩ := List.mem_filterMap.1 halert
          obtain ⟨message, -, rfl⟩ := Option.map_eq_some_iff.1 hentry
          rfl
        · rw [List.mem_singleton.1 hline]
          rfl
  rw [lastFor?, List.filterMap_eq_nil_iff.2 hnotices]
  rfl

/-- At the start of a session nothing has been sent about a document, and the scan has checked all
files. -/
theorem told_started (around later : Surroundings) (params : Json) (us : List Url) :
    (started around later params).Told us
      (handle later (begin around fresh params).2 .initialized).1 := by
  have hsent (u : Url) : lastFor? u (handle later (begin around fresh params).2 .initialized).1 =
      none := lastFor?_indexProject rfl later u
  refine ⟨upToDate_started around later params us _, ?_, ?_⟩
  · intro p u found _ _ hfound
    rw [hsent u] at hfound
    cases hfound
  · have hstarted : started around later params =
        (indexProject later (begin around fresh params).2).2 := rfl
    obtain ⟨root, settings, hproject⟩ : ∃ root settings, (begin around fresh params).2.project =
        some ⟨root, settings, .empty settings.filePatterns⟩ := ⟨_, _, rfl⟩
    have hsound := Workspace.sound_empty settings.filePatterns
    rw [hstarted]
    rcases indexProject_snd later hproject with hfailed | ⟨paths, hscanned⟩
    · rw [hfailed]
      exact ⟨_, hproject, hsound, fun _ q e he => nomatch he⟩
    · rw [hscanned]
      exact ⟨_, rfl, (hsound.runStart false).indexPaths later.disk paths false,
        fun _ => Workspace.allChecked_indexPaths hsound later.disk paths⟩

/-! ## Closing a document -/

/-- A document that is closed while its file cannot be read is forgotten, and the client shows
nothing of it. -/
theorem Forgotten.closed_of_unread (h : s.Forgotten us sent) (hproject : s.project = some p)
    (hu : u ∈ us) (hpath : documentPath? u = some path) {now : Surroundings}
    (hread : now.fileText? path = none) (hshown : lastFor? u sent = some found) :
    lastFor? u (sent ++ (handle now s (.closed u)).1) = some [] := by
  have hwithout : (s.withoutText u).project = some p := hproject
  rw [handle, reload_of_unread hwithout hpath hread]
  cases hremoved : (p.workspace.removeFile path).1 with
  | some e =>
    rw [Option.isSome_some, if_pos rfl, List.append_cons, ServerNotice.lastFor?_append,
      lastFor?_publishAll_withoutText, Option.none_or, ServerNotice.lastFor?_append_diagnostics,
      if_pos rfl]
  | none =>
    rw [Option.isSome_none, if_neg Bool.false_ne_true, List.append_nil, hshown]
    obtain ⟨q, hq, hempty⟩ := h p u found hproject hu hshown
    obtain rfl := Option.some.inj (hpath.symm.trans hq)
    rw [hempty hremoved]

/-- Closing a document whose file can be read sends nothing for it. -/
theorem lastFor?_closed_of_read (hproject : s.project = some p)
    (hpath : documentPath? u = some path) {now : Surroundings}
    (hread : now.fileText? path = some text) (sent : List ServerNotice) :
    lastFor? u (sent ++ (handle now s (.closed u)).1) = lastFor? u sent := by
  have hwithout : (s.withoutText u).project = some p := hproject
  rw [handle, reload_of_read hwithout hpath hread, reindex_eq hwithout hpath]
  dsimp only
  rw [ServerNotice.lastFor?_append, lastFor?_publishAll_withoutText, Option.none_or]

/-- After every run of events about documents, one for which a list has been sent is closed. If its
file cannot be read, the workspace has it no more and the client shows nothing. If the file can be
read, the workspace has the text of the file, and the client shows what it did before. That is what
the workspace had for the document if it was open. It is what the workspace has now if moreover the
file holds the text that was closed and this text had been checked, as it always has if the settings
ask for checks on every change. -/
theorem closed_documents_shown (around later : Surroundings) (params : Json)
    (events : List (Surroundings × Event)) (hevents : ∀ x ∈ events, x.2 ≠ .initialized)
    (now : Surroundings) (u : Url)
    (hapart : ∀ v ∈ u :: events.flatMap (·.2.urls), ∀ w ∈ u :: events.flatMap (·.2.urls),
      v.Apart w) :
    let scanned := handle later (begin around fresh params).2 .initialized
    let s := scanned.2.handleAll events
    let sent := scanned.1 ++ scanned.2.sentAll events
    let closed := handle now s (.closed u)
    ∀ shown, lastFor? u sent = some shown →
      ∃ path before after, documentPath? u = some path ∧ s.project = some before ∧
        closed.2.project = some after ∧
        (now.fileText? path = none →
          after.workspace.file? path = none ∧ lastFor? u (sent ++ closed.1) = some []) ∧
        ∀ text, now.fileText? path = some text →
          (∃ e, after.workspace.file? path = some e ∧
            e.analysis = before.workspace.preview path text true) ∧
          lastFor? u (sent ++ closed.1) = some shown ∧
          ∀ old, s.text? u = some old →
            before.workspace.diagnostics? before.settings path = some shown ∧
            (old = text → (before.settings.checkOnChange = true ∨
                ∀ e, before.workspace.file? path = some e →
                  e.analysis.checkProblems = e.analysis.check (before.workspace.lookup path)) →
              after.workspace.diagnostics? after.settings path = some shown) := by
  intro scanned s sent closed shown hshown
  have hknown : ∀ x ∈ events, x.2 ≠ .initialized ∧ x.2.urls ⊆ u :: events.flatMap (·.2.urls) :=
    fun x hx => ⟨hevents x hx, fun v hv => .tail _ (List.mem_flatMap.2 ⟨x, hx, hv⟩)⟩
  have hrun : s.Told (u :: events.flatMap (·.2.urls)) sent :=
    (lasting_told hapart).handleAll scanned.1 (told_started around later params _) hknown
  obtain ⟨before, hbefore, hsound, hchecked⟩ := hrun.checks
  obtain ⟨path, hpath, -⟩ := hrun.forgotten before u shown hbefore (List.mem_cons_self ..) hshown
  have hwithout : (s.withoutText u).project = some before := hbefore
  cases hread : now.fileText? path with
  | none =>
    have hclosed : closed.2 = (s.withoutText u).withWorkspace before
        (before.workspace.removeFile path).2 :=
      congrArg Prod.snd (reload_of_unread hwithout hpath hread)
    refine ⟨path, before, _, hpath, hbefore, by rw [hclosed]; rfl, fun _ => ⟨?_, ?_⟩, ?_⟩
    · rw [Workspace.file?_removeFile, if_pos (Path.same_self path)]
    · exact hrun.forgotten.closed_of_unread hbefore (List.mem_cons_self ..) hpath hread hshown
    · simp [hread]
  | some text =>
    have hclosed : closed.2 = (s.withoutText u).withWorkspace before
        (before.workspace.indexFile path text true).2 := by
      have hindexed := reload_of_read hwithout hpath hread
      rw [reindex_eq hwithout hpath] at hindexed
      exact congrArg Prod.snd hindexed
    refine ⟨path, before, _, hpath, hbefore, by rw [hclosed]; rfl, by simp [hread], ?_⟩
    intro again hagain
    obtain rfl := Option.some.inj (hread.symm.trans hagain)
    refine ⟨⟨_, by rw [hsound.file?_indexFile, if_pos (Path.same_self path)], rfl⟩,
      (lastFor?_closed_of_read hbefore hpath hread sent).trans hshown, ?_⟩
    intro old hopen
    have hlist : before.workspace.diagnostics? before.settings path = some shown :=
      (hrun.upToDate.shown before u old path hbefore (by simp) hopen hpath).symm.trans hshown
    refine ⟨hlist, ?_⟩
    rintro rfl hfresh
    obtain ⟨p, hproject, -, hshows⟩ := hrun.upToDate.inStep.project
    obtain rfl := Option.some.inj (hbefore.symm.trans hproject)
    have hhas := hshows u old path (by simp) hopen hpath
    refine (hhas.diagnostics?_indexFile hsound ?_ _).trans hlist
    rcases hfresh with hsetting | hpresent
    · exact hchecked hsetting path
    · exact hpresent

/-- A document is edited, saved and closed. Its file holds what was saved, and the client goes on
showing its problem. -/
theorem closed_documents_shown_saved :
    let u : Url := ⟨Url.fileScheme, some (.ofHost (.name [])), "/a.pro".toList, none, none⟩
    let before : Surroundings := ⟨⟨[], []⟩, .ofText ['/']⟩
    let now : Surroundings :=
      ⟨⟨[(["a.pro".toList], .file (.ofText "`\n".toList))], []⟩, .ofText ['/']⟩
    let events : List (Surroundings × Event) :=
      [(before, .opened u "\n".toList), (before, .changed u [⟨none, "`\n".toList⟩]),
        (now, .saved u none)]
    let scanned := handle before (begin before fresh .null).2 .initialized
    let sent := scanned.1 ++ scanned.2.sentAll events
    let closed := handle now (scanned.2.handleAll events) (.closed u)
    ∃ shown, shown ≠ [] ∧ lastFor? u sent = some shown ∧
      ∃ after, closed.2.project = some after ∧
        lastFor? u (sent ++ closed.1) = some shown ∧
        after.workspace.diagnostics? after.settings (.ofText "/a.pro".toList) = some shown := by
  intro u before now events scanned sent closed
  have hopen : (scanned.2.handleAll events).text? u = some "`\n".toList := by decide +kernel
  have hread : now.fileText? (.ofText "/a.pro".toList) = some "`\n".toList := by decide +kernel
  have hsetting : ∀ p ∈ (scanned.2.handleAll events).project, p.settings.checkOnChange = true := by
    decide +kernel
  have hlast : (lastFor? u sent).any (fun shown => shown ≠ []) = true := by decide +kernel
  obtain ⟨shown, hsent, hproblem⟩ := (Option.any_eq_true _ _).1 hlast
  obtain ⟨path, p, after, hpath, hp, hafter, -, hfile⟩ :=
    closed_documents_shown before before .null events (by decide) now u (by decide +kernel)
      shown hsent
  obtain rfl : path = .ofText "/a.pro".toList :=
    Option.some.inj (hpath.symm.trans (by decide +kernel))
  obtain ⟨-, hkept, hclosed⟩ := hfile _ hread
  refine ⟨shown, of_decide_eq_true hproblem, hsent, after, ?_, hkept, ?_⟩
  · rw [← hafter]
  · exact (hclosed _ hopen).2 rfl (.inl (hsetting p hp))

/-- A document has a problem that its file has not. It is closed without having been saved, and the
client goes on showing the problem. -/
theorem closed_document_left_over :
    let u : Url := ⟨Url.fileScheme, some (.ofHost (.name [])), "/a.pro".toList, none, none⟩
    let around : Surroundings :=
      ⟨⟨[(["a.pro".toList], .file (.ofText "\n".toList))], []⟩, .ofText ['/']⟩
    let events : List (Surroundings × Event) := [(around, .opened u "`\n".toList)]
    let scanned := handle around (begin around fresh .null).2 .initialized
    let sent := scanned.1 ++ scanned.2.sentAll events
    let closed := handle around (scanned.2.handleAll events) (.closed u)
    ∃ after, closed.2.project = some after ∧
      after.workspace.diagnostics? after.settings (.ofText "/a.pro".toList) = some [] ∧
      ∃ shown, lastFor? u (sent ++ closed.1) = some shown ∧ shown ≠ [] := by
  intro u around events scanned sent closed
  have hcleared : (closed.2.project.bind fun p =>
      p.workspace.diagnostics? p.settings (.ofText "/a.pro".toList)) = some [] := by
    decide +kernel
  obtain ⟨after, hafter, hempty⟩ := Option.bind_eq_some_iff.1 hcleared
  have hlast : (lastFor? u (sent ++ closed.1)).any (fun shown => shown ≠ []) = true := by
    decide +kernel
  obtain ⟨shown, hshown, hproblem⟩ := (Option.any_eq_true _ _).1 hlast
  exact ⟨after, hafter, hempty, shown, hshown, of_decide_eq_true hproblem⟩

end Server

end RoutineAtlas
