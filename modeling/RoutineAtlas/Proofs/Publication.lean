import RoutineAtlas.Proofs.OpenDocuments
import RoutineAtlas.Proofs.Reindexing

/-!
# What the editor shows of open documents

A client shows for each document the list of diagnostics that was sent last. The server keeps no
record of what it has sent: it sends the lists of all open documents after every step that can have
changed one of them, and nothing after the others. So the lists that the client shows are never
stale. They are those of the workspace as it is, also for a document that no event was about and
whose calls are checked against a routine of another file.

The steps that send nothing are the ones to look at. A document without a path is not analysed, and
a file that is removed without ever having been there takes no key with it, because the table holds
no key of it (`SymbolTable.Lists`).

## Main definitions

* `ServerNotice.lastFor?` — the diagnostics of a document that were sent last.
* `Server.UpToDate` — the client shows the diagnostics of all open documents.
* `Server.open_documents_shown` — after every run it does.
-/

namespace RoutineAtlas

/-! ## Notifications -/

namespace ServerNotice

variable {u : Url} {found : List Diagnostic} {sent : List ServerNotice}

/-- The diagnostics that a notification gives for a document. -/
def diagnosticsFor? (u : Url) : ServerNotice → Option (List Diagnostic)
  | .diagnostics v found => if v = u then some found else none
  | .logged _ _ => none
  | .shown _ _ => none

/-- The diagnostics of a document that were sent last. -/
def lastFor? (u : Url) (sent : List ServerNotice) : Option (List Diagnostic) :=
  (sent.filterMap (diagnosticsFor? u)).getLast?

theorem diagnosticsFor?_eq_some_iff {n : ServerNotice} :
    n.diagnosticsFor? u = some found ↔ n = .diagnostics u found := by
  cases n <;> simp [diagnosticsFor?]

theorem lastFor?_append (u : Url) (sent more : List ServerNotice) :
    lastFor? u (sent ++ more) = (lastFor? u more).or (lastFor? u sent) := by
  rw [lastFor?, List.filterMap_append, List.getLast?_append]
  rfl

/-- Where a document is given one list only, that list was sent last. -/
theorem lastFor?_eq_some (hmem : .diagnostics u found ∈ sent)
    (hall : ∀ other, .diagnostics u other ∈ sent → other = found) :
    lastFor? u sent = some found := by
  have hgiven (other : List Diagnostic) :
      other ∈ sent.filterMap (diagnosticsFor? u) ↔ .diagnostics u other ∈ sent := by
    simp [List.mem_filterMap, diagnosticsFor?_eq_some_iff]
  cases hlast : lastFor? u sent with
  | none =>
    have hnil := List.getLast?_eq_none_iff.1 hlast
    exact absurd ((hgiven found).2 hmem) (by simp [hnil])
  | some last =>
    have hgot := (hgiven last).1 (List.mem_of_getLast? hlast)
    rw [hall last hgot]

end ServerNotice

open ServerNotice (lastFor?)

/-! ## Workspaces -/

namespace Workspace

variable {w w' : Workspace} {p q : Path}

theorem diagnostics?_congr (h : w.file? q = w'.file? q) (settings : Settings) :
    w.diagnostics? settings q = w'.diagnostics? settings q := by
  rw [diagnostics?, diagnostics?, h]

theorem HasText.exists_diagnostics {text : Text} (h : w.HasText p text) (settings : Settings) :
    ∃ found, w.diagnostics? settings p = some found := by
  obtain ⟨e, he, -⟩ := h
  rw [diagnostics?, he]
  exact ⟨_, rfl⟩

/-- Removing a file that is not there changes no file. -/
theorem file?_removeFile_of_none (h : w.table.Lists w.signaturesAt) (hp : w.file? p = none)
    (q : Path) : (w.removeFile p).2.file? q = w.file? q := by
  have hkeys : (w.table.removeFile p).1 = [] := by
    rw [SymbolTable.removeFile_fst, h.keys, signaturesAt, hp]
    rfl
  rw [file?_removeFile, hkeys]
  split
  · rename_i hsame
    exact hp.symm.trans (w.files.get?_congr hsame)
  · cases w.file? q with
    | none => rfl
    | some e => exact congrArg some (FileEntry.rechecked_eq_self rfl)

theorem lists_indexFile (hw : w.Sound) (h : w.table.Lists w.signaturesAt) (p : Path) (text : Text)
    (withChecks : Bool) :
    (w.indexFile p text withChecks).2.table.Lists
      (w.indexFile p text withChecks).2.signaturesAt := by
  rw [indexFile_eq]
  exact lists_store (hw.submit p) (lists_submit h p) (Analysis.isOf_run p text withChecks _)

end Workspace

/-! ## Events -/

theorem Project.publish?_eq_some_iff {p : Project} {u : Url} {n : ServerNotice} :
    p.publish? u = some n ↔ ∃ path found, documentPath? u = some path ∧
      p.workspace.diagnostics? p.settings path = some found ∧ .diagnostics u found = n := by
  simp [publish?, Option.bind_eq_some_iff]

namespace Server

variable {us : List Url} {s : Server} {u : Url} {text : Text} {p : Project} {path : Path}
  {sent : List ServerNotice}

theorem mem_documents_of_text? (h : s.text? u = some text) : (u, text) ∈ s.documents := by
  obtain ⟨before, after, hdocuments, -⟩ := List.lookup_eq_some_iff.1 h
  simp [hdocuments]

/-- Every open document that is analysed is sent the diagnostics it has. -/
theorem lastFor?_publishAll (hproject : s.project = some p) (hopen : s.text? u = some text)
    (hpath : documentPath? u = some path) {found : List Diagnostic}
    (hfound : p.workspace.diagnostics? p.settings path = some found) :
    lastFor? u s.publishAll = some found := by
  have hown : p.publish? u = some (.diagnostics u found) :=
    Project.publish?_eq_some_iff.2 ⟨path, found, hpath, hfound, rfl⟩
  have hsent : s.publishAll = s.documents.filterMap fun entry => p.publish? entry.1 := by
    rw [publishAll, hproject]
  rw [hsent]
  apply ServerNotice.lastFor?_eq_some
  · exact List.mem_filterMap.2 ⟨_, mem_documents_of_text? hopen, hown⟩
  · intro other hother
    obtain ⟨⟨v, shown⟩, -, hv⟩ := List.mem_filterMap.1 hother
    -- a notification for `u` comes from an entry of `u`, whichever text that has
    obtain ⟨q, list, hq, hlist, heq⟩ := Project.publish?_eq_some_iff.1 hv
    obtain ⟨rfl, rfl⟩ := ServerNotice.diagnostics.inj heq
    obtain rfl := Option.some.inj (hpath.symm.trans hq)
    exact Option.some.inj (hlist.symm.trans hfound)

/-- What was sent last for an open document is what its file has now, for all but perhaps `except`.
The server is in step with them, and its table with its files. -/
structure UpToDateBut (except : Option Url) (us : List Url) (sent : List ServerNotice)
    (s : Server) : Prop where
  inStep : s.InStepBut except us
  lists : ∀ p, s.project = some p → p.workspace.table.Lists p.workspace.signaturesAt
  shown : ∀ p u text path, s.project = some p → some u ≠ except → s.text? u = some text →
    documentPath? u = some path → lastFor? u sent = p.workspace.diagnostics? p.settings path

/-- What was sent last for an open document is what its file has now. -/
abbrev UpToDate (us : List Url) (sent : List ServerNotice) (s : Server) : Prop :=
  s.UpToDateBut none us sent

/-- Sending the diagnostics of all open documents brings the client up to date. -/
theorem InStep.upToDate_publishAll (h : s.InStep us)
    (hlists : ∀ p, s.project = some p → p.workspace.table.Lists p.workspace.signaturesAt)
    (sent : List ServerNotice) : s.UpToDate us (sent ++ s.publishAll) := by
  refine ⟨h, hlists, ?_⟩
  intro p u text path hproject _ hopen hpath
  obtain ⟨p', hproject', -, hshows⟩ := h.project
  obtain rfl : p = p' := Option.some.inj (hproject.symm.trans hproject')
  obtain ⟨found, hfound⟩ :=
    (hshows u text path (by simp) hopen hpath).exists_diagnostics p.settings
  rw [ServerNotice.lastFor?_append, lastFor?_publishAll hproject hopen hpath hfound, hfound]
  rfl

theorem UpToDate.but (h : s.UpToDate us sent) (u : Url) : s.UpToDateBut (some u) us sent :=
  ⟨InStep.but h.inStep u, h.lists, fun p v text path hproject _ =>
    h.shown p v text path hproject (by simp)⟩

theorem UpToDate.withText (h : s.UpToDate us sent) (hu : u ∈ us) (text : Text) :
    (s.withText u text).UpToDateBut (some u) us sent := by
  refine ⟨InStep.withText h.inStep hu text, h.lists, ?_⟩
  intro p v shown path hproject hvu hshown
  rw [text?_withText, if_neg (by simpa using hvu)] at hshown
  exact h.shown p v shown path hproject (by simp) hshown

theorem UpToDate.withoutText (h : s.UpToDate us sent) (u : Url) :
    (s.withoutText u).UpToDate us sent := by
  refine ⟨InStep.withoutText h.inStep u, h.lists, ?_⟩
  intro p v shown path hproject _ hshown
  rw [text?_withoutText] at hshown
  split at hshown
  · cases hshown
  · exact h.shown p v shown path hproject (by simp) hshown

/-- Indexing a document keeps the client up to date. -/
theorem UpToDateBut.reindex (h : s.UpToDateBut (some u) us sent) (hus : ∀ v ∈ us, u.Apart v)
    (htext : ∀ shown, s.text? u = some shown → shown = text) (withChecks : Bool) :
    (s.reindex u text withChecks).2.UpToDate us (sent ++ (s.reindex u text withChecks).1) := by
  have hinStep := h.inStep.reindex hus htext withChecks
  obtain ⟨p, hproject, hsound, -⟩ := h.inStep.project
  cases hpath : documentPath? u with
  | none =>
    rw [reindex_of_none hpath] at hinStep ⊢
    rw [List.append_nil]
    refine ⟨hinStep, h.lists, ?_⟩
    intro p v shown q hproject _ hshown hq
    refine h.shown p v shown q hproject ?_ hshown hq
    rintro ⟨rfl⟩
    rw [hpath] at hq
    cases hq
  | some path =>
    rw [reindex_eq hproject hpath] at hinStep ⊢
    apply InStep.upToDate_publishAll hinStep
    rintro _ ⟨rfl⟩
    exact Workspace.lists_indexFile hsound (h.lists p hproject) path text withChecks

/-- Reading a document again that is not open keeps the client up to date. -/
theorem UpToDate.reload (h : s.UpToDate us sent) (hus : ∀ v ∈ us, u.Apart v)
    (hclosed : s.text? u = none) (around : Surroundings) :
    (Server.reload around s u).2.UpToDate us (sent ++ (Server.reload around s u).1) := by
  have hinStep := InStep.reload h.inStep hus hclosed around
  obtain ⟨p, hproject, hsound, -⟩ := h.inStep.project
  cases hpath : documentPath? u with
  | none =>
    rw [reload_of_none around hpath, List.append_nil]
    exact h
  | some path =>
    have hlists := h.lists p hproject
    rcases reload_eq around hproject hpath with ⟨text, hindexed⟩ | hremoved
    · rw [hindexed]
      exact (h.but u).reindex hus (by simp [hclosed]) true
    · rw [hremoved] at hinStep ⊢
      have hlists' : ∀ p', (s.withWorkspace p (p.workspace.removeFile path).2).project = some p' →
          p'.workspace.table.Lists p'.workspace.signaturesAt := by
        rintro _ ⟨rfl⟩
        exact Workspace.lists_removeFile hlists path
      cases hfile : (p.workspace.removeFile path).1 with
      | some e =>
        -- the empty list is sent to a document that is not open, before those of the open ones
        rw [Option.isSome_some, if_pos rfl, List.append_cons]
        exact InStep.upToDate_publishAll hinStep hlists' _
      | none =>
        rw [Option.isSome_none, if_neg Bool.false_ne_true, List.append_nil]
        refine ⟨hinStep, hlists', ?_⟩
        rintro _ v shown q ⟨rfl⟩ _ hshown hq
        rw [h.shown p v shown q hproject (by simp) hshown hq]
        exact Workspace.diagnostics?_congr
          (Workspace.file?_removeFile_of_none hlists hfile q).symm p.settings

/-- The steps about documents keep the client up to date. -/
theorem lasting_upToDate (hus : ∀ u ∈ us, ∀ v ∈ us, u.Apart v) :
    Lasting us fun sent s => s.UpToDate us sent where
  written _ _ u text withChecks h hu _ :=
    (h.withText hu text).reindex (hus u hu) (by simp [text?_withText]) withChecks
  again _ _ u _ h hu hopen := (h.but u).reindex (hus u hu) (by simp [hopen]) true
  closed _ _ u h _ := h.withoutText u
  reloaded _ _ u around h hu hclosed := h.reload (hus u hu) hclosed around

theorem UpToDate.handleAll (h : s.UpToDate us sent) {events : List (Surroundings × Event)}
    (hevents : ∀ x ∈ events, x.2 ≠ .initialized ∧ x.2.urls ⊆ us)
    (hus : ∀ u ∈ us, ∀ v ∈ us, u.Apart v) :
    (s.handleAll events).UpToDate us (sent ++ s.sentAll events) :=
  (lasting_upToDate hus).handleAll sent h hevents

/-- At the start of a session no document is open, and the table lists what the scan has found. -/
theorem upToDate_started (around later : Surroundings) (params : Json) (us : List Url)
    (sent : List ServerNotice) : (started around later params).UpToDate us sent := by
  have hinStep := inStep_started around later params us
  have hstarted : started around later params =
      (indexProject later (begin around fresh params).2).2 := rfl
  obtain ⟨root, settings, hproject⟩ : ∃ root settings, (begin around fresh params).2.project =
      some ⟨root, settings, .empty settings.filePatterns⟩ := ⟨_, _, rfl⟩
  have hsound := Workspace.sound_empty settings.filePatterns
  have hlists : (Workspace.empty settings.filePatterns).table.Lists
      (Workspace.empty settings.filePatterns).signaturesAt := SymbolTable.lists_empty
  have hclosed (u : Url) : (begin around fresh params).2.text? u = none := rfl
  rw [hstarted] at hinStep ⊢
  rcases indexProject_snd later hproject with hfailed | ⟨paths, hscanned⟩
  · rw [hfailed] at hinStep ⊢
    refine ⟨hinStep, ?_, fun p u text path _ _ hopen => absurd hopen (by simp [hclosed])⟩
    intro p hp
    obtain rfl := Option.some.inj (hproject.symm.trans hp)
    exact hlists
  · rw [hscanned] at hinStep ⊢
    refine ⟨hinStep, ?_, fun p u text path _ _ hopen => absurd hopen (by simp [hclosed])⟩
    rintro _ ⟨rfl⟩
    exact Workspace.lists_indexPaths (hsound.runStart false)
      (Workspace.lists_runStart hlists false) later.disk paths false

/-- After every run of events about documents, the diagnostics that were sent last for an open
document are those that the workspace has for it now. -/
theorem open_documents_shown (around later : Surroundings) (params : Json)
    (events : List (Surroundings × Event)) (hevents : ∀ x ∈ events, x.2 ≠ .initialized)
    (hapart : ∀ u ∈ events.flatMap (·.2.urls), ∀ v ∈ events.flatMap (·.2.urls), u.Apart v) :
    let scanned := handle later (begin around fresh params).2 .initialized
    let s := scanned.2.handleAll events
    let sent := scanned.1 ++ scanned.2.sentAll events
    ∃ project, s.project = some project ∧
      ∀ u text path, s.text? u = some text → documentPath? u = some path →
        ∃ found, project.workspace.diagnostics? project.settings path = some found ∧
          lastFor? u sent = some found := by
  intro scanned s sent
  have hknown : ∀ x ∈ events, x.2 ≠ .initialized ∧ x.2.urls ⊆ events.flatMap (·.2.urls) :=
    fun x hx => ⟨hevents x hx, fun u hu => List.mem_flatMap.2 ⟨x, hx, hu⟩⟩
  have hrun : s.UpToDate (events.flatMap (·.2.urls)) sent :=
    (upToDate_started around later params _ scanned.1).handleAll hknown hapart
  obtain ⟨project, hproject, -, hshows⟩ := hrun.inStep.project
  refine ⟨project, hproject, ?_⟩
  intro u text path hopen hpath
  obtain ⟨found, hfound⟩ :=
    (hshows u text path (by simp) hopen hpath).exists_diagnostics project.settings
  have hshown := hrun.shown project u text path hproject (by simp) hopen hpath
  exact ⟨found, hfound, hshown.trans hfound⟩

/-- A document calls a routine of another one. Only the other one is edited, its routine loses a
parameter, and the caller is shown another list. -/
theorem open_documents_shown_caller :
    let u : Url := ⟨Url.fileScheme, some (.ofHost (.name [])), "/a.pro".toList, none, none⟩
    let v : Url := ⟨Url.fileScheme, some (.ofHost (.name [])), "/b.pro".toList, none, none⟩
    let around : Surroundings := ⟨⟨[], []⟩, .ofText ['/']⟩
    let opened : List (Surroundings × Event) :=
      [(around, .opened v "pro foo, x\nend\n".toList), (around, .opened u "foo, 1\n".toList)]
    let events := opened ++ [(around, .changed v [⟨none, "pro foo\nend\n".toList⟩])]
    let scanned := handle around (begin around fresh .null).2 .initialized
    let s := scanned.2.handleAll events
    let sent := scanned.1 ++ scanned.2.sentAll events
    s.text? u = some "foo, 1\n".toList ∧
      lastFor? u sent ≠ lastFor? u (scanned.1 ++ scanned.2.sentAll opened) ∧
      ∃ project, s.project = some project ∧
        ∃ found, project.workspace.diagnostics? project.settings (.ofText "/a.pro".toList) =
          some found ∧ lastFor? u sent = some found := by
  intro u v around opened events scanned s sent
  have hopen : s.text? u = some "foo, 1\n".toList := by decide +kernel
  obtain ⟨project, hproject, hshown⟩ :=
    open_documents_shown around around .null events (by decide) (by decide +kernel)
  exact ⟨hopen, by decide +kernel, project, hproject,
    hshown u _ (.ofText "/a.pro".toList) hopen (by decide +kernel)⟩

end Server

end RoutineAtlas
