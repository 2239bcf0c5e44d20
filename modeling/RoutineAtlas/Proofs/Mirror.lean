import RoutineAtlas.Proofs.Session

/-!
# The table mirrors the files

The table of routines is kept beside the files, by different operations and in a different order:
a batch registers all its files before it stores the first one. Still both say the same at the end
of every step. For each file and key the table holds the file's last definition of the key, once,
and nothing besides.

`SymbolTable.Lists` states the correspondence with any assignment of signatures to paths, and
replacing, removing and registering in a batch are updates of that assignment.

## Main definitions

* `SymbolTable.Lists` — the table holds exactly the given signatures of every file.
* `Workspace.signaturesAt` — the signatures of the file stored at a path.
* `Session.table_mirrors_files` — the correspondence after every run.
-/

namespace RoutineAtlas

theorem Signature.same_self (s : Signature) : s.same s = true := by
  simp [Signature.same]

theorem nodup_eraseDups {α : Type} [DecidableEq α] : (l : List α) → l.eraseDups.Nodup
  | [] => List.nodup_nil
  | a :: rest => by
    rw [List.eraseDups_cons]
    refine List.nodup_cons.2 ⟨?_, nodup_eraseDups _⟩
    simp
termination_by l => l.length
decreasing_by exact Nat.lt_succ_of_le (List.length_filter_le _ rest)

/-- The last of some signatures that has the given key. -/
def lastOf (sigs : List Signature) (key : RoutineKey) : Option Signature :=
  (sigs.filter (·.key == key)).getLast?

theorem lastOf_eq_none_iff {sigs : List Signature} {key : RoutineKey} :
    lastOf sigs key = none ↔ key ∉ sigs.map (·.key) := by
  simp [lastOf]

namespace SymbolTable

variable {t : SymbolTable} {path q : Path} {key : RoutineKey}

/-- The definitions are the given one alone, up to the spelling of its path, or none at all. -/
def Represent (defs : List Signature) : Option Signature → Prop
  | some s => ∃ d, defs = [d] ∧ d.same s = true
  | none => defs = []

theorem Represent.length_le {defs : List Signature} {s : Option Signature}
    (h : Represent defs s) : defs.length ≤ 1 := by
  cases s with
  | none => simp [show defs = [] from h]
  | some s =>
    obtain ⟨d, rfl, -⟩ := h
    exact Nat.le_refl 1

theorem ofFile_congr (h : path.same q = true) (defs : List Signature) :
    ofFile path defs = ofFile q defs := by
  simp only [ofFile, Path.same_right h]

/-! ## Registering one file -/

/-- A file with at most one definition of a key has exactly the new one afterwards. -/
theorem represent_withDefinition {s : Signature} (hs : s.file.same path = true)
    {defs : List Signature} (h : (ofFile path defs).length ≤ 1) :
    Represent (ofFile path (withDefinition path s defs)) (some s) := by
  rw [ofFile_withDefinition_self hs]
  match hold : ofFile path defs with
  | [] => exact ⟨s, rfl, s.same_self⟩
  | [d] =>
    refine ⟨if d.same s then d else s, rfl, ?_⟩
    split
    · assumption
    · exact s.same_self
  | d :: d' :: rest => simp [hold] at h

/-- Of several signatures with one key, the last one stays. -/
theorem represent_foldl_withDefinition {sigs : List Signature}
    (hsigs : ∀ s ∈ sigs, s.file.same path = true) (hne : sigs ≠ []) {defs : List Signature}
    (h : (ofFile path defs).length ≤ 1) :
    Represent (ofFile path (sigs.foldl (fun defs s => withDefinition path s defs) defs))
      sigs.getLast? := by
  induction sigs generalizing defs with
  | nil => exact absurd rfl hne
  | cons s rest ih =>
    obtain ⟨hs, hrest⟩ := List.forall_mem_cons.1 hsigs
    have hfirst := represent_withDefinition hs h
    cases rest with
    | nil => exact hfirst
    | cons s' rest =>
      rw [List.getLast?_cons_cons]
      exact ih hrest (by simp) hfirst.length_le

/-! ## Tables that list the signatures of files -/

/-- For every file, the table holds its signatures: the last one of every key, once, and a list of
its keys without repetition. -/
structure Lists (t : SymbolTable) (contents : Path → List Signature) : Prop where
  wellFormed : t.WellFormed
  keys : ∀ p, t.keysOf p = ((contents p).map (·.key)).eraseDups
  defs : ∀ p key, Represent (ofFile p (t.definitions key)) (lastOf (contents p) key)

variable {contents contents' : Path → List Signature}

theorem lists_empty : empty.Lists fun _ => [] where
  wellFormed := wellFormed_empty
  keys := by intro p; rfl
  defs := by intro p key; rfl

/-- A key that the table does not note for a file has no definition from it. -/
theorem Lists.ofFile_eq_nil (h : t.Lists contents) (hkey : key ∉ t.keysOf path) :
    ofFile path (t.definitions key) = [] := by
  have hdefs := h.defs path key
  rw [h.keys, List.mem_eraseDups] at hkey
  rwa [lastOf_eq_none_iff.2 hkey] at hdefs

/-- Removing a file takes its definitions away and no other, from every key. -/
theorem Lists.definitions_removeFile (h : t.Lists contents) (path : Path) (key : RoutineKey) :
    (t.removeFile path).2.definitions key = withoutFile path (t.definitions key) := by
  rw [SymbolTable.definitions_removeFile h.wellFormed]
  split
  · rfl
  · rename_i hkey
    exact (withoutFile_eq_self (h.ofFile_eq_nil hkey)).symm

/-- So does replacing it by signatures that have other keys. -/
theorem Lists.definitions_replaceFile_of_notMem (h : t.Lists contents) {sigs : List Signature}
    (hkey : key ∉ sigs.map (·.key)) :
    (t.replaceFile path sigs).2.definitions key = withoutFile path (t.definitions key) := by
  have hnone : sigs.filter (·.key == key) = [] := by simpa using hkey
  rw [definitions_replaceFile h.wellFormed, hnone, List.foldl_nil]
  split
  · rfl
  · rename_i hdropped
    refine (withoutFile_eq_self (h.ofFile_eq_nil ?_)).symm
    exact fun hold => hdropped (mem_droppedKeys.2 ⟨hold, hkey⟩)

theorem Lists.ofFile_ne_nil_iff (h : t.Lists contents) :
    ofFile path (t.definitions key) ≠ [] ↔ key ∈ (contents path).map (·.key) := by
  have hdefs := h.defs path key
  cases hlast : lastOf (contents path) key with
  | none =>
    rw [hlast] at hdefs
    have hnil : ofFile path (t.definitions key) = [] := hdefs
    simp [hnil, lastOf_eq_none_iff.1 hlast]
  | some s =>
    rw [hlast] at hdefs
    obtain ⟨d, hd, -⟩ := hdefs
    have hmem : key ∈ (contents path).map (·.key) := by
      by_contra hnot
      rw [lastOf_eq_none_iff.2 hnot] at hlast
      cases hlast
    simp [hd, hmem]

theorem Lists.replaceFile (h : t.Lists contents) {sigs : List Signature}
    (hsigs : ∀ s ∈ sigs, s.file.same path = true)
    (hcontents : ∀ q, contents' q = if path.same q then sigs else contents q) :
    (t.replaceFile path sigs).2.Lists contents' where
  wellFormed := h.wellFormed.replaceFile path sigs
  keys := by
    intro q
    rw [keysOf_replaceFile, hcontents, h.keys]
    split <;> rfl
  defs := by
    intro q key
    have hfilter : ∀ s ∈ sigs.filter (·.key == key), s.file.same path = true :=
      fun s hs => hsigs s (List.mem_of_mem_filter hs)
    rw [hcontents]
    cases hq : path.same q with
    | false =>
      rw [← ofFile_withoutFile_of_ne hq, withoutFile_replaceFile_self h.wellFormed hsigs,
        ofFile_withoutFile_of_ne hq]
      exact h.defs q key
    | true =>
      rw [← ofFile_congr hq, if_pos rfl]
      by_cases hkey : key ∈ sigs.map (·.key)
      · have hne : sigs.filter (·.key == key) ≠ [] := by
          intro hnil
          exact lastOf_eq_none_iff.1 (by rw [lastOf, hnil]; rfl) hkey
        rw [definitions_replaceFile h.wellFormed,
          if_neg fun hdropped => (mem_droppedKeys.1 hdropped).2 hkey]
        exact represent_foldl_withDefinition hfilter hne (h.defs path key).length_le
      · rw [lastOf_eq_none_iff.2 hkey, h.definitions_replaceFile_of_notMem hkey]
        exact ofFile_withoutFile_self path _

theorem Lists.removeFile (h : t.Lists contents)
    (hcontents : ∀ q, contents' q = if path.same q then [] else contents q) :
    (t.removeFile path).2.Lists contents' where
  wellFormed := h.wellFormed.removeFile path
  keys := by
    intro q
    rw [keysOf_removeFile, hcontents, h.keys]
    split <;> rfl
  defs := by
    intro q key
    rw [h.definitions_removeFile, hcontents]
    cases hq : path.same q with
    | false =>
      rw [ofFile_withoutFile_of_ne hq]
      exact h.defs q key
    | true =>
      rw [← ofFile_congr hq]
      exact ofFile_withoutFile_self path _

theorem Lists.registerAll (h : t.Lists contents) {read : List (Ticket × Analysis)}
    (hread : ∀ x ∈ read, x.2.IsOf x.1.path)
    (hcontents : ∀ q, contents' q =
      ((Workspace.lastRead q read).map (·.2.record.signatures)).getD (contents q)) :
    (Workspace.registerAll t read).2.Lists contents' := by
  induction read generalizing t contents with
  | nil =>
    have heq : contents' = contents := funext hcontents
    exact heq ▸ h
  | cons x rest ih =>
    obtain ⟨hx, hrest⟩ := List.forall_mem_cons.1 hread
    refine ih (h.replaceFile hx fun q => rfl) hrest ?_
    intro q
    rw [hcontents, Workspace.lastRead_cons]
    cases Workspace.lastRead q rest with
    | some y => rfl
    | none => split <;> rfl

end SymbolTable

/-! ## The files of a workspace -/

namespace Workspace

variable {w : Workspace}

/-- The signatures of the file stored at a path; none if there is no file. -/
def signaturesAt (w : Workspace) (p : Path) : List Signature :=
  ((w.file? p).map (·.analysis.record.signatures)).getD []

/-- Checking again changes no signatures. -/
theorem map_signatures_rechecked (e : Option FileEntry) (table : SymbolTable)
    (changed : List RoutineKey) :
    (e.map fun e => e.rechecked table changed).map (·.analysis.record.signatures) =
      e.map (·.analysis.record.signatures) := by
  cases e <;> simp

theorem lists_submit (h : w.table.Lists w.signaturesAt) (p : Path) :
    (w.submit p).2.table.Lists (w.submit p).2.signaturesAt :=
  h

theorem lists_store (hw : w.Sound) (h : w.table.Lists w.signaturesAt) {t : Ticket} {a : Analysis}
    (ha : a.IsOf t.path) :
    (w.store t a).table.Lists (w.store t a).signaturesAt := by
  rw [table_store]
  apply h.replaceFile ha
  intro q
  rw [signaturesAt, hw.file?_store]
  split
  · rfl
  · rw [map_signatures_rechecked]
    rfl

theorem lists_removeFile (h : w.table.Lists w.signaturesAt) (p : Path) :
    (w.removeFile p).2.table.Lists (w.removeFile p).2.signaturesAt := by
  rw [table_removeFile]
  apply h.removeFile
  intro q
  rw [signaturesAt, file?_removeFile]
  split
  · rfl
  · rw [map_signatures_rechecked]
    rfl

theorem lists_runStart (h : w.table.Lists w.signaturesAt) (incremental : Bool) :
    (w.runStart incremental).table.Lists (w.runStart incremental).signaturesAt := by
  cases incremental
  · exact SymbolTable.lists_empty
  · exact h

theorem lists_indexPaths (hw : w.Sound) (h : w.table.Lists w.signaturesAt) (disk : Disk)
    (paths : List Path) (incremental : Bool) :
    (w.indexPaths disk paths incremental).2.table.Lists
      (w.indexPaths disk paths incremental).2.signaturesAt := by
  rw [table_indexPaths]
  refine h.registerAll (fun x hx => isOf_of_mem_readAll w disk paths hx) ?_
  intro q
  rw [signaturesAt, file?_indexPaths _ _ _ _ _ hw]
  cases lastRead q (readAll disk w paths).1 with
  | some x => rfl
  | none =>
    cases incremental with
    | false => simp [signaturesAt]
    | true =>
      simp only [Option.map_none, Option.none_or, if_true, map_signatures_rechecked]
      rfl

/-- The table says the same as the files. -/
structure MirrorsFiles (w : Workspace) : Prop where
  /-- A key has a definition from exactly the files whose record defines it. -/
  defined_iff : ∀ key p, (∃ d ∈ w.table.definitions key, d.file.same p = true) ↔
    ∃ e, w.file? p = some e ∧ ∃ s ∈ e.analysis.record.signatures, s.key = key
  /-- From such a file it has one definition, the last one of the record. -/
  last_once : ∀ key p e s, w.file? p = some e →
    lastOf e.analysis.record.signatures key = some s →
    ∃ d, (w.table.definitions key).filter (fun d => d.file.same p) = [d] ∧ d.same s = true
  /-- Every definition stands under its own key. -/
  keyed : ∀ entry ∈ w.table.entries, ∀ d ∈ entry.2, d.key = entry.1
  /-- A key has one entry, and never an empty one. -/
  entries : (w.table.entries.map (·.1)).Nodup ∧ ∀ entry ∈ w.table.entries, entry.2 ≠ []
  /-- The keys of a file are those of its record, in their order and without repetition. -/
  keys : ∀ p, (w.table.keysOf p).Nodup ∧
    w.table.keysOf p = ((w.signaturesAt p).map (·.key)).eraseDups
  /-- Every definition is of a file that is there. -/
  stored : ∀ key, ∀ d ∈ w.table.definitions key, ∃ e, w.file? d.file = some e

theorem mem_keys_signaturesAt {p : Path} {key : RoutineKey} :
    key ∈ (w.signaturesAt p).map (·.key) ↔
      ∃ e, w.file? p = some e ∧ ∃ s ∈ e.analysis.record.signatures, s.key = key := by
  unfold signaturesAt
  cases w.file? p <;> simp

theorem mirrorsFiles_of_lists (h : w.table.Lists w.signaturesAt) : w.MirrorsFiles where
  defined_iff := by
    intro key p
    rw [← mem_keys_signaturesAt, ← h.ofFile_ne_nil_iff, SymbolTable.ofFile, ne_eq,
      List.filter_eq_nil_iff]
    simp
  last_once := by
    intro key p e s he hs
    have hdefs := h.defs p key
    rw [signaturesAt, he, Option.map_some, Option.getD_some, hs] at hdefs
    exact hdefs
  keyed := h.wellFormed.keyed
  entries := ⟨h.wellFormed.nodup, h.wellFormed.nonempty⟩
  keys := by
    intro p
    refine ⟨?_, h.keys p⟩
    rw [h.keys p]
    exact nodup_eraseDups _
  stored := by
    intro key d hd
    have hne : SymbolTable.ofFile d.file (w.table.definitions key) ≠ [] :=
      List.ne_nil_of_mem (List.mem_filter.2 ⟨hd, Path.same_self _⟩)
    rw [h.ofFile_ne_nil_iff, mem_keys_signaturesAt] at hne
    obtain ⟨e, he, -⟩ := hne
    exact ⟨e, he⟩

end Workspace

/-! ## Sessions -/

namespace Session

variable {s s' : Session} {step : Step}

/-- The table lists the signatures of the stored files, and what has been analysed for a submission
defines routines of its file only. -/
structure Mirrored (s : Session) : Prop where
  sound : s.workspace.Sound
  lists : s.workspace.table.Lists s.workspace.signaturesAt
  own : ∀ sub ∈ s.submissions, ∀ a ∈ sub.analyses, a.IsOf sub.ticket.path

theorem mirrored_start (patterns : List Text) : (start patterns).Mirrored where
  sound := Workspace.sound_empty patterns
  lists := SymbolTable.lists_empty
  own := by simp [start]

theorem Mirrored.own_of_effect (h : s.Mirrored) (heffect : s.Effect step s') :
    ∀ sub ∈ s'.submissions, ∀ a ∈ sub.analyses, a.IsOf sub.ticket.path := by
  intro sub hsub a ha
  rcases heffect.mem_submissions hsub with hold | ⟨p, -, rfl⟩ | ⟨text, withChecks, old, hold, rfl⟩
  · exact h.own sub hold a ha
  · cases ha
  · rcases List.mem_cons.1 ha with rfl | ha
    · exact Analysis.isOf_run _ text withChecks _
    · exact h.own old hold a ha

/-- A step that commits only what was analysed for a submission keeps the correspondence. -/
theorem Mirrored.of_effect (h : s.Mirrored) (heffect : s.Effect step s')
    (hpermits : s.Permits Submission.Own step) : s'.Mirrored := by
  refine ⟨heffect.sound h.sound, ?_, h.own_of_effect heffect⟩
  cases heffect with
  | idle => exact h.lists
  | submit p => exact Workspace.lists_submit h.lists p
  | analyze => exact h.lists
  | commit hsub a =>
    have hown := h.own _ (List.mem_of_getElem? hsub) a (hpermits _ hsub)
    exact Workspace.lists_store h.sound h.lists (Workspace.isOf_upToDate _ hown)
  | index p text withChecks =>
    exact Workspace.lists_store (h.sound.submit p) (Workspace.lists_submit h.lists p)
      (Analysis.isOf_run p text withChecks _)
  | remove p => exact Workspace.lists_removeFile h.lists p
  | scan hok hresult =>
    rw [hresult]
    exact Workspace.lists_indexPaths (h.sound.runStart _) (Workspace.lists_runStart h.lists _) _ _ _

/-- After every run that commits only what was analysed for a submission, the table mirrors the
files. -/
theorem table_mirrors_files (patterns : List Text) (steps : List Step)
    (hsteps : (start patterns).Obeys Submission.Own steps) :
    ((start patterns).run steps).workspace.MirrorsFiles := by
  have hrun : ((start patterns).run steps).Mirrored :=
    run_invariant Mirrored.of_effect (mirrored_start patterns) hsteps
  exact Workspace.mirrorsFiles_of_lists hrun.lists

/-- A file that defines a routine twice is committed after another file has been indexed. -/
theorem table_mirrors_files_late_commit :
    let path := Path.ofString "a.pro"
    let text := "pro foo, x\nend\npro foo\nend\n".toList
    let steps := [.submit path, .analyze 0 text true, .index (.ofString "b.pro") text false,
      .commit 0 ((Workspace.empty []).preview path text true)]
    (start []).Obeys Submission.Own steps ∧ ((start []).run steps).workspace.MirrorsFiles := by
  intro path text steps
  have hsteps : (start []).Obeys Submission.Own steps := by
    refine ⟨trivial, trivial, trivial, ?_, trivial⟩
    intro sub hsub
    simp only [Session.step, submissions_withOutcome] at hsub
    obtain rfl := Option.some.inj hsub
    exact List.mem_singleton.2 rfl
  exact ⟨hsteps, table_mirrors_files [] steps hsteps⟩

end Session

end RoutineAtlas
