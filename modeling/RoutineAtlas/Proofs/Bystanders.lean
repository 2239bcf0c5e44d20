import RoutineAtlas.Proofs.Freshness
import RoutineAtlas.Proofs.Seniority

/-!
# What an edit of one file leaves of the others

A commit or a removal changes one file and the table, and has the callers of what changed checked
again. Nothing else of the other files changes: they keep their text and their routines, and those
that call nothing that changed keep their checks as well (`Workspace.Frame`).

A check sees of a routine no more than its interface. So an edit that moves the routines of a file,
binds their keywords to other variables or spells their names in other letters tells no caller
anything new, and adding a file and removing it again leaves everything as it was, whatever the file
took over in between.

## Main definitions

* `FileEntry.SameButChecks`, `Workspace.Frame` — what an edit leaves of the other files.
* `Signature.Retouched`, `Workspace.Retouches` — the edits that no caller notices.
-/

namespace RoutineAtlas

/-! ## The frame of an edit -/

/-- The entries differ at most in what their checks found. -/
structure FileEntry.SameButChecks (e e' : FileEntry) : Prop where
  path : e'.path = e.path
  version : e'.version = e.version
  analysis_path : e'.analysis.path = e.analysis.path
  tokens : e'.analysis.tokens = e.analysis.tokens
  blocks : e'.analysis.blocks = e.analysis.blocks
  record : e'.analysis.record = e.analysis.record
  parseProblems : e'.analysis.parseProblems = e.analysis.parseProblems

/-- The entry is kept when the interfaces of some keys change: all but its checks, and these as well
if it calls none of the keys. -/
structure FileEntry.KeptBut (changed : List RoutineKey) (e e' : FileEntry) : Prop where
  kept : e.SameButChecks e'
  unchanged : (∀ key ∈ changed, e.analysis.record.callsTo key = []) → e' = e

theorem FileEntry.keptBut_rechecked (e : FileEntry) (table : SymbolTable)
    (changed : List RoutineKey) : e.KeptBut changed (e.rechecked table changed) where
  kept := by
    unfold rechecked
    split <;> constructor <;> rfl
  unchanged := by
    intro hcalls
    apply rechecked_eq_self
    simpa [Record.callsAny] using hcalls

namespace Workspace

variable {w : Workspace} {p : Path}

/-- What an edit of the file at `p` leaves of the others, if it changes the interfaces of some keys:
the other files are kept, none comes or goes, and of every key the other files have the same
definitions in the same order. -/
structure Frame (p : Path) (changed : List RoutineKey) (w w' : Workspace) : Prop where
  files : ∀ q, p.same q = false →
    Option.Rel (FileEntry.KeptBut changed) (w.file? q) (w'.file? q)
  definitions : ∀ key, SymbolTable.withoutFile p (w'.table.definitions key) =
    SymbolTable.withoutFile p (w.table.definitions key)

theorem rel_keptBut_rechecked (e : Option FileEntry) (table : SymbolTable)
    (changed : List RoutineKey) :
    Option.Rel (FileEntry.KeptBut changed) e (e.map fun e => e.rechecked table changed) := by
  cases e with
  | none => exact .none
  | some e => exact .some (e.keptBut_rechecked table changed)

theorem Frame.refl (p : Path) (changed : List RoutineKey) (w : Workspace) :
    w.Frame p changed w where
  files := by
    intro q _
    cases w.file? q with
    | none => exact .none
    | some e => exact .some ⟨by constructor <;> rfl, fun _ => rfl⟩
  definitions := fun _ => rfl

theorem Sound.frame_store (h : w.Sound) {t : Ticket} {a : Analysis} (ha : a.IsOf t.path) :
    w.Frame t.path (w.changedBy t a) (w.store t a) where
  files := by
    intro q hq
    rw [h.file?_store, hq]
    exact rel_keptBut_rechecked _ _ _
  definitions := fun _ => SymbolTable.withoutFile_replaceFile_self h.table ha

theorem Sound.frame_commit (h : w.Sound) {t : Ticket} {a : Analysis} (ha : a.IsOf t.path) :
    w.Frame t.path (w.table.replaceFile t.path a.record.signatures).1 (w.commit t a).2 := by
  rw [commit_eq]
  split
  · have hstore : w.Frame t.path (w.changedBy t (w.upToDate t a)) (w.store t (w.upToDate t a)) :=
      h.frame_store (isOf_upToDate w ha)
    rwa [changedBy, record_upToDate] at hstore
  · exact .refl _ _ _

theorem Sound.frame_removeFile (h : w.Sound) (p : Path) :
    w.Frame p (w.table.removeFile p).1 (w.removeFile p).2 where
  files := by
    intro q hq
    rw [file?_removeFile, hq]
    exact rel_keptBut_rechecked _ _ _
  definitions := by
    intro key
    rw [table_removeFile, SymbolTable.definitions_removeFile h.table]
    split
    · exact SymbolTable.withoutFile_idem p _
    · rfl

end Workspace

/-- In every workspace that a session can come to, a commit of an analysis of some file leaves all
other files their versions and their texts, and their definitions in the table. A file that calls
none of the keys which the commit changes is left as it is, its checks included. So does removing a
file. -/
theorem Session.edits_keep_others (patterns : List Text) (steps : List Step) :
    let w := ((start patterns).run steps).workspace
    (∀ t a, Analysis.IsOf a t.path →
      w.Frame t.path (w.table.replaceFile t.path a.record.signatures).1 (w.commit t a).2) ∧
      ∀ p, w.Frame p (w.table.removeFile p).1 (w.removeFile p).2 := by
  intro w
  have hw : w.Sound := sound_run patterns steps
  exact ⟨fun t a ha => hw.frame_commit ha, hw.frame_removeFile⟩

/-- A file that takes over a routine is committed, and its caller is checked again. -/
theorem Session.edits_keep_others_shadowed :
    let p := Path.ofString "a.pro"
    let a := Analysis.read p "pro foo\nend\n".toList
    let t : Ticket := ⟨p, 1, none⟩
    let w := ((start []).run [.index (.ofString "b.pro") "pro foo, x\nend\n".toList true,
      .index (.ofString "c.pro") "foo, 1\n".toList true, .submit p]).workspace
    a.IsOf t.path ∧ w.isCurrent t = true ∧
      w.Frame t.path (w.table.replaceFile t.path a.record.signatures).1 (w.commit t a).2 := by
  intro p a t w
  have ha : a.IsOf t.path := Analysis.isOf_read p _
  exact ⟨ha, by decide +kernel, (edits_keep_others [] _).1 t a ha⟩

/-! ## Edits that no caller notices -/

/-- A relation that holds of routines with one interface is read off the interfaces also where the
routines may be missing. -/
theorem rel_iff_map_interface {R : Signature → Signature → Prop}
    (hR : ∀ s s', R s s' ↔ s.interface = s'.interface) {x y : Option Signature} :
    Option.Rel R x y ↔ x.map Signature.interface = y.map Signature.interface := by
  cases x <;> cases y <;> simp [hR]

theorem rel_sameInterface_iff {x y : Option Signature} :
    Option.Rel (fun s s' => s.sameInterface s' = true) x y ↔
      x.map Signature.interface = y.map Signature.interface :=
  rel_iff_map_interface fun _ _ => Signature.sameInterface_iff

namespace Signature

/-- The routine may have been moved, its keywords bound to other variables and its names spelled in
other letters, and no more than that. -/
structure Retouched (s s' : Signature) : Prop where
  name : s.name.sameName s'.name = true
  kind : s.kind = s'.kind
  args : List.Forall₂ (fun a b => a.name.sameName b.name = true) s.args s'.args
  keywords : List.Forall₂ (fun a b => a.name.sameName b.name = true) s.keywords s'.keywords
  acceptsExtra : s.acceptsExtra = s'.acceptsExtra

theorem forall₂_sameName_iff {α : Type} {name : α → Text} {l l' : List α} :
    List.Forall₂ (fun a b => (name a).sameName (name b) = true) l l' ↔
      l.map (fun a => (name a).lower) = l'.map fun a => (name a).lower := by
  rw [← List.forall₂_eq_eq_eq, List.forall₂_map_left_iff, List.forall₂_map_right_iff]
  simp [Text.sameName]

/-- An interface leaves out just what a retouch may change. -/
theorem retouched_iff {s s' : Signature} : s.Retouched s' ↔ s.interface = s'.interface := by
  constructor
  · intro h
    have hkey : s.key = s'.key := by
      rw [key, key, RoutineKey.of, RoutineKey.of, h.kind, beq_iff_eq.1 h.name]
    rw [interface, interface, hkey, h.acceptsExtra, forall₂_sameName_iff.1 h.args,
      forall₂_sameName_iff.1 h.keywords]
  · intro h
    exact
      { name := beq_iff_eq.2 (congrArg (fun i => i.key.name) h)
        kind := congrArg (fun i => i.key.kind) h
        args := forall₂_sameName_iff.2 (congrArg Interface.args h)
        keywords := forall₂_sameName_iff.2 (congrArg Interface.keywords h)
        acceptsExtra := congrArg Interface.acceptsExtra h }

end Signature

namespace SymbolTable

variable {t : SymbolTable} {path : Path} {sigs defs defs' : List Signature}
  {contents : Path → List Signature}

/-- An edit that leaves a file its interface of a key leaves the table all that it shows of the
key. -/
theorem Placed.map_seen_eq (hplaced : Placed path defs defs')
    (hsame : (ofFile path defs).head?.map Signature.interface =
      (ofFile path defs').head?.map Signature.interface) :
    defs.map Signature.seen = defs'.map Signature.seen := by
  cases hplaced with
  | dropped =>
    have hnone : ofFile path defs = [] := by
      rw [ofFile_withoutFile_self] at hsame
      simpa using hsame
    rw [withoutFile_eq_self hnone]
  | @kept before after hbefore d d' hd hd' =>
    have hfirst {x : Signature} (hx : x.file.same path = true) :
        (ofFile path (before ++ x :: after)).head? = some x := by
      have happend : ofFile path (before ++ x :: after) =
          ofFile path before ++ ofFile path (x :: after) := List.filter_append ..
      rw [happend, hbefore]
      simp [ofFile, hx]
    have hinterface : d.interface = d'.interface := by
      simpa [hfirst hd, hfirst hd'] using hsame
    have hparts : d.file.parts = d'.file.parts := by
      rw [← Path.same_iff, Path.same_right hd', hd]
    simp [Signature.seen, hinterface, hparts]
  | @added _ d habsent hd =>
    have happend : ofFile path (defs ++ [d]) = ofFile path defs ++ [d] := by
      simp [ofFile, hd]
    rw [happend, habsent] at hsame
    cases hsame

theorem Lists.agreeBut_nil_replaceFile (h : t.Lists contents)
    (hsigs : ∀ s ∈ sigs, s.file.same path = true)
    (hsame : ∀ key, (lastOf (contents path) key).map Signature.interface =
      (lastOf sigs key).map Signature.interface) :
    AgreeBut [] t (t.replaceFile path sigs).2 := by
  intro key _
  have hafter := h.replaceFile hsigs fun _ => rfl
  apply (h.placed_replaceFile hsigs key).map_seen_eq
  rw [← interfaceIn?_eq_head?, ← interfaceIn?_eq_head?, h.interfaceIn?_eq, hafter.interfaceIn?_eq,
    if_pos (Path.same_self path)]
  exact hsame key

/-- Adding a file that has no signatures yet and removing it again leaves every key its
definitions. -/
theorem Lists.definitions_removeFile_replaceFile (h : t.Lists contents)
    (hsigs : ∀ s ∈ sigs, s.file.same path = true) (habsent : contents path = [])
    (key : RoutineKey) :
    ((t.replaceFile path sigs).2.removeFile path).2.definitions key = t.definitions key := by
  have hnone : ofFile path (t.definitions key) = [] := by
    apply h.ofFile_eq_nil
    rw [h.keys, habsent]
    exact List.not_mem_nil
  have hadded := h.replaceFile hsigs fun _ => rfl
  rw [hadded.definitions_removeFile, withoutFile_replaceFile_self h.wellFormed hsigs,
    withoutFile_eq_self hnone]

end SymbolTable

/-- Checking a file again changes nothing if its checks are those of the table. -/
theorem FileEntry.rechecked_of_fresh {e : FileEntry} {t : SymbolTable}
    (h : e.analysis.checkProblems = e.analysis.check (t.excluding e.path))
    (changed : List RoutineKey) : e.rechecked t changed = e := by
  unfold rechecked
  split
  · rw [Analysis.checked, ← h]
  · rfl

namespace Workspace

variable {w : Workspace} {p q : Path} {t : Ticket} {a : Analysis} {e : FileEntry}

/-- The analysis gives the file the routines that it has, retouched at most. Of several routines
with one key the last one counts. -/
def Retouches (w : Workspace) (p : Path) (a : Analysis) : Prop :=
  ∀ key, Option.Rel Signature.Retouched (lastOf (w.signaturesAt p) key)
    (lastOf a.record.signatures key)

theorem retouches_iff : w.Retouches p a ↔ ∀ key,
    (lastOf (w.signaturesAt p) key).map Signature.interface =
      (lastOf a.record.signatures key).map Signature.interface :=
  forall_congr' fun _ => rel_iff_map_interface fun _ _ => Signature.retouched_iff

/-- Routines that are retouched where they stand, in the order that they have. -/
theorem retouches_of_map_interface_eq (h : (w.signaturesAt p).map Signature.interface =
    a.record.signatures.map Signature.interface) : w.Retouches p a := by
  have hlast (sigs : List Signature) (key : RoutineKey) :
      (lastOf sigs key).map Signature.interface =
        ((sigs.map Signature.interface).filter (·.key == key)).getLast? := by
    rw [List.filter_map, List.getLast?_map]
    rfl
  rw [retouches_iff]
  intro key
  rw [hlast, hlast, h]

/-- A commit that retouches a file changes nothing that another file could be told. -/
theorem Retouches.agreeBut_commit (h : w.Retouches t.path a)
    (hlists : w.table.Lists w.signaturesAt) (ha : a.IsOf t.path) :
    SymbolTable.AgreeBut [] w.table (w.commit t a).2.table := by
  rw [commit_eq]
  split
  · rw [table_store, record_upToDate]
    exact hlists.agreeBut_nil_replaceFile ha (retouches_iff.1 h)
  · exact .refl _ _

theorem Sound.commit (h : w.Sound) (t : Ticket) (a : Analysis) : (w.commit t a).2.Sound := by
  rw [commit_eq]
  split
  · exact h.store _ _
  · exact h

/-- A commit leaves another file as it is if the file's checks are those of the new table. -/
theorem Sound.file?_commit_of_fresh (h : w.Sound) (hq : t.path.same q = false)
    (he : w.file? q = some e)
    (hfresh : e.analysis.checkProblems = e.analysis.check ((w.commit t a).2.lookup q)) :
    (w.commit t a).2.file? q = some e := by
  rw [lookup, ← SymbolTable.excluding_congr _ (h.placed q e he)] at hfresh
  rw [commit_eq] at hfresh ⊢
  split at hfresh
  · rename_i hcurrent
    rw [if_pos hcurrent, h.file?_store, hq, he]
    exact congrArg some (FileEntry.rechecked_of_fresh hfresh _)
  · rename_i hcurrent
    rwa [if_neg hcurrent]

end Workspace

/-- What a file is told depends on other files only through the interfaces that its calls are
answered with. So in every workspace that a session can come to, a commit that only retouches the
routines of a file tells every other file what it was told before, and leaves it as it is if its
checks were those of the table. -/
theorem Session.callers_see_interfaces_only :
    (∀ (a : Analysis) (l l' : RoutineLookup), (∀ c ∈ a.record.calls,
        Option.Rel (fun s s' => s.sameInterface s' = true) (l.answer c) (l'.answer c)) →
      a.check l = a.check l') ∧
    ∀ (patterns : List Text) (steps : List Step), (start patterns).Obeys Submission.Own steps →
      let w := ((start patterns).run steps).workspace
      ∀ t a, Analysis.IsOf a t.path → w.Retouches t.path a →
        ∀ q e, t.path.same q = false → w.file? q = some e →
          e.analysis.check ((w.commit t a).2.lookup q) = e.analysis.check (w.lookup q) ∧
            (e.analysis.checkProblems = e.analysis.check (w.lookup q) →
              (w.commit t a).2.file? q = some e) := by
  refine ⟨?_, ?_⟩
  · intro a l l' halike
    apply a.check_congr
    intro c hc
    exact rel_sameInterface_iff.1 (halike c hc)
  · intro patterns steps hsteps w t a ha hretouches q e hq he
    have hrun : ((start patterns).run steps).Mirrored :=
      run_invariant Mirrored.of_effect (mirrored_start patterns) hsteps
    have hw : w.Sound := hrun.sound
    have htold : e.analysis.check ((w.commit t a).2.lookup q) = e.analysis.check (w.lookup q) :=
      (SymbolTable.check_eq_of_agreeBut hw.table (hw.commit t a).table
        (hretouches.agreeBut_commit hrun.lists ha) q (by simp)).symm
    exact ⟨htold, fun hfresh => hw.file?_commit_of_fresh hq he (hfresh.trans htold.symm)⟩

/-- A routine is moved, renamed in other letters and given another variable, and its caller passes
an argument too many, before and after. -/
theorem Session.callers_see_interfaces_only_recased :
    let p := Path.ofString "a.pro"
    let q := Path.ofString "b.pro"
    let steps : List Step := [.index p "pro foo, x, COLOR=color\nend\n".toList true,
      .index q "foo, 1, 2, /col\n".toList true, .submit p]
    let w := ((start []).run steps).workspace
    let a := Analysis.read p "\nPRO Foo, X, Color=c\nEND\n".toList
    let w' := (w.commit ⟨p, 2, none⟩ a).2
    (start []).Obeys Submission.Own steps ∧ a.IsOf p ∧ w.Retouches p a ∧ p.same q = false ∧
      ∃ e, w.file? q = some e ∧ w'.file? q = some e ∧ e.analysis.checkProblems ≠ [] ∧
        e.analysis.check (w.lookup q) = e.analysis.check (w'.lookup q) := by
  intro p q steps w a w'
  have hsteps : (start []).Obeys Submission.Own steps := ⟨trivial, trivial, trivial, trivial⟩
  have hown : a.IsOf p := Analysis.isOf_read p _
  have hretouches : w.Retouches p a := Workspace.retouches_of_map_interface_eq (by decide +kernel)
  have hq : p.same q = false := by decide
  have hentry : (w.file? q).any (fun e => !e.analysis.checkProblems.isEmpty &&
      e.analysis.checkProblems == e.analysis.check (w.lookup q) &&
      e.analysis.record.calls.all fun c => ((w.lookup q).answer c).map Signature.interface ==
        ((w'.lookup q).answer c).map Signature.interface) = true := by decide +kernel
  obtain ⟨e, he, hfacts⟩ := (Option.any_eq_true _ _).1 hentry
  simp only [Bool.and_eq_true, beq_iff_eq, List.all_eq_true] at hfacts
  obtain ⟨⟨hproblems, hfresh⟩, hanswers⟩ := hfacts
  have hkept :=
    callers_see_interfaces_only.2 [] steps hsteps ⟨p, 2, none⟩ a hown hretouches q e hq he
  refine ⟨hsteps, hown, hretouches, hq, e, he, hkept.2 hfresh, by simpa using hproblems, ?_⟩
  refine callers_see_interfaces_only.1 e.analysis _ _ fun c hc => ?_
  exact rel_sameInterface_iff.2 (hanswers c hc)

/-! ## Adding a file and removing it -/

namespace Workspace

variable {w : Workspace} {p q : Path}

theorem definitions_removeFile_indexFile (hlists : w.table.Lists w.signaturesAt)
    (hp : w.file? p = none) (text : Text) (withChecks : Bool) (key : RoutineKey) :
    ((w.indexFile p text withChecks).2.removeFile p).2.table.definitions key =
      w.table.definitions key := by
  rw [table_removeFile, table_indexFile]
  refine hlists.definitions_removeFile_replaceFile (Analysis.isOf_read p text) ?_ key
  rw [signaturesAt, hp]
  rfl

/-- A file whose checks are those of the table is checked again to the same result: what it calls
changes twice, and is in the end what it was. -/
theorem Sound.file?_removeFile_indexFile (h : w.Sound) (hlists : w.table.Lists w.signaturesAt)
    (hp : w.file? p = none) (text : Text) (withChecks : Bool) (hq : p.same q = false)
    (hfresh : ∀ e, w.file? q = some e →
      e.analysis.checkProblems = e.analysis.check (w.lookup q)) :
    ((w.indexFile p text withChecks).2.removeFile p).2.file? q = w.file? q := by
  have hadded : (w.indexFile p text withChecks).2.Sound := h.indexFile p text withChecks
  have hremoved := hadded.removeFile p
  have hagree : SymbolTable.AgreeBut [] w.table
      ((w.indexFile p text withChecks).2.removeFile p).2.table := by
    intro key _
    rw [definitions_removeFile_indexFile hlists hp]
  rw [file?_removeFile, h.file?_indexFile, hq, if_neg Bool.false_ne_true,
    if_neg Bool.false_ne_true, Option.map_map]
  cases he : w.file? q with
  | none => rfl
  | some e =>
    have htold : e.analysis.checkProblems = e.analysis.check
        (((w.indexFile p text withChecks).2.removeFile p).2.table.excluding e.path) := by
      rw [hfresh e he, SymbolTable.excluding_congr _ (h.placed q e he)]
      exact SymbolTable.check_eq_of_agreeBut h.table hremoved.table hagree q (by simp)
    -- two checks come to the last one, and that one finds what the file had at first
    have htwice := FileEntry.rechecked_rechecked hadded.table hremoved.table
      (SymbolTable.agreeBut_removeFile hadded.table p) e
    exact congrArg some ((htwice _).trans (FileEntry.rechecked_of_fresh htold _))

end Workspace

/-- In every workspace that a session can come to, with all its files committed with checks,
indexing a file that is not there and removing it again leaves no trace but the file's versions: all
entries are what they were, and so are the definitions of all keys. -/
theorem Session.removing_undoes_indexing (patterns : List Text) (steps : List Step)
    (hsteps : (start patterns).Obeys Submission.Last steps)
    (hchecked : ∀ q e, ((start patterns).run steps).workspace.file? q = some e →
      ((start patterns).run steps).withChecks.get? q = some true)
    (p : Path) (hp : ((start patterns).run steps).workspace.file? p = none) (text : Text)
    (withChecks : Bool) :
    let w := ((start patterns).run steps).workspace
    let w' := ((w.indexFile p text withChecks).2.removeFile p).2
    (∀ q, p.same q = false → w'.file? q = w.file? q) ∧ w'.file? p = none ∧
      ∀ key, w'.table.definitions key = w.table.definitions key := by
  intro w w'
  have hfresh : ((start patterns).run steps).Fresh :=
    run_invariant Fresh.of_effect (fresh_start patterns) hsteps
  have hmirrored : ((start patterns).run steps).Mirrored :=
    run_invariant Mirrored.of_effect (mirrored_start patterns)
      (hsteps.mono fun _ _ => Submission.Last.own)
  refine ⟨?_, ?_, Workspace.definitions_removeFile_indexFile hmirrored.lists hp text withChecks⟩
  · intro q hq
    refine hfresh.sound.file?_removeFile_indexFile hmirrored.lists hp text withChecks hq ?_
    intro e he
    rcases hfresh.settled q e he with hcurrent | ⟨hflag, -⟩
    · exact hcurrent
    · rw [hchecked q e he] at hflag
      cases hflag
  · rw [Workspace.file?_removeFile, if_pos (Path.same_self p)]

/-- The added file takes over a routine, and while it is there the caller does not pass too many
arguments. -/
theorem Session.removing_undoes_indexing_shadowed :
    let p := Path.ofString "p.pro"
    let q := Path.ofString "b.pro"
    let steps : List Step := [.index (.ofString "a.pro") "pro foo, x\nend\n".toList true,
      .index q "foo, 1, 2\n".toList true]
    let s := (start []).run steps
    let added := (s.workspace.indexFile p "pro foo, x, y\nend\n".toList true).2
    let found (w : Workspace) := (w.file? q).map fun e => e.analysis.checkProblems.length
    (start []).Obeys Submission.Last steps ∧
      (∀ q e, s.workspace.file? q = some e → s.withChecks.get? q = some true) ∧
      s.workspace.file? p = none ∧ found s.workspace = some 1 ∧ found added = some 0 ∧
      (added.removeFile p).2.file? q = s.workspace.file? q := by
  intro p q steps s added found
  have hsteps : (start []).Obeys Submission.Last steps := ⟨trivial, trivial, trivial⟩
  have hfacts : (∀ entry ∈ s.workspace.files, s.withChecks.get? entry.1 = some true) ∧
      s.workspace.file? p = none ∧ found s.workspace = some 1 ∧ found added = some 0 := by
    decide +kernel
  obtain ⟨hflags, hp, hbefore, hbetween⟩ := hfacts
  have hchecked : ∀ q e, s.workspace.file? q = some e → s.withChecks.get? q = some true := by
    intro q e he
    obtain ⟨entry, hentry, -⟩ := Option.map_eq_some_iff.1 he
    have hsame : entry.1.same q = true := by simpa using List.find?_some hentry
    rw [← PathMap.get?_congr _ hsame]
    exact hflags entry (List.mem_of_find?_eq_some hentry)
  have hundone := removing_undoes_indexing [] steps hsteps hchecked p hp
    "pro foo, x, y\nend\n".toList true
  exact ⟨hsteps, hchecked, hp, hbefore, hbetween, hundone.1 q (by decide)⟩

end RoutineAtlas
