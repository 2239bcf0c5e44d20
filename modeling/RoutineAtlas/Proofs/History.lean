import Mathlib.Data.List.Forall2
import RoutineAtlas.Proofs.Freshness
import RoutineAtlas.Proofs.KeyOrder
import RoutineAtlas.Proofs.Mirror
import RoutineAtlas.Proofs.Respelling

/-!
# A workspace forgets its history

A workspace is changed by indexing and removing files. On the way one file may shadow a routine of
another, make a method ambiguous or take a definition away, and the files that call it are checked
again, or not. None of that is left at the end: if no key is defined by two files, then the texts
that the files have at last determine the workspace, but for the numbers of versions.

Two spellings of one path are one file, and what is stored keeps the spelling it came with. So all
statements are up to the spelling of paths.

Without the condition on keys this fails: of several files that define a key, the one that came last
is meant.

## Main definitions

* `Edit`, `Workspace.afterEdits` — the changes, and the workspace after them.
* `contentsAfter` — the texts that the files have at last.
* `Workspace.Shows` — the invariant that ties a workspace to the texts of its files.
* `Workspace.Alike` — equality up to versions and spelling.
* `Workspace.history_independent` — equal texts give alike workspaces.
-/

namespace RoutineAtlas

/-! ## Edits -/

/-- A change to the files of a workspace. -/
inductive Edit where
  | index (p : Path) (text : Text)
  | remove (p : Path)
deriving DecidableEq, Repr

/-- The text of the file at each path, if there is one. -/
abbrev Contents := Path → Option Text

/-- What an edit does to the texts of the files. -/
def Contents.edit (m : Contents) : Edit → Contents
  | .index p text => fun q => if p.same q then some text else m q
  | .remove p => fun q => if p.same q then none else m q

/-- The texts of the files after some edits, where there were none before. -/
def contentsAfter (edits : List Edit) : Contents :=
  edits.foldl Contents.edit fun _ => none

namespace Contents

/-- The signatures of the text at a path. -/
def signatures (m : Contents) (p : Path) : List Signature :=
  ((m p).map fun text => (Analysis.read p text).record.signatures).getD []

/-- The file at the path defines the key. -/
def Defines (m : Contents) (p : Path) (key : RoutineKey) : Prop :=
  key ∈ (m.signatures p).map (·.key)

/-- No key is defined by two files. -/
def KeysUnique (m : Contents) : Prop :=
  ∀ key p q, m.Defines p key → m.Defines q key → p.same q = true

end Contents

namespace Workspace

/-- Index a file, with checks, or remove one. -/
def edit (w : Workspace) : Edit → Workspace
  | .index p text => (w.indexFile p text true).2
  | .remove p => (w.removeFile p).2

/-- The workspace after some edits, where there were no files before. -/
def afterEdits (patterns : List Text) (edits : List Edit) : Workspace :=
  edits.foldl edit (empty patterns)

end Workspace

/-! ## Equality up to versions and spelling -/

/-- The records agree, the signatures up to the spelling of their path. -/
structure Record.Alike (r r' : Record) : Prop where
  routines : List.Forall₂ (fun a b => a.signature.same b.signature = true ∧ a.scope = b.scope ∧
    a.closed = b.closed) r.routines r'.routines
  scopes : r.scopes = r'.scopes
  calls : r.calls = r'.calls

/-- The entries agree in everything but their versions, and in paths up to their spelling. -/
structure FileEntry.Alike (e e' : FileEntry) : Prop where
  path : e.path.same e'.path = true
  analysis_path : e.analysis.path.same e'.analysis.path = true
  tokens : e.analysis.tokens = e'.analysis.tokens
  blocks : e.analysis.blocks = e'.analysis.blocks
  record : e.analysis.record.Alike e'.analysis.record
  parseProblems : e.analysis.parseProblems = e'.analysis.parseProblems
  checkProblems : e.analysis.checkProblems = e'.analysis.checkProblems

/-- The signatures are the same, up to the spelling of their path. -/
def Signature.Same (s t : Signature) : Prop :=
  s.same t = true

/-- The workspaces hold the same files and give the same answers. -/
structure Workspace.Alike (w w' : Workspace) : Prop where
  files : ∀ p, Option.Rel FileEntry.Alike (w.file? p) (w'.file? p)
  definitions : ∀ key,
    List.Forall₂ Signature.Same (w.table.definitions key) (w'.table.definitions key)
  resolve : ∀ key, Option.Rel Signature.Same (w.table.resolve? key) (w'.table.resolve? key)
  routines : List.Forall₂ Signature.Same w.table.routines w'.table.routines
  resolveAny : ∀ name,
    List.Forall₂ Signature.Same (w.table.resolveAny name) (w'.table.resolveAny name)

theorem Record.alike_movedTo (r : Record) {p q : Path} (h : p.same q = true) :
    (r.movedTo p).Alike (r.movedTo q) where
  routines := by
    rw [Record.movedTo, Record.movedTo, List.forall₂_map_left_iff, List.forall₂_map_right_iff]
    exact List.forall₂_same.2 fun a _ => ⟨a.signature.same_movedTo h, rfl, rfl⟩
  scopes := rfl
  calls := rfl

/-! ## The invariant -/

/-- The entry is what its text shows, whatever its checks say. -/
def FileEntry.Shows (e : FileEntry) (text : Text) : Prop :=
  ∃ problems, e.analysis = { Analysis.read e.path text with checkProblems := problems }

theorem FileEntry.Shows.rechecked {e : FileEntry} {text : Text} (h : e.Shows text)
    (table : SymbolTable) (changed : List RoutineKey) : (e.rechecked table changed).Shows text := by
  obtain ⟨problems, h⟩ := h
  unfold FileEntry.rechecked
  split
  · refine ⟨e.analysis.check (table.excluding e.path), ?_⟩
    rw [Analysis.checked, h]
  · exact ⟨problems, h⟩

namespace Workspace

/-- The files are those of the given texts, with present checks, and the table lists their
routines. -/
structure Shows (w : Workspace) (m : Contents) : Prop where
  sound : w.Sound
  lists : w.table.Lists w.signaturesAt
  settled : w.AllSettled []
  files : ∀ p, Option.Rel FileEntry.Shows (w.file? p) (m p)

variable {w w' : Workspace} {m : Contents} {p : Path} {text : Text} {key : RoutineKey}

theorem shows_empty (patterns : List Text) : (empty patterns).Shows fun _ => none where
  sound := sound_empty patterns
  lists := SymbolTable.lists_empty
  settled := by
    intro p e he
    cases he
  files := fun _ => .none

/-- Checking some files again shows the same texts. -/
theorem rel_shows_rechecked {e : Option FileEntry} {text : Option Text}
    (h : Option.Rel FileEntry.Shows e text) (table : SymbolTable) (changed : List RoutineKey) :
    Option.Rel FileEntry.Shows (e.map fun e => e.rechecked table changed) text := by
  cases h with
  | none => exact .none
  | some h => exact .some (h.rechecked table changed)

theorem Shows.index (h : w.Shows m) (p : Path) (text : Text) :
    (w.edit (.index p text)).Shows (m.edit (.index p text)) := by
  have hown := Analysis.isOf_run p text true (w.lookup p)
  have hsound := h.sound.submit p
  have hedit : w.edit (.index p text) =
      (w.submit p).2.store (w.directTicket p true) (w.preview p text true) := by
    rw [edit, indexFile_eq]
  rw [hedit]
  refine ⟨hsound.store _ _, lists_store hsound (lists_submit h.lists p) hown, ?_, ?_⟩
  · have hbefore : (w.submit p).2.AllSettled [] := h.settled
    have hafter : ((w.submit p).2.store (w.directTicket p true)
        (w.preview p text true)).AllSettled (PathMap.insert [] p true) :=
      hbefore.store hsound hown (.inl rfl)
    intro q e he
    rcases hafter q e he with hfresh | ⟨hflag, -⟩
    · exact .inl hfresh
    · rw [PathMap.get?_insert] at hflag
      split at hflag <;> cases hflag
  · intro q
    rw [hsound.file?_store]
    simp only [Contents.edit]
    have hpath : (w.directTicket p true).path = p := rfl
    rw [hpath]
    split
    · exact .some ⟨_, rfl⟩
    · exact rel_shows_rechecked (h.files q) _ _

theorem Shows.remove (h : w.Shows m) (p : Path) :
    (w.edit (.remove p)).Shows (m.edit (.remove p)) where
  sound := h.sound.removeFile p
  lists := lists_removeFile h.lists p
  settled := h.settled.removeFile h.sound p
  files := by
    intro q
    simp only [edit, Contents.edit, file?_removeFile]
    split
    · exact .none
    · exact rel_shows_rechecked (h.files q) _ _

theorem shows_afterEdits (patterns : List Text) (edits : List Edit) :
    (afterEdits patterns edits).Shows (contentsAfter edits) := by
  have hfold : ∀ (w : Workspace) (m : Contents), w.Shows m →
      (edits.foldl edit w).Shows (edits.foldl Contents.edit m) := by
    induction edits with
    | nil => exact fun w m h => h
    | cons e edits ih =>
      intro w m h
      cases e with
      | index p text => exact ih _ _ (h.index p text)
      | remove p => exact ih _ _ (h.remove p)
  exact hfold _ _ (shows_empty patterns)

/-! ## What the texts determine -/

/-- There is a file where there is a text, and it shows that text. -/
theorem Shows.file_cases (h : w.Shows m) (p : Path) :
    (w.file? p = none ∧ m p = none) ∨
      ∃ e text, w.file? p = some e ∧ m p = some text ∧ e.Shows text := by
  have hfile := h.files p
  generalize w.file? p = entry at hfile ⊢
  generalize m p = text at hfile ⊢
  cases hfile with
  | none => exact .inl ⟨rfl, rfl⟩
  | some hshows => exact .inr ⟨_, _, rfl, rfl, hshows⟩

/-- The stored signatures are those of the text, under some spelling of the path. -/
theorem Shows.signaturesAt_eq (h : w.Shows m) (p : Path) :
    ∃ q, q.same p = true ∧ w.signaturesAt p = (m.signatures p).map (Signature.movedTo q) := by
  unfold signaturesAt Contents.signatures
  rcases h.file_cases p with ⟨hfile, htext⟩ | ⟨e, text, hfile, htext, problems, hanalysis⟩
  · rw [hfile, htext]
    exact ⟨p, p.same_self, rfl⟩
  · refine ⟨e.path, h.sound.placed p e hfile, ?_⟩
    simp only [hfile, htext, Option.map_some, Option.getD_some, hanalysis]
    rw [Analysis.read_eq_movedTo e.path p]
    exact Record.signatures_movedTo _ _

theorem lastOf_map_movedTo (q : Path) (sigs : List Signature) (key : RoutineKey) :
    lastOf (sigs.map (Signature.movedTo q)) key = (lastOf sigs key).map (Signature.movedTo q) := by
  rw [lastOf, lastOf, List.filter_map, List.getLast?_map]
  rfl

theorem Shows.mem_keys_iff (h : w.Shows m) :
    key ∈ (w.signaturesAt p).map (·.key) ↔ m.Defines p key := by
  obtain ⟨q, -, hsignatures⟩ := h.signaturesAt_eq p
  rw [hsignatures, List.map_map, Contents.Defines]
  rfl

/-- A definition in the table comes from a file that defines the key. -/
theorem Shows.defines_of_mem (h : w.Shows m) {d : Signature}
    (hd : d ∈ w.table.definitions key) : m.Defines d.file key := by
  rw [← h.mem_keys_iff, ← h.lists.ofFile_ne_nil_iff]
  exact List.ne_nil_of_mem (List.mem_filter.2 ⟨hd, d.file.same_self⟩)

/-- A key that one file alone defines has the last definition of that file, and no other. -/
theorem Shows.definitions_eq (h : w.Shows m) (hunique : m.KeysUnique) (hp : m.Defines p key) :
    ∃ d s, lastOf (m.signatures p) key = some s ∧ w.table.definitions key = [d] ∧
      d.same (s.movedTo p) = true := by
  have hall : SymbolTable.ofFile p (w.table.definitions key) = w.table.definitions key :=
    List.filter_eq_self.2 fun d hd => hunique key d.file p (h.defines_of_mem hd) hp
  obtain ⟨q, hq, hsignatures⟩ := h.signaturesAt_eq p
  have hdefs := h.lists.defs p key
  rw [hall, hsignatures, lastOf_map_movedTo] at hdefs
  cases hlast : lastOf (m.signatures p) key with
  | none => exact absurd hp (lastOf_eq_none_iff.1 hlast)
  | some s =>
    rw [hlast] at hdefs
    obtain ⟨d, hd, hsame⟩ := hdefs
    exact ⟨d, s, rfl, hd, Signature.same_trans hsame (s.same_movedTo hq)⟩

theorem Shows.definitions_eq_nil (h : w.Shows m) (hnone : ∀ p, ¬m.Defines p key) :
    w.table.definitions key = [] :=
  List.eq_nil_iff_forall_not_mem.2 fun d hd => hnone d.file (h.defines_of_mem hd)

theorem Shows.definitions_alike (h : w.Shows m) (h' : w'.Shows m) (hunique : m.KeysUnique)
    (key : RoutineKey) :
    List.Forall₂ Signature.Same (w.table.definitions key) (w'.table.definitions key) := by
  by_cases hdefined : ∃ p, m.Defines p key
  · obtain ⟨p, hp⟩ := hdefined
    obtain ⟨d, s, hs, hdefs, hsame⟩ := h.definitions_eq hunique hp
    obtain ⟨d', s', hs', hdefs', hsame'⟩ := h'.definitions_eq hunique hp
    obtain rfl := Option.some.inj (hs.symm.trans hs')
    rw [hdefs, hdefs']
    exact .cons (Signature.same_trans hsame (Signature.same_symm hsame')) .nil
  · have hnone := not_exists.1 hdefined
    rw [h.definitions_eq_nil hnone, h'.definitions_eq_nil hnone]
    exact .nil

end Workspace

/-! ## Answers -/

theorem Signature.Same.seen_eq {s t : Signature} (h : s.Same t) : s.seen = t.seen := by
  obtain ⟨hfile, heq⟩ := Signature.same_iff.1 h
  have hinterface : s.interface = t.interface := by
    rw [heq]
    rfl
  rw [seen, seen, Path.same_iff.1 hfile, hinterface]

namespace SymbolTable

variable {t t' : SymbolTable}

/-- Tables with the same definitions answer every call alike. -/
theorem agreeBut_of_forall₂
    (h : ∀ key, List.Forall₂ Signature.Same (t.definitions key) (t'.definitions key)) :
    AgreeBut [] t t' := by
  intro key _
  rw [← List.forall₂_eq_eq_eq, List.forall₂_map_left_iff, List.forall₂_map_right_iff]
  exact (h key).imp fun _ _ hsame => hsame.seen_eq

theorem rel_getLast? {α : Type} {R : α → α → Prop} {l l' : List α} (h : List.Forall₂ R l l') :
    Option.Rel R l.getLast? l'.getLast? := by
  induction h with
  | nil => exact .none
  | cons hfirst hrest ih =>
    cases hrest with
    | nil => exact .some hfirst
    | cons => rwa [List.getLast?_cons_cons, List.getLast?_cons_cons]

theorem forall₂_filterMap_resolve?
    (h : ∀ key, Option.Rel Signature.Same (t.resolve? key) (t'.resolve? key))
    (keys : List RoutineKey) :
    List.Forall₂ Signature.Same (keys.filterMap t.resolve?) (keys.filterMap t'.resolve?) :=
  List.rel_filterMap (R := Eq) (fun key _ heq => heq ▸ h key) (List.forall₂_same.2 fun _ _ => rfl)

end SymbolTable

namespace Workspace

variable {w w' : Workspace} {m : Contents}

/-- The checks of a file are those of its text at that path, against the present table. -/
theorem Shows.checkProblems_eq (h : w.Shows m) {p : Path} {e : FileEntry} {text : Text}
    (he : w.file? p = some e) (hshows : e.Shows text) :
    e.analysis.checkProblems = (Analysis.read p text).check (w.lookup p) := by
  obtain ⟨problems, hanalysis⟩ := hshows
  have hfresh : e.analysis.checkProblems = e.analysis.check (w.lookup p) := by
    rcases h.settled p e he with hfresh | ⟨hflag, -⟩
    · exact hfresh
    · cases hflag
  calc e.analysis.checkProblems = e.analysis.check (w.lookup p) := hfresh
    _ = (Analysis.read e.path text).check (w.lookup p) := by rw [hanalysis]; rfl
    _ = (Analysis.read p text).check (w.lookup p) := by
      rw [Analysis.read_eq_movedTo e.path p, Analysis.check_movedTo]

theorem Shows.files_alike (h : w.Shows m) (h' : w'.Shows m)
    (hagree : SymbolTable.AgreeBut [] w.table w'.table) (p : Path) :
    Option.Rel FileEntry.Alike (w.file? p) (w'.file? p) := by
  rcases h.file_cases p with ⟨hfile, htext⟩ | ⟨e, text, hfile, htext, hshows⟩
  · rcases h'.file_cases p with ⟨hfile', -⟩ | ⟨e', text', -, htext', -⟩
    · rw [hfile, hfile']
      exact .none
    · rw [htext] at htext'
      cases htext'
  · rcases h'.file_cases p with ⟨-, htext'⟩ | ⟨e', text', hfile', htext', hshows'⟩
    · rw [htext] at htext'
      cases htext'
    · obtain rfl := Option.some.inj (htext.symm.trans htext')
      have hpath : e.path.same e'.path = true := by
        rw [Path.same_right (h'.sound.placed p e' hfile')]
        exact h.sound.placed p e hfile
      have hchecks : e.analysis.checkProblems = e'.analysis.checkProblems := by
        rw [h.checkProblems_eq hfile hshows, h'.checkProblems_eq hfile' hshows']
        exact SymbolTable.check_eq_of_agreeBut h.sound.table h'.sound.table hagree p (by simp)
      rw [hfile, hfile']
      obtain ⟨problems, hanalysis⟩ := hshows
      obtain ⟨problems', hanalysis'⟩ := hshows'
      rw [Analysis.read_eq_movedTo e.path p] at hanalysis
      rw [Analysis.read_eq_movedTo e'.path p] at hanalysis'
      refine .some ⟨hpath, ?_, ?_, ?_, ?_, ?_, hchecks⟩ <;> rw [hanalysis, hanalysis']
      · exact hpath
      · rfl
      · rfl
      · exact Record.alike_movedTo _ hpath
      · rfl

/-- Workspaces that show the same texts are alike, if no two files define the same key. -/
theorem Shows.alike (h : w.Shows m) (h' : w'.Shows m) (hunique : m.KeysUnique) : w.Alike w' := by
  have hdefinitions := h.definitions_alike h' hunique
  have hresolve (key : RoutineKey) :
      Option.Rel Signature.Same (w.table.resolve? key) (w'.table.resolve? key) :=
    SymbolTable.rel_getLast? (hdefinitions key)
  have hkeys (p : RoutineKey → Bool) : w.table.keysWhere p = w'.table.keysWhere p := by
    apply SymbolTable.keysWhere_congr h.sound.table h'.sound.table
    intro key
    rw [← List.length_pos_iff, ← List.length_pos_iff, (hdefinitions key).length_eq]
  refine ⟨h.files_alike h' (SymbolTable.agreeBut_of_forall₂ hdefinitions), hdefinitions, hresolve,
    ?_, ?_⟩
  · rw [SymbolTable.routines, hkeys]
    exact SymbolTable.forall₂_filterMap_resolve? hresolve _
  · intro name
    rw [SymbolTable.resolveAny, hkeys]
    exact SymbolTable.forall₂_filterMap_resolve? hresolve _

/-- Two histories that leave the same texts leave alike workspaces, if no two of these texts define
the same key: the same files up to their versions, and the same answers to all questions. -/
theorem history_independent (patterns patterns' : List Text) (edits edits' : List Edit)
    (hsame : ∀ p, contentsAfter edits p = contentsAfter edits' p)
    (hunique : (contentsAfter edits).KeysUnique) :
    (afterEdits patterns edits).Alike (afterEdits patterns' edits') := by
  have hcontents : contentsAfter edits = contentsAfter edits' := funext hsame
  have hshows' := shows_afterEdits patterns' edits'
  rw [← hcontents] at hshows'
  exact (shows_afterEdits patterns edits).alike hshows' hunique

/-- A routine is shadowed for a while in one history. The other one spells its path differently and
changes its caller twice. -/
theorem history_independent_shadowed :
    let a := Path.ofString "d/a"
    let b := Path.ofString "b"
    let c := Path.ofString "c"
    let routine : Text := "pro foo, x\nend\n".toList
    let call : Text := "foo, 1, 2\n".toList
    let edits := [.index a routine, .index c call, .index b "pro foo\nend\n".toList, .remove b]
    let edits' := [.index c [], .index (.ofString "d//a") routine, .index c call]
    (∀ p, contentsAfter edits p = contentsAfter edits' p) ∧ (contentsAfter edits).KeysUnique ∧
      (afterEdits [] edits).Alike (afterEdits [] edits') := by
  intro a b c routine call edits edits'
  have hsame : ∀ p, contentsAfter edits p = contentsAfter edits' p := by
    intro p
    have hspelling : (Path.ofString "d//a").same p = a.same p :=
      Path.same_left (by decide +kernel) p
    simp only [contentsAfter, edits, edits', List.foldl_cons, List.foldl_nil, Contents.edit,
      hspelling]
    cases hb : b.same p with
    | false => cases c.same p <;> rfl
    | true =>
      have hc : c.same p = false := by rw [← Path.same_right hb]; decide +kernel
      have ha : a.same p = false := by rw [← Path.same_right hb]; decide +kernel
      simp [hc, ha]
  have hunique : (contentsAfter edits).KeysUnique := by
    have hdefines : ∀ p key, (contentsAfter edits).Defines p key → a.same p = true := by
      intro p key hkey
      cases ha : a.same p with
      | true => rfl
      | false =>
        -- the other file has no routines
        have hread : (Analysis.read c call).record.signatures = [] := by decide +kernel
        have hcall : (Analysis.read p call).record.signatures = [] := by
          rw [Analysis.read_eq_movedTo p c]
          exact (Record.signatures_movedTo _ _).trans (congrArg _ hread)
        have hnone : (contentsAfter edits).signatures p = [] := by
          simp only [Contents.signatures, contentsAfter, edits, List.foldl_cons, List.foldl_nil,
            Contents.edit, ha]
          cases b.same p <;> cases c.same p <;> simp [hcall]
        rw [Contents.Defines, hnone] at hkey
        cases hkey
    intro key p q hp hq
    rw [← Path.same_left (hdefines p key hp)]
    exact hdefines q key hq
  exact ⟨hsame, hunique, history_independent [] [] edits edits' hsame hunique⟩

end Workspace

end RoutineAtlas
