import RoutineAtlas.Proofs.Bystanders
import RoutineAtlas.Proofs.Lines
import RoutineAtlas.Proofs.OpenDocuments

/-!
# Documents without a file

A document without a file is analysed under the text of its URL, and the path leads back to the URL.
Documents are told apart by the texts of their URLs, but files by the parts of their paths, where
repeated slashes, parts `.` and a slash at the end make no difference. So two documents have one
path if their texts differ in nothing else, and then they have one entry in the workspace. All other
documents have entries of their own, and what becomes of one document leaves the entries of the
others.

## Main definitions

* `Url.IsUnfiled` — the URL of a document without a file, as reading gives it.
* `Text.tidied` — a text without the slashes and dots that make no difference in a path.
* `Server.documents_kept_apart` — which documents have entries of their own.
-/

namespace RoutineAtlas

/-! ## Texts as paths -/

theorem sep_not_mem_piecesBetween {α : Type} [DecidableEq α] (sep : α) (l : List α) :
    ∀ piece ∈ piecesBetween sep l, sep ∉ piece := by
  induction l with
  | nil => simp [piecesBetween]
  | cons c cs ih =>
    obtain ⟨piece, more, hcs⟩ := exists_piecesBetween sep cs
    by_cases hc : c = sep
    · rw [piecesBetween, if_pos (by simp [hc])]
      exact List.forall_mem_cons.2 ⟨by simp, ih⟩
    · rw [piecesBetween_cons_of_ne hc hcs]
      rw [hcs] at ih
      obtain ⟨hpiece, hmore⟩ := List.forall_mem_cons.1 ih
      exact List.forall_mem_cons.2 ⟨by simp [Ne.symm hc, hpiece], hmore⟩

/-- Pieces are cut in the same places after all elements have been written in another way. -/
theorem piecesBetween_map {α β : Type} [DecidableEq α] [DecidableEq β] {f : α → β}
    (hf : Function.Injective f) (sep : α) (l : List α) :
    piecesBetween (f sep) (l.map f) = (piecesBetween sep l).map (List.map f) := by
  induction l with
  | nil => rfl
  | cons c cs ih =>
    obtain ⟨piece, more, hcs⟩ := exists_piecesBetween sep cs
    rw [List.map_cons]
    by_cases hc : c = sep
    · subst hc
      simp only [piecesBetween, beq_self_eq_true, if_true, ih, List.map_cons, List.map_nil]
    · rw [piecesBetween_cons_of_ne hc hcs]
      refine piecesBetween_cons_of_ne (hf.ne hc) ?_
      rw [ih, hcs]
      rfl

namespace Text

/-- A piece between two slashes that makes no difference in a path. -/
def isNeedless (piece : Text) : Bool :=
  piece.isEmpty || piece == ['.']

/-- The pieces between the slashes of a text, without the needless ones after the first. -/
def neededPieces (t : Text) : List Text :=
  match t.piecesAt '/' with
  | [] => []
  | first :: rest => first :: rest.filter fun piece => !piece.isNeedless

/-- The text without the slashes and dots that make no difference in a path. -/
def tidied (t : Text) : Text :=
  ['/'].intercalate t.neededPieces

/-- The part of a path that a piece stands for where it makes a difference. -/
def part (piece : Text) : PathPart :=
  if piece = ['.', '.'] then .up else .name (.ofText piece)

variable {s t : Text}

theorem exists_neededPieces (t : Text) : ∃ first rest, t.piecesAt '/' = first :: rest ∧
    t.neededPieces = first :: rest.filter fun piece => !piece.isNeedless := by
  obtain ⟨first, rest, hpieces⟩ := exists_piecesBetween '/' t
  refine ⟨first, rest, hpieces, ?_⟩
  rw [neededPieces, piecesAt, hpieces]

theorem slash_not_mem_neededPieces (t : Text) : ∀ piece ∈ t.neededPieces, '/' ∉ piece := by
  obtain ⟨first, rest, hcut, hneeded⟩ := exists_neededPieces t
  have hpieces : ∀ piece ∈ first :: rest, '/' ∉ piece :=
    hcut ▸ sep_not_mem_piecesBetween '/' t
  intro piece hpiece
  rw [hneeded] at hpiece
  exact hpieces piece ((List.filter_sublist.cons_cons first).subset hpiece)

/-- Joined by slashes, the needed pieces can be told again. -/
theorem tidied_eq_iff : s.tidied = t.tidied ↔ s.neededPieces = t.neededPieces := by
  have hsplit (t : Text) : t.tidied.splitOn '/' = t.neededPieces := by
    apply List.splitOn_intercalate '/' (slash_not_mem_neededPieces t)
    obtain ⟨first, rest, -, hneeded⟩ := exists_neededPieces t
    simp [hneeded]
  constructor
  · intro h
    rw [← hsplit s, h, hsplit]
  · intro h
    rw [tidied, tidied, h]

theorem ofText_injective : Function.Injective FileName.ofText :=
  List.map_injective_iff.2 fun _ _ h => PathUnit.char.inj h

theorem part_injective : Function.Injective part := by
  intro a b h
  unfold part at h
  split at h <;> split at h
  · simp_all
  · cases h
  · cases h
  · exact ofText_injective (PathPart.name.inj h)

theorem partOf?_ofText (piece : Text) : Path.partOf? (.ofText piece) =
    if piece.isNeedless then none else some piece.part := by
  have hdot : FileName.ofText piece = PathPart.here.written ↔ piece = ['.'] :=
    ofText_injective.eq_iff (b := ['.'])
  have hdots : FileName.ofText piece = PathPart.up.written ↔ piece = ['.', '.'] :=
    ofText_injective.eq_iff (b := ['.', '.'])
  have hempty : (FileName.ofText piece).isEmpty = piece.isEmpty := by
    simp [FileName.ofText]
  simp only [Path.partOf?, isNeedless, part, hempty, Bool.or_eq_true, beq_iff_eq, hdot, hdots]
  split
  · rfl
  · split <;> rfl

theorem filterMap_partOf? (pieces : List Text) :
    (pieces.map FileName.ofText).filterMap Path.partOf? =
      (pieces.filter fun piece => !piece.isNeedless).map part := by
  induction pieces with
  | nil => rfl
  | cons piece pieces ih =>
    rw [List.map_cons, List.filterMap_cons, partOf?_ofText, List.filter_cons]
    cases piece.isNeedless <;> simp [ih]

end Text

namespace Path

variable {s t : Text}

theorem pieces_ofText (t : Text) : (ofText t).pieces = (t.piecesAt '/').map FileName.ofText :=
  piecesBetween_map (fun _ _ h => PathUnit.char.inj h) '/' t

/-- The parts of a path that starts with a letter. -/
theorem parts_ofText {c : Char} {cs : Text} (hc : c.isAlpha = true) :
    (ofText (c :: cs)).parts = (Text.neededPieces (c :: cs)).map Text.part := by
  have hslash : c ≠ '/' := by rintro rfl; cases hc
  have hdot : c ≠ '.' := by rintro rfl; cases hc
  obtain ⟨piece, rest, hcs⟩ := exists_piecesBetween '/' cs
  have hpieces : Text.piecesAt '/' (c :: cs) = (c :: piece) :: rest :=
    piecesBetween_cons_of_ne hslash hcs
  have hfirst : Text.part (c :: piece) = .name (.ofText (c :: piece)) := by
    simp [Text.part, hdot]
  have hnamed : partOf? (.ofText (c :: piece)) = some (.name (.ofText (c :: piece))) := by
    rw [Text.partOf?_ofText, hfirst]
    simp [Text.isNeedless, hdot]
  rw [parts, pieces_ofText, hpieces, Text.neededPieces, hpieces]
  simp only [List.map_cons, Text.filterMap_partOf?, hfirst, hnamed]
  simp [ofText, FileName.ofText, PathPart.written, hdot]

theorem same_ofText_iff (hs : s.head?.any Char.isAlpha = true)
    (ht : t.head?.any Char.isAlpha = true) :
    (ofText s).same (ofText t) = true ↔ s.tidied = t.tidied := by
  cases s with
  | nil => cases hs
  | cons c cs =>
    cases t with
    | nil => cases ht
    | cons d ds =>
      rw [same_iff, parts_ofText hs, parts_ofText ht, Text.tidied_eq_iff]
      exact (List.map_injective_iff.2 Text.part_injective).eq_iff

end Path

/-! ## URLs as paths -/

theorem exists_ok_of_bind {ε α β : Type} {x : Except ε α} {f : α → Except ε β} {b : β}
    (h : x >>= f = .ok b) : ∃ a, f a = .ok b := by
  cases x with
  | error e => cases h
  | ok a => exact ⟨a, h⟩

namespace Url

variable {t : Text} {u v : Url}

theorem scheme_of_ofText (h : ofText t = .ok u) :
    ∃ rest, splitScheme? (trimmed t) = some (u.scheme, rest) := by
  unfold ofText at h
  split at h
  · cases h
  · rename_i scheme rest hsplit
    refine ⟨rest, ?_⟩
    rw [hsplit]
    dsimp only at h
    split at h
    · obtain ⟨read, hread⟩ := exists_ok_of_bind h
      obtain ⟨place, hplace⟩ := exists_ok_of_bind hread
      rw [← Except.ok.inj hplace]
    · obtain ⟨place, hplace⟩ := exists_ok_of_bind h
      rw [← Except.ok.inj hplace]

theorem head_of_splitScheme? {scheme rest : Text} (h : splitScheme? t = some (scheme, rest)) :
    scheme.head?.any Char.isAlpha = true := by
  unfold splitScheme? at h
  dsimp only at h
  split at h
  · split at h
    · rename_i halpha
      obtain ⟨rfl, rfl⟩ := Prod.mk.inj (Option.some.inj h)
      rw [List.head?_map, Option.any_map]
      simpa only [caseBlind_isAlpha _] using halpha
    · cases h
  · cases h

/-- The URL of a document without a file, as reading gives it. -/
structure IsUnfiled (u : Url) : Prop where
  isFile : u.isFile = false
  reads : ofText u.toText = .ok u

/-- The text of a URL starts with a letter. -/
theorem IsUnfiled.head_toText (h : u.IsUnfiled) : u.toText.head?.any Char.isAlpha = true := by
  obtain ⟨rest, hsplit⟩ := scheme_of_ofText h.reads
  have hscheme := head_of_splitScheme? hsplit
  unfold toText
  cases hletters : u.scheme with
  | nil =>
    rw [hletters] at hscheme
    cases hscheme
  | cons c cs =>
    rw [hletters] at hscheme
    exact hscheme

theorem IsUnfiled.documentPath? (h : u.IsUnfiled) :
    RoutineAtlas.documentPath? u = some (.ofText u.toText) := by
  rw [RoutineAtlas.documentPath?, h.isFile]
  rfl

theorem IsUnfiled.documentUrl? (h : u.IsUnfiled) :
    RoutineAtlas.documentUrl? (.ofText u.toText) = some u := by
  have hrelative : (Path.ofText u.toText).isAbsolute = false := by
    have hhead := h.head_toText
    cases htext : u.toText with
    | nil => rfl
    | cons c cs =>
      rw [htext] at hhead
      have hc : c ≠ '/' := by rintro rfl; cases hhead
      simpa [Path.isAbsolute, Path.ofText, FileName.ofText, PathUnit.slash] using hc
  have htext : (Path.ofText u.toText).text? = some u.toText := FileName.text?_ofText _
  rw [RoutineAtlas.documentUrl?, hrelative, htext]
  simp [h.reads, h.isFile]

end Url

/-! ## Servers -/

theorem FileEntry.SameButChecks.refl (e : FileEntry) : e.SameButChecks e := by
  constructor <;> rfl

theorem FileEntry.SameButChecks.trans {a b c : FileEntry} (hab : a.SameButChecks b)
    (hbc : b.SameButChecks c) : a.SameButChecks c where
  path := hbc.path.trans hab.path
  version := hbc.version.trans hab.version
  analysis_path := hbc.analysis_path.trans hab.analysis_path
  tokens := hbc.tokens.trans hab.tokens
  blocks := hbc.blocks.trans hab.blocks
  record := hbc.record.trans hab.record
  parseProblems := hbc.parseProblems.trans hab.parseProblems

namespace Workspace

variable {w w' w'' : Workspace} {p q : Path}

/-- The file at the path is kept, if there is one, but for what its checks found. -/
def Keeps (q : Path) (w w' : Workspace) : Prop :=
  Option.Rel FileEntry.SameButChecks (w.file? q) (w'.file? q)

theorem Keeps.refl (q : Path) (w : Workspace) : w.Keeps q w := by
  unfold Keeps
  cases w.file? q with
  | none => exact .none
  | some e => exact .some (.refl e)

theorem Keeps.trans (h : w.Keeps q w') (h' : w'.Keeps q w'') : w.Keeps q w'' := by
  unfold Keeps at *
  revert h h'
  cases w.file? q <;> cases w'.file? q <;> cases w''.file? q <;> intro h h' <;> cases h <;> cases h'
  · exact .none
  · rename_i hab hbc
    exact .some (hab.trans hbc)

theorem Frame.keeps {changed : List RoutineKey} (h : w.Frame p changed w')
    (hpq : p.same q = false) : w.Keeps q w' := by
  have hrel := h.files q hpq
  unfold Keeps
  revert hrel
  cases w.file? q <;> cases w'.file? q <;> intro hrel <;> cases hrel
  · exact .none
  · rename_i hkept
    exact .some hkept.kept

/-- Indexing a file keeps all others. -/
theorem Sound.keeps_indexFile (h : w.Sound) (hpq : p.same q = false) (text : Text)
    (withChecks : Bool) : w.Keeps q (w.indexFile p text withChecks).2 := by
  rw [indexFile_eq]
  exact ((h.submit p).frame_store (t := w.directTicket p withChecks)
    (Analysis.isOf_run p text withChecks (w.lookup p))).keeps hpq

end Workspace

namespace Server

variable {s s' s'' : Server} {u : Url} {us : List Url}

/-- The server has a workspace, and this is sound. -/
def Sound (s : Server) : Prop :=
  ∃ p, s.project = some p ∧ p.workspace.Sound

/-- The second server has a sound workspace as well, with the same files but for those of the given
documents. -/
def EditedFor (us : List Url) (s s' : Server) : Prop :=
  ∃ p p', s.project = some p ∧ s'.project = some p' ∧ p'.workspace.Sound ∧
    ∀ q, (∀ u ∈ us, ∀ path ∈ documentPath? u, path.same q = false) →
      p.workspace.Keeps q p'.workspace

theorem EditedFor.sound (h : s.EditedFor us s') : s'.Sound := by
  obtain ⟨-, p', -, hp', hsound, -⟩ := h
  exact ⟨p', hp', hsound⟩

theorem Sound.refl (h : s.Sound) (us : List Url) : s.EditedFor us s := by
  obtain ⟨p, hp, hsound⟩ := h
  exact ⟨p, p, hp, hp, hsound, fun q _ => .refl q p.workspace⟩

theorem EditedFor.trans (h : s.EditedFor us s') (h' : s'.EditedFor [u] s'') (hu : u ∈ us) :
    s.EditedFor us s'' := by
  obtain ⟨p, p', hp, hp', -, hkeeps⟩ := h
  obtain ⟨q, q', hq, hq', hsound, hkeeps'⟩ := h'
  obtain rfl := Option.some.inj (hp'.symm.trans hq)
  refine ⟨p, q', hp, hq', hsound, ?_⟩
  intro path hother
  refine (hkeeps path hother).trans (hkeeps' path ?_)
  exact List.forall_mem_singleton.2 (hother u hu)

theorem Sound.reindex (h : s.Sound) (u : Url) (text : Text) (withChecks : Bool) :
    s.EditedFor [u] (s.reindex u text withChecks).2 := by
  cases hpath : documentPath? u with
  | none =>
    rw [reindex_of_none hpath]
    exact h.refl [u]
  | some path =>
    obtain ⟨p, hp, hsound⟩ := h
    rw [reindex_eq hp hpath]
    refine ⟨p, _, hp, rfl, hsound.indexFile path text withChecks, ?_⟩
    intro q hother
    exact hsound.keeps_indexFile (hother u (List.mem_singleton_self u) path hpath) text withChecks

theorem Sound.reload (h : s.Sound) (u : Url) (around : Surroundings) :
    s.EditedFor [u] (Server.reload around s u).2 := by
  cases hpath : documentPath? u with
  | none =>
    rw [reload_of_none around hpath]
    exact h.refl [u]
  | some path =>
    have hsame := h
    obtain ⟨p, hp, hsound⟩ := h
    rcases reload_eq around hp hpath with ⟨text, hindexed⟩ | hremoved
    · rw [hindexed]
      exact hsame.reindex u text true
    · rw [hremoved]
      refine ⟨p, _, hp, rfl, hsound.removeFile path, ?_⟩
      intro q hother
      exact (hsound.frame_removeFile path).keeps
        (hother u (List.mem_singleton_self u) path hpath)

theorem lasting_editedFor (s : Server) (us : List Url) :
    Lasting us fun _ s' => s.EditedFor us s' where
  written := fun _ s' u text withChecks h hu _ =>
    have htext : s.EditedFor us (s'.withText u text) := h
    htext.trans (htext.sound.reindex u text withChecks) hu
  again := fun _ _ u text h hu _ => h.trans (h.sound.reindex u text true) hu
  closed := fun _ _ _ h _ => h
  reloaded := fun _ _ u around h hu _ => h.trans (h.sound.reload u around) hu

/-- An event about some documents leaves the files of all others. -/
theorem Sound.handle (h : s.Sound) {e : Event} (he : e ≠ .initialized) (around : Surroundings) :
    s.EditedFor e.urls (Server.handle around s e).2 :=
  (lasting_editedFor s e.urls).handle [] (h.refl e.urls) he (List.Subset.refl _) around

theorem Sound.indexProject (h : s.Sound) (around : Surroundings) :
    (Server.indexProject around s).2.Sound := by
  obtain ⟨p, hp, hsound⟩ := h
  rcases indexProject_snd around hp with hfailed | ⟨paths, hscanned⟩
  · rw [hfailed]
    exact ⟨p, hp, hsound⟩
  · rw [hscanned]
    exact ⟨_, rfl, (hsound.runStart false).indexPaths around.disk paths false⟩

theorem Sound.handleAll (h : s.Sound) (events : List (Surroundings × Event)) :
    (s.handleAll events).Sound := by
  induction events generalizing s with
  | nil => exact h
  | cons x rest ih =>
    obtain ⟨around, e⟩ := x
    apply ih
    by_cases he : e = .initialized
    · subst he
      exact h.indexProject around
    · exact (h.handle he around).sound

theorem sound_started (around later : Surroundings) (params : Json) :
    (started around later params).Sound :=
  Sound.indexProject ⟨_, rfl, Workspace.sound_empty _⟩ later

/-- A document without a file is found again from its path. Two of them have one path exactly if
their texts differ in needless slashes and dots only. Otherwise, after every run of events, whatever
happens to the one leaves the other its entry, with its version and its text. -/
theorem documents_kept_apart (around later : Surroundings) (params : Json)
    (events : List (Surroundings × Event)) (u v : Url) (hu : u.IsUnfiled) (hv : v.IsUnfiled) :
    let s := (started around later params).handleAll events
    ∃ path other, documentPath? u = some path ∧ documentPath? v = some other ∧
      documentUrl? path = some u ∧ (path.same other = true ↔ u.toText.tidied = v.toText.tidied) ∧
      (u.toText.tidied ≠ v.toText.tidied → ∀ now e, Event.urls e = [u] →
        ∃ before after, s.project = some before ∧ (handle now s e).2.project = some after ∧
          Option.Rel FileEntry.SameButChecks (before.workspace.file? other)
            (after.workspace.file? other)) := by
  intro s
  have hsame : (Path.ofText u.toText).same (.ofText v.toText) = true ↔
      u.toText.tidied = v.toText.tidied := Path.same_ofText_iff hu.head_toText hv.head_toText
  refine ⟨_, _, hu.documentPath?, hv.documentPath?, hu.documentUrl?, hsame, ?_⟩
  intro hdiffer now e he
  have hsound : s.Sound := (sound_started around later params).handleAll events
  have hinitialized : e ≠ .initialized := by
    rintro rfl
    cases he
  obtain ⟨before, after, hbefore, hafter, -, hkeeps⟩ := hsound.handle hinitialized now
  refine ⟨before, after, hbefore, hafter, hkeeps _ ?_⟩
  rw [he]
  rintro _ hmem path hpath
  obtain rfl := List.mem_singleton.1 hmem
  obtain rfl := Option.some.inj (hu.documentPath?.symm.trans hpath)
  exact Bool.eq_false_iff.2 fun h => hdiffer (hsame.1 h)

/-- Two cells of one notebook, which differ in the last character of their URLs. Closing the one
leaves the entry of the other. -/
theorem documents_kept_apart_cells :
    let cell (name : Text) : Url :=
      ⟨"vscode-notebook-cell".toList, none, "/n.idlnb".toList, none, some name⟩
    let u := cell "W0".toList
    let v := cell "W1".toList
    let around : Surroundings := ⟨.empty, .ofText ['/']⟩
    let s := (started around around .null).handleAll
      [(around, .opened u "pro a\nend\n".toList), (around, .opened v "a\n".toList)]
    u.IsUnfiled ∧ v.IsUnfiled ∧ u.toText.tidied ≠ v.toText.tidied ∧
      documentUrl? (.ofText u.toText) = some u ∧
      ∃ before after, s.project = some before ∧
        (handle around s (.closed u)).2.project = some after ∧
        (before.workspace.file? (.ofText v.toText)).isSome = true ∧
        Option.Rel FileEntry.SameButChecks (before.workspace.file? (.ofText v.toText))
          (after.workspace.file? (.ofText v.toText)) := by
  intro cell u v around s
  have hu : u.IsUnfiled := ⟨by decide, by decide +kernel⟩
  have hv : v.IsUnfiled := ⟨by decide, by decide +kernel⟩
  have hdiffer : u.toText.tidied ≠ v.toText.tidied := by decide +kernel
  obtain ⟨path, other, hpath, hother, hback, -, hkept⟩ := documents_kept_apart around around .null
    [(around, .opened u "pro a\nend\n".toList), (around, .opened v "a\n".toList)] u v hu hv
  obtain rfl := Option.some.inj (hu.documentPath?.symm.trans hpath)
  obtain rfl := Option.some.inj (hv.documentPath?.symm.trans hother)
  obtain ⟨before, after, hbefore, hafter, hrel⟩ := hkept hdiffer around (.closed u) rfl
  have hopen : (s.project.bind fun p => p.workspace.file? (.ofText v.toText)).isSome = true := by
    decide +kernel
  rw [hbefore] at hopen
  exact ⟨hu, hv, hdiffer, hback, before, after, hbefore, hafter, hopen, hrel⟩

/-- Two documents whose texts differ by a slash have one entry. Opening the second replaces what was
known of the first, and closing it removes that. -/
theorem documents_share_entry :
    let u : Url := ⟨"untitled".toList, none, "a/b".toList, none, none⟩
    let v : Url := ⟨"untitled".toList, none, "a//b".toList, none, none⟩
    let around : Surroundings := ⟨.empty, .ofText ['/']⟩
    let entryOf (s : Server) (u : Url) : Option FileEntry := do
      (← s.project).workspace.file? (← documentPath? u)
    let opened := (started around around .null).handleAll
      [(around, .opened u "pro a\nend\n".toList), (around, .opened v "pro b\nend\n".toList)]
    let closed := (handle around opened (.closed v)).2
    Url.ofText u.toText = .ok u ∧ Url.ofText v.toText = .ok v ∧ u.isFile = false ∧
      v.isFile = false ∧ u.toText ≠ v.toText ∧
      opened.text? u = some "pro a\nend\n".toList ∧
      (entryOf opened u).map (fun e => e.analysis.record.signatures.map (·.name)) =
        some ["b".toList] ∧
      closed.text? u = some "pro a\nend\n".toList ∧ entryOf closed u = none := by
  intro u v around entryOf opened closed
  exact ⟨by decide +kernel, by decide +kernel, by decide, by decide, by decide, by decide +kernel⟩

end Server

end RoutineAtlas
