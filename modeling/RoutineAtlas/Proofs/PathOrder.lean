import RoutineAtlas.Proofs.PathMap
import RoutineAtlas.Workspace.Scan

/-!
# The order of paths

Paths are ordered by their parts and names by their bytes, while two paths are the same if their
names have the same units. For names that are text this is one and the same: a text is determined
by its bytes. All files that a scan can find have such names, so sorting brings all spellings of a
path together and the list of files to index is strictly increasing.

The order is read off from a key, a list of lists of bytes under the order of lists.

## Main definitions

* `Path.IsText` — all names of the path are text.
* `Path.key` — what the order compares.
* `Path.StrictlySorted` — the paths increase, so no two of them are the same.
* `Workspace.Matches`, `Workspace.mem_matchingFiles_iff` — the files to find, said of the disk.
* `Workspace.strictlySorted_filesToIndex` — the files to index come in order and once.
-/

namespace RoutineAtlas

/-- What holds of a separator holds of all elements of a list if it holds of those between. -/
theorem forall_mem_piecesBetween {α : Type} [DecidableEq α] {good : α → Prop} {sep : α}
    (hsep : good sep) (l : List α) :
    (∀ piece ∈ piecesBetween sep l, ∀ x ∈ piece, good x) ↔ ∀ x ∈ l, good x := by
  induction l with
  | nil => simp [piecesBetween]
  | cons c cs ih =>
    rw [List.forall_mem_cons, ← ih, piecesBetween]
    split
    · rename_i hc
      obtain rfl := eq_of_beq hc
      simp [hsep]
    · cases piecesBetween sep cs <;> simp [and_assoc]

namespace FileName

/-- All units of the name are characters. -/
def IsText (n : FileName) : Prop :=
  ∀ u ∈ n, ∃ c, u = .char c

theorem isText_ofText (t : Text) : IsText (ofText t) := by
  intro u hu
  obtain ⟨c, -, rfl⟩ := List.mem_map.1 hu
  exact ⟨c, rfl⟩

theorem IsText.eq_ofText {n : FileName} (h : IsText n) : ∃ t, n = ofText t := by
  induction n with
  | nil => exact ⟨[], rfl⟩
  | cons u rest ih =>
    obtain ⟨hu, hrest⟩ := List.forall_mem_cons.1 h
    obtain ⟨c, rfl⟩ := hu
    obtain ⟨t, rfl⟩ := ih hrest
    exact ⟨c :: t, rfl⟩

theorem isText_of_text? {n : FileName} {t : Text} (h : text? n = some t) : IsText n := by
  induction n generalizing t with
  | nil => intro u hu; cases hu
  | cons u rest ih =>
    rw [text?, List.mapM_cons] at h
    cases u with
    | byte b => simp [PathUnit.char?] at h
    | char c =>
      cases hrest : text? rest with
      | none =>
        rw [text?] at hrest
        simp [hrest] at h
      | some t' => exact List.forall_mem_cons.2 ⟨⟨c, rfl⟩, ih hrest⟩

theorem toByteArray_bytes_ofText (t : Text) : (bytes (ofText t)).toByteArray = t.utf8Encode := by
  rw [bytes, ofText, List.flatMap_map]
  rfl

/-- A text is determined by its bytes. -/
theorem eq_of_bytes_eq {m n : FileName} (hm : IsText m) (hn : IsText n) (h : bytes m = bytes n) :
    m = n := by
  obtain ⟨t, rfl⟩ := hm.eq_ofText
  obtain ⟨u, rfl⟩ := hn.eq_ofText
  have hencode : t.utf8Encode = u.utf8Encode := by
    rw [← toByteArray_bytes_ofText, h, toByteArray_bytes_ofText]
  have hdecode := congrArg ByteArray.utf8Decode? hencode
  rw [List.utf8Decode?_utf8Encode, List.utf8Decode?_utf8Encode] at hdecode
  exact congrArg (fun a : Array Char => ofText a.toList) (Option.some.inj hdecode)

theorem bytesLe_iff {a b : List UInt8} : bytesLe a b = true ↔ a ≤ b := by
  induction a generalizing b with
  | nil => simp [bytesLe]
  | cons x xs ih =>
    cases b with
    | nil => simp [bytesLe]
    | cons y ys =>
      rw [List.cons_le_cons_iff, bytesLe]
      by_cases hxy : x = y
      · simp [hxy, ih]
      · simp [hxy]

end FileName

namespace PathPart

/-- The name of the part, if it has one, is text. -/
def IsText : PathPart → Prop
  | name n => FileName.IsText n
  | _ => True

/-- What the order of parts compares. -/
def key : PathPart → List UInt8
  | root => [0]
  | here => [1]
  | up => [2]
  | name n => 3 :: FileName.bytes n

theorem le_iff {a b : PathPart} : a.le b = true ↔ a.key ≤ b.key := by
  cases a <;> cases b <;>
    simp [le, key, rank, FileName.le, FileName.bytesLe_iff, List.cons_le_cons_iff]

theorem eq_of_key_eq {a b : PathPart} (ha : a.IsText) (hb : b.IsText) (h : a.key = b.key) :
    a = b := by
  cases a <;> cases b <;> simp_all [key, IsText]
  exact FileName.eq_of_bytes_eq ha hb h

end PathPart

namespace Path

variable {p q : Path}

/-- All names of the path are text. -/
def IsText (p : Path) : Prop :=
  FileName.IsText p.spelling

theorem isText_iff_pieces : p.IsText ↔ ∀ piece ∈ p.pieces, FileName.IsText piece :=
  (forall_mem_piecesBetween ⟨'/', rfl⟩ p.spelling).symm

theorem isText_of_partOf? {piece : FileName} (h : FileName.IsText piece) {part : PathPart}
    (hpart : partOf? piece = some part) : part.IsText := by
  simp only [partOf?] at hpart
  split at hpart
  · cases hpart
  · split at hpart
    · obtain rfl := Option.some.inj hpart
      trivial
    · obtain rfl := Option.some.inj hpart
      exact h

theorem IsText.parts (h : p.IsText) : ∀ part ∈ p.parts, part.IsText := by
  rw [isText_iff_pieces] at h
  intro part hpart
  unfold Path.parts at hpart
  split at hpart
  · cases hpart
  · rename_i first rest hpieces
    rw [hpieces, List.forall_mem_cons] at h
    rcases List.mem_append.1 hpart with hlead | hrest
    · split at hlead
      · cases hlead
      · split at hlead
        · obtain rfl := List.mem_singleton.1 hlead
          trivial
        · split at hlead
          · obtain rfl := List.mem_singleton.1 hlead
            trivial
          · exact isText_of_partOf? h.1 (Option.mem_toList.1 hlead)
    · obtain ⟨piece, hpiece, hpart⟩ := List.mem_filterMap.1 hrest
      exact isText_of_partOf? (h.2 piece hpiece) hpart

theorem IsText.join (hp : p.IsText) (hq : q.IsText) : (p.join q).IsText := by
  unfold Path.join
  split
  · exact hq
  · split
    · exact List.forall_mem_append.2 ⟨hp, hq⟩
    · exact List.forall_mem_append.2 ⟨hp, List.forall_mem_cons.2 ⟨⟨'/', rfl⟩, hq⟩⟩

/-- What the order of paths compares. -/
def key (p : Path) : List (List UInt8) :=
  p.parts.map PathPart.key

theorem eq_of_map_key_eq {as bs : List PathPart} (has : ∀ a ∈ as, a.IsText)
    (hbs : ∀ b ∈ bs, b.IsText) (h : as.map PathPart.key = bs.map PathPart.key) : as = bs := by
  induction as generalizing bs with
  | nil => exact (List.map_eq_nil_iff.1 h.symm).symm
  | cons a as ih =>
    cases bs with
    | nil => cases h
    | cons b bs =>
      obtain ⟨ha, has⟩ := List.forall_mem_cons.1 has
      obtain ⟨hb, hbs⟩ := List.forall_mem_cons.1 hbs
      obtain ⟨hkey, hrest⟩ := List.cons.inj h
      rw [PathPart.eq_of_key_eq ha hb hkey, ih has hbs hrest]

theorem partsLe_iff {as bs : List PathPart} (has : ∀ a ∈ as, a.IsText)
    (hbs : ∀ b ∈ bs, b.IsText) :
    partsLe as bs = true ↔ as.map PathPart.key ≤ bs.map PathPart.key := by
  induction as generalizing bs with
  | nil => simp [partsLe]
  | cons a as ih =>
    cases bs with
    | nil => simp [partsLe]
    | cons b bs =>
      obtain ⟨ha, has'⟩ := List.forall_mem_cons.1 has
      obtain ⟨hb, hbs'⟩ := List.forall_mem_cons.1 hbs
      rw [List.map_cons, List.map_cons, List.cons_le_cons_iff, partsLe]
      by_cases hab : a = b
      · subst hab
        simp [ih has' hbs', List.lt_irrefl]
      · have hkeys : a.key ≠ b.key := fun h => hab (PathPart.eq_of_key_eq ha hb h)
        simp [hab, hkeys, PathPart.le_iff, List.le_iff_lt_or_eq]

theorem le_iff_key (hp : p.IsText) (hq : q.IsText) : p.le q = true ↔ p.key ≤ q.key :=
  partsLe_iff hp.parts hq.parts

theorem same_iff_key (hp : p.IsText) (hq : q.IsText) : p.same q = true ↔ p.key = q.key := by
  rw [same_iff]
  exact ⟨congrArg (List.map PathPart.key), eq_of_map_key_eq hp.parts hq.parts⟩

/-- The paths increase, so no two of them are the same. -/
def StrictlySorted (paths : List Path) : Prop :=
  paths.Pairwise fun p q => p.le q = true ∧ p.same q = false

end Path

/-! ## Paths on a disk -/

namespace Disk

variable {d : Disk}

/-- Names lead from one place to another below it exactly if they follow those that lead to the
first. -/
theorem relative?_eq_some_iff {names below rest : List Text} :
    relative? names below = some rest ↔ below = names ++ rest := by
  induction names generalizing below with
  | nil => simp [relative?]
  | cons n names ih =>
    cases below with
    | nil => simp [relative?]
    | cons b below =>
      rw [relative?, List.cons_append, List.cons.injEq]
      split
      · rename_i hnb
        rw [ih, eq_of_beq hnb]
        simp
      · rename_i hnb
        simp [show ¬ b = n by rintro rfl; simp at hnb]

/-- The files below a directory are those whose names begin with the names that lead to it. -/
theorem mem_filesBelow_iff {p : Path} {names : List Text} :
    names ∈ d.filesBelow p ↔ ∃ above content, d.resolveNames p = .ok above ∧
      (above ++ names, .file content) ∈ d.nodes := by
  unfold filesBelow
  split
  · rename_i hnames
    simp [hnames]
  · rename_i above habove
    rw [List.mem_filterMap]
    constructor
    · rintro ⟨⟨full, node⟩, hentry, hrelative⟩
      cases node with
      | directory => cases hrelative
      | file content =>
        have hfull : full = above ++ names := relative?_eq_some_iff.1 hrelative
        exact ⟨above, content, habove, hfull ▸ hentry⟩
    · rintro ⟨above', content, habove', hentry⟩
      obtain rfl := Except.ok.inj (habove.symm.trans habove')
      exact ⟨_, hentry, relative?_eq_some_iff.2 rfl⟩

theorem isText_of_resolveFrom {names found : List Text} {pieces : List FileName}
    (h : d.resolveFrom names pieces = .ok found) :
    ∀ piece ∈ pieces, FileName.IsText piece := by
  induction pieces generalizing names with
  | nil => simp
  | cons piece rest ih =>
    rw [List.forall_mem_cons]
    rw [resolveFrom] at h
    split at h
    · cases h
    · split at h
      · rename_i hskip
        refine ⟨?_, ih h⟩
        rw [Bool.or_eq_true, List.isEmpty_iff, beq_iff_eq] at hskip
        rcases hskip with rfl | rfl
        · exact FileName.isText_ofText []
        · exact FileName.isText_ofText ['.']
      · split at h
        · rename_i hup
          obtain rfl := eq_of_beq hup
          exact ⟨FileName.isText_ofText ['.', '.'], ih h⟩
        · split at h
          · cases h
          · split at h
            · rename_i n hn
              split at h
              · cases h
              · exact ⟨FileName.isText_of_text? hn, ih h⟩
            · cases h

/-- Whatever is on a disk has a name that is text. -/
theorem isText_of_isDir {p : Path} (h : d.isDir p = true) : p.IsText := by
  rw [isDir, beq_iff_eq, get?] at h
  split at h
  · rename_i names hnames
    rw [resolveNames] at hnames
    split at hnames
    · cases hnames
    · split at hnames
      · cases hnames
      · exact Path.isText_iff_pieces.2 (isText_of_resolveFrom hnames)
  · cases h

end Disk

/-! ## The files to index -/

namespace Workspace

variable {disk : Disk} {globs : List Glob} {roots : List Path} {paths : List Path} {p : Path}

/-- A disk has a file at `p`, `names` below the directory at `root`, that is to be indexed. -/
structure Matches (disk : Disk) (globs : List Glob) (root : Path) (names : List Text) (p : Path) :
    Prop where
  path : p = names.foldl (fun q name => q.join (.ofText name)) root
  file : ∃ above content, disk.resolveNames root = .ok above ∧
    (above ++ names, .file content) ∈ disk.nodes
  /-- Neither the file nor a directory on the way is hidden. -/
  visible : ∀ name ∈ names, name.head? ≠ some '.'
  /-- The name of the file itself fits one of the patterns. -/
  accepted : ∃ name, names.getLast? = some name ∧ ∃ g ∈ globs, g.accepts name = true

/-- A run over a directory finds all files that match, and no others. -/
theorem mem_matchingFiles_iff {root : Path} :
    p ∈ matchingFiles disk globs root ↔ ∃ names, Matches disk globs root names p := by
  rw [matchingFiles, List.mem_map]
  refine exists_congr fun names => ?_
  rw [List.mem_filter, Disk.mem_filesBelow_iff, Bool.and_eq_true, Bool.not_eq_true',
    List.any_eq_false]
  constructor
  · rintro ⟨⟨hfile, hvisible, haccepted⟩, rfl⟩
    obtain ⟨name, hname, hglob⟩ := (Option.any_eq_true _ _).1 haccepted
    exact ⟨rfl, hfile, by simpa [isHidden] using hvisible, name, hname, List.any_eq_true.1 hglob⟩
  · rintro ⟨rfl, hfile, hvisible, name, hname, hglob⟩
    refine ⟨⟨hfile, by simpa [isHidden] using hvisible, ?_⟩, rfl⟩
    exact (Option.any_eq_true _ _).2 ⟨name, hname, List.any_eq_true.2 hglob⟩

theorem isText_of_mem_matchingFiles {root : Path} (hroot : root.IsText)
    (hp : p ∈ matchingFiles disk globs root) : p.IsText := by
  obtain ⟨names, -, rfl⟩ := List.mem_map.1 hp
  clear hp
  induction names generalizing root with
  | nil => exact hroot
  | cons name rest ih => exact ih (hroot.join (FileName.isText_ofText name))

/-- Sorting puts paths of text in the order of their keys. -/
theorem pairwise_key_mergeSort (h : ∀ p ∈ paths, p.IsText) :
    (paths.mergeSort Path.le).Pairwise fun p q => p.key ≤ q.key := by
  have hkeys : (paths.mergeSort Path.le).map Path.key =
      (paths.map Path.key).mergeSort fun a b => decide (a ≤ b) := by
    apply List.map_mergeSort
    intro p hp q hq
    rw [Bool.eq_iff_iff, decide_eq_true_iff]
    exact Path.le_iff_key (h p hp) (h q hq)
  rw [← List.pairwise_map (f := Path.key), hkeys]
  have hsorted : ((paths.map Path.key).mergeSort fun a b => decide (a ≤ b)).Pairwise
      fun a b => decide (a ≤ b) = true := by
    apply List.pairwise_mergeSort
    · intro a b c hab hbc
      exact decide_eq_true (List.le_trans (of_decide_eq_true hab) (of_decide_eq_true hbc))
    · intro a b
      simpa using List.le_total a b
  simpa using hsorted

/-- Leaving out repetitions leaves a path at the head, and after it those of the rest that are not
the same. -/
theorem dedupSorted_cons (p : Path) (rest : List Path) :
    (∃ q qs, dedupSorted rest = q :: qs ∧ p.same q = true ∧ dedupSorted (p :: rest) = p :: qs) ∨
      (dedupSorted (p :: rest) = p :: dedupSorted rest ∧
        ∀ q ∈ (dedupSorted rest).head?, p.same q = false) := by
  cases hrest : dedupSorted rest with
  | nil => simp [dedupSorted, hrest]
  | cons q qs =>
    cases hsame : p.same q with
    | true => exact .inl ⟨q, qs, rfl, hsame, by simp [dedupSorted, hrest, hsame]⟩
    | false => simp [dedupSorted, hrest, hsame]

theorem mem_of_mem_dedupSorted (h : p ∈ dedupSorted paths) : p ∈ paths := by
  induction paths with
  | nil => exact h
  | cons q rest ih =>
    rcases dedupSorted_cons q rest with ⟨r, rs, hrest, -, heq⟩ | ⟨heq, -⟩
    · rw [heq] at h
      rw [hrest] at ih
      rcases List.mem_cons.1 h with rfl | h
      · exact List.mem_cons_self
      · exact List.mem_cons_of_mem _ (ih (List.mem_cons_of_mem _ h))
    · rw [heq] at h
      rcases List.mem_cons.1 h with rfl | h
      · exact List.mem_cons_self
      · exact List.mem_cons_of_mem _ (ih h)

/-- Every path keeps one spelling. -/
theorem exists_same_of_mem (h : p ∈ paths) : ∃ q ∈ dedupSorted paths, q.same p = true := by
  induction paths with
  | nil => cases h
  | cons q rest ih =>
    rcases dedupSorted_cons q rest with ⟨r, rs, hrest, hsame, heq⟩ | ⟨heq, -⟩
    · rw [heq]
      rw [hrest] at ih
      rcases List.mem_cons.1 h with rfl | h
      · exact ⟨p, List.mem_cons_self, Path.same_self p⟩
      · obtain ⟨x, hx, hxp⟩ := ih h
        rcases List.mem_cons.1 hx with rfl | hx
        · exact ⟨q, List.mem_cons_self, Path.same_trans hsame hxp⟩
        · exact ⟨x, List.mem_cons_of_mem _ hx, hxp⟩
    · rw [heq]
      rcases List.mem_cons.1 h with rfl | h
      · exact ⟨p, List.mem_cons_self, Path.same_self p⟩
      · obtain ⟨x, hx, hxp⟩ := ih h
        exact ⟨x, List.mem_cons_of_mem _ hx, hxp⟩

/-- In a sorted list equal keys stand together, so none is left twice. -/
theorem pairwise_lt_dedupSorted (htext : ∀ p ∈ paths, p.IsText)
    (hsorted : paths.Pairwise fun p q => p.key ≤ q.key) :
    (dedupSorted paths).Pairwise fun p q => p.key < q.key := by
  induction paths with
  | nil => exact List.Pairwise.nil
  | cons p rest ih =>
    obtain ⟨hp, hrest⟩ := List.forall_mem_cons.1 htext
    obtain ⟨hle, hsorted⟩ := List.pairwise_cons.1 hsorted
    have ih := ih hrest hsorted
    rcases dedupSorted_cons p rest with ⟨q, qs, hq, hsame, heq⟩ | ⟨heq, hnot⟩
    · have hmem : q ∈ rest := mem_of_mem_dedupSorted (hq ▸ List.mem_cons_self)
      have hkey : p.key = q.key := (Path.same_iff_key hp (hrest q hmem)).1 hsame
      rw [hq, List.pairwise_cons] at ih
      rw [heq, List.pairwise_cons]
      refine ⟨?_, ih.2⟩
      intro x hx
      rw [hkey]
      exact ih.1 x hx
    · rw [heq, List.pairwise_cons]
      refine ⟨?_, ih⟩
      intro x hx
      -- the head of what is left is its least path, and differs from `p`
      cases hrest' : dedupSorted rest with
      | nil =>
        rw [hrest'] at hx
        cases hx
      | cons q qs =>
        have hq : q ∈ rest := mem_of_mem_dedupSorted (hrest' ▸ List.mem_cons_self)
        have hne : p.key ≠ q.key := by
          intro hkey
          have hsame := (Path.same_iff_key hp (hrest q hq)).2 hkey
          rw [hnot q (by simp [hrest'])] at hsame
          cases hsame
        have hlt : p.key < q.key := by
          rcases List.le_iff_lt_or_eq.1 (hle q hq) with hlt | hkey
          · exact hlt
          · exact absurd hkey hne
        rw [hrest'] at hx ih
        rcases List.mem_cons.1 hx with rfl | hx
        · exact hlt
        · exact List.lt_trans hlt ((List.pairwise_cons.1 ih).1 x hx)

/-- The files to index come in order, and each of them once. -/
theorem strictlySorted_filesToIndex (hroots : ∀ root ∈ roots, disk.isDir root = true) :
    Path.StrictlySorted (filesToIndex disk globs roots) := by
  have htext : ∀ p ∈ (roots.flatMap (matchingFiles disk globs)).mergeSort Path.le, p.IsText := by
    intro p hp
    obtain ⟨root, hroot, hp⟩ := List.mem_flatMap.1 (List.mem_mergeSort.1 hp)
    exact isText_of_mem_matchingFiles (Disk.isText_of_isDir (hroots root hroot)) hp
  have hsorted := pairwise_lt_dedupSorted htext
    (pairwise_key_mergeSort fun p hp => htext p (List.mem_mergeSort.2 hp))
  refine hsorted.imp_of_mem ?_
  intro p q hp hq hlt
  have hp := htext p (mem_of_mem_dedupSorted hp)
  have hq := htext q (mem_of_mem_dedupSorted hq)
  refine ⟨(Path.le_iff_key hp hq).2 (List.le_of_lt hlt), ?_⟩
  rw [← Bool.not_eq_true, Path.same_iff_key hp hq]
  intro hkey
  rw [hkey] at hlt
  exact List.lt_irrefl _ hlt

/-- Only files that match are indexed. -/
theorem matches_of_mem_filesToIndex (h : p ∈ filesToIndex disk globs roots) :
    ∃ root ∈ roots, ∃ names, Matches disk globs root names p := by
  obtain ⟨root, hroot, hp⟩ :=
    List.mem_flatMap.1 (List.mem_mergeSort.1 (mem_of_mem_dedupSorted h))
  exact ⟨root, hroot, mem_matchingFiles_iff.1 hp⟩

/-- Every file that matches is indexed, under some spelling of its path. -/
theorem Matches.exists_mem_filesToIndex {root : Path} {names : List Text}
    (h : Matches disk globs root names p) (hroot : root ∈ roots) :
    ∃ q ∈ filesToIndex disk globs roots, q.same p = true := by
  have hp : p ∈ matchingFiles disk globs root := mem_matchingFiles_iff.2 ⟨names, h⟩
  exact exists_same_of_mem (List.mem_mergeSort.2 (List.mem_flatMap.2 ⟨root, hroot, hp⟩))

end Workspace

end RoutineAtlas
