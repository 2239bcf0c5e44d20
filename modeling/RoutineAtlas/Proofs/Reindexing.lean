import Mathlib.Data.List.Induction
import RoutineAtlas.Proofs.Batch

/-!
# Indexing a file again changes nothing

A file that is indexed a second time with the same text is registered over its own definitions.
Where it defines a key once, nothing is named as changed. Where it defines a key several times with
different parameters, every definition replaces the one before it, so the second time around the key
is named as changed although it ends as it began, and its callers are checked once more.

Two facts make that harmless. The definitions of a key come out the same
(`SymbolTable.definitions_replaceFile_again`), and a key that is named the second time was named the
first time too (`SymbolTable.mem_replaceFile_again`), so that whatever is checked once more was
checked against the same definitions before.

## Main definitions

* `Signature.replacedBy` — the definition that a file keeps of a key.
* `SymbolTable.interfaceIn?` — how a file lets a key be called.
* `SymbolTable.mem_register_iff` — the keys that registering names.
* `Session.reindexing_idempotent` — indexing twice, and what a preview shows before and after.
-/

namespace RoutineAtlas

/-! ## The definition that a file keeps -/

namespace Signature

/-- The definition that a file keeps when it had `d` and registers `s`. -/
def replacedBy (d s : Signature) : Signature :=
  if d.same s then d else s

theorem eq_of_same {s t : Signature} (h : s.same t = true) (hfile : s.file = t.file) : s = t := by
  simp only [same, Bool.and_eq_true, beq_iff_eq] at h
  rw [h.2, hfile]

theorem interface_eq_of_same {s t : Signature} (h : s.same t = true) :
    s.interface = t.interface := by
  simp only [same, Bool.and_eq_true, beq_iff_eq] at h
  rw [h.2]
  rfl

@[simp] theorem interface_replacedBy (d s : Signature) :
    (d.replacedBy s).interface = s.interface := by
  unfold replacedBy
  split
  · rename_i hsame
    exact interface_eq_of_same hsame
  · rfl

variable {path : Path} {sigs : List Signature}

theorem file_replacedBy {d s : Signature} (hd : d.file.same path = true)
    (hs : s.file.same path = true) : (d.replacedBy s).file.same path = true := by
  unfold replacedBy
  split <;> assumption

/-- After all signatures of a file, its old definition is still there or the last one is. -/
theorem foldl_replacedBy (hsigs : ∀ s ∈ sigs, s.file = path) (d : Signature) :
    sigs.foldl replacedBy d = d ∨ sigs.getLast? = some (sigs.foldl replacedBy d) := by
  induction sigs using List.reverseRecOn with
  | nil => exact .inl rfl
  | append_singleton earlier s ih =>
    obtain ⟨hearlier, hs⟩ := List.forall_mem_append.1 hsigs
    rw [List.foldl_append, List.foldl_cons, List.foldl_nil, List.getLast?_concat]
    unfold replacedBy
    split
    · rename_i hsame
      rcases ih hearlier with hold | hlast
      · exact .inl hold
      · -- two signatures of one spelling of the path are the same only if they are equal
        right
        have hfile := hearlier _ (List.mem_of_getLast? hlast)
        rw [← eq_of_same hsame (hfile.trans (hs s (by simp)).symm)]
    · exact .inr rfl

theorem foldl_replacedBy_again (hsigs : ∀ s ∈ sigs, s.file = path) (d : Signature) :
    sigs.foldl replacedBy (sigs.foldl replacedBy d) = sigs.foldl replacedBy d := by
  rcases foldl_replacedBy hsigs d with hold | hlast
  · rw [hold, hold]
  · rcases foldl_replacedBy hsigs (sigs.foldl replacedBy d) with hkept | hlast'
    · exact hkept
    · exact Option.some.inj (hlast'.symm.trans hlast)

end Signature

namespace SymbolTable

variable {t t' : SymbolTable} {path : Path} {key : RoutineKey} {sigs : List Signature}

/-! ## Registering twice -/

theorem foldl_withDefinition_self {d : Signature} (hd : d.file.same path = true)
    (hsigs : ∀ s ∈ sigs, s.file.same path = true) (ds : List Signature) :
    sigs.foldl (fun defs s => withDefinition path s defs) (d :: ds) =
      sigs.foldl Signature.replacedBy d :: ds := by
  induction sigs generalizing d with
  | nil => rfl
  | cons s rest ih =>
    obtain ⟨hs, hrest⟩ := List.forall_mem_cons.1 hsigs
    have hstep : withDefinition path s (d :: ds) = d.replacedBy s :: ds := by
      rw [withDefinition, if_pos hd]
      rfl
    rw [List.foldl_cons, List.foldl_cons, hstep, ih (Signature.file_replacedBy hd hs) hrest]

theorem foldl_withDefinition_other {d : Signature} (hd : d.file.same path = false)
    (ds : List Signature) :
    sigs.foldl (fun defs s => withDefinition path s defs) (d :: ds) =
      d :: sigs.foldl (fun defs s => withDefinition path s defs) ds := by
  induction sigs generalizing ds with
  | nil => rfl
  | cons s rest ih =>
    have hstep : withDefinition path s (d :: ds) = d :: withDefinition path s ds := by
      simp [withDefinition, hd]
    rw [List.foldl_cons, List.foldl_cons, hstep, ih]

theorem foldl_withDefinition_again (hsigs : ∀ s ∈ sigs, s.file = path) (defs : List Signature) :
    sigs.foldl (fun defs s => withDefinition path s defs)
        (sigs.foldl (fun defs s => withDefinition path s defs) defs) =
      sigs.foldl (fun defs s => withDefinition path s defs) defs := by
  have hsame : ∀ s ∈ sigs, s.file.same path = true := fun s hs => by
    rw [hsigs s hs, Path.same_self]
  have hself (d : Signature) (hd : d.file.same path = true) (ds : List Signature) :
      sigs.foldl (fun defs s => withDefinition path s defs)
          (sigs.foldl (fun defs s => withDefinition path s defs) (d :: ds)) =
        sigs.foldl (fun defs s => withDefinition path s defs) (d :: ds) := by
    have hkept : (sigs.foldl Signature.replacedBy d).file.same path = true := by
      rcases Signature.foldl_replacedBy hsigs d with hold | hlast
      · rwa [hold]
      · exact hsame _ (List.mem_of_getLast? hlast)
    rw [foldl_withDefinition_self hd hsame, foldl_withDefinition_self hkept hsame,
      Signature.foldl_replacedBy_again hsigs]
  induction defs with
  | nil =>
    cases sigs with
    | nil => rfl
    | cons s rest =>
      -- the first signature goes where the file has none, and meets itself the second time
      have hfirst : (s :: rest).foldl (fun defs s => withDefinition path s defs) [] =
          (s :: rest).foldl (fun defs s => withDefinition path s defs) [s] := by
        have hs := hsame s (by simp)
        simp [withDefinition, hs]
      rw [hfirst]
      exact hself s (hsame s (by simp)) []
  | cons d ds ih =>
    cases hd : d.file.same path with
    | true => exact hself d hd ds
    | false => rw [foldl_withDefinition_other hd, foldl_withDefinition_other hd, ih]

/-- After a file has been registered, registering it again drops no key. -/
theorem droppedKeys_again (t : SymbolTable) (path : Path) (sigs : List Signature) :
    (t.replaceFile path sigs).2.droppedKeys path sigs = [] := by
  rw [droppedKeys, keysOf_replaceFile, if_pos (Path.same_self path), List.filter_eq_nil_iff]
  simp

/-- Registering a file again leaves the definitions of every key as they are. -/
theorem definitions_replaceFile_again (h : t.WellFormed) (hsigs : ∀ s ∈ sigs, s.file = path)
    (key : RoutineKey) :
    ((t.replaceFile path sigs).2.replaceFile path sigs).2.definitions key =
      (t.replaceFile path sigs).2.definitions key := by
  have hfilter : ∀ s ∈ sigs.filter (·.key == key), s.file = path :=
    fun s hs => hsigs s (List.mem_of_mem_filter hs)
  rw [definitions_replaceFile (h.replaceFile path sigs), droppedKeys_again,
    if_neg List.not_mem_nil, definitions_replaceFile h]
  exact foldl_withDefinition_again hfilter _

/-! ## The keys that are named -/

/-- How a file lets a key be called. -/
def interfaceIn? (t : SymbolTable) (path : Path) (key : RoutineKey) : Option Interface :=
  (t.definitionIn? path key).map Signature.interface

/-- What the table shows of a key tells how each file lets it be called. -/
theorem interfaceIn?_congr
    (h : (t.definitions key).map Signature.seen = (t'.definitions key).map Signature.seen) :
    t.interfaceIn? path key = t'.interfaceIn? path key := by
  have hview (u : SymbolTable) : u.interfaceIn? path key =
      (((u.definitions key).map Signature.seen).find? fun x => x.1 == path.parts).map (·.2) := by
    rw [List.find?_map, Option.map_map]
    rfl
  rw [hview, hview, h]

theorem changesInterface_eq_false_iff {s : Signature} :
    t.changesInterface path s = false ↔ t.interfaceIn? path s.key = some s.interface := by
  unfold changesInterface interfaceIn?
  cases t.definitionIn? path s.key with
  | none => simp
  | some d => simp [Signature.sameInterface_iff]

theorem find?_withDefinition {s : Signature} (hs : s.file.same path = true)
    (defs : List Signature) :
    ((withDefinition path s defs).find? fun d => d.file.same path).map Signature.interface =
      some s.interface := by
  induction defs with
  | nil => simp [withDefinition, hs]
  | cons d ds ih =>
    cases hd : d.file.same path with
    | false => simpa [withDefinition, hd] using ih
    | true =>
      have hkept : (d.replacedBy s).file.same path = true := Signature.file_replacedBy hd hs
      rw [withDefinition, if_pos hd]
      change ((d.replacedBy s :: ds).find? _).map _ = _
      simp [hkept]

/-- A key is named unless the file already lets it be called in the way of each signature. -/
theorem mem_register_iff (h : t.WellFormed) (hsigs : ∀ s ∈ sigs, s.file.same path = true) :
    key ∈ (t.register path sigs).1 ↔
      ∃ s ∈ sigs, s.key = key ∧ t.interfaceIn? path key ≠ some s.interface := by
  induction sigs generalizing t with
  | nil => simp [register]
  | cons s rest ih =>
    obtain ⟨hs, hrest⟩ := List.forall_mem_cons.1 hsigs
    have hupdated := h.updateDefinition path s
    have hdefs : (t.update s.key (withDefinition path s)).definitions key =
        if key = s.key then withDefinition path s (t.definitions s.key) else t.definitions key :=
      definitions_update h (withDefinition path s)
    rw [register_cons]
    dsimp only
    by_cases hkey : s.key = key
    · subst hkey
      have hnow : (t.update s.key (withDefinition path s)).interfaceIn? path s.key =
          some s.interface := by
        rw [if_pos rfl] at hdefs
        rw [interfaceIn?, definitionIn?, hdefs]
        exact find?_withDefinition hs _
      cases hchanges : t.changesInterface path s with
      | true =>
        have hdiffers : t.interfaceIn? path s.key ≠ some s.interface := by
          rw [ne_eq, ← changesInterface_eq_false_iff, hchanges]
          simp
        exact iff_of_true (by simp) ⟨s, by simp, rfl, hdiffers⟩
      | false =>
        -- the first signature changes nothing, so the later ones meet the same interface
        have hbefore := changesInterface_eq_false_iff.1 hchanges
        simp only [Bool.false_eq_true, if_false, ih hupdated hrest, hnow, hbefore]
        simp
    · have hsame : (t.update s.key (withDefinition path s)).interfaceIn? path key =
          t.interfaceIn? path key := by
        rw [if_neg (Ne.symm hkey)] at hdefs
        rw [interfaceIn?, definitionIn?, hdefs]
        rfl
      have hiff := ih hupdated hrest
      rw [hsame] at hiff
      split <;> simp [hiff, hkey, Ne.symm hkey]

/-- A key that is named when a file is registered again was named the first time. -/
theorem mem_replaceFile_again (h : t.WellFormed) (hsigs : ∀ s ∈ sigs, s.file.same path = true)
    (hkey : key ∈ ((t.replaceFile path sigs).2.replaceFile path sigs).1) :
    key ∈ (t.replaceFile path sigs).1 := by
  have hcleared := h.clearedFor path sigs
  by_contra hnot
  rw [replaceFile_fst, List.mem_eraseDups, List.mem_append, not_or] at hnot
  have hagain := (h.replaceFile path sigs).clearedFor path sigs
  rw [replaceFile_fst, droppedKeys_again, List.mem_eraseDups, List.nil_append,
    mem_register_iff hagain hsigs] at hkey
  obtain ⟨s, hs, rfl, hdiffers⟩ := hkey
  apply hdiffers
  have hfirst : (t.clearedFor path sigs).interfaceIn? path s.key = some s.interface := by
    by_contra hne
    exact hnot.2 ((mem_register_iff hcleared hsigs).2 ⟨s, hs, rfl, hne⟩)
  rw [← hfirst]
  apply interfaceIn?_congr
  rw [definitions_clearedFor (h.replaceFile path sigs), droppedKeys_again,
    if_neg List.not_mem_nil]
  exact (agreeBut_register hcleared hsigs s.key hnot.2).symm

end SymbolTable

/-! ## Indexing twice -/

/-- Checking the callers of fewer keys again, against the same definitions, changes nothing. -/
theorem FileEntry.rechecked_again {t t' : SymbolTable} {changed more : List RoutineKey}
    (ht : t.WellFormed) (ht' : t'.WellFormed) (hagree : SymbolTable.AgreeBut [] t t')
    (hmore : more ⊆ changed) (e : FileEntry) :
    (e.rechecked t changed).rechecked t' more = e.rechecked t changed := by
  cases hcalls : e.analysis.record.callsAny more with
  | false => exact rechecked_eq_self (by rwa [record_rechecked])
  | true =>
    obtain ⟨key, hkey, hcall⟩ := List.any_eq_true.1 hcalls
    have hcalled : e.analysis.record.callsAny changed = true :=
      List.any_eq_true.2 ⟨key, hmore hkey, hcall⟩
    have hcheck : e.analysis.checked (t.excluding e.path) =
        e.analysis.checked (t'.excluding e.path) :=
      Analysis.checked_eq_of_agreeBut ht ht' hagree rfl e.path
    rw [rechecked_eq_checked hcalled, hcheck]
    exact rechecked_eq_checked hcalls

namespace Workspace

variable {w : Workspace} {p : Path} {text : Text}

/-- A file sees the same before and after it is indexed. -/
theorem Sound.preview_indexFile (h : w.Sound) (p : Path) (text : Text) :
    (w.indexFile p text true).2.preview p text true = w.preview p text true := by
  have hpreview (u : Workspace) : u.preview p text true =
      (Analysis.read p text).checked (u.table.excluding p) := rfl
  rw [hpreview, hpreview, table_indexFile]
  apply Analysis.checked_congr
  exact SymbolTable.check_replaceFile_self h.table (Analysis.isOf_read p text) _

theorem file_of_mem_signatures_read :
    ∀ s ∈ (Analysis.read p text).record.signatures, s.file = p := by
  intro s hs
  obtain ⟨r, hr, rfl⟩ := List.mem_map.1 hs
  exact Outline.within_ofStatements p _ r hr

theorem Sound.definitions_indexFile_again (h : w.Sound) (p : Path) (text : Text)
    (key : RoutineKey) :
    ((w.indexFile p text true).2.indexFile p text true).2.table.definitions key =
      (w.indexFile p text true).2.table.definitions key := by
  rw [table_indexFile, table_indexFile]
  exact SymbolTable.definitions_replaceFile_again h.table file_of_mem_signatures_read key

theorem Sound.file?_indexFile_again (h : w.Sound) {q : Path} (hq : p.same q = false)
    (text : Text) :
    ((w.indexFile p text true).2.indexFile p text true).2.file? q =
      (w.indexFile p text true).2.file? q := by
  have honce := h.indexFile p text true
  have hagree : SymbolTable.AgreeBut [] (w.indexFile p text true).2.table
      ((w.indexFile p text true).2.indexFile p text true).2.table := by
    intro key _
    rw [h.definitions_indexFile_again]
  have hnamed : ((w.indexFile p text true).2.table.replaceFile p
      (Analysis.read p text).record.signatures).1 ⊆
        (w.table.replaceFile p (Analysis.read p text).record.signatures).1 := by
    intro key hkey
    rw [table_indexFile] at hkey
    exact SymbolTable.mem_replaceFile_again h.table (Analysis.isOf_read p text) hkey
  rw [honce.file?_indexFile, h.file?_indexFile, hq, if_neg Bool.false_ne_true]
  cases w.file? q with
  | none => rfl
  | some e =>
    have hagain := e.rechecked_again honce.table (honce.indexFile p text true).table hagree hnamed
    exact congrArg some hagain

end Workspace

/-- In every workspace that a session can come to, a preview with checks shows what indexing the
text commits, before and after. Indexing the text a second time commits the same analysis under the
next version, and changes neither another file nor the definitions of any key. -/
theorem Session.reindexing_idempotent (patterns : List Text) (steps : List Step) (p : Path)
    (text : Text) :
    let w := ((start patterns).run steps).workspace
    let once := w.indexFile p text true
    let twice := once.2.indexFile p text true
    ∃ a version,
      w.preview p text true = a ∧ once.2.preview p text true = a ∧
      once.1 = .committed ⟨p, version, a⟩ ∧ once.2.file? p = some ⟨p, version, a⟩ ∧
      twice.1 = .committed ⟨p, version + 1, a⟩ ∧ twice.2.file? p = some ⟨p, version + 1, a⟩ ∧
      (∀ q, p.same q = false → twice.2.file? q = once.2.file? q) ∧
      ∀ key, twice.2.table.definitions key = once.2.table.definitions key := by
  intro w once twice
  have hw : w.Sound := sound_run patterns steps
  have honce : once.2.Sound := hw.indexFile p text true
  have hpreview : once.2.preview p text true = w.preview p text true := hw.preview_indexFile p text
  have hversion : once.2.versionOf p = w.versionOf p + 1 := by
    rw [show once.2.versionOf p = (w.submit p).2.versionOf p by
      simp only [once, Workspace.indexFile_eq, Workspace.versionOf_store],
      Workspace.versionOf_submit, Path.same_self, if_pos rfl]
  refine ⟨w.preview p text true, w.versionOf p + 1, rfl, hpreview, ?_, ?_, ?_, ?_, ?_, ?_⟩
  · simp only [once, Workspace.indexFile_eq]
  · simp only [once, hw.file?_indexFile, Path.same_self, if_true]
  · simp only [twice, Workspace.indexFile_eq once.2, hpreview, hversion]
  · simp only [twice, honce.file?_indexFile, Path.same_self, if_true, hpreview, hversion]
  · exact fun q hq => hw.file?_indexFile_again hq text
  · exact hw.definitions_indexFile_again p text

/-- A file that defines a routine twice, with a caller that was committed without checks: the second
time around the routine is named as changed, and the caller's entry stays. -/
theorem Session.reindexing_idempotent_redefined :
    let p := Path.ofString "a.pro"
    let q := Path.ofString "b.pro"
    let text := "pro foo, x\nend\npro foo\nend\n".toList
    let once := (((start []).run [.index q "foo, 1\n".toList false]).workspace.indexFile p text
      true).2
    (once.table.replaceFile p (Analysis.read p text).record.signatures).1 ≠ [] ∧
      p.same q = false ∧ (once.indexFile p text true).2.file? q = once.file? q := by
  intro p q text once
  have hq : p.same q = false := by decide
  obtain ⟨-, -, -, -, -, -, -, -, hothers, -⟩ :=
    reindexing_idempotent [] [.index q "foo, 1\n".toList false] p text
  exact ⟨by decide +kernel, hq, hothers q hq⟩

end RoutineAtlas
