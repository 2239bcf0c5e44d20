import Mathlib.Data.List.Nodup
import RoutineAtlas.Proofs.PathMap
import RoutineAtlas.SymbolTable

/-!
# The table of routines through its views

A table is read through `definitions` and `keysOf`. `WellFormed` holds of the empty table and is
kept by every operation; under it, each operation has one equation for each of the two views.

## Main definitions

* `SymbolTable.WellFormed` — one entry for a key, none of them empty, and every definition under
  its own key.
* `SymbolTable.ofFile` — the definitions of a list that a file contributed.
-/

namespace RoutineAtlas.SymbolTable

variable {t : SymbolTable} {path q : Path} {key k : RoutineKey}

/-- A key has one entry, which is not empty and holds definitions of that key only. -/
structure WellFormed (t : SymbolTable) : Prop where
  nodup : (t.entries.map (·.1)).Nodup
  nonempty : ∀ entry ∈ t.entries, entry.2 ≠ []
  keyed : ∀ entry ∈ t.entries, ∀ d ∈ entry.2, d.key = entry.1

theorem wellFormed_empty : empty.WellFormed := by
  constructor <;> simp [empty]

/-! ## Changing the definitions of one key -/

section Update

variable {f : List Signature → List Signature} {entries : List (RoutineKey × List Signature)}

theorem mem_updateEntries {entry : RoutineKey × List Signature}
    (h : entry ∈ updateEntries key f entries) :
    entry ∈ entries ∨ entry.1 = key ∧ entry.2 ≠ [] ∧
      (entry.2 = f [] ∨ ∃ old, (key, old) ∈ entries ∧ entry.2 = f old) := by
  induction entries with
  | nil =>
    simp only [updateEntries] at h
    split at h
    · simp at h
    · rename_i hf
      obtain rfl := List.mem_singleton.1 h
      exact .inr ⟨rfl, by simpa using hf, .inl rfl⟩
  | cons first rest ih =>
    simp only [updateEntries] at h
    split at h
    · rename_i hkey
      obtain rfl : first.1 = key := by simpa using hkey
      split at h
      · exact .inl (List.mem_cons_of_mem _ h)
      · rename_i hf
        rcases List.mem_cons.1 h with rfl | h
        · exact .inr ⟨rfl, by simpa using hf, .inr ⟨first.2, by simp, rfl⟩⟩
        · exact .inl (List.mem_cons_of_mem _ h)
    · rcases List.mem_cons.1 h with rfl | h
      · exact .inl (by simp)
      · rcases ih h with h | ⟨hkey, hne, hf | ⟨old, hold, hf⟩⟩
        · exact .inl (List.mem_cons_of_mem _ h)
        · exact .inr ⟨hkey, hne, .inl hf⟩
        · exact .inr ⟨hkey, hne, .inr ⟨old, List.mem_cons_of_mem _ hold, hf⟩⟩

theorem nodup_updateEntries (h : (entries.map (·.1)).Nodup) :
    ((updateEntries key f entries).map (·.1)).Nodup := by
  induction entries with
  | nil => simp only [updateEntries]; split <;> simp
  | cons first rest ih =>
    obtain ⟨hfirst, hrest⟩ := List.nodup_cons.1 h
    simp only [updateEntries]
    split
    · rename_i hkey
      obtain rfl : first.1 = key := by simpa using hkey
      split
      · exact hrest
      · exact List.nodup_cons.2 ⟨hfirst, hrest⟩
    · rename_i hkey
      refine List.nodup_cons.2 ⟨?_, ih hrest⟩
      intro hmem
      obtain ⟨entry, hentry, heq⟩ := List.mem_map.1 hmem
      rcases mem_updateEntries hentry with h' | ⟨h', -⟩
      · exact hfirst (List.mem_map.2 ⟨entry, h', heq⟩)
      · exact hkey (by simpa [← heq] using h')

theorem lookup_cons_of_ne {first : RoutineKey} {defs : List Signature} (h : k ≠ first) :
    ((first, defs) :: entries).lookup k = entries.lookup k := by
  have : (k == first) = false := by simpa using h
  simp only [List.lookup_cons, this]

theorem lookup_updateEntries (h : (entries.map (·.1)).Nodup) :
    ((updateEntries key f entries).lookup k).getD [] =
      if k = key then f ((entries.lookup key).getD []) else (entries.lookup k).getD [] := by
  induction entries with
  | nil =>
    simp only [updateEntries]
    by_cases hk : k = key
    · subst hk
      split <;> simp_all
    · rw [if_neg hk]
      split
      · rfl
      · rw [lookup_cons_of_ne hk]
  | cons first rest ih =>
    obtain ⟨first, defs⟩ := first
    obtain ⟨hfirst, hrest⟩ := List.nodup_cons.1 h
    simp only [updateEntries]
    by_cases hkey : first = key
    · subst hkey
      -- an emptied entry goes away, and `nodup` keeps another one from showing
      have habsent : rest.lookup first = none := by
        rw [List.lookup_eq_none_iff]
        intro entry hentry
        have : first ≠ entry.1 := by
          rintro rfl
          exact hfirst (List.mem_map.2 ⟨entry, hentry, rfl⟩)
        simpa using this
      rw [beq_self_eq_true, if_pos rfl, List.lookup_cons_self, Option.getD_some]
      by_cases hk : k = first
      · subst hk
        rw [if_pos rfl]
        split
        · rename_i hf
          rw [habsent, List.isEmpty_iff.1 hf, Option.getD_none]
        · rw [List.lookup_cons_self, Option.getD_some]
      · rw [if_neg hk, lookup_cons_of_ne hk]
        split
        · rfl
        · rw [lookup_cons_of_ne hk]
    · have hbeq : (first == key) = false := by simpa using hkey
      rw [hbeq, if_neg Bool.false_ne_true, lookup_cons_of_ne (Ne.symm hkey)]
      by_cases hk : k = first
      · subst hk
        simp [hkey]
      · rw [lookup_cons_of_ne hk, lookup_cons_of_ne hk, ih hrest]

end Update

theorem WellFormed.update (h : t.WellFormed) {f : List Signature → List Signature}
    (hf : ∀ defs, (∀ d ∈ defs, d.key = key) → ∀ d ∈ f defs, d.key = key) :
    (t.update key f).WellFormed where
  nodup := nodup_updateEntries h.nodup
  nonempty := by
    intro entry hentry
    rcases mem_updateEntries hentry with hold | ⟨-, hne, -⟩
    · exact h.nonempty entry hold
    · exact hne
  keyed := by
    intro entry hentry d hd
    rcases mem_updateEntries hentry with hold | ⟨hkey, -, heq | ⟨old, hold, heq⟩⟩
    · exact h.keyed entry hold d hd
    · rw [hkey]
      exact hf [] (by simp) d (heq ▸ hd)
    · rw [hkey]
      exact hf old (h.keyed (key, old) hold) d (heq ▸ hd)

theorem definitions_update (h : t.WellFormed) (f : List Signature → List Signature) :
    (t.update key f).definitions k = if k = key then f (t.definitions key) else t.definitions k :=
  lookup_updateEntries h.nodup

theorem mem_keys_of_definitions (h : t.definitions key ≠ []) : key ∈ t.entries.map (·.1) := by
  unfold definitions at h
  cases hl : t.entries.lookup key with
  | none => simp [hl] at h
  | some defs =>
    obtain ⟨before, after, hentries, -⟩ := List.lookup_eq_some_iff.1 hl
    simp [hentries]

/-! ## The definitions of one file -/

/-- The definitions that a file contributed. -/
def ofFile (path : Path) (defs : List Signature) : List Signature :=
  defs.filter fun d => d.file.same path

theorem withoutFile_idem (path : Path) (defs : List Signature) :
    withoutFile path (withoutFile path defs) = withoutFile path defs := by
  simp [withoutFile]

theorem withoutFile_eq_self {defs : List Signature} (h : ofFile path defs = []) :
    withoutFile path defs = defs := by
  simpa [ofFile, withoutFile] using h

theorem ofFile_withoutFile_self (path : Path) (defs : List Signature) :
    ofFile path (withoutFile path defs) = [] := by
  simp [ofFile, withoutFile]

theorem ofFile_withoutFile_of_ne (h : path.same q = false) (defs : List Signature) :
    ofFile q (withoutFile path defs) = ofFile q defs := by
  simp only [ofFile, withoutFile, List.filter_filter]
  apply List.filter_congr
  intro d _
  cases hd : d.file.same q with
  | false => rfl
  | true => rw [Path.same_left hd, Path.same_comm, h]; rfl

/-- A file's definition goes where its old one was, so those of other files do not move. -/
theorem withoutFile_withDefinition {s : Signature} (hs : s.file.same path = true)
    (defs : List Signature) :
    withoutFile path (withDefinition path s defs) = withoutFile path defs := by
  induction defs with
  | nil => simp [withDefinition, withoutFile, hs]
  | cons d defs ih =>
    simp only [withDefinition]
    split
    · rename_i hd
      split <;> simp [withoutFile, hd, hs]
    · simp only [withoutFile, List.filter_cons] at ih ⊢
      rw [ih]

theorem ofFile_withDefinition_self {s : Signature} (hs : s.file.same path = true)
    (defs : List Signature) :
    ofFile path (withDefinition path s defs) =
      match ofFile path defs with
      | [] => [s]
      | d :: ds => (if d.same s then d else s) :: ds := by
  induction defs with
  | nil => simp [withDefinition, ofFile, hs]
  | cons d defs ih =>
    simp only [withDefinition]
    split
    · rename_i hd
      have hnew : (if d.same s then d else s).file.same path = true := by split <;> assumption
      simp [ofFile, hd, hnew]
    · rename_i hd
      simp only [ofFile, List.filter_cons, hd] at ih ⊢
      exact ih

theorem key_of_mem_withDefinition {s : Signature} {defs : List Signature} (hs : s.key = key)
    (h : ∀ d ∈ defs, d.key = key) : ∀ d ∈ withDefinition path s defs, d.key = key := by
  induction defs with
  | nil => simpa [withDefinition] using hs
  | cons d defs ih =>
    obtain ⟨hd, hdefs⟩ := List.forall_mem_cons.1 h
    simp only [withDefinition]
    split
    · refine List.forall_mem_cons.2 ⟨?_, hdefs⟩
      split <;> assumption
    · exact List.forall_mem_cons.2 ⟨hd, ih hdefs⟩

/-! ## Dropping and registering -/

theorem WellFormed.dropKeys (h : t.WellFormed) (path : Path) (keys : List RoutineKey) :
    (t.dropKeys path keys).WellFormed := by
  induction keys generalizing t with
  | nil => exact h
  | cons key keys ih =>
    refine ih (h.update ?_)
    intro defs hdefs d hd
    exact hdefs d (List.mem_of_mem_filter hd)

theorem definitions_dropKeys (h : t.WellFormed) (path : Path) (keys : List RoutineKey) :
    (t.dropKeys path keys).definitions k =
      if k ∈ keys then withoutFile path (t.definitions k) else t.definitions k := by
  induction keys generalizing t with
  | nil => simp [SymbolTable.dropKeys]
  | cons key keys ih =>
    have hstep : (t.update key (withoutFile path)).WellFormed := h.dropKeys path [key]
    have hfold : t.dropKeys path (key :: keys) =
        (t.update key (withoutFile path)).dropKeys path keys := rfl
    rw [hfold, ih hstep, definitions_update h]
    by_cases hk : k = key
    · subst hk
      simp [withoutFile_idem]
    · simp [hk]

theorem register_cons (t : SymbolTable) (path : Path) (s : Signature) (rest : List Signature) :
    t.register path (s :: rest) =
      let after := (t.update s.key (withDefinition path s)).register path rest
      (if t.changesInterface path s then s.key :: after.1 else after.1, after.2) :=
  rfl

theorem WellFormed.updateDefinition (h : t.WellFormed) (path : Path) (s : Signature) :
    (t.update s.key (withDefinition path s)).WellFormed :=
  h.update fun _ hdefs => key_of_mem_withDefinition rfl hdefs

theorem WellFormed.register (h : t.WellFormed) (path : Path) (sigs : List Signature) :
    (t.register path sigs).2.WellFormed := by
  induction sigs generalizing t with
  | nil => exact h
  | cons s rest ih => exact ih (h.updateDefinition path s)

@[simp] theorem byFile_register (t : SymbolTable) (path : Path) (sigs : List Signature) :
    (t.register path sigs).2.byFile = t.byFile := by
  induction sigs generalizing t with
  | nil => rfl
  | cons s rest ih => exact ih (t.update s.key (withDefinition path s))

/-- Registering puts the signatures of a key, one after the other, among its definitions. -/
theorem definitions_register (h : t.WellFormed) (path : Path) (sigs : List Signature) :
    (t.register path sigs).2.definitions k =
      (sigs.filter (·.key == k)).foldl (fun defs s => withDefinition path s defs)
        (t.definitions k) := by
  induction sigs generalizing t with
  | nil => rfl
  | cons s rest ih =>
    rw [register_cons, ih (h.updateDefinition path s), definitions_update h]
    by_cases hk : s.key = k
    · subst hk
      simp
    · simp [hk, Ne.symm hk]

/-! ## Replacing and removing a file -/

/-- The keys that a file has defined and that its new signatures lack. -/
def droppedKeys (t : SymbolTable) (path : Path) (sigs : List Signature) : List RoutineKey :=
  (t.keysOf path).filter fun key => !(sigs.map (·.key)).eraseDups.contains key

/-- The table between dropping a file's old keys and registering its new signatures. -/
def clearedFor (t : SymbolTable) (path : Path) (sigs : List Signature) : SymbolTable :=
  { t.dropKeys path (t.droppedKeys path sigs) with byFile := t.byFile.erase path }

theorem replaceFile_fst (t : SymbolTable) (path : Path) (sigs : List Signature) :
    (t.replaceFile path sigs).1 =
      (t.droppedKeys path sigs ++ ((t.clearedFor path sigs).register path sigs).1).eraseDups :=
  rfl

theorem mem_droppedKeys {sigs : List Signature} :
    k ∈ t.droppedKeys path sigs ↔ k ∈ t.keysOf path ∧ k ∉ sigs.map (·.key) := by
  simp [droppedKeys]

theorem definitions_clearedFor (h : t.WellFormed) (path : Path) (sigs : List Signature) :
    (t.clearedFor path sigs).definitions k =
      if k ∈ t.droppedKeys path sigs then withoutFile path (t.definitions k)
      else t.definitions k :=
  definitions_dropKeys h path (t.droppedKeys path sigs)

theorem WellFormed.clearedFor (h : t.WellFormed) (path : Path) (sigs : List Signature) :
    (t.clearedFor path sigs).WellFormed :=
  let dropped := h.dropKeys path (t.droppedKeys path sigs)
  ⟨dropped.nodup, dropped.nonempty, dropped.keyed⟩

theorem WellFormed.replaceFile (h : t.WellFormed) (path : Path) (sigs : List Signature) :
    (t.replaceFile path sigs).2.WellFormed :=
  let registered := (h.clearedFor path sigs).register path sigs
  ⟨registered.nodup, registered.nonempty, registered.keyed⟩

theorem definitions_replaceFile (h : t.WellFormed) (path : Path) (sigs : List Signature) :
    (t.replaceFile path sigs).2.definitions k =
      (sigs.filter (·.key == k)).foldl (fun defs s => withDefinition path s defs)
        (if k ∈ t.droppedKeys path sigs then withoutFile path (t.definitions k)
         else t.definitions k) := by
  rw [← definitions_clearedFor h path sigs]
  exact definitions_register (h.clearedFor path sigs) path sigs

theorem keysOf_replaceFile (t : SymbolTable) (path q : Path) (sigs : List Signature) :
    (t.replaceFile path sigs).2.keysOf q =
      if path.same q then (sigs.map (·.key)).eraseDups else t.keysOf q := by
  have hbyFile : (t.replaceFile path sigs).2.byFile =
      if (sigs.map (·.key)).eraseDups.isEmpty then t.byFile.erase path
      else (t.byFile.erase path).insert path (sigs.map (·.key)).eraseDups := by
    have hregister : ((t.clearedFor path sigs).register path sigs).2.byFile = t.byFile.erase path :=
      byFile_register (t.clearedFor path sigs) path sigs
    rw [← hregister]
    rfl
  simp only [keysOf, hbyFile]
  split
  · rename_i hempty
    rw [PathMap.get?_erase]
    split
    · rw [List.isEmpty_iff.1 hempty, Option.getD_none]
    · rfl
  · rw [PathMap.get?_insert, PathMap.get?_erase]
    split <;> simp

theorem removeFile_fst (t : SymbolTable) (path : Path) : (t.removeFile path).1 = t.keysOf path :=
  rfl

theorem WellFormed.removeFile (h : t.WellFormed) (path : Path) :
    (t.removeFile path).2.WellFormed :=
  let dropped := h.dropKeys path (t.keysOf path)
  ⟨dropped.nodup, dropped.nonempty, dropped.keyed⟩

theorem definitions_removeFile (h : t.WellFormed) (path : Path) :
    (t.removeFile path).2.definitions k =
      if k ∈ t.keysOf path then withoutFile path (t.definitions k) else t.definitions k :=
  definitions_dropKeys h path (t.keysOf path)

theorem keysOf_removeFile (t : SymbolTable) (path q : Path) :
    (t.removeFile path).2.keysOf q = if path.same q then [] else t.keysOf q := by
  have hbyFile : (t.removeFile path).2.byFile = t.byFile.erase path := rfl
  simp only [keysOf, hbyFile, PathMap.get?_erase]
  split <;> rfl

/-! ## What a file sees of the others -/

theorem withoutFile_foldl_withDefinition {sigs : List Signature}
    (hsigs : ∀ s ∈ sigs, s.file.same path = true) (defs : List Signature) :
    withoutFile path (sigs.foldl (fun defs s => withDefinition path s defs) defs) =
      withoutFile path defs := by
  induction sigs generalizing defs with
  | nil => rfl
  | cons s rest ih =>
    obtain ⟨hs, hrest⟩ := List.forall_mem_cons.1 hsigs
    rw [List.foldl_cons, ih hrest, withoutFile_withDefinition hs]

/-- Replacing a file changes nothing that the file itself can see. -/
theorem withoutFile_replaceFile_self (h : t.WellFormed) {sigs : List Signature}
    (hsigs : ∀ s ∈ sigs, s.file.same path = true) :
    withoutFile path ((t.replaceFile path sigs).2.definitions k) =
      withoutFile path (t.definitions k) := by
  have hkey : ∀ s ∈ sigs.filter (·.key == k), s.file.same path = true :=
    fun s hs => hsigs s (List.mem_of_mem_filter hs)
  rw [definitions_replaceFile h, withoutFile_foldl_withDefinition hkey]
  split
  · exact withoutFile_idem path _
  · rfl

theorem withoutFile_congr (h : path.same q = true) (defs : List Signature) :
    withoutFile path defs = withoutFile q defs := by
  simp only [withoutFile, Path.same_right h]

theorem routineOutside?_congr (t : SymbolTable) (h : path.same q = true) :
    t.routineOutside? path = t.routineOutside? q := by
  funext key
  simp only [routineOutside?, withoutFile_congr h]

/-- The view of a file does not depend on how its path is spelled. -/
theorem excluding_congr (t : SymbolTable) (h : path.same q = true) :
    t.excluding path = t.excluding q := by
  have hmethod : t.methodOutside? path = t.methodOutside? q := by
    funext name isFunction
    simp only [methodOutside?, routineOutside?_congr t h]
  simp only [excluding, routineOutside?_congr t h, hmethod]

end RoutineAtlas.SymbolTable
