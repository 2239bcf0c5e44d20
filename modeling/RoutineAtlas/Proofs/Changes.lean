import RoutineAtlas.Proofs.Mirror
import RoutineAtlas.Proofs.Reindexing

/-!
# The keys that replacing a file names

Replacing the definitions of a file names the keys whose interface changed, so that their callers
can be checked again. Every key whose interface is another one afterwards is named, and so is every
key that the file defines once more in another way: its definitions are registered one after the
other, and each is compared with the one before it. Such a key is named whenever the file is
registered, also where it ends as it began.

## Main definitions

* `Signature.Differ` — two definitions, or missing ones, are not called in the same way.
* `SymbolTable.Reachable` — the tables that come from the empty one by replacing and removing files.
* `SymbolTable.Lists.mem_replaceFile_iff` — the keys that are named, by the signatures of the files.
* `SymbolTable.Reachable.replaceFile_names` — the keys that are named, by the definitions before and
  after.
-/

namespace RoutineAtlas

namespace Signature

/-- One of the two is missing, or both are there and not called in the same way. -/
def Differ : Option Signature → Option Signature → Prop
  | none, none => False
  | some d, some e => d.sameInterface e = false
  | _, _ => True

theorem differ_iff {d e : Option Signature} :
    Differ d e ↔ d.map Signature.interface ≠ e.map Signature.interface := by
  cases d <;> cases e
  case some.some d e => simp [Differ, ← sameInterface_iff]
  all_goals simp [Differ]

end Signature

theorem mem_of_lastOf_eq_some {sigs : List Signature} {key : RoutineKey} {s : Signature}
    (h : lastOf sigs key = some s) : s ∈ sigs ∧ s.key = key := by
  simpa using List.mem_filter.1 (List.mem_of_getLast? h)

namespace SymbolTable

variable {t : SymbolTable} {path : Path} {key : RoutineKey} {sigs : List Signature}
  {contents : Path → List Signature}

/-- A table of the empty one's descent: files have been replaced, each by signatures of its own, and
removed. Clearing a table gives the empty one. -/
inductive Reachable : SymbolTable → Prop where
  | empty : Reachable empty
  | replaceFile {t : SymbolTable} {path : Path} {sigs : List Signature} (h : Reachable t)
      (hsigs : ∀ s ∈ sigs, s.file.same path = true) : Reachable (t.replaceFile path sigs).2
  | removeFile {t : SymbolTable} {path : Path} (h : Reachable t) : Reachable (t.removeFile path).2

theorem Reachable.exists_lists (h : t.Reachable) : ∃ contents, t.Lists contents := by
  induction h with
  | empty => exact ⟨_, lists_empty⟩
  | replaceFile _ hsigs ih =>
    obtain ⟨contents, hlists⟩ := ih
    exact ⟨_, hlists.replaceFile hsigs fun _ => rfl⟩
  | removeFile _ ih =>
    obtain ⟨contents, hlists⟩ := ih
    exact ⟨_, hlists.removeFile fun _ => rfl⟩

theorem interfaceIn?_eq_head? (t : SymbolTable) (path : Path) (key : RoutineKey) :
    t.interfaceIn? path key =
      (ofFile path (t.definitions key)).head?.map Signature.interface := by
  rw [ofFile, List.head?_filter]
  rfl

/-- A file lets a key be called in the way of the last signature that it has for the key. -/
theorem Lists.interfaceIn?_eq (h : t.Lists contents) (path : Path) (key : RoutineKey) :
    t.interfaceIn? path key = (lastOf (contents path) key).map Signature.interface := by
  have hdefs := h.defs path key
  rw [interfaceIn?_eq_head?]
  cases hlast : lastOf (contents path) key with
  | none =>
    rw [hlast] at hdefs
    rw [show ofFile path (t.definitions key) = [] from hdefs]
    rfl
  | some s =>
    rw [hlast] at hdefs
    obtain ⟨d, hd, hsame⟩ := hdefs
    rw [hd]
    exact congrArg some (Signature.interface_eq_of_same hsame)

/-- A key is named if the file no longer has it, or has a signature for it that is not called in the
way of the last one before. -/
theorem Lists.mem_replaceFile_iff (h : t.Lists contents)
    (hsigs : ∀ s ∈ sigs, s.file.same path = true) :
    key ∈ (t.replaceFile path sigs).1 ↔
      (lastOf (contents path) key ≠ none ∧ lastOf sigs key = none) ∨
        ∃ s ∈ sigs, s.key = key ∧
          (lastOf (contents path) key).map Signature.interface ≠ some s.interface := by
  have hdropped : key ∈ t.droppedKeys path sigs ↔
      lastOf (contents path) key ≠ none ∧ lastOf sigs key = none := by
    rw [mem_droppedKeys, h.keys, List.mem_eraseDups, ne_eq, lastOf_eq_none_iff, lastOf_eq_none_iff,
      not_not]
  rw [replaceFile_fst, List.mem_eraseDups, List.mem_append, hdropped,
    mem_register_iff (h.wellFormed.clearedFor path sigs) hsigs]
  refine or_congr_right (exists_congr fun s => and_congr_right fun hs => and_congr_right ?_)
  rintro rfl
  -- a key with a new signature is not dropped, so the file's definition of it is still the old one
  have hkept : s.key ∉ t.droppedKeys path sigs :=
    fun hmem => (mem_droppedKeys.1 hmem).2 (List.mem_map.2 ⟨s, hs, rfl⟩)
  have hsame : (t.clearedFor path sigs).interfaceIn? path s.key = t.interfaceIn? path s.key := by
    apply interfaceIn?_congr
    rw [definitions_clearedFor h.wellFormed, if_neg hkept]
  rw [hsame, h.interfaceIn?_eq]

/-- A key is named if its interface changes, or if a signature of it has another interface than the
one that stays. -/
theorem Lists.mem_replaceFile_iff_interface (h : t.Lists contents)
    (hsigs : ∀ s ∈ sigs, s.file.same path = true) :
    key ∈ (t.replaceFile path sigs).1 ↔
      (lastOf (contents path) key).map Signature.interface ≠
          (lastOf sigs key).map Signature.interface ∨
        ∃ s ∈ sigs, s.key = key ∧
          some s.interface ≠ (lastOf sigs key).map Signature.interface := by
  rw [h.mem_replaceFile_iff hsigs]
  cases hlast : lastOf sigs key with
  | none =>
    have hnone : ∀ s ∈ sigs, s.key ≠ key := by
      simpa using lastOf_eq_none_iff.1 hlast
    grind [Option.map_eq_none_iff]
  | some last =>
    obtain ⟨hmem, hkey⟩ := mem_of_lastOf_eq_some hlast
    rw [Option.map_some]
    by_cases hchanged : (lastOf (contents path) key).map Signature.interface = some last.interface
    · -- nothing changes in the end, and both sides ask for a signature unlike the last one
      simp [hchanged, eq_comm]
    · exact iff_of_true (.inr ⟨last, hmem, hkey, hchanged⟩) (.inl hchanged)

/-- Two signatures of a key with different interfaces are two ways, and one of them is not the
last. -/
theorem exists_ne_lastOf_iff :
    (∃ s ∈ sigs, s.key = key ∧ some s.interface ≠ (lastOf sigs key).map Signature.interface) ↔
      ∃ s ∈ sigs, ∃ s' ∈ sigs, s.key = key ∧ s'.key = key ∧ s.sameInterface s' = false := by
  simp only [← Bool.not_eq_true, Signature.sameInterface_iff]
  constructor
  · rintro ⟨s, hs, hkey, hdiffers⟩
    cases hlast : lastOf sigs key with
    | none =>
      have hnone := lastOf_eq_none_iff.1 hlast
      exact absurd (List.mem_map.2 ⟨s, hs, hkey⟩) hnone
    | some last =>
      obtain ⟨hmem, hkey'⟩ := mem_of_lastOf_eq_some hlast
      exact ⟨s, hs, last, hmem, hkey, hkey', by simpa [hlast] using hdiffers⟩
  · rintro ⟨s, hs, s', hs', hkey, hkey', hdiffers⟩
    by_cases hlast : some s.interface = (lastOf sigs key).map Signature.interface
    · refine ⟨s', hs', hkey', ?_⟩
      rw [← hlast]
      exact fun heq => hdiffers (Option.some.inj heq).symm
    · exact ⟨s, hs, hkey, hlast⟩

/-- In every table that replacing and removing files can lead to, replacing a file by signatures of
its own names a key, and names it once, if the file's definitions of the key before and after differ
in interface, or if one of the signatures differs from the definition that stays. So replacing the
file by the same signatures again names exactly the keys that it defines in two ways. -/
theorem Reachable.replaceFile_names (h : t.Reachable)
    (hsigs : ∀ s ∈ sigs, s.file.same path = true) :
    let after := (t.replaceFile path sigs).2
    (t.replaceFile path sigs).1.Nodup ∧
      (∀ key, key ∈ (t.replaceFile path sigs).1 ↔
        Signature.Differ (t.definitionIn? path key) (after.definitionIn? path key) ∨
          ∃ s ∈ sigs, s.key = key ∧ Signature.Differ (some s) (after.definitionIn? path key)) ∧
      ∀ key, key ∈ (after.replaceFile path sigs).1 ↔
        ∃ s ∈ sigs, ∃ s' ∈ sigs, s.key = key ∧ s'.key = key ∧ s.sameInterface s' = false := by
  intro after
  obtain ⟨contents, hbefore⟩ := h.exists_lists
  have hafter : after.Lists fun q => if path.same q then sigs else contents q :=
    hbefore.replaceFile hsigs fun _ => rfl
  have hinterface (key : RoutineKey) : (after.definitionIn? path key).map Signature.interface =
      (lastOf sigs key).map Signature.interface := by
    rw [← interfaceIn?, hafter.interfaceIn?_eq, if_pos (Path.same_self path)]
  refine ⟨?_, ?_, ?_⟩
  · rw [replaceFile_fst]
    exact nodup_eraseDups _
  · intro key
    have hold : (t.definitionIn? path key).map Signature.interface =
        (lastOf (contents path) key).map Signature.interface := hbefore.interfaceIn?_eq path key
    simp only [Signature.differ_iff, hinterface, hold, Option.map_some]
    exact hbefore.mem_replaceFile_iff_interface hsigs
  · intro key
    rw [hafter.mem_replaceFile_iff_interface hsigs, ← exists_ne_lastOf_iff]
    simp

/-- A file that defines a routine twice, first without a parameter. -/
theorem replaceFile_names_redefined :
    let p := Path.ofString "a.pro"
    let sigs := (Analysis.read p "pro foo\nend\npro foo, x\nend\n".toList).record.signatures
    let key : RoutineKey := ⟨"foo".toList, .procedure⟩
    (∀ s ∈ sigs, s.file.same p = true) ∧
      key ∈ ((empty.replaceFile p sigs).2.replaceFile p sigs).1 := by
  intro p sigs key
  have hsigs : ∀ s ∈ sigs, s.file.same p = true := by decide +kernel
  obtain ⟨-, -, hagain⟩ := Reachable.replaceFile_names .empty hsigs
  exact ⟨hsigs, (hagain key).2 (by decide +kernel)⟩

/-- The second time around, that routine is named although its definition stays as it was. -/
theorem replaceFile_names_unchanged :
    let p := Path.ofString "a.pro"
    let sigs := (Analysis.read p "pro foo\nend\npro foo, x\nend\n".toList).record.signatures
    let key : RoutineKey := ⟨"foo".toList, .procedure⟩
    let t := (empty.replaceFile p sigs).2
    (t.replaceFile p sigs).1 = [key] ∧
      (t.replaceFile p sigs).2.definitionIn? p key = t.definitionIn? p key := by
  decide +kernel

end SymbolTable

end RoutineAtlas
