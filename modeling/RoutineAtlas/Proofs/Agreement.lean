import RoutineAtlas.Proofs.Interface
import RoutineAtlas.Proofs.LetterCase.Text
import RoutineAtlas.Proofs.SymbolTable

/-!
# Tables that agree but for some keys

Replacing or removing a file names the keys whose interface changed. For every other key the table
keeps, definition by definition, the file and the interface. A file none of whose calls names a
changed key is therefore checked to the same result against both tables, and so is the replaced
file itself, which does not see its own routines.

## Main definitions

* `SymbolTable.AgreeBut` — the agreement of two tables but for some keys.
* `SymbolTable.check_eq_of_agreeBut` — what a file that calls none of these keys is told.
-/

namespace RoutineAtlas

/-- What the table shows of a definition: the file it is from, and its interface. -/
def Signature.seen (d : Signature) : List PathPart × Interface :=
  (d.file.parts, d.interface)

namespace SymbolTable

variable {t t' t'' : SymbolTable} {path q : Path} {key : RoutineKey}
  {changed more : List RoutineKey}

/-- The tables show the same definitions, in the same order, of every key that is not `changed`. -/
def AgreeBut (changed : List RoutineKey) (t t' : SymbolTable) : Prop :=
  ∀ key, key ∉ changed → (t.definitions key).map Signature.seen =
    (t'.definitions key).map Signature.seen

theorem AgreeBut.refl (changed : List RoutineKey) (t : SymbolTable) : AgreeBut changed t t :=
  fun _ _ => rfl

theorem AgreeBut.trans (h : AgreeBut changed t t') (h' : AgreeBut more t' t'') :
    AgreeBut (changed ++ more) t t'' := by
  intro key hkey
  rw [List.mem_append, not_or] at hkey
  exact (h key hkey.1).trans (h' key hkey.2)

theorem AgreeBut.mono (h : AgreeBut changed t t') (hsub : changed ⊆ more) : AgreeBut more t t' :=
  fun key hkey => h key fun hmem => hkey (hsub hmem)

/-! ## Operations keep the keys that they do not name -/

theorem map_seen_withDefinition {s d : Signature} {defs : List Signature}
    (hs : s.file.same path = true) (hfind : defs.find? (fun d => d.file.same path) = some d)
    (hd : d.interface = s.interface) :
    (withDefinition path s defs).map Signature.seen = defs.map Signature.seen := by
  induction defs with
  | nil => simp at hfind
  | cons first rest ih =>
    simp only [withDefinition]
    split
    · rename_i hfirst
      simp only [List.find?_cons, hfirst, Option.some.injEq] at hfind
      subst hfind
      have hparts : s.file.parts = first.file.parts := by
        rw [← Path.same_iff, Path.same_right hfirst, hs]
      split
      · rfl
      · simp [Signature.seen, hd, hparts]
    · rename_i hfirst
      simp only [List.find?_cons, hfirst] at hfind
      rw [List.map_cons, List.map_cons, ih hfind]

/-- A step of registration that is not named keeps what the table shows of the key. -/
theorem map_seen_of_not_changesInterface {s : Signature} (hs : s.file.same path = true)
    (h : t.changesInterface path s = false) :
    (withDefinition path s (t.definitions s.key)).map Signature.seen =
      (t.definitions s.key).map Signature.seen := by
  unfold changesInterface definitionIn? at h
  cases hfind : (t.definitions s.key).find? fun d => d.file.same path with
  | none => simp [hfind] at h
  | some d =>
    rw [hfind, Bool.not_eq_false', Signature.sameInterface_iff] at h
    exact map_seen_withDefinition hs hfind h

theorem agreeBut_register (h : t.WellFormed) {sigs : List Signature}
    (hsigs : ∀ s ∈ sigs, s.file.same path = true) :
    AgreeBut (t.register path sigs).1 t (t.register path sigs).2 := by
  induction sigs generalizing t with
  | nil => exact .refl _ t
  | cons s rest ih =>
    obtain ⟨hs, hrest⟩ := List.forall_mem_cons.1 hsigs
    intro key hkey
    rw [register_cons] at hkey ⊢
    have hlater : key ∉ ((t.update s.key (withDefinition path s)).register path rest).1 := by
      intro hmem
      apply hkey
      dsimp only
      split
      · exact List.mem_cons_of_mem _ hmem
      · exact hmem
    rw [← ih (h.updateDefinition path s) hrest key hlater, definitions_update h]
    split
    · rename_i heq
      subst heq
      have hnot : t.changesInterface path s = false := by
        cases hc : t.changesInterface path s with
        | false => rfl
        | true => simp [hc] at hkey
      exact (map_seen_of_not_changesInterface hs hnot).symm
    · rfl

theorem agreeBut_replaceFile (h : t.WellFormed) {sigs : List Signature}
    (hsigs : ∀ s ∈ sigs, s.file.same path = true) :
    AgreeBut (t.replaceFile path sigs).1 t (t.replaceFile path sigs).2 := by
  have hcleared : AgreeBut (t.droppedKeys path sigs) t (t.clearedFor path sigs) := by
    intro key hkey
    rw [definitions_clearedFor h, if_neg hkey]
  have hregister := agreeBut_register (h.clearedFor path sigs) hsigs
  refine (hcleared.trans hregister).mono ?_
  rw [replaceFile_fst]
  exact fun key hkey => List.mem_eraseDups.2 hkey

theorem agreeBut_removeFile (h : t.WellFormed) (path : Path) :
    AgreeBut (t.removeFile path).1 t (t.removeFile path).2 := by
  intro key hkey
  rw [removeFile_fst] at hkey
  rw [definitions_removeFile h, if_neg hkey]

/-! ## What a file is answered -/

theorem map_seen_withoutFile (q : Path) (defs : List Signature) :
    (withoutFile q defs).map Signature.seen =
      (defs.map Signature.seen).filter fun x => !(x.1 == q.parts) := by
  rw [List.filter_map]
  rfl

theorem map_interface_routineOutside?
    (h : (t.definitions key).map Signature.seen = (t'.definitions key).map Signature.seen)
    (q : Path) :
    (t.routineOutside? q key).map Signature.interface =
      (t'.routineOutside? q key).map Signature.interface := by
  have hview (u : SymbolTable) : (u.routineOutside? q key).map Signature.interface =
      (((u.definitions key).map Signature.seen).filter
        fun x => !(x.1 == q.parts)).getLast?.map (·.2) := by
    rw [← map_seen_withoutFile, List.getLast?_map, Option.map_map]
    rfl
  rw [hview, hview, h]

/-- The keys of the methods of that name that some other file defines. -/
def methodsOutside (t : SymbolTable) (q : Path) (name : Text) (isFunction : Bool) :
    List RoutineKey :=
  (t.methodsNamed name isFunction).filter fun key => (t.routineOutside? q key).isSome

/-- A method without a class is resolved by the number of keys, not of definitions. -/
theorem methodOutside?_eq (t : SymbolTable) (q : Path) (name : Text) (isFunction : Bool) :
    t.methodOutside? q name isFunction =
      match t.methodsOutside q name isFunction with
      | [key] => t.routineOutside? q key
      | _ => none := by
  have hkeys : (t.methodsNamed name isFunction).filterMap (t.routineOutside? q) =
      (t.methodsOutside q name isFunction).filterMap (t.routineOutside? q) := by
    rw [methodsOutside, List.filterMap_filter]
    apply List.filterMap_congr
    intro key _
    cases t.routineOutside? q key <;> rfl
  have hsome : ∀ key ∈ t.methodsOutside q name isFunction,
      ∃ s, t.routineOutside? q key = some s := by
    intro key hkey
    exact Option.isSome_iff_exists.1 (List.mem_filter.1 hkey).2
  rw [methodOutside?, hkeys]
  cases hlist : t.methodsOutside q name isFunction with
  | nil => rfl
  | cons key rest =>
    obtain ⟨s, hs⟩ := hsome key (by simp [hlist])
    cases rest with
    | nil => simp [hs]
    | cons key' rest =>
      obtain ⟨s', hs'⟩ := hsome key' (by simp [hlist])
      simp [hs, hs']

theorem mem_methodsOutside {name : Text} {isFunction : Bool} :
    key ∈ t.methodsOutside q name isFunction ↔
      (key.kind.isMethod && key.kind.isFunction == isFunction && key.methodName.sameName name) =
        true ∧ (t.routineOutside? q key).isSome = true := by
  simp only [methodsOutside, methodsNamed, keysWhere, List.mem_filter, List.mem_mergeSort]
  constructor
  · rintro ⟨⟨-, hname⟩, hsome⟩
    exact ⟨hname, hsome⟩
  · rintro ⟨hname, hsome⟩
    refine ⟨⟨mem_keys_of_definitions ?_, hname⟩, hsome⟩
    intro hnone
    simp [routineOutside?, hnone, withoutFile] at hsome

theorem WellFormed.nodup_methodsOutside (h : t.WellFormed) (q : Path) (name : Text)
    (isFunction : Bool) : (t.methodsOutside q name isFunction).Nodup := by
  refine List.Nodup.filter _ ?_
  exact (List.mergeSort_perm _ _).nodup_iff.2 (h.nodup.filter _)

/-- If every key of a method name is answered alike, then so is the name. -/
theorem map_interface_methodOutside? (ht : t.WellFormed) (ht' : t'.WellFormed)
    {name : Text} {isFunction : Bool}
    (h : ∀ key : RoutineKey, key.kind.isMethod = true → key.kind.isFunction = isFunction →
      key.methodName.sameName name = true →
      (t.routineOutside? q key).map Signature.interface =
        (t'.routineOutside? q key).map Signature.interface) :
    (t.methodOutside? q name isFunction).map Signature.interface =
      (t'.methodOutside? q name isFunction).map Signature.interface := by
  have hiff (key : RoutineKey) : key ∈ t.methodsOutside q name isFunction ↔
      key ∈ t'.methodsOutside q name isFunction := by
    rw [mem_methodsOutside, mem_methodsOutside, and_congr_right_iff]
    intro hname
    simp only [Bool.and_eq_true, beq_iff_eq] at hname
    have hkey := h key hname.1.1 hname.1.2 hname.2
    rw [← Option.isSome_map (f := Signature.interface), hkey, Option.isSome_map]
  have hperm : (t.methodsOutside q name isFunction).Perm (t'.methodsOutside q name isFunction) :=
    (List.perm_ext_iff_of_nodup (ht.nodup_methodsOutside q name isFunction)
      (ht'.nodup_methodsOutside q name isFunction)).2 hiff
  rw [methodOutside?_eq, methodOutside?_eq]
  cases hlist : t.methodsOutside q name isFunction with
  | nil =>
    rw [hlist] at hperm
    rw [← hperm.nil_eq]
  | cons key rest =>
    rw [hlist] at hperm
    cases rest with
    | nil =>
      have hmem : key ∈ t.methodsOutside q name isFunction := by simp [hlist]
      have hname := (mem_methodsOutside.1 hmem).1
      simp only [Bool.and_eq_true, beq_iff_eq] at hname
      rw [← List.singleton_perm.1 hperm]
      exact h key hname.1.1 hname.1.2 hname.2
    | cons key' rest =>
      have hlength := hperm.length_eq
      match hlist' : t'.methodsOutside q name isFunction with
      | [] => simp [hlist'] at hlength
      | [_] => simp [hlist'] at hlength
      | _ :: _ :: _ => rfl

/-- A call is answered alike if all keys that it may mean are. -/
theorem map_interface_answer (ht : t.WellFormed) (ht' : t'.WellFormed) {c : CallSite}
    (h : ∀ key, c.names key = true → (t.routineOutside? q key).map Signature.interface =
      (t'.routineOutside? q key).map Signature.interface) :
    ((t.excluding q).answer c).map Signature.interface =
      ((t'.excluding q).answer c).map Signature.interface := by
  unfold RoutineLookup.answer
  split
  · rename_i hmethod
    apply map_interface_methodOutside? ht ht'
    intro key hkind hfunction hname
    -- a kind is determined by being a method and being a function
    have hkinds : c.kind = key.kind := by
      have hcall : c.kind.isMethod = true := (Bool.and_eq_true_iff.1 hmethod).1
      cases hk : key.kind <;> cases hc : c.kind <;>
        simp_all [RoutineKind.isMethod, RoutineKind.isFunction]
    apply h key
    simp [CallSite.names, hkinds, hmethod, hname]
  · rename_i hmethod
    apply h c.key
    simp [CallSite.names, hmethod, CallSite.key, RoutineKey.of, Text.sameName]

/-- A file that calls none of the changed keys is told the same by both tables. -/
theorem check_eq_of_agreeBut (ht : t.WellFormed) (ht' : t'.WellFormed)
    (h : AgreeBut changed t t') (q : Path) {a : Analysis}
    (hcalls : ∀ key ∈ changed, a.record.callsTo key = []) :
    a.check (t.excluding q) = a.check (t'.excluding q) := by
  apply Analysis.check_congr
  intro c hc
  apply map_interface_answer ht ht'
  intro key hnames
  apply map_interface_routineOutside?
  apply h key
  intro hkey
  have hnone := hcalls key hkey
  rw [Record.callsTo_eq, List.filter_eq_nil_iff] at hnone
  exact hnone c hc hnames

/-- A file is told the same before and after its own definitions are replaced. -/
theorem check_replaceFile_self (h : t.WellFormed) {sigs : List Signature}
    (hsigs : ∀ s ∈ sigs, s.file.same path = true) (a : Analysis) :
    a.check ((t.replaceFile path sigs).2.excluding path) = a.check (t.excluding path) := by
  apply Analysis.check_congr
  intro c _
  apply map_interface_answer (h.replaceFile path sigs) h
  intro key _
  rw [routineOutside?, withoutFile_replaceFile_self h hsigs]
  rfl

end SymbolTable

end RoutineAtlas
