import RoutineAtlas.Proofs.Mirror
import RoutineAtlas.Proofs.Respelling
import RoutineAtlas.Proofs.Selection
import RoutineAtlas.Proofs.Stored
import RoutineAtlas.Query.Location

/-!
# From calls to definitions and back

A call is resolved in its own file first, and else through the table of all files: by key, or by the
bare name of a method if only one class has it. The way back asks every file for the calls that may
mean a routine, and keeps those that are resolved to it. In every workspace that a session can come
to, the two ways are inverse: a call is among the references of the routine that it means, and each
reference leads to the routine.

What the table has of a routine may spell the path of its file differently from what the file has,
so routines are compared by `Signature.same`.

## Main definitions

* `Workspace.HasUrls` — all paths that the workspace holds have a URL.
* `Workspace.select?_call`, `Workspace.select?_header` — what is selected at the start of a name.
* `Workspace.exists_definition` — whatever a call means is defined in a file of the workspace.
* `Session.definition_references_inverse` — both ways, after every run.
-/

namespace RoutineAtlas

/-! ## What a call means -/

theorem RoutineKind.eq_of_flags {k l : RoutineKind} (hmethod : k.isMethod = l.isMethod)
    (hfunction : k.isFunction = l.isFunction) : k = l := by
  cases k <;> cases l <;> simp_all [isMethod, isFunction]

namespace CallSite

variable {c : CallSite} {key : RoutineKey}

theorem names_key (h : ¬c.isUnqualifiedMethod = true) : c.names c.key = true := by
  simp [names, h, CallSite.key, RoutineKey.of, Text.sameName]

theorem names_of_methodName (h : c.isUnqualifiedMethod = true) (hkind : key.kind = c.kind)
    (hname : key.methodName.sameName c.name = true) : c.names key = true := by
  simp [names, h, hkind, hname]

end CallSite

/-- A routine that a call means is one of the file, or one that the lookup answers with. -/
theorem Analysis.of_resolveCall {a : Analysis} {lookup : RoutineLookup} {c : CallSite}
    {s : Signature} (h : a.resolveCall lookup c = some s) :
    (s ∈ a.record.signatures ∧ c.names s.key = true) ∨ lookup.answer c = some s := by
  unfold resolveCall at h
  unfold RoutineLookup.answer
  split at h
  · rename_i hmethod
    rw [if_pos hmethod]
    split at h
    · exact .inr h
    · rename_i own hown
      obtain rfl := Option.some.inj h
      have hmem : own ∈ a.ownMethods c := by simp [hown]
      obtain ⟨hmem, hname⟩ := List.mem_filter.1 hmem
      rw [Bool.and_eq_true, beq_iff_eq] at hname
      exact .inl ⟨hmem, CallSite.names_of_methodName hmethod hname.1 hname.2⟩
    · cases h
  · rename_i hmethod
    rw [if_neg hmethod]
    split at h
    · rename_i own hown
      obtain rfl := Option.some.inj h
      obtain ⟨hmem, hkey⟩ := List.mem_filter.1 (List.mem_of_getLast? hown)
      refine .inl ⟨hmem, ?_⟩
      rw [eq_of_beq hkey]
      exact CallSite.names_key hmethod
    · exact .inr h

namespace SymbolTable

variable {t : SymbolTable} {q : Path} {key : RoutineKey} {s : Signature}

theorem exists_entry (hs : s ∈ t.definitions key) : ∃ defs, (key, defs) ∈ t.entries ∧ s ∈ defs := by
  unfold definitions at hs
  cases hlookup : t.entries.lookup key with
  | none => simp [hlookup] at hs
  | some defs =>
    rw [hlookup] at hs
    obtain ⟨before, after, hentries, -⟩ := List.lookup_eq_some_iff.1 hlookup
    exact ⟨defs, by simp [hentries], hs⟩

theorem WellFormed.key_of_mem (h : t.WellFormed) (hs : s ∈ t.definitions key) : s.key = key := by
  obtain ⟨defs, hentry, hs⟩ := exists_entry hs
  exact h.keyed (key, defs) hentry s hs

theorem WellFormed.definitions_of_mem (h : t.WellFormed) {entry : RoutineKey × List Signature}
    (hentry : entry ∈ t.entries) : t.definitions entry.1 = entry.2 := by
  obtain ⟨before, after, hentries⟩ := List.append_of_mem hentry
  have hlookup : t.entries.lookup entry.1 = some entry.2 := by
    refine List.lookup_eq_some_iff.2 ⟨before, after, hentries, ?_⟩
    intro other hother
    have hnodup := h.nodup
    rw [hentries, List.map_append, List.map_cons, List.nodup_append] at hnodup
    rw [bne_iff_ne]
    exact (hnodup.2.2 _ (List.mem_map_of_mem hother) _ (by simp)).symm
  rw [definitions, hlookup, Option.getD_some]

theorem mem_of_routineOutside? (h : t.routineOutside? q key = some s) : s ∈ t.definitions key :=
  List.mem_of_mem_filter (List.mem_of_getLast? h)

/-- What the table answers a call with is a definition that the call may mean. -/
theorem WellFormed.of_answer (h : t.WellFormed) {c : CallSite}
    (hs : (t.excluding q).answer c = some s) :
    s ∈ t.definitions s.key ∧ c.names s.key = true := by
  unfold RoutineLookup.answer at hs
  split at hs
  · rename_i hmethod
    have hfound : t.methodOutside? q c.name c.kind.isFunction = some s := hs
    rw [methodOutside?_eq] at hfound
    split at hfound
    · rename_i key hkeys
      have hmem := mem_of_routineOutside? hfound
      have hkey : key ∈ t.methodsOutside q c.name c.kind.isFunction := by simp [hkeys]
      have hname := (mem_methodsOutside.1 hkey).1
      simp only [Bool.and_eq_true, beq_iff_eq] at hname
      have hcall : c.kind.isMethod = true := (Bool.and_eq_true_iff.1 hmethod).1
      have hkind : key.kind = c.kind :=
        RoutineKind.eq_of_flags (hname.1.1.trans hcall.symm) hname.1.2
      rw [h.key_of_mem hmem]
      exact ⟨hmem, CallSite.names_of_methodName hmethod hkind hname.2⟩
    · cases hfound
  · rename_i hmethod
    have hmem := mem_of_routineOutside? hs
    rw [h.key_of_mem hmem]
    exact ⟨hmem, CallSite.names_key hmethod⟩

end SymbolTable

/-! ## Selections in a workspace -/

theorem FileEntry.IsReading.unambiguous {e : FileEntry} (h : e.IsReading) :
    e.analysis.record.Unambiguous := by
  obtain ⟨text, problems, heq⟩ := h
  rw [heq]
  exact Analysis.unambiguous_read e.path text

namespace Workspace

/-- All paths that the workspace holds, those of its files and those in its table, have a URL. -/
structure HasUrls (w : Workspace) : Prop where
  files : ∀ e ∈ w.entries, (documentUrl? e.path).isSome = true
  routines : ∀ entry ∈ w.table.entries, ∀ s ∈ entry.2, (documentUrl? s.file).isSome = true

variable {w : Workspace} {p : Path} {e : FileEntry} {c : CallSite} {s s' : Signature}

/-- The locations of all calls that mean a routine. -/
def locationsOfCalls (w : Workspace) (s : Signature) : List Location :=
  w.entries.flatMap fun entry =>
    (w.callsMeaning s entry).filterMap fun c => Location.of? entry.path c.span

theorem mem_callsMeaning : c ∈ w.callsMeaning s e ↔ c ∈ e.analysis.record.calls ∧
    c.names s.key = true ∧
      ∃ s', e.analysis.resolveCall (w.lookup e.path) c = some s' ∧ s'.same s = true := by
  rw [callsMeaning, Record.callsTo_eq, List.mem_filter, List.mem_filter, and_assoc,
    Option.any_eq_true]

section

variable (h : w.StoresReadings) (he : w.file? p = some e)
include h he

/-- At the start of a call's name, what the call means is selected. -/
theorem select?_call (hc : c ∈ e.analysis.record.calls) : w.select? p c.span.startCursor =
    (e.analysis.resolveCall (w.lookup p) c).map fun s => .routine s c.span false := by
  rw [← Selection.find?_call (h.readings p e he).unambiguous (w.lookup p) hc, select?, he]
  rfl

/-- At the start of its name in its header, a routine is selected. -/
theorem select?_header (hs : s ∈ e.analysis.record.signatures) :
    w.select? p s.nameSpan.startCursor = some (.routine s s.nameSpan true) := by
  rw [← Selection.find?_header (h.readings p e he).unambiguous (w.lookup p) hs, select?, he]
  rfl

theorem references?_header (hs : s ∈ e.analysis.record.signatures) :
    w.references? p s.nameSpan.startCursor = some (w.locationsOfCalls s) := by
  rw [references?, select?_header h he hs]
  rfl

theorem definition?_call (hc : c ∈ e.analysis.record.calls)
    (hs : e.analysis.resolveCall (w.lookup p) c = some s) :
    w.definition? p c.span.startCursor = (Location.of? s.file s.nameSpan).map ([·]) := by
  rw [definition?, select?_call h he hc, hs]
  cases hlocation : Location.of? s.file s.nameSpan <;> simp [hlocation]

end

section

variable (hw : w.Sound) (h : w.StoresReadings) (hlists : w.table.Lists w.signaturesAt)
include hw h hlists

/-- Whatever a call means is defined in a file of the workspace, and the call is one that may mean
it. -/
theorem exists_definition (he : w.file? p = some e)
    (hs : e.analysis.resolveCall (w.lookup p) c = some s) :
    c.names s.key = true ∧ ∃ e', w.file? s.file = some e' ∧
      ∃ s' ∈ e'.analysis.record.signatures, s.same s' = true := by
  rcases Analysis.of_resolveCall hs with ⟨hmem, hnames⟩ | hanswer
  · have hfile : s.file = e.path := (h.readings p e he).isOf s hmem
    refine ⟨hnames, e, ?_, s, hmem, s.same_self⟩
    rw [hfile, ← he]
    exact PathMap.get?_congr _ (hw.placed p e he)
  · obtain ⟨hmem, hnames⟩ := hlists.wellFormed.of_answer hanswer
    obtain ⟨e', he'⟩ := (mirrorsFiles_of_lists hlists).stored s.key s hmem
    refine ⟨hnames, e', he', ?_⟩
    -- the table has one definition of the key from the file: the last one of its record
    have hdefs := hlists.defs s.file s.key
    have hown : s ∈ SymbolTable.ofFile s.file (w.table.definitions s.key) :=
      List.mem_filter.2 ⟨hmem, Path.same_self _⟩
    rw [signaturesAt, he', Option.map_some, Option.getD_some] at hdefs
    cases hlast : lastOf e'.analysis.record.signatures s.key with
    | none =>
      rw [hlast] at hdefs
      rw [show SymbolTable.ofFile s.file (w.table.definitions s.key) = [] from hdefs] at hown
      cases hown
    | some s' =>
      rw [hlast] at hdefs
      obtain ⟨d, hd, hsame⟩ := hdefs
      rw [hd, List.mem_singleton] at hown
      exact ⟨s', List.mem_of_mem_filter (List.mem_of_getLast? hlast), hown ▸ hsame⟩

/-- It is enough that whatever path has a file has a URL. -/
theorem hasUrls_of_file? (hurls : ∀ p, (w.file? p).isSome = true → (documentUrl? p).isSome = true) :
    w.HasUrls where
  files := by
    intro e he
    apply hurls
    simp [h.file?_of_mem_entries hw he]
  routines := by
    intro entry hentry s hs
    apply hurls
    rw [← hlists.wellFormed.definitions_of_mem hentry] at hs
    obtain ⟨e, he⟩ := (mirrorsFiles_of_lists hlists).stored entry.1 s hs
    simp [he]

end

theorem HasUrls.of_resolveCall (hurls : w.HasUrls) (h : w.StoresReadings)
    (hwf : w.table.WellFormed) (he : w.file? p = some e)
    (hs : e.analysis.resolveCall (w.lookup p) c = some s) :
    (documentUrl? s.file).isSome = true := by
  rcases Analysis.of_resolveCall hs with ⟨hmem, -⟩ | hanswer
  · rw [(h.readings p e he).isOf s hmem]
    exact hurls.files e (mem_entries_of_file? he)
  · obtain ⟨defs, hentry, hs⟩ := SymbolTable.exists_entry (hwf.of_answer hanswer).1
    exact hurls.routines _ hentry s hs

/-! ## Both ways -/

/-- The routine is defined in a file, it is selected at the start of its name there, and the call of
the other file is among its references. -/
structure LeadsBack (w : Workspace) (s : Signature) (e : FileEntry) (c : CallSite) : Prop where
  indexed : (w.file? s.file).isSome = true
  selected : ∃ s', s'.same s = true ∧
    w.select? s.file s.nameSpan.startCursor = some (.routine s' s.nameSpan true)
  listed : ∃ locations location, w.references? s.file s.nameSpan.startCursor = some locations ∧
    Location.of? e.path c.span = some location ∧ location ∈ locations

/-- The location is in a file, and from its start, however the path of the file is spelled, the name
of the routine in the file that defines it is found, and nothing else. -/
structure LeadsTo (w : Workspace) (location : Location) (s : Signature) (e : FileEntry) :
    Prop where
  indexed : w.file? e.path = some e
  url : documentUrl? e.path = some location.url
  found : ∀ q : Path, q.same e.path = true → ∃ (s' : Signature) (target : Location),
    s'.same s = true ∧ Location.of? s'.file s'.nameSpan = some target ∧
      w.definition? q location.range.start = some [target]

variable (hw : w.Sound) (h : w.StoresReadings) (hlists : w.table.Lists w.signaturesAt)
  (hurls : w.HasUrls)
include hw h hlists hurls

theorem leadsBack (he : w.file? p = some e) (hc : c ∈ e.analysis.record.calls)
    (hs : e.analysis.resolveCall (w.lookup p) c = some s) : w.LeadsBack s e c := by
  obtain ⟨hnames, e', he', s', hs', hsame⟩ := exists_definition hw h hlists he hs
  obtain ⟨-, heq⟩ := Signature.same_iff.1 hsame
  have hspan : s.nameSpan = s'.nameSpan := by rw [heq]; rfl
  have hkey : s.key = s'.key := by rw [heq]; rfl
  refine ⟨by simp [he'], ⟨s', Signature.same_symm hsame, ?_⟩, w.locationsOfCalls s', ?_⟩
  · rw [hspan]
    exact select?_header h he' hs'
  · obtain ⟨url, hurl⟩ := Option.isSome_iff_exists.1 (hurls.files e (mem_entries_of_file? he))
    have hlocation : Location.of? e.path c.span = some ⟨url, c.span.range⟩ := by
      rw [Location.of?, hurl]
      rfl
    refine ⟨⟨url, c.span.range⟩, ?_, hlocation, ?_⟩
    · rw [hspan]
      exact references?_header h he' hs'
    · have hlookup : w.lookup e.path = w.lookup p :=
        w.table.excluding_congr (hw.placed p e he)
      have hmeaning : c ∈ w.callsMeaning s' e :=
        mem_callsMeaning.2 ⟨hc, hkey ▸ hnames, s, hlookup ▸ hs, hsame⟩
      exact List.mem_flatMap.2 ⟨e, mem_entries_of_file? he,
        List.mem_filterMap.2 ⟨c, hmeaning, hlocation⟩⟩

theorem leadsTo {location : Location} (hlocation : location ∈ w.locationsOfCalls s) :
    ∃ e, w.LeadsTo location s e := by
  obtain ⟨e, hmem, hfound⟩ := List.mem_flatMap.1 hlocation
  obtain ⟨c, hmeaning, hof⟩ := List.mem_filterMap.1 hfound
  obtain ⟨hc, -, s', hs', hsame⟩ := mem_callsMeaning.1 hmeaning
  obtain ⟨url, hurl, rfl⟩ := Option.map_eq_some_iff.1 hof
  have he := h.file?_of_mem_entries hw hmem
  refine ⟨e, he, hurl, ?_⟩
  intro q hq
  have heq : w.file? q = some e := by
    rw [← he]
    exact PathMap.get?_congr _ hq
  have hresolve : e.analysis.resolveCall (w.lookup q) c = some s' := by
    rw [← hs', lookup, w.table.excluding_congr hq]
    rfl
  obtain ⟨target, htarget⟩ := Option.isSome_iff_exists.1
    (hurls.of_resolveCall h hlists.wellFormed heq hresolve)
  refine ⟨s', ⟨target, s'.nameSpan.range⟩, hsame, ?_, ?_⟩
  · rw [Location.of?, htarget]
    rfl
  · have hdefinition := definition?_call h heq hc hresolve
    rw [Location.of?, htarget] at hdefinition
    exact hdefinition

end Workspace

/-! ## Sessions -/

namespace Session

/-- After every run that commits only what was analysed for a submission, and where all paths have a
URL: the routine that is selected at the start of a call's name is defined in a file of the
workspace, is selected at the start of its name there, and has the call among its references; and
each reference of a routine leads to the name of the routine. -/
theorem definition_references_inverse (patterns : List Text) (steps : List Step)
    (hsteps : (start patterns).Obeys Submission.Own steps)
    (hurls : ((start patterns).run steps).workspace.HasUrls) :
    let w := ((start patterns).run steps).workspace
    (∀ p e, w.file? p = some e → ∀ c ∈ e.analysis.record.calls, ∀ s span atDefinition,
      w.select? p c.span.startCursor = some (.routine s span atDefinition) →
        w.LeadsBack s e c) ∧
    ∀ p e, w.file? p = some e → ∀ s ∈ e.analysis.record.signatures,
      ∃ locations, w.references? p s.nameSpan.startCursor = some locations ∧
        ∀ location ∈ locations, ∃ caller, w.LeadsTo location s caller := by
  intro w
  have hmirrored : ((start patterns).run steps).Mirrored :=
    run_invariant Mirrored.of_effect (mirrored_start patterns) hsteps
  have hstored : w.StoresReadings := storesReadings_run patterns hsteps
  refine ⟨?_, ?_⟩
  · intro p e he c hc s span atDefinition hselect
    rw [Workspace.select?_call hstored he hc, Option.map_eq_some_iff] at hselect
    obtain ⟨s', hs', heq⟩ := hselect
    obtain ⟨rfl, -, -⟩ := Selection.routine.inj heq
    exact Workspace.leadsBack hmirrored.sound hstored hmirrored.lists hurls he hc hs'
  · intro p e he s hs
    refine ⟨w.locationsOfCalls s, Workspace.references?_header hstored he hs, ?_⟩
    intro location hlocation
    exact Workspace.leadsTo hmirrored.sound hstored hmirrored.lists hurls hlocation

/-- A method that another file calls without its class: the call leads to the method, and the
references of the method lead to it. -/
theorem definition_references_inverse_method :
    let p := Path.ofString "/a.pro"
    let q := Path.ofString "/b.pro"
    let steps := [.index p "pro c::run, x\nend\n".toList true, .index q "o->run, 1\n".toList true]
    let w := ((start []).run steps).workspace
    let s : Signature := ⟨"c::run".toList, .procedureMethod, [⟨['x'], ⟨0, 12, 1⟩⟩], [], false, p,
      ⟨0, 4, 6⟩, ⟨0, 0, 3⟩, ⟨0, 12, 1⟩⟩
    let c : CallSite := ⟨"run".toList, .procedureMethod, ⟨0, 3, 3⟩, [], 1, 0, ⟨0, 8, 1⟩⟩
    let caller : FileEntry := ⟨q, 1, w.preview q "o->run, 1\n".toList true⟩
    w.file? q = some caller ∧ c ∈ caller.analysis.record.calls ∧
      w.select? q c.span.startCursor = some (.routine s c.span false) ∧ w.LeadsBack s caller c ∧
      ∃ locations, w.references? p s.nameSpan.startCursor = some locations ∧
        locations ≠ [] ∧ ∀ location ∈ locations, ∃ caller, w.LeadsTo location s caller := by
  intro p q steps w s c caller
  have hcaller : w.file? q = some caller := by decide +kernel
  have hcall : c ∈ caller.analysis.record.calls := by decide +kernel
  have hselect : w.select? q c.span.startCursor = some (.routine s c.span false) := by
    decide +kernel
  have hdefined : w.file? p = some ⟨p, 1, w.preview p "pro c::run, x\nend\n".toList true⟩ := by
    decide +kernel
  have hurls : w.HasUrls := by
    have hfiles : ∀ e ∈ w.files.values, (documentUrl? e.path).isSome = true := by decide +kernel
    exact ⟨fun e he => hfiles e (Workspace.mem_entries.1 he), by decide +kernel⟩
  obtain ⟨hback, hto⟩ := definition_references_inverse [] steps ⟨trivial, trivial, trivial⟩ hurls
  obtain ⟨locations, hreferences, hlead⟩ := hto p _ hdefined s (by decide +kernel)
  have hcallBack : w.LeadsBack s caller c := hback q caller hcaller c hcall s _ _ hselect
  refine ⟨hcaller, hcall, hselect, hcallBack, locations, hreferences, ?_, hlead⟩
  obtain ⟨listed, location, hlisted, -, hmem⟩ := hcallBack.listed
  obtain rfl := Option.some.inj (hreferences.symm.trans hlisted)
  exact List.ne_nil_of_mem hmem

end Session

end RoutineAtlas
