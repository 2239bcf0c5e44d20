import RoutineAtlas.Proofs.Interface
import RoutineAtlas.Proofs.Record

/-!
# Reading a text under another path

The path that a text is read under is only passed along, into the signatures of its routines. So the
same text read under two paths gives one analysis, moved from the one path to the other, and since a
check sees of a signature no more than its interface, both are checked to the same result.

## Main definitions

* `Analysis.movedTo` — the analysis under another path.
* `Analysis.read_eq_movedTo` — reading under one path is reading under any other, and moving.
* `Analysis.check_movedTo` — moving an analysis changes no check.
-/

namespace RoutineAtlas

/-- The routine as one of another file. -/
def Signature.movedTo (file : Path) (s : Signature) : Signature :=
  { s with file := file }

/-- Two signatures are the same if moving one to the file of the other makes them equal. -/
theorem Signature.same_iff {s t : Signature} :
    s.same t = true ↔ s.file.same t.file = true ∧ s = t.movedTo s.file := by
  simp [same, movedTo]

theorem Signature.same_movedTo (s : Signature) {p q : Path} (h : p.same q = true) :
    (s.movedTo p).same (s.movedTo q) = true :=
  same_iff.2 ⟨h, rfl⟩

theorem Signature.same_symm {s t : Signature} (h : s.same t = true) : t.same s = true := by
  obtain ⟨hfile, heq⟩ := same_iff.1 h
  refine same_iff.2 ⟨by rw [Path.same_comm, hfile], ?_⟩
  rw [heq]
  rfl

theorem Signature.same_trans {s t u : Signature} (h : s.same t = true) (h' : t.same u = true) :
    s.same u = true := by
  obtain ⟨hfile, heq⟩ := same_iff.1 h
  obtain ⟨hfile', heq'⟩ := same_iff.1 h'
  refine same_iff.2 ⟨Path.same_trans hfile hfile', ?_⟩
  calc s = t.movedTo s.file := heq
    _ = (u.movedTo t.file).movedTo s.file := by rw [← heq']
    _ = u.movedTo s.file := rfl

def Routine.movedTo (file : Path) (r : Routine) : Routine :=
  { r with signature := r.signature.movedTo file }

def Record.movedTo (file : Path) (r : Record) : Record :=
  { r with routines := r.routines.map (Routine.movedTo file) }

theorem Record.signatures_movedTo (file : Path) (r : Record) :
    (r.movedTo file).signatures = r.signatures.map (Signature.movedTo file) := by
  simp only [signatures, movedTo, List.map_map]
  rfl

/-- The analysis under another path. -/
def Analysis.movedTo (path : Path) (a : Analysis) : Analysis :=
  { a with path := path, record := a.record.movedTo path }

/-! ## Reading -/

theorem Header.read_eq_movedTo (file file' : Path) (word : Token) (after : List Token) :
    Header.read file word after =
      ⟨(Header.read file' word after).signature.map (Signature.movedTo file),
        (Header.read file' word after).problems⟩ := by
  cases after with
  | nil => rfl
  | cons name rest =>
    simp only [Header.read]
    split <;> rfl

namespace Outline

variable {file : Path}

/-- The outline as one of another file. -/
def movedTo (file : Path) (o : Outline) : Outline :=
  { o with routines := o.routines.map (Routine.movedTo file) }

theorem abandon_movedTo (o : Outline) : (o.movedTo file).abandon = o.abandon.movedTo file := by
  obtain ⟨routines, scopes, problems, openRoutine, mainScope, mainDepth⟩ := o
  cases openRoutine <;> rfl

theorem begin_movedTo (o : Outline) (s : Signature) :
    (o.movedTo file).begin (s.movedTo file) = (o.begin s).movedTo file := by
  have hrepeated : (o.movedTo file).redefinition (s.movedTo file) = o.redefinition s := by
    simp only [redefinition, movedTo, List.any_map]
    rfl
  rw [begin, hrepeated]
  simp only [begin, movedTo, List.map_append, List.length_map]
  rfl

theorem addHeader_movedTo (file' : Path) (o : Outline) (word : Token) (after : List Token) :
    (o.movedTo file).addHeader file word after = (o.addHeader file' word after).movedTo file := by
  have hread := Header.read_eq_movedTo file file' word after
  simp only [addHeader, hread]
  cases (Header.read file' word after).signature with
  | none => rfl
  | some s =>
    exact begin_movedTo { o with
      problems := o.problems ++ (Header.read file' word after).problems } s

theorem close_movedTo (o : Outline) (r : OpenRoutine) (s : Statement) :
    (o.movedTo file).close r s = (o.close r s).movedTo file := by
  have hroutines : ((o.routines.map (Routine.movedTo file)).modify r.routine
      fun routine => { routine with closed := true }) =
      (o.routines.modify r.routine fun routine => { routine with closed := true }).map
        (Routine.movedTo file) := modify_map (fun _ => by rfl) o.routines r.routine
  simp only [close, movedTo, hroutines]

theorem addToRoutine_movedTo (o : Outline) (r : OpenRoutine) (s : Statement) :
    (o.movedTo file).addToRoutine r s = (o.addToRoutine r s).movedTo file := by
  rw [addToRoutine, addToRoutine]
  by_cases hend : (s.isSingle "end" && r.depth == 0) = true
  · rw [if_pos hend, if_pos hend, close_movedTo]
  · rw [if_neg hend, if_neg hend]
    rfl

theorem withMain_movedTo (o : Outline) (start : Span) : (o.movedTo file).withMain start =
    ((o.withMain start).1, (o.withMain start).2.movedTo file) := by
  obtain ⟨routines, scopes, problems, openRoutine, mainScope, mainDepth⟩ := o
  cases mainScope <;> rfl

theorem addToMain_movedTo (o : Outline) (first : Token) (s : Statement) :
    (o.movedTo file).addToMain first s = (o.addToMain first s).movedTo file := by
  have hdepth : (o.movedTo file).mainDepth = o.mainDepth := rfl
  rw [addToMain, addToMain, hdepth, withMain_movedTo]
  by_cases hend : (s.isSingle "end" && o.mainDepth == 0) = true
  · rw [if_pos hend, if_pos hend]
  · rw [if_neg hend, if_neg hend]
    rfl

/-- One statement is read alike under both paths. -/
theorem add_movedTo (file' : Path) (o : Outline) (s : Statement) :
    add file (o.movedTo file) s = (add file' o s).movedTo file := by
  cases s with
  | nil => rfl
  | cons first after =>
    have hopen : (o.movedTo file).openRoutine = o.openRoutine := rfl
    cases hstarts : first.startsRoutine with
    | true =>
      simp only [add, hstarts, if_true]
      rw [abandon_movedTo, addHeader_movedTo file']
    | false =>
      simp only [add, hstarts, hopen, Bool.false_eq_true, if_false]
      cases o.openRoutine with
      | some r => exact addToRoutine_movedTo o r _
      | none => exact addToMain_movedTo o first _

theorem ofStatements_eq_movedTo (file file' : Path) (ss : List Statement) :
    ofStatements file ss = (ofStatements file' ss).movedTo file := by
  have hfold : ∀ o : Outline,
      ss.foldl (add file) (o.movedTo file) = (ss.foldl (add file') o).movedTo file := by
    induction ss with
    | nil => exact fun o => rfl
    | cons s ss ih =>
      intro o
      rw [List.foldl_cons, List.foldl_cons, add_movedTo file', ih]
  rw [ofStatements, ofStatements, ← abandon_movedTo, ← hfold]
  rfl

end Outline

namespace Analysis

/-- A text read under some path is the same text read under another one, and moved. -/
theorem read_eq_movedTo (path path' : Path) (text : Text) :
    Analysis.read path text = (Analysis.read path' text).movedTo path := by
  have houtline := Outline.ofStatements_eq_movedTo path path'
    (Statement.split (TokenStream.ofLines text.sourceLines).tokens)
  simp only [Analysis.read, Record.ofTokens, houtline]
  rfl

/-! ## Checking -/

variable (a : Analysis) (path : Path) (l : RoutineLookup)

/-- Moving an analysis changes no check. -/
theorem check_movedTo : (a.movedTo path).check l = a.check l := by
  have hdocs : (a.movedTo path).checkDocs = a.checkDocs := by
    rw [checkDocs, checkDocs, show (a.movedTo path).record.signatures = _ from
      a.record.signatures_movedTo path, List.flatMap_map]
    rfl
  have hcalls : (a.movedTo path).checkCalls l = a.checkCalls l :=
    List.flatMap_congr fun c _ => c.map_check_congr
      (resolveCall_congr (a.record.signatures_movedTo path) (fun _ => rfl) rfl rfl rfl)
  rw [check, check, hdocs, hcalls]
  rfl

end Analysis

end RoutineAtlas
