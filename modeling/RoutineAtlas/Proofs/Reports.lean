import RoutineAtlas.Analysis
import RoutineAtlas.Proofs.Endings
import RoutineAtlas.Proofs.Scoping

/-!
# Missing ends among the reports of a file

The reports of a file come from its tokens, from its documentation and from its structure, and are
sorted by where they start. Only the structure tells of missing ends, one for each routine that is
not closed, and no two routines start in the same place. So the missing ends that a file is reported
for can be read off its routines.

## Main definitions

* `Record.start_injOn` — no two routines start in the same place.
* `Analysis.withCode_missingEnd_read` — the missing ends of a file.
-/

namespace RoutineAtlas

open Problem (withCode)
open Routine (missingEnds)

/-! ## What is not reported while scanning -/

theorem Lexeme.fault_read_ne (leading : Bool) (c : Char) (cs : Text) :
    (Lexeme.read leading c cs).fault ≠ some .missingEnd := by
  have hlone : (lone c).fault ≠ some .missingEnd := by
    simp only [lone]
    split <;> simp
  unfold read
  split
  · simp [comment]
  · split
    · unfold lineContinuation
      dsimp only
      split <;> simp
    · split
      · simp
      · split
        · unfold quoted
          split
          · simp
          · split
            · simp
            · split <;> simp
        · split
          · simp
          · split
            · simp
            · split
              · simp [word]
              · unfold mark
                split
                · exact hlone
                · split
                  · simp
                  · exact hlone

theorem fault_ne_of_mem_scanFrom {line column skip : Nat} {leading : Bool} {cs : Text}
    {s : ScannedToken} (h : s ∈ scanFrom line column skip leading cs) :
    s.fault ≠ some .missingEnd := by
  fun_induction scanFrom line column skip leading cs with
  | case1 => cases h
  | case2 _ _ _ _ _ ih => exact ih h
  | case3 _ _ _ _ _ ih => exact ih h
  | case4 column leading c cs hblank lexeme token ih =>
    rcases List.mem_cons.1 h with rfl | h
    · exact Lexeme.fault_read_ne leading c cs
    · exact ih h

theorem fault_ne_of_mem_scanLinesFrom {first : Nat} {lines : List Text} {s : ScannedToken}
    (h : s ∈ scanLinesFrom first lines) : s.fault ≠ some .missingEnd := by
  induction lines generalizing first with
  | nil => cases h
  | cons line lines ih =>
    rcases List.mem_append.1 h with h | h
    · exact fault_ne_of_mem_scanFrom h
    · exact ih h

theorem TokenStream.withCode_missingEnd (lines : List Text) :
    withCode .missingEnd (ofLines lines).problems = [] := by
  refine Problem.withCode_eq_nil (List.forall_mem_append.2 ⟨?_, ?_⟩)
  · intro p hp hcode
    obtain ⟨s, hs, hproblem⟩ := List.mem_filterMap.1 hp
    obtain ⟨code, hfault, rfl⟩ := Option.map_eq_some_iff.1 hproblem
    have hnumber : code.number = ProblemCode.missingEnd.number := by
      split at hcode <;> exact hcode
    exact fault_ne_of_mem_scanLinesFrom hs
      (hfault.trans (congrArg some (ProblemCode.number_injective hnumber)))
  · intro p hp hcode
    obtain ⟨t, -, rfl⟩ := Option.map_eq_some_iff.1 (Option.mem_toList.1 hp)
    have hnumber : ProblemCode.danglingContinuation.number = ProblemCode.missingEnd.number := hcode
    exact absurd hnumber (by decide)

/-! ## What is not reported of documentation -/

namespace SectionList

/-- A line adds nothing to the reports, or that it is malformed. -/
theorem problems_add (s : SectionList) (full : Span) (line : DocLine) :
    (s.add full line).problems = s.problems ∨
      (s.add full line).problems = s.problems ++ [.plain .malformedDocEntry full] := by
  cases line with
  | header => exact .inl rfl
  | blank =>
    simp only [add]
    split <;> exact .inl rfl
  | content indent body =>
    simp only [add]
    split
    · simp only [addToEntries]
      split
      · split
        · exact .inr rfl
        · exact .inl rfl
      · split
        · exact .inl rfl
        · exact .inr rfl
    · exact .inl rfl

theorem withCode_addLines {code : ProblemCode} (hcode : code ≠ .malformedDocEntry)
    (s : SectionList) (n : Nat) (ls : List Text) :
    withCode code (s.addLines n ls).problems = withCode code s.problems := by
  have hmalformed (full : Span) : withCode code [.plain .malformedDocEntry full] = [] := by
    refine Problem.withCode_eq_nil (List.forall_mem_singleton.2 fun hnumber => ?_)
    exact hcode (ProblemCode.number_injective hnumber.symm)
  induction ls generalizing s n with
  | nil => rfl
  | cons line ls ih =>
    rw [addLines]
    split
    · rename_i said _
      rw [ih]
      rcases s.problems_add ⟨n, 0, line.length⟩ said with h | h
      · rw [h]
      · rw [h, Problem.withCode_append, hmalformed, List.append_nil]
    · exact ih s (n + 1)

/-- All that is reported of the lines of a block is that some are malformed. -/
theorem withCode_ofLines {code : ProblemCode} (hcode : code ≠ .malformedDocEntry)
    (lines : List Text) (first stop : Nat) : withCode code (ofLines lines first stop).2 = [] :=
  withCode_addLines hcode empty first _

end SectionList

theorem BlockSearch.withCode_run (lines : List Text) (search : BlockSearch) (ts : List Token) :
    ∀ x ∈ run lines search ts, withCode .missingEnd x.2 = [] := by
  have hunclosed (opening : Span) (stop : Nat) :
      withCode .missingEnd (unclosedBlock lines opening stop).2 = [] := by
    rw [unclosedBlock, Problem.withCode_append, SectionList.withCode_ofLines (by decide)]
    rfl
  have hclosed (opening closing : Span) (routine : Option Span) :
      withCode .missingEnd (closedBlock lines opening closing routine).2 = [] :=
    SectionList.withCode_ofLines (by decide) _ _ _
  fun_induction run lines search ts with
  | case1 => simp
  | case2 opening => simpa using hunclosed opening _
  | case3 opening closing => simpa using hclosed opening closing none
  | case4 _ _ ih => exact ih
  | case5 _ _ _ _ ih => exact ih
  | case6 _ _ _ _ _ ih => exact ih
  | case7 opening t ts _ _ ih => exact List.forall_mem_cons.2 ⟨hunclosed opening _, ih⟩
  | case8 _ _ _ _ _ ih => exact ih
  | case9 opening closing t ts _ routine ih =>
    exact List.forall_mem_cons.2 ⟨hclosed opening closing routine, ih⟩

theorem DocBlocks.withCode_missingEnd (tokens : List Token) (lines : List Text) :
    withCode .missingEnd (ofTokens tokens lines).problems = [] := by
  rw [ofTokens, withCode, List.filter_flatMap]
  exact List.flatMap_eq_nil_iff.2 (BlockSearch.withCode_run lines .outside tokens)

/-! ## All reports -/

namespace Problem

variable {code : ProblemCode} {ps : List Problem}

/-- Reports of one kind are sorted as they are among all reports, if no two of them start
together. -/
theorem withCode_sort (h : ∀ p ∈ withCode code ps, ∀ q ∈ withCode code ps,
    p.start.startCursor = q.start.startCursor → p = q) :
    withCode code (sort ps) = sort (withCode code ps) := by
  have hpairwise (ps : List Problem) :
      (sort ps).Pairwise fun p q => p.start.startsBy q.start = true := by
    apply List.pairwise_mergeSort
    · intro p q r hpq hqr
      rw [Span.startsBy, Cursor.le_eq_true_iff] at hpq hqr ⊢
      exact hpq.trans hqr
    · intro p q
      rw [Bool.or_eq_true, Span.startsBy, Span.startsBy, Cursor.le_eq_true_iff,
        Cursor.le_eq_true_iff]
      exact le_total _ _
  have hperm : (withCode code (sort ps)).Perm (sort (withCode code ps)) :=
    ((List.mergeSort_perm ps _).filter _).trans (List.mergeSort_perm _ _).symm
  refine hperm.eq_of_pairwise ?_ ((hpairwise ps).filter _) (hpairwise _)
  intro p q hp hq hpq hqp
  have hmem {p : Problem} (hp : p ∈ sort (withCode code ps)) : p ∈ withCode code ps :=
    (List.mergeSort_perm _ _).mem_iff.1 hp
  rw [Span.startsBy, Cursor.le_eq_true_iff] at hpq hqp
  exact h p (hmem (hperm.mem_iff.1 hp)) q (hmem hq) (le_antisymm hpq hqp)

end Problem

/-- The header of a routine is a statement of the file. -/
theorem Record.exists_header (file : Path) {tokens : List Token} (hlaid : Token.Laid tokens)
    {s : Signature} (hs : s ∈ (Record.ofTokens file tokens).1.signatures) :
    ∃ word after, word :: after ∈ Statement.split tokens ∧ word.startsRoutine = true ∧
      (Header.read file word after).signature = some s := by
  obtain ⟨r, hr, rfl⟩ := List.mem_map.1 hs
  exact (Outline.allotted_ofStatements file (Statement.nodup_split hlaid)).header r hr

/-- A routine is told by where it starts. -/
theorem Record.start_injOn {tokens : List Token} (hlaid : Token.Laid tokens) (file : Path)
    {r r' : Routine} (hr : r ∈ (Record.ofTokens file tokens).1.routines)
    (hr' : r' ∈ (Record.ofTokens file tokens).1.routines)
    (h : r.signature.start.startCursor = r'.signature.start.startCursor) :
    r.signature.start = r'.signature.start := by
  have hword {r : Routine} (hr : r ∈ (Record.ofTokens file tokens).1.routines) :
      ∃ word ∈ tokens, r.signature.start = word.start := by
    obtain ⟨word, after, hs, -, hread⟩ :=
      Record.exists_header file hlaid (List.mem_map_of_mem hr)
    refine ⟨word, (Statement.sublist_of_mem_split hs).subset List.mem_cons_self, ?_⟩
    exact (Header.ends_of_read hread).1
  obtain ⟨word, hmem, hstart⟩ := hword hr
  obtain ⟨word', hmem', hstart'⟩ := hword hr'
  rw [hstart, hstart'] at h ⊢
  rw [hlaid.eq_of_startCursor_eq hmem hmem' h]

/-- The missing ends that are reported for a file are those of its routines, by where they start. -/
theorem Analysis.withCode_missingEnd_read (path : Path) (text : Text) :
    withCode .missingEnd (Analysis.read path text).parseProblems =
      Problem.sort (missingEnds (Analysis.read path text).record.routines) := by
  have hlaid := laid_tokensFrom text.sourceLines
  have htally := Outline.tallied_foldl path (Statement.split (tokensFrom 0 text.sourceLines))
  have hmissing : withCode .missingEnd (Record.ofTokens path (tokensFrom 0 text.sourceLines)).2 =
      missingEnds (Analysis.read path text).record.routines :=
    htally.missing_abandon.trans (congrArg missingEnds (Outline.routines_abandon _).symm)
  have hall : withCode .missingEnd
      ((TokenStream.ofLines text.sourceLines).problems ++
        (DocBlocks.ofTokens (tokensFrom 0 text.sourceLines) text.sourceLines).problems ++
        (Record.ofTokens path (tokensFrom 0 text.sourceLines)).2) =
      missingEnds (Analysis.read path text).record.routines := by
    rw [Problem.withCode_append, Problem.withCode_append, TokenStream.withCode_missingEnd,
      DocBlocks.withCode_missingEnd, hmissing]
    rfl
  have hinj : ∀ p ∈ missingEnds (Analysis.read path text).record.routines,
      ∀ q ∈ missingEnds (Analysis.read path text).record.routines,
        p.start.startCursor = q.start.startCursor → p = q := by
    intro p hp q hq hstart
    obtain ⟨r, hr, rfl⟩ := List.mem_map.1 hp
    obtain ⟨r', hr', rfl⟩ := List.mem_map.1 hq
    exact congrArg (Problem.plain .missingEnd)
      (Record.start_injOn hlaid path (List.mem_filter.1 hr).1 (List.mem_filter.1 hr').1 hstart)
  rw [← hall] at hinj ⊢
  exact Problem.withCode_sort hinj

end RoutineAtlas
