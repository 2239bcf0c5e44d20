import RoutineAtlas.Analysis.Check
import RoutineAtlas.Proofs.Documentation
import RoutineAtlas.Proofs.Tiling

/-!
# Problems lie within the text

A problem is reported by one of four stages: the scanner, the reader of documentation blocks, the
reader of structure and the checks. Whatever the text and whatever routines other files are said to
have, the report points at the text: both its ends are on lines that have tokens, neither column
lies beyond its line, and it does not end before it starts.

The stages say where their spans come from in `Provenance` and `Documentation`. What makes a place
of it is the tiling: a token lies within its line, and a comment line has a token.

## Main definitions

* `Span.Anchored` — the span starts within a line that has tokens.
* `Problem.Anchored` — so do both ends of the problem, in this order.
* `Problem.Within` — the problem lies between two tokens.
* `Analysis.problems_within` — so do all problems of a file.
-/

namespace RoutineAtlas

variable {lines : List Text} {s : Span} {p : Problem}

/-! ## Spans -/

/-- The span starts within a line that has a token, or at the end of it. -/
structure Span.Anchored (lines : List Text) (s : Span) : Prop where
  token : ∃ t ∈ tokensFrom 0 lines, t.start.line = s.line
  column : ∃ line, lines[s.line]? = some line ∧ s.column ≤ line.length

theorem Span.MarkedBy.anchored (h : s.MarkedBy (tokensFrom 0 lines)) : s.Anchored lines := by
  obtain ⟨t, ht, heq⟩ := h
  obtain ⟨line, hline, hstands⟩ := standsIn_of_mem_tokensFrom ht
  have hcursor : s.startCursor = t.start.startCursor := by
    rcases heq with heq | heq
    · exact heq
    · rw [heq, hstands.single]
  have hsame : s.line = t.start.line := congrArg Cursor.line hcursor
  have hcolumn : s.column = t.start.column := congrArg Cursor.character hcursor
  have hends := hstands.ends
  rw [Span.endColumn] at hends
  exact ⟨⟨t, ht, hsame.symm⟩, line, by rw [hsame]; exact hline, by omega⟩

/-- A line that holds a comment has a token: its semicolon is no blank. -/
theorem exists_token_of_commentBody? {n : Nat} {line : Text} (hline : lines[n]? = some line)
    (hbody : (commentBody? line).isSome = true) :
    ∃ t ∈ tokensFrom 0 lines, t.start.line = n := by
  have hmem : ';' ∈ line := by
    unfold commentBody? at hbody
    split at hbody
    · rename_i body htrim
      apply (List.dropWhile_sublist isBlank).subset
      have htrim : line.dropWhile isBlank = ';' :: body := htrim
      rw [htrim]
      exact List.mem_cons_self
    · cases hbody
  obtain ⟨column, hcolumn⟩ := List.mem_iff_getElem?.1 hmem
  refine Classical.byContradiction fun hnone => ?_
  have hblank : isBlank ';' = true := by
    refine isBlank_of_not_covers_tokensFrom hline hcolumn fun t ht hcovers => ?_
    exact hnone ⟨t, ht, hcovers.1⟩
  exact absurd hblank (by decide)

theorem Span.InCommentLine.anchored (h : s.InCommentLine lines) : s.Anchored lines := by
  obtain ⟨line, hline, hbody, hcolumn⟩ := h
  exact ⟨exists_token_of_commentBody? hline hbody, line, hline, hcolumn⟩

/-! ## Problems -/

/-- Both ends of the problem are anchored, and the start comes no later than the end. -/
structure Problem.Anchored (lines : List Text) (p : Problem) : Prop where
  start : p.start.Anchored lines
  stop : p.stop.Anchored lines
  ordered : p.start.startCursor.le p.stop.endCursor = true

theorem Span.startCursor_le_endCursor (s : Span) : s.startCursor.le s.endCursor = true :=
  Cursor.le_iff.2 (.inr ⟨rfl, Nat.le_add_right _ _⟩)

theorem Problem.anchored_of_single (hsingle : p.stop = p.start) (h : p.start.Anchored lines) :
    p.Anchored lines := by
  refine ⟨h, hsingle ▸ h, ?_⟩
  rw [hsingle]
  exact p.start.startCursor_le_endCursor

theorem Problem.MarkedBy.anchored (h : p.MarkedBy (tokensFrom 0 lines)) : p.Anchored lines :=
  anchored_of_single h.single h.marked.anchored

theorem Problem.OnComment.anchored (h : p.OnComment lines (tokensFrom 0 lines)) :
    p.Anchored lines := by
  rcases h with hline | hmarked
  · exact anchored_of_single hline.single hline.line.inCommentLine.anchored
  · exact hmarked.anchored

/-- A problem about something on a single anchored span. -/
theorem Problem.anchored_about (h : s.Anchored lines) (code : ProblemCode) (name : Text) :
    (Problem.about code name s).Anchored lines :=
  anchored_of_single rfl h

/-! ## Scanning -/

theorem TokenStream.markedBy_problems (lines : List Text) :
    ∀ p ∈ (ofLines lines).problems, p.MarkedBy (tokensFrom 0 lines) := by
  refine List.forall_mem_append.2 ⟨?_, ?_⟩
  · intro p hp
    obtain ⟨scanned, hscanned, hproblem⟩ := List.mem_filterMap.1 hp
    have hmem : scanned.token ∈ tokensFrom 0 lines := List.mem_map_of_mem hscanned
    obtain ⟨code, -, rfl⟩ := Option.map_eq_some_iff.1 hproblem
    split <;> exact Problem.markedBy_on (Token.markedBy_start hmem) _ _
  · intro p hp
    obtain ⟨t, ht, rfl⟩ := Option.map_eq_some_iff.1 (Option.mem_toList.1 hp)
    have hmem : t ∈ tokensFrom 0 lines := by
      unfold dangling? at ht
      split at ht
      · rename_i u hfind
        split at ht
        · obtain rfl := Option.some.inj ht
          exact List.mem_reverse.1 (List.mem_of_find?_eq_some hfind)
        · cases ht
      · cases ht
    exact Problem.markedBy_on (Token.markedBy_start hmem) _ _

/-! ## Documentation against signatures -/

namespace Docs

variable {sig : Signature} {block : DocBlock} {sec : DocSection}

/-- A section starts no later than it ends: at its tag, or where its block opens. -/
theorem anchored_sectionProblem (hblock : block.WrittenIn lines (tokensFrom 0 lines))
    (hsec : sec ∈ block.sections) (code : ProblemCode) :
    (sectionProblem block sec code).Anchored lines := by
  have hwritten := hblock.sections sec hsec
  have hstop := hwritten.stop.inCommentLine.anchored
  obtain ⟨line, hline, -, hfull⟩ := hwritten.stop
  have hend : sec.stop.endColumn = line.length := by
    rw [hfull]
    exact Nat.zero_add _
  unfold sectionProblem
  cases hheader : sec.header with
  | none =>
    refine ⟨hblock.opening.anchored, hstop, Cursor.le_iff.2 (.inl ?_)⟩
    exact Nat.lt_of_succ_le hwritten.after
  | some header =>
    obtain ⟨hin, hle⟩ := hwritten.header header hheader
    refine ⟨hin.anchored, hstop, Cursor.le_iff.2 ?_⟩
    rcases Nat.lt_or_eq_of_le hle with hlt | heq
    · exact .inl hlt
    · obtain ⟨line', hline', -, hcolumn⟩ := hin
      rw [heq, hline] at hline'
      obtain rfl := Option.some.inj hline'
      exact .inr ⟨heq, Nat.le_trans hcolumn (Nat.le_of_eq hend.symm)⟩

theorem anchored_pointless (hblock : block.WrittenIn lines (tokensFrom 0 lines))
    (hsec : sec ∈ block.sections) (code : ProblemCode) (declared : List Text) :
    ∀ p ∈ pointless block sec code declared, p.Anchored lines := by
  intro p hp
  unfold pointless at hp
  split at hp
  · rw [List.mem_singleton.1 hp]
    exact anchored_sectionProblem hblock hsec code
  · cases hp

theorem anchored_undeclared {first : Nat} (hsec : sec.WrittenIn lines first)
    (declared : List Text) : ∀ p ∈ undeclared sec declared, p.Anchored lines := by
  intro p hp
  obtain ⟨e, he, rfl⟩ := List.mem_map.1 hp
  have hspan := hsec.entries e (List.mem_filter.1 he).1
  exact Problem.anchored_about hspan.inCommentLine.anchored _ _

theorem anchored_undocumented {parameters : List (Text × Span)}
    (h : ∀ x ∈ parameters, x.2.Anchored lines) (code : ProblemCode) :
    ∀ p ∈ undocumented sec code parameters, p.Anchored lines := by
  intro p hp
  obtain ⟨x, hx, rfl⟩ := List.mem_map.1 hp
  exact Problem.anchored_about (h x (List.mem_filter.1 hx).1) _ _

theorem mem_of_section? {tag : DocTag} (h : block.section? tag = some sec) :
    sec ∈ block.sections :=
  List.mem_of_find?_eq_some h

theorem anchored_checkArgs (hsig : sig.WrittenIn (tokensFrom 0 lines))
    (hblock : block.WrittenIn lines (tokensFrom 0 lines)) (hsec : sec ∈ block.sections) :
    ∀ p ∈ checkArgs sig block sec, p.Anchored lines := by
  refine List.forall_mem_append.2 ⟨List.forall_mem_append.2
    ⟨anchored_pointless hblock hsec _ _, anchored_undeclared (hblock.sections sec hsec) _⟩, ?_⟩
  apply anchored_undocumented
  intro x hx
  obtain ⟨a, ha, rfl⟩ := List.mem_map.1 hx
  obtain ⟨t, ht, rfl⟩ := hsig.args a ha
  exact (Token.markedBy_start ht).anchored

theorem anchored_checkKeywords (hsig : sig.WrittenIn (tokensFrom 0 lines))
    (hblock : block.WrittenIn lines (tokensFrom 0 lines)) (hsec : sec ∈ block.sections) :
    ∀ p ∈ checkKeywords sig block sec, p.Anchored lines := by
  refine List.forall_mem_append.2 ⟨List.forall_mem_append.2
    ⟨anchored_pointless hblock hsec _ _, anchored_undeclared (hblock.sections sec hsec) _⟩, ?_⟩
  apply anchored_undocumented
  intro x hx
  obtain ⟨k, hk, rfl⟩ := List.mem_map.1 hx
  obtain ⟨t, ht, u, -, rfl⟩ := hsig.keywords k (List.mem_filter.1 hk).1
  exact (Token.markedBy_start ht).anchored

theorem anchored_check (hsig : sig.WrittenIn (tokensFrom 0 lines))
    (hblock : block.WrittenIn lines (tokensFrom 0 lines)) :
    ∀ p ∈ check sig block, p.Anchored lines := by
  refine List.forall_mem_append.2 ⟨List.forall_mem_append.2 ⟨?_, ?_⟩, ?_⟩
  · cases hsec : block.section? .params with
    | none => simp
    | some sec => exact anchored_checkArgs hsig hblock (mem_of_section? hsec)
  · cases hsec : block.section? .keywords with
    | none => simp
    | some sec => exact anchored_checkKeywords hsig hblock (mem_of_section? hsec)
  · split
    · simp
    · intro p hp
      obtain ⟨sec, hsec, rfl⟩ := Option.map_eq_some_iff.1 (Option.mem_toList.1 hp)
      exact anchored_sectionProblem hblock (mem_of_section? hsec) _

end Docs

/-! ## Variables and calls -/

theorem Record.anchored_unusedVariables {r : Record} (h : r.WrittenIn (tokensFrom 0 lines)) :
    ∀ p ∈ r.unusedVariables, p.Anchored lines := by
  intro p hp
  obtain ⟨b, hb, rfl⟩ := List.mem_map.1 hp
  obtain ⟨scope, hscope, hb⟩ := List.mem_flatMap.1 (List.mem_filter.1 hb).1
  have hwritten := h.bindings scope hscope b hb
  obtain ⟨o, rest, hoccurrences⟩ := List.exists_cons_of_ne_nil hwritten.occurs
  obtain ⟨t, ht, -, hspan⟩ := hwritten.named o (by simp [hoccurrences])
  have hfirst : b.first = t.start := by
    rw [Binding.first, hoccurrences, ← hspan]
    rfl
  rw [hfirst]
  exact Problem.anchored_about (Token.markedBy_start ht).anchored _ _

/-- A call ends no earlier than it starts: its last token is the first or comes after it. -/
theorem CallSite.WrittenIn.ordered {c : CallSite} (h : c.WrittenIn (tokensFrom 0 lines)) :
    c.span.startCursor.le c.stop.endCursor = true := by
  obtain ⟨t, rest, hsub, hspan, -, u, hu, hstop⟩ := h
  obtain ⟨line, -, hstands⟩ := standsIn_of_mem_tokensFrom (hsub.subset hu)
  rw [hspan, hstop, hstands.single]
  have hbefore := (pairwise_before_tokensFrom 0 lines).sublist hsub
  rcases List.mem_cons.1 hu with rfl | hu
  · exact u.start.startCursor_le_endCursor
  · rcases (List.pairwise_cons.1 hbefore).1 u hu with hlt | ⟨heq, hcolumn⟩
    · exact Cursor.le_iff.2 (.inl hlt)
    · refine Cursor.le_iff.2 (.inr ⟨heq, ?_⟩)
      simp only [Span.endColumn, Span.startCursor, Span.endCursor] at hcolumn ⊢
      omega

theorem CallSite.anchored_check {c : CallSite} (h : c.WrittenIn (tokensFrom 0 lines))
    (sig : Signature) : ∀ p ∈ c.check sig, p.Anchored lines := by
  have hordered := h.ordered
  obtain ⟨t, rest, hsub, hspan, hkeywords, u, hu, hstop⟩ := h
  refine List.forall_mem_append.2 ⟨?_, ?_⟩
  · intro p hp
    unfold unknownKeywords at hp
    split at hp
    · cases hp
    · obtain ⟨k, hk, rfl⟩ := List.mem_map.1 hp
      obtain ⟨v, hv, rfl⟩ := hkeywords k (List.mem_filter.1 hk).1
      exact Problem.anchored_about (Token.markedBy_start (hsub.subset hv)).anchored _ _
  · intro p hp
    unfold surplus at hp
    split at hp
    · rw [List.mem_singleton.1 hp]
      have hstart : c.span.Anchored lines := by
        rw [hspan]
        exact (Token.markedBy_start (hsub.subset List.mem_cons_self)).anchored
      have hend : c.stop.Anchored lines := by
        rw [hstop]
        exact (Token.markedBy_stop (hsub.subset hu)).anchored
      exact ⟨hstart, hend, hordered⟩
    · cases hp

/-! ## Files -/

namespace Analysis

variable (path : Path) (text : Text)

theorem writtenIn_record_read :
    (Analysis.read path text).record.WrittenIn (tokensFrom 0 text.sourceLines) :=
  (Record.writtenIn_ofTokens path _).1

theorem anchored_parseProblems :
    ∀ p ∈ (Analysis.read path text).parseProblems, p.Anchored text.sourceLines := by
  intro p hp
  have hmem := (List.mergeSort_perm _ _).mem_iff.1 hp
  rcases List.mem_append.1 hmem with hmem | hstructure
  · rcases List.mem_append.1 hmem with hscan | hdocs
    · exact (TokenStream.markedBy_problems _ p hscan).anchored
    · exact ((DocBlocks.writtenIn_ofTokens _ _).2 p hdocs).anchored
  · exact ((Record.writtenIn_ofTokens path _).2 p hstructure).anchored

theorem anchored_check (lookup : RoutineLookup) :
    ∀ p ∈ (Analysis.read path text).check lookup, p.Anchored text.sourceLines := by
  have hrecord := writtenIn_record_read path text
  intro p hp
  have hmem := (List.mergeSort_perm _ _).mem_iff.1 hp
  rcases List.mem_append.1 hmem with hmem | hcalls
  · rcases List.mem_append.1 hmem with hdocs | hunused
    · obtain ⟨sig, hsig, hp⟩ := List.mem_flatMap.1 hdocs
      cases hblock : (Analysis.read path text).docsFor? sig with
      | none => simp [hblock] at hp
      | some block =>
        rw [hblock] at hp
        have hwritten : block.WrittenIn text.sourceLines (tokensFrom 0 text.sourceLines) :=
          (DocBlocks.writtenIn_ofTokens _ _).1 block (List.mem_of_find?_eq_some hblock)
        exact Docs.anchored_check (hrecord.signatures sig hsig) hwritten p hp
    · exact Record.anchored_unusedVariables hrecord p hunused
  · obtain ⟨c, hc, hp⟩ := List.mem_flatMap.1 hcalls
    cases hresolved : (Analysis.read path text).resolveCall lookup c with
    | none => simp [hresolved] at hp
    | some sig =>
      rw [hresolved] at hp
      exact CallSite.anchored_check (hrecord.calls c hc) sig p hp

theorem anchored_problems (lookup : RoutineLookup) :
    ∀ p ∈ (Analysis.run path text true lookup).problems, p.Anchored text.sourceLines :=
  List.forall_mem_append.2 ⟨anchored_parseProblems path text, anchored_check path text lookup⟩

end Analysis

/-- The problem lies between the lines of two tokens, with both columns within their lines, and its
range does not end before it starts. -/
structure Problem.Within (lines : List Text) (first last : Token) (p : Problem) : Prop where
  start_line : first.start.line ≤ p.start.line ∧ p.start.line ≤ last.stop.line
  stop_line : first.start.line ≤ p.stop.line ∧ p.stop.line ≤ last.stop.line
  start_column : ∃ line, lines[p.start.line]? = some line ∧ p.start.column ≤ line.length
  stop_column : ∃ line, lines[p.stop.line]? = some line ∧ p.stop.column ≤ line.length
  ordered : p.range.start.le p.range.stop = true

/-- Tokens stand in the order of their lines. -/
theorem line_le_of_head {t first : Token} (ht : t ∈ tokensFrom 0 lines)
    (hfirst : (tokensFrom 0 lines).head? = some first) : first.start.line ≤ t.start.line := by
  obtain ⟨rest, hrest⟩ := List.head?_eq_some_iff.1 hfirst
  have hbefore := pairwise_before_tokensFrom 0 lines
  rw [hrest] at ht hbefore
  rcases List.mem_cons.1 ht with rfl | ht
  · exact Nat.le_refl _
  · rcases (List.pairwise_cons.1 hbefore).1 t ht with hlt | ⟨heq, -⟩ <;> omega

theorem line_le_of_getLast {t last : Token} (ht : t ∈ tokensFrom 0 lines)
    (hlast : (tokensFrom 0 lines).getLast? = some last) : t.start.line ≤ last.stop.line := by
  obtain ⟨init, hinit⟩ := List.getLast?_eq_some_iff.1 hlast
  have hbefore := pairwise_before_tokensFrom 0 lines
  obtain ⟨line, -, hstands⟩ := standsIn_of_mem_tokensFrom (List.mem_of_getLast? hlast)
  rw [hstands.single]
  rw [hinit] at ht hbefore
  rcases List.mem_append.1 ht with ht | ht
  · rcases (List.pairwise_append.1 hbefore).2.2 t ht last (by simp) with hlt | ⟨heq, -⟩ <;> omega
  · exact Nat.le_of_eq (congrArg (·.start.line) (List.mem_singleton.1 ht))

/-- Every problem of a file lies within the text: between its first and its last token, and a text
without tokens has no problems. -/
theorem Analysis.problems_within (path : Path) (text : Text) (lookup : RoutineLookup) :
    let a := Analysis.run path text true lookup
    (∀ p ∈ a.problems, ∃ first last, a.tokens.head? = some first ∧ a.tokens.getLast? = some last ∧
      p.Within text.sourceLines first last) ∧ (a.tokens = [] → a.problems = []) := by
  intro a
  have htokens : a.tokens = tokensFrom 0 text.sourceLines := rfl
  have hanchored := anchored_problems path text lookup
  rw [htokens]
  constructor
  · intro p hp
    obtain ⟨⟨⟨t, ht, hstart⟩, hcolumn⟩, ⟨⟨u, hu, hstop⟩, hcolumn'⟩, hordered⟩ := hanchored p hp
    have hne : tokensFrom 0 text.sourceLines ≠ [] := List.ne_nil_of_mem ht
    have hfirst := List.head?_eq_some_head hne
    have hlast := List.getLast?_eq_some_getLast hne
    refine ⟨_, _, hfirst, hlast, ?_, ?_, hcolumn, hcolumn', hordered⟩
    · rw [← hstart]
      exact ⟨line_le_of_head ht hfirst, line_le_of_getLast ht hlast⟩
    · rw [← hstop]
      exact ⟨line_le_of_head hu hfirst, line_le_of_getLast hu hlast⟩
  · intro hnone
    refine List.eq_nil_iff_forall_not_mem.2 fun p hp => ?_
    obtain ⟨t, ht, -⟩ := (hanchored p hp).start.token
    rw [hnone] at ht
    cases ht

/-- A call with one argument too many goes on over a second line, where its problem ends. -/
theorem Analysis.problems_within_continued_call :
    let text : Text := "pro foo\nend\nfoo, $\n 1\nend\n".toList
    let a := Analysis.run (.ofText ['a']) text true .none
    ∃ p ∈ a.problems, p.start.line < p.stop.line ∧
      ∃ first last, a.tokens.head? = some first ∧ a.tokens.getLast? = some last ∧
        p.Within text.sourceLines first last := by
  intro text a
  have hcall : ∃ p ∈ (Analysis.read (.ofText ['a']) text).checkCalls .none,
      p.start.line < p.stop.line := by
    decide +kernel
  obtain ⟨p, hp, hlines⟩ := hcall
  have hmem : p ∈ a.problems := by
    refine List.mem_append_right _ ((List.mergeSort_perm _ _).mem_iff.2 ?_)
    exact List.mem_append_right _ hp
  exact ⟨p, hmem, hlines, (problems_within (.ofText ['a']) text .none).1 p hmem⟩

end RoutineAtlas
