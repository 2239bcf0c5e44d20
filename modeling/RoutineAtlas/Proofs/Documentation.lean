import RoutineAtlas.Doc.Link
import RoutineAtlas.Proofs.Provenance

/-!
# Where documentation blocks stand

A block is read from whole lines, not from tokens, and its sections stretch over several of them.
All that is kept of a block still stands where the file has comments: the block opens where a token
does, and every section, entry and report is a line that holds a comment and nothing else. The tag
of a section comes no later than the last line of the section.

`SectionList.WrittenIn.add` is the step of one line, and `BlockSearch.writtenIn_run` that of the
search for blocks.

## Main definitions

* `Span.IsCommentLine` — the span is the whole of a comment line.
* `DocSection.WrittenIn`, `DocBlock.WrittenIn` — what is known of the places of sections and blocks.
* `Problem.OnComment` — a report on a comment line or where a token starts.
-/

namespace RoutineAtlas

variable {lines : List Text} {first n : Nat}

/-- The span starts within a line that holds a comment and nothing else. -/
def Span.InCommentLine (lines : List Text) (s : Span) : Prop :=
  ∃ line, lines[s.line]? = some line ∧ (commentBody? line).isSome = true ∧ s.column ≤ line.length

/-- The span is the whole of a line that holds a comment and nothing else. -/
def Span.IsCommentLine (lines : List Text) (s : Span) : Prop :=
  ∃ line, lines[s.line]? = some line ∧ (commentBody? line).isSome = true ∧
    s = ⟨s.line, 0, line.length⟩

theorem Span.IsCommentLine.inCommentLine {s : Span} (h : s.IsCommentLine lines) :
    s.InCommentLine lines := by
  obtain ⟨line, hline, hbody, heq⟩ := h
  refine ⟨line, hline, hbody, ?_⟩
  rw [heq]
  exact Nat.zero_le _

/-! ## Lines -/

theorem DocLine.isSome_of_read? {line : Text} {said : DocLine}
    (h : DocLine.read? n line = some said) : (commentBody? line).isSome = true := by
  cases hbody : commentBody? line with
  | none => simp [DocLine.read?, hbody] at h
  | some body => rfl

theorem commentBody?_le {line body : Text} {column : Nat}
    (h : commentBody? line = some (column, body)) : column + body.length = line.length := by
  unfold commentBody? at h
  split at h
  · rename_i rest htrim
    obtain ⟨rfl, rfl⟩ : line.length - rest.length = column ∧ rest = body := by simpa using h
    have hle : (line.trimStart).length ≤ line.length :=
      (List.dropWhile_sublist _).length_le
    rw [htrim, List.length_cons] at hle
    omega
  · cases h

/-- The tag of a section stands within its line. -/
theorem DocLine.header_of_read? {line tag inline : Text} {span : Span}
    (h : DocLine.read? n line = some (.header tag span inline)) :
    span.line = n ∧ span.column ≤ line.length := by
  unfold DocLine.read? at h
  cases hbody : commentBody? line with
  | none => simp [hbody] at h
  | some x =>
    obtain ⟨column, body⟩ := x
    have hlength := commentBody?_le hbody
    have hindent : (body.takeWhile isBlank).length ≤ body.length :=
      (List.takeWhile_prefix _).length_le
    simp only [hbody, Option.bind_eq_bind, Option.bind_some, Option.pure_def,
      Option.some.injEq] at h
    split at h
    · simp only [DocLine.header.injEq] at h
      rw [← h.2.1]
      refine ⟨rfl, ?_⟩
      dsimp only
      omega
    · split at h <;> cases h

/-! ## Sections -/

/-- The section ends with a comment line that is no earlier than line number `first`; its tag comes
no later, and its entries are comment lines too. -/
structure DocSection.WrittenIn (lines : List Text) (first : Nat) (sec : DocSection) : Prop where
  stop : sec.stop.IsCommentLine lines
  after : first ≤ sec.stop.line
  header : ∀ h, sec.header = some h → h.InCommentLine lines ∧ h.line ≤ sec.stop.line
  entries : ∀ e ∈ sec.entries, e.span.IsCommentLine lines

/-- A section may be extended to a later comment line. -/
theorem DocSection.WrittenIn.extend {sec : DocSection} (h : sec.WrittenIn lines first)
    {full : Span} (hfull : full.IsCommentLine lines) (hlater : sec.stop.line ≤ full.line) :
    ({ sec with stop := full } : DocSection).WrittenIn lines first where
  stop := hfull
  after := Nat.le_trans h.after hlater
  header := fun span hspan => ⟨(h.header span hspan).1, Nat.le_trans (h.header span hspan).2 hlater⟩
  entries := h.entries

theorem DocSection.WrittenIn.withEntries {sec : DocSection} (h : sec.WrittenIn lines first)
    {entries : List DocEntry} (hentries : ∀ e ∈ entries, e.span.IsCommentLine lines) :
    ({ sec with entries := entries } : DocSection).WrittenIn lines first :=
  ⟨h.stop, h.after, h.header, hentries⟩

/-- The report covers the whole of a comment line. -/
structure Problem.OnCommentLine (lines : List Text) (p : Problem) : Prop where
  single : p.stop = p.start
  line : p.start.IsCommentLine lines

namespace SectionList

variable {s : SectionList} {full : Span}

/-- The sections so far, read from lines before number `next`, and the reports on them. -/
structure WrittenIn (lines : List Text) (first next : Nat) (s : SectionList) : Prop where
  sections : ∀ sec ∈ s.reversed, sec.WrittenIn lines first ∧ sec.stop.line < next
  problems : ∀ p ∈ s.problems, p.OnCommentLine lines

theorem WrittenIn.malformed {next : Nat} (h : s.WrittenIn lines first next)
    (hfull : full.IsCommentLine lines) : (s.malformed full).WrittenIn lines first next := by
  refine ⟨h.sections, List.forall_mem_append.2 ⟨h.problems, ?_⟩⟩
  intro p hp
  rw [List.mem_singleton.1 hp]
  exact ⟨rfl, hfull⟩

/-- The section at hand takes the line in. -/
theorem WrittenIn.current (h : s.WrittenIn lines first full.line)
    (hfull : full.IsCommentLine lines) (hfirst : first ≤ full.line) :
    ((s.current full).1.WrittenIn lines first ∧ (s.current full).1.stop = full) ∧
      ∀ sec ∈ (s.current full).2, sec.WrittenIn lines first ∧ sec.stop.line < full.line := by
  unfold SectionList.current
  split
  · exact ⟨⟨⟨hfull, hfirst, by simp, by simp⟩, rfl⟩, by simp⟩
  · rename_i sec before hreversed
    have hsections := h.sections
    rw [hreversed] at hsections
    obtain ⟨⟨hsec, hlt⟩, hbefore⟩ := List.forall_mem_cons.1 hsections
    exact ⟨⟨hsec.extend hfull (Nat.le_of_lt hlt), rfl⟩, hbefore⟩

/-- Put the section at hand back before the earlier ones. -/
theorem WrittenIn.replace (h : s.WrittenIn lines first n) {sec : DocSection}
    {before : List DocSection} (hsec : sec.WrittenIn lines first) (hstop : sec.stop.line = n)
    (hbefore : ∀ sec ∈ before, sec.WrittenIn lines first ∧ sec.stop.line < n) (level : Option Nat) :
    ({ s with reversed := sec :: before, level := level } : SectionList).WrittenIn lines first
      (n + 1) := by
  refine ⟨List.forall_mem_cons.2 ⟨⟨hsec, by omega⟩, ?_⟩, h.problems⟩
  intro earlier hearlier
  obtain ⟨hwritten, hlt⟩ := hbefore earlier hearlier
  exact ⟨hwritten, by omega⟩

theorem isCommentLine_of_mem_describe {entries : List DocEntry} {line : Text}
    (h : ∀ e ∈ entries, e.span.IsCommentLine lines) :
    ∀ e ∈ describe entries line, e.span.IsCommentLine lines :=
  forall_mem_modify h _ fun _ he => he

theorem WrittenIn.addToEntries (h : s.WrittenIn lines first full.line)
    (hfull : full.IsCommentLine lines) {sec : DocSection} {before : List DocSection}
    (hsec : sec.WrittenIn lines first) (hstop : sec.stop = full)
    (hbefore : ∀ sec ∈ before, sec.WrittenIn lines first ∧ sec.stop.line < full.line) (indent : Nat)
    (body : Text) :
    (s.addToEntries sec before full indent body).WrittenIn lines first (full.line + 1) := by
  have hline : sec.stop.line = full.line := by rw [hstop]
  have hkept := h.replace hsec hline hbefore (some (s.level.getD indent))
  unfold SectionList.addToEntries
  dsimp only
  split
  · split
    · exact hkept.malformed hfull
    · exact h.replace (hsec.withEntries (isCommentLine_of_mem_describe hsec.entries)) hline
        hbefore _
  · split
    · refine h.replace (hsec.withEntries (List.forall_mem_append.2 ⟨hsec.entries, ?_⟩)) hline
        hbefore _
      intro e he
      rw [List.mem_singleton.1 he]
      exact hfull
    · exact hkept.malformed hfull

/-- One line adds only what stands on it. -/
theorem WrittenIn.add (h : s.WrittenIn lines first n) (hfirst : first ≤ n) {line : Text}
    (hline : lines[n]? = some line) {said : DocLine} (hread : DocLine.read? n line = some said) :
    (s.add ⟨n, 0, line.length⟩ said).WrittenIn lines first (n + 1) := by
  have hbody := DocLine.isSome_of_read? hread
  have hfull : Span.IsCommentLine lines ⟨n, 0, line.length⟩ := ⟨line, hline, hbody, rfl⟩
  cases said with
  | header tag span inline =>
    obtain ⟨hspan, hcolumn⟩ := DocLine.header_of_read? hread
    refine h.replace ⟨hfull, hfirst, ?_, by simp⟩ rfl h.sections none
    intro header hheader
    obtain rfl := Option.some.inj hheader
    exact ⟨⟨line, by rw [hspan]; exact hline, hbody, hcolumn⟩, Nat.le_of_eq hspan⟩
  | blank =>
    unfold SectionList.add
    dsimp only
    split
    · refine ⟨?_, h.problems⟩
      intro sec hsec
      obtain ⟨hwritten, hlt⟩ := h.sections sec hsec
      exact ⟨hwritten, by omega⟩
    · rename_i sec before hreversed
      have hsections := h.sections
      rw [hreversed] at hsections
      obtain ⟨⟨hsec, hlt⟩, hbefore⟩ := List.forall_mem_cons.1 hsections
      exact h.replace (hsec.extend hfull (Nat.le_of_lt hlt)) rfl hbefore s.level
  | content indent body =>
    obtain ⟨⟨hsec, hstop⟩, hbefore⟩ := h.current hfull hfirst
    unfold SectionList.add
    dsimp only
    split
    · exact h.addToEntries hfull hsec hstop hbefore indent body
    · refine h.replace ?_ ?_ hbefore s.level
      · exact ⟨hsec.stop, hsec.after, hsec.header, hsec.entries⟩
      · exact congrArg Span.line hstop

theorem WrittenIn.addLines (h : s.WrittenIn lines first n) (hfirst : first ≤ n) {ls : List Text}
    (hls : ∀ i line, ls[i]? = some line → lines[n + i]? = some line) :
    (s.addLines n ls).WrittenIn lines first (n + ls.length) := by
  induction ls generalizing s n with
  | nil => exact h
  | cons line rest ih =>
    have hline : lines[n]? = some line := hls 0 line rfl
    have hrest : ∀ i l, rest[i]? = some l → lines[n + 1 + i]? = some l := by
      intro i l hl
      rw [Nat.add_assoc, Nat.add_comm 1 i]
      exact hls (i + 1) l hl
    rw [List.length_cons, Nat.add_comm rest.length, ← Nat.add_assoc]
    unfold SectionList.addLines
    split
    · rename_i said hread
      exact ih (h.add hfirst hline hread) (by omega) hrest
    · refine ih ⟨?_, h.problems⟩ (by omega) hrest
      intro sec hsec
      obtain ⟨hwritten, hlt⟩ := h.sections sec hsec
      exact ⟨hwritten, by omega⟩

theorem writtenIn_ofLines (lines : List Text) (first stop : Nat) :
    (∀ sec ∈ (ofLines lines first stop).1, sec.WrittenIn lines first) ∧
      ∀ p ∈ (ofLines lines first stop).2, p.OnCommentLine lines := by
  have hempty : empty.WrittenIn lines first first := by constructor <;> simp [empty]
  have hlines : ∀ i line, ((lines.drop first).take (stop - first))[i]? = some line →
      lines[first + i]? = some line := by
    intro i line hline
    rw [List.getElem?_take] at hline
    split at hline
    · rwa [List.getElem?_drop] at hline
    · cases hline
  have hread := hempty.addLines (Nat.le_refl _) hlines
  refine ⟨?_, hread.problems⟩
  intro sec hsec
  exact (hread.sections sec (List.mem_reverse.1 hsec)).1

end SectionList

/-! ## Blocks -/

variable {tokens : List Token}

/-- The block opens where a token starts, and its sections come after that. -/
structure DocBlock.WrittenIn (lines : List Text) (tokens : List Token) (b : DocBlock) : Prop where
  opening : b.opening.MarkedBy tokens
  sections : ∀ sec ∈ b.sections, sec.WrittenIn lines (b.opening.line + 1)

/-- The report covers a comment line, or starts where a token does. -/
def Problem.OnComment (lines : List Text) (tokens : List Token) (p : Problem) : Prop :=
  p.OnCommentLine lines ∨ p.MarkedBy tokens

namespace BlockSearch

/-- What the search has met of a block starts where a token does. -/
def MarkedBy (tokens : List Token) : BlockSearch → Prop
  | .outside => True
  | .inside opening => opening.MarkedBy tokens
  | .closed opening _ => opening.MarkedBy tokens

theorem markedBy_meet {t : Token} (h : t ∈ tokens) : (meet t).MarkedBy tokens := by
  unfold meet
  split
  · exact Token.markedBy_start h
  · trivial

theorem writtenIn_unclosedBlock {opening : Span} (h : opening.MarkedBy tokens) (stop : Nat) :
    (unclosedBlock lines opening stop).1.WrittenIn lines tokens ∧
      ∀ p ∈ (unclosedBlock lines opening stop).2, p.OnComment lines tokens := by
  obtain ⟨hsections, hproblems⟩ := SectionList.writtenIn_ofLines lines (opening.line + 1) stop
  refine ⟨⟨h, hsections⟩, List.forall_mem_append.2 ⟨fun p hp => .inl (hproblems p hp), ?_⟩⟩
  intro p hp
  rw [List.mem_singleton.1 hp]
  exact .inr (Problem.markedBy_on h _ _)

theorem writtenIn_closedBlock {opening : Span} (h : opening.MarkedBy tokens) (closing : Span)
    (routine : Option Span) :
    (closedBlock lines opening closing routine).1.WrittenIn lines tokens ∧
      ∀ p ∈ (closedBlock lines opening closing routine).2, p.OnComment lines tokens := by
  obtain ⟨hsections, hproblems⟩ :=
    SectionList.writtenIn_ofLines lines (opening.line + 1) closing.line
  exact ⟨⟨h, hsections⟩, fun p hp => .inl (hproblems p hp)⟩

/-- Every block that the search finds is written in the file. -/
theorem writtenIn_run {search : BlockSearch} (h : search.MarkedBy tokens) {ts : List Token}
    (hts : ts ⊆ tokens) : ∀ x ∈ run lines search ts,
      x.1.WrittenIn lines tokens ∧ ∀ p ∈ x.2, p.OnComment lines tokens := by
  fun_induction run lines search ts with
  | case1 => simp
  | case2 opening =>
    intro x hx
    rw [List.mem_singleton.1 hx]
    exact writtenIn_unclosedBlock h _
  | case3 opening closing =>
    intro x hx
    rw [List.mem_singleton.1 hx]
    exact writtenIn_closedBlock h closing none
  | case4 t ts ih => exact ih (markedBy_meet (hts List.mem_cons_self)) (List.cons_subset.1 hts).2
  | case5 opening t ts hcomment ih => exact ih h (List.cons_subset.1 hts).2
  | case6 opening t ts hcomment hclose ih => exact ih h (List.cons_subset.1 hts).2
  | case7 opening t ts hcomment hclose ih =>
    obtain ⟨ht, hts⟩ := List.cons_subset.1 hts
    exact List.forall_mem_cons.2 ⟨writtenIn_unclosedBlock h _, ih (markedBy_meet ht) hts⟩
  | case8 opening closing t ts hcomment ih => exact ih h (List.cons_subset.1 hts).2
  | case9 opening closing t ts hcomment routine ih =>
    obtain ⟨ht, hts⟩ := List.cons_subset.1 hts
    exact List.forall_mem_cons.2
      ⟨writtenIn_closedBlock h closing routine, ih (markedBy_meet ht) hts⟩

end BlockSearch

/-- The blocks of a file, and the reports on them, are written in the file. -/
theorem DocBlocks.writtenIn_ofTokens (tokens : List Token) (lines : List Text) :
    (∀ b ∈ (DocBlocks.ofTokens tokens lines).blocks, b.WrittenIn lines tokens) ∧
      ∀ p ∈ (DocBlocks.ofTokens tokens lines).problems, p.OnComment lines tokens := by
  have houtside : BlockSearch.outside.MarkedBy tokens := trivial
  have hrun : ∀ x ∈ BlockSearch.run lines .outside tokens,
      x.1.WrittenIn lines tokens ∧ ∀ p ∈ x.2, p.OnComment lines tokens :=
    BlockSearch.writtenIn_run houtside (List.Subset.refl tokens)
  constructor
  · intro b hb
    obtain ⟨x, hx, rfl⟩ := List.mem_map.1 hb
    exact (hrun x hx).1
  · intro p hp
    obtain ⟨x, hx, hp⟩ := List.mem_flatMap.1 hp
    exact (hrun x hx).2 p hp

end RoutineAtlas
