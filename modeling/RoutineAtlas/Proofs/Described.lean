import RoutineAtlas.Proofs.Accounting
import RoutineAtlas.Proofs.DocLines

/-!
# What is reported of documented parameters

The documentation of a routine is checked against its head in both directions: an entry should name
a parameter that the routine declares, and a parameter should have an entry. Of each list of entries
only the first section of a block is looked at, so an entry of a second one is not reported, and
does not count as the documentation of its parameter either.

Entries have lines of their own, and the parameters of all heads are different tokens. So a report
says by its place alone what it is about, and `Analysis.entries_checked` tells for each place what
is reported there.

## Main definitions

* `Signature.headSpans` — where a head begins and where its parameters are written.
* `Analysis.checkedSections` — the sections that are checked, each with its routine.
* `Problem.reportedAt` — the reports of one kind on one place.
* `Analysis.entries_checked` — what is reported of entries and parameters.
-/

namespace RoutineAtlas

open Problem (withCode)

/-! ## Heads have tokens of their own -/

/-- Where a head begins, and where its arguments and the names of its keywords are written. -/
def Signature.headSpans (s : Signature) : List Span :=
  s.start :: (s.args.map (·.span) ++ s.keywords.map (·.span))

namespace Outline

variable (file : Path)

/-- A statement adds the signature that it declares. -/
theorem signatures_add (o : Outline) (s : Statement) :
    (o.add file s).routines.map (·.signature) =
      o.routines.map (·.signature) ++ (s.signature? file).toList := by
  cases s with
  | nil => simp [add, Statement.signature?]
  | cons word after =>
    cases hword : word.startsRoutine with
    | true =>
      simp only [add, hword, if_true, addHeader, Statement.signature?]
      cases (Header.read file word after).signature with
      | none => simp
      | some sig => simp [begin]
    | false =>
      have hnone : Statement.signature? file (word :: after) = none := by
        simp [Statement.signature?, hword]
      rw [hnone, Option.toList_none, List.append_nil]
      cases turn_add file o (word :: after) with
      | begins hheader => simp [hheader] at hword
      | nameless hheader => simp [hheader] at hword
      | closes hs hr hroutines hproblems hopen =>
        rw [hroutines]
        exact map_modify_of_eq (fun _ => by rfl) _ _
      | keeps hs hroutines hproblems hopen => rw [hroutines]

theorem signatures_ofStatements (statements : List Statement) :
    (ofStatements file statements).routines.map (·.signature) =
      statements.filterMap (Statement.signature? file) := by
  rw [ofStatements, routines_abandon]
  induction statements using List.reverseRecOn with
  | nil => rfl
  | append_singleton statements s ih =>
    rw [List.foldl_concat, signatures_add, ih, List.filterMap_append]
    cases hsig : s.signature? file <;> simp [hsig]

end Outline

namespace Statement

variable {file : Path} {s : Statement} {sig : Signature}

/-- The parameters of a head are different words of it. -/
theorem starts_signature?_le (h : s.signature? file = some sig) :
    (↑((sig.args.map (·.span) ++ sig.keywords.map (·.span)).map (·.startCursor)) :
      Multiset Cursor) ≤ wordStarts s := by
  cases s with
  | nil => cases h
  | cons word after =>
    rw [signature?] at h
    split at h
    · refine le_trans ?_ (Header.starts_read_le h)
      rw [Signature.starts_headerBindings, List.map_append, List.map_map, List.map_map,
        ← Multiset.coe_add]
      refine le_trans ?_ (Multiset.le_add_left _ _)
      exact add_le_add_left (Multiset.le_add_right _ _) _
    · cases h

theorem exists_token_of_signature? (h : s.signature? file = some sig) {p : Span}
    (hp : p ∈ sig.headSpans) : ∃ t ∈ s, t.start.startCursor = p.startCursor := by
  rcases List.mem_cons.1 hp with rfl | hp
  · cases s with
    | nil => cases h
    | cons word after =>
      rw [signature?] at h
      split at h
      · exact ⟨word, List.mem_cons_self, by rw [(Header.ends_of_read h).1]⟩
      · cases h
  · have hmem := Multiset.mem_of_le (starts_signature?_le h)
      (Multiset.mem_coe.2 (List.mem_map_of_mem hp))
    obtain ⟨t, ht, -, hstart⟩ := mem_wordStarts.1 hmem
    exact ⟨t, ht, hstart⟩

end Statement

namespace Record

variable (file : Path) {tokens : List Token} (hlaid : Token.Laid tokens)
include hlaid

/-- No two heads share a token. -/
theorem pairwise_headSpans :
    (Record.ofTokens file tokens).1.signatures.Pairwise fun s s' =>
      ∀ p ∈ s.headSpans, p ∉ s'.headSpans := by
  have hsignatures : (Record.ofTokens file tokens).1.signatures =
      (Statement.split tokens).filterMap (Statement.signature? file) :=
    Outline.signatures_ofStatements file _
  rw [hsignatures, List.pairwise_filterMap]
  refine (List.nodup_flatten.1 (Statement.nodup_flatten_split hlaid)).2.imp_of_mem ?_
  intro s s' hs hs' hdisjoint sig hsig sig' hsig' p hp hp'
  obtain ⟨t, ht, hstart⟩ := Statement.exists_token_of_signature? hsig hp
  obtain ⟨t', ht', hstart'⟩ := Statement.exists_token_of_signature? hsig' hp'
  obtain rfl := hlaid.eq_of_startCursor_eq ((Statement.sublist_of_mem_split hs).subset ht)
    ((Statement.sublist_of_mem_split hs').subset ht') (hstart.trans hstart'.symm)
  exact hdisjoint ht ht'

theorem eq_of_mem_headSpans {s s' : Signature}
    (hs : s ∈ (Record.ofTokens file tokens).1.signatures)
    (hs' : s' ∈ (Record.ofTokens file tokens).1.signatures) {p : Span} (hp : p ∈ s.headSpans)
    (hp' : p ∈ s'.headSpans) : s = s' := by
  by_contra hne
  have hsymm : Std.Symm fun s s' : Signature => ∀ p ∈ s.headSpans, p ∉ s'.headSpans :=
    ⟨fun _ _ hdisjoint p hp hp' => hdisjoint p hp' hp⟩
  exact (pairwise_headSpans file hlaid).forall hs hs' hne p hp hp'

theorem nodup_signatures : (Record.ofTokens file tokens).1.signatures.Nodup := by
  refine (pairwise_headSpans file hlaid).imp ?_
  rintro s s' hdisjoint rfl
  exact hdisjoint s.start List.mem_cons_self List.mem_cons_self

/-- No two parameters of a head are written in one place. -/
theorem nodup_parameters {s : Signature}
    (hs : s ∈ (Record.ofTokens file tokens).1.signatures) :
    (s.args.map (·.span) ++ s.keywords.map (·.span)).Nodup := by
  have hsignatures : (Record.ofTokens file tokens).1.signatures =
      (Statement.split tokens).filterMap (Statement.signature? file) :=
    Outline.signatures_ofStatements file _
  rw [hsignatures] at hs
  obtain ⟨statement, hstatement, hsig⟩ := List.mem_filterMap.1 hs
  have hle := (Statement.starts_signature?_le hsig).trans
    (wordStarts_le_of_sublist (Statement.sublist_of_mem_split hstatement))
  exact List.Nodup.of_map _ (Multiset.coe_nodup.1 (Multiset.nodup_of_le hle hlaid.nodup_wordStarts))

end Record

/-! ## Entries have lines of their own -/

/-- The line that is used as an entry. -/
def LineUse.entryLine? : LineUse → Option Nat
  | .entry _ _ span => some span.line
  | _ => none

/-- The entries of a block, each with its section. -/
def DocBlock.entries (b : DocBlock) : List (DocSection × DocEntry) :=
  b.sections.flatMap fun s => s.entries.map fun e => (s, e)

theorem DocBlock.mem_entries {b : DocBlock} {s : DocSection} {e : DocEntry} :
    (s, e) ∈ b.entries ↔ s ∈ b.sections ∧ e ∈ s.entries := by
  simp [entries]

theorem DocSection.entryLines_uses (s : DocSection) :
    s.uses.filterMap LineUse.entryLine? = s.entries.map (·.span.line) := by
  have hentries (es : List DocEntry) :
      (es.flatMap DocEntry.uses).filterMap LineUse.entryLine? = es.map (·.span.line) := by
    induction es with
    | nil => rfl
    | cons e es ih =>
      have hnone : (e.description.map LineUse.description).filterMap LineUse.entryLine? = [] := by
        simp [LineUse.entryLine?]
      rw [List.flatMap_cons, List.filterMap_append, ih, DocEntry.uses, List.filterMap_cons, hnone]
      rfl
  cases hheader : s.header <;>
    simp [uses, hheader, hentries, LineUse.entryLine?, List.filterMap_cons]

theorem Account.entryLines_kept {a : Account} (h : a.Fits) :
    (a.kept.filterMap LineUse.entryLine?).Sublist [a.line.number] := by
  obtain ⟨line, use⟩ := a
  cases use with
  | entry name attributes span =>
    have hspan : span = line.span := h.2
    simp [kept, LineUse.entryLine?, hspan, CommentLine.span]
  | _ => simp [kept, LineUse.entryLine?]

/-- The entries of a section stand on lines that it is made of. -/
theorem DocSection.MadeOf.entryLines_sublist {s : DocSection} {accounts : List Account}
    (h : s.MadeOf accounts) (hfits : ∀ a ∈ accounts, a.Fits) :
    (s.entries.map (·.span.line)).Sublist (accounts.map (·.line.number)) := by
  rw [← s.entryLines_uses, h.uses]
  clear h
  induction accounts with
  | nil => exact .slnil
  | cons a accounts ih =>
    obtain ⟨ha, hfits⟩ := List.forall_mem_cons.1 hfits
    rw [List.flatMap_cons, List.filterMap_append, List.map_cons]
    exact (Account.entryLines_kept ha).append (ih hfits)

theorem CommentLine.number_of_read? {n : Nat} {line : Text} {l : CommentLine}
    (h : CommentLine.read? n line = some l) : l.number = n := by
  obtain ⟨x, -, hx⟩ := Option.bind_eq_some_iff.1 h
  split at hx
  · cases hx
  · rw [← Option.some.inj hx]

theorem DocBlock.pairwise_commentLines (tokens : List Token) (lines : List Text) (b : DocBlock) :
    (b.commentLines tokens lines).Pairwise fun l l' => l.number < l'.number := by
  have hzip : lines.zipIdx.Pairwise fun x y => x.2 < y.2 := by
    rw [← List.pairwise_map (f := Prod.snd), List.zipIdx_map_snd]
    exact List.pairwise_lt_range'
  rw [commentLines, List.pairwise_filterMap]
  refine (hzip.sublist List.filter_sublist).imp ?_
  intro x y hlt l hl l' hl'
  rwa [CommentLine.number_of_read? hl, CommentLine.number_of_read? hl']

namespace DocBlock.AccountedBy

variable {tokens : List Token} {lines : List Text} {b : DocBlock} {groups : List (List Account)}
  (h : b.AccountedBy tokens lines groups)
include h

theorem entryLines_sublist : (b.entries.map (·.2.span.line)).Sublist
    ((b.commentLines tokens lines).map (·.number)) := by
  have hsections := h.sections
  have hfits := h.fits
  rw [← h.complete, List.map_map, entries]
  generalize b.sections = sections at hsections
  clear h
  induction hsections with
  | nil => exact .slnil
  | @cons s accounts sections groups hmade hsections ih =>
    rw [List.flatten_cons, List.forall_mem_append] at hfits
    rw [List.flatMap_cons, List.map_append, List.flatten_cons, List.map_append, List.map_map]
    exact (hmade.entryLines_sublist hfits.1).append (ih hfits.2)

/-- The entries of a block stand one after the other. -/
theorem pairwise_entries : b.entries.Pairwise fun x y => x.2.span.line < y.2.span.line := by
  have hlines : ((b.commentLines tokens lines).map (·.number)).Pairwise (· < ·) := by
    rw [List.pairwise_map]
    exact b.pairwise_commentLines tokens lines
  rw [← List.pairwise_map (f := fun x : DocSection × DocEntry => x.2.span.line)]
  exact hlines.sublist h.entryLines_sublist

/-- They stand on lines of the block. -/
theorem occupies_of_mem_entries {x : DocSection × DocEntry} (hx : x ∈ b.entries) :
    b.Occupies tokens lines.length x.2.span.line := by
  obtain ⟨l, hl, hnumber⟩ :=
    List.mem_map.1 (h.entryLines_sublist.subset (List.mem_map_of_mem hx))
  obtain ⟨y, hy, hread⟩ := List.mem_filterMap.1 hl
  have hwithin := (List.mem_filter.1 hy).2
  rw [Bool.and_eq_true, decide_eq_true_iff, decide_eq_true_iff] at hwithin
  rw [← hnumber, CommentLine.number_of_read? hread]
  exact .inr (.inl hwithin)

theorem nodup_spans {s : DocSection} (hs : s ∈ b.sections) : (s.entries.map (·.span)).Nodup := by
  have hentries := (List.pairwise_flatMap.1 h.pairwise_entries).1 s hs
  rw [List.pairwise_map] at hentries
  refine List.pairwise_map.2 (hentries.imp fun hlt heq => ?_)
  exact Nat.ne_of_lt hlt (congrArg Span.line heq)

/-- Only a section that is a list of entries has some. -/
theorem hasEntries_of_mem {s : DocSection} {e : DocEntry} (he : (s, e) ∈ b.entries) :
    s.tag.hasEntries = true := by
  obtain ⟨hs, he⟩ := mem_entries.1 he
  have hplain : ∀ s ∈ b.sections, s.tag.hasEntries = false → s.entries = [] :=
    ((List.forall₂_and_left _ _).1 (h.sections.imp fun s groups hmade => ⟨hmade.plain, hmade⟩)).1
  by_contra hlist
  rw [hplain s hs (by simpa using hlist)] at he
  cases he

end DocBlock.AccountedBy

namespace DocBlocks

variable {lines : List Text} {b b' : DocBlock}
  (hb : b ∈ (ofTokens (tokensFrom 0 lines) lines).blocks)

include hb in
theorem exists_accountedBy : ∃ groups, b.AccountedBy (tokensFrom 0 lines) lines groups := by
  obtain ⟨_, _, _, _, _, h⟩ := standsAmong_ofTokens hb
  obtain ⟨groups, hgroups, -⟩ := h.exists_accountedBy
  exact ⟨groups, hgroups⟩

include hb in
/-- An entry is told by its line. -/
theorem eq_of_entry_line (hb' : b' ∈ (ofTokens (tokensFrom 0 lines) lines).blocks)
    {s s' : DocSection} {e e' : DocEntry} (he : (s, e) ∈ b.entries) (he' : (s', e') ∈ b'.entries)
    (hline : e.span.line = e'.span.line) : b = b' ∧ s = s' ∧ e = e' := by
  obtain ⟨groups, h⟩ := exists_accountedBy hb
  obtain ⟨groups', h'⟩ := exists_accountedBy hb'
  have hsame : b = b' := by
    by_contra hne
    have hsymm : Std.Symm fun b b' : DocBlock =>
        ∀ n, b.Occupies (tokensFrom 0 lines) lines.length n →
          ¬b'.Occupies (tokensFrom 0 lines) lines.length n :=
      ⟨fun _ _ hdisjoint n hn hn' => hdisjoint n hn' hn⟩
    have hdisjoint := (pairwise_occupies lines).imp fun hlt n hn hn' =>
      Nat.lt_irrefl n (hlt n n hn hn')
    exact hdisjoint.forall hb hb' hne _ (h.occupies_of_mem_entries he)
      (hline ▸ h'.occupies_of_mem_entries he')
  subst hsame
  have hnodup : (b.entries.map (·.2.span.line)).Nodup :=
    List.pairwise_map.2 (h.pairwise_entries.imp fun hlt => Nat.ne_of_lt hlt)
  exact ⟨rfl, Prod.mk.injEq .. ▸ List.inj_on_of_nodup_map hnodup he he' hline⟩

end DocBlocks

/-! ## Reports and their places -/

/-- If all elements but one give nothing, that one gives everything. -/
theorem flatMap_eq_of_forall_ne {α β : Type} {l : List α} {f : α → List β} {x : α} (hl : l.Nodup)
    (hx : x ∈ l) (h : ∀ y ∈ l, y ≠ x → f y = []) : l.flatMap f = f x := by
  obtain ⟨before, after, rfl⟩ := List.append_of_mem hx
  have hnot := (List.nodup_cons.1 (List.nodup_middle.1 hl)).1
  have hnone {ys : List α} (hys : ys ⊆ before ++ after) : ys.flatMap f = [] := by
    refine List.flatMap_eq_nil_iff.2 fun y hy => h y ?_ ?_
    · exact (List.perm_middle.mem_iff).2 (List.mem_cons_of_mem x (hys hy))
    · rintro rfl
      exact hnot (hys hy)
  rw [List.flatMap_append, List.flatMap_cons, hnone (List.subset_append_left _ _),
    hnone (List.subset_append_right _ _), List.nil_append, List.append_nil]

theorem filter_eq_singleton_of_nodup_map {α β : Type} [DecidableEq β] {l : List α} {f : α → β}
    {x : α} (hl : (l.map f).Nodup) (hx : x ∈ l) : l.filter (fun y => f y == f x) = [x] := by
  obtain ⟨before, after, rfl⟩ := List.append_of_mem hx
  rw [List.map_append, List.map_cons] at hl
  have hnot := (List.nodup_cons.1 (List.nodup_middle.1 hl)).1
  rw [← List.map_append] at hnot
  have hnone {ys : List α} (hys : ys ⊆ before ++ after) : ys.filter (fun y => f y == f x) = [] := by
    refine List.filter_eq_nil_iff.2 fun y hy heq => hnot ?_
    exact List.mem_map.2 ⟨y, hys hy, eq_of_beq heq⟩
  rw [List.filter_append, List.filter_cons_of_pos (by simp),
    hnone (List.subset_append_left _ _), hnone (List.subset_append_right _ _), List.nil_append]

namespace Problem

/-- The reports of one kind on one place. -/
def reportedAt (code : ProblemCode) (span : Span) (ps : List Problem) : List Problem :=
  (withCode code ps).filter fun p => p.start == span

variable {code code' : ProblemCode} {span : Span}

theorem reportedAt_append (ps qs : List Problem) : reportedAt code span (ps ++ qs) =
    reportedAt code span ps ++ reportedAt code span qs := by
  simp [reportedAt]

theorem reportedAt_flatMap {α : Type} (l : List α) (f : α → List Problem) :
    reportedAt code span (l.flatMap f) = l.flatMap fun x => reportedAt code span (f x) := by
  simp [reportedAt, withCode, List.filter_flatMap]

theorem reportedAt_about {α : Type} (l : List α) (name : α → Text) (place : α → Span) :
    reportedAt code span (l.map fun x => .about code (name x) (place x)) =
      (l.filter fun x => place x == span).map fun x => .about code (name x) (place x) := by
  have hall : withCode code (l.map fun x => .about code (name x) (place x)) =
      l.map fun x => .about code (name x) (place x) := by
    refine List.filter_eq_self.2 fun p hp => ?_
    obtain ⟨x, -, rfl⟩ := List.mem_map.1 hp
    exact beq_self_eq_true _
  rw [reportedAt, hall, List.filter_map]
  rfl

theorem reportedAt_about_of_ne (hne : code ≠ code') {α : Type} (l : List α) (name : α → Text)
    (place : α → Span) :
    reportedAt code span (l.map fun x => .about code' (name x) (place x)) = [] := by
  have hnone : withCode code (l.map fun x => .about code' (name x) (place x)) = [] := by
    refine withCode_eq_nil fun p hp hcode => ?_
    obtain ⟨x, -, rfl⟩ := List.mem_map.1 hp
    exact hne (ProblemCode.number_injective hcode).symm
  rw [reportedAt, hnone]
  rfl

end Problem

/-! ## Checked sections -/

/-- The names that entries of sections of the given tag may have. -/
def Signature.declared (s : Signature) : DocTag → List Text
  | .params => s.args.map (·.name.lower)
  | .keywords => s.keywords.map (·.name.lower)
  | _ => []

/-- The parameters that entries of sections of the given tag should describe: their names and where
they are written. -/
def Signature.toDescribe (s : Signature) : DocTag → List (Text × Span)
  | .params => s.args.map fun a => (a.name.lower, a.span)
  | .keywords => s.namedKeywords.map fun k => (k.name.lower, k.span)
  | _ => []

theorem Signature.toDescribe_sublist (s : Signature) (tag : DocTag) :
    ((s.toDescribe tag).map (·.2)).Sublist (s.args.map (·.span) ++ s.keywords.map (·.span)) := by
  unfold toDescribe
  split
  · rw [List.map_map]
    exact List.sublist_append_left _ _
  · rw [List.map_map]
    exact (List.filter_sublist.map _).trans (List.sublist_append_right _ _)
  · exact List.nil_sublist _

theorem Signature.hasEntries_of_toDescribe {s : Signature} {tag : DocTag} {p : Text × Span}
    (hp : p ∈ s.toDescribe tag) : tag.hasEntries = true := by
  unfold toDescribe at hp
  split at hp
  · rfl
  · rfl
  · cases hp

/-- What is reported of a parameter without an entry. -/
def DocTag.missingCode : DocTag → ProblemCode
  | .keywords => .keywordMissingFromDocs
  | _ => .argMissingFromDocs

theorem DocTag.missingCode_ne (tag : DocTag) : tag.missingCode ≠ .documentedParamMissing := by
  unfold missingCode
  split <;> decide

theorem DocTag.eq_of_missingCode_eq {tag tag' : DocTag} (h : tag.hasEntries = true)
    (h' : tag'.hasEntries = true) (heq : tag.missingCode = tag'.missingCode) : tag = tag' := by
  cases tag <;> cases tag' <;> simp_all [hasEntries, missingCode]

namespace Docs

/-- The sections of a block that are checked. -/
def checkedSections (b : DocBlock) : List DocSection :=
  [DocTag.params, .keywords].filterMap b.section?

/-- What is reported of the entries of a section and of the parameters that it should describe. -/
def entryReports (s : Signature) (sec : DocSection) : List Problem :=
  undeclared sec (s.declared sec.tag) ++
    undocumented sec sec.tag.missingCode (s.toDescribe sec.tag)

/-- The kinds of these reports. -/
def entryCodes : List ProblemCode :=
  [.documentedParamMissing, .argMissingFromDocs, .keywordMissingFromDocs]

theorem missingCode_mem_entryCodes (tag : DocTag) : tag.missingCode ∈ entryCodes := by
  unfold DocTag.missingCode
  split <;> decide

theorem tag_of_section? {b : DocBlock} {tag : DocTag} {sec : DocSection}
    (h : b.section? tag = some sec) : sec.tag = tag := by
  simpa using List.find?_some h

theorem mem_checkedSections {b : DocBlock} {sec : DocSection} :
    sec ∈ checkedSections b ↔ sec.tag.hasEntries = true ∧ b.section? sec.tag = some sec := by
  constructor
  · intro h
    obtain ⟨tag, htag, hsec⟩ := List.mem_filterMap.1 h
    rw [tag_of_section? hsec]
    rcases List.mem_pair.1 htag with rfl | rfl <;> exact ⟨rfl, hsec⟩
  · rintro ⟨hlist, hsec⟩
    refine List.mem_filterMap.2 ⟨sec.tag, ?_, hsec⟩
    cases htag : sec.tag <;> simp_all [DocTag.hasEntries]

theorem checkArgs_eq (s : Signature) (b : DocBlock) {sec : DocSection} (htag : sec.tag = .params) :
    checkArgs s b sec =
      pointless b sec .noArgsToDoc (s.declared .params) ++ entryReports s sec := by
  rw [entryReports, htag, ← List.append_assoc]
  rfl

theorem checkKeywords_eq (s : Signature) (b : DocBlock) {sec : DocSection}
    (htag : sec.tag = .keywords) : checkKeywords s b sec =
      pointless b sec .noKwsToDoc (s.declared .keywords) ++ entryReports s sec := by
  rw [entryReports, htag, ← List.append_assoc]
  rfl

theorem withCode_sectionProblem {code code' : ProblemCode} (hne : code ≠ code') (b : DocBlock)
    (sec : DocSection) : withCode code [sectionProblem b sec code'] = [] := by
  refine Problem.withCode_eq_nil (List.forall_mem_singleton.2 fun hcode => ?_)
  exact hne (ProblemCode.number_injective hcode.symm)

theorem withCode_pointless {code code' : ProblemCode} (hne : code ≠ code') (b : DocBlock)
    (sec : DocSection) (declared : List Text) :
    withCode code (pointless b sec code' declared) = [] := by
  unfold pointless
  split
  · exact withCode_sectionProblem hne b sec
  · rfl

/-- Besides these reports, a check says only that whole sections are out of place. -/
theorem withCode_check {code : ProblemCode} (hcode : code ∈ entryCodes) (s : Signature)
    (b : DocBlock) : withCode code (check s b) =
      withCode code ((checkedSections b).flatMap (entryReports s)) := by
  have hne : code ≠ .noArgsToDoc ∧ code ≠ .noKwsToDoc ∧ code ≠ .returnsOnProcedure := by
    revert code
    decide
  have hargs : withCode code (((b.section? .params).map (checkArgs s b)).getD []) =
      withCode code ((b.section? .params).toList.flatMap (entryReports s)) := by
    cases hsec : b.section? .params with
    | none => rfl
    | some sec =>
      rw [Option.map_some, Option.getD_some, checkArgs_eq s b (tag_of_section? hsec),
        Problem.withCode_append, withCode_pointless hne.1]
      simp
  have hkeywords : withCode code (((b.section? .keywords).map (checkKeywords s b)).getD []) =
      withCode code ((b.section? .keywords).toList.flatMap (entryReports s)) := by
    cases hsec : b.section? .keywords with
    | none => rfl
    | some sec =>
      rw [Option.map_some, Option.getD_some, checkKeywords_eq s b (tag_of_section? hsec),
        Problem.withCode_append, withCode_pointless hne.2.1]
      simp
  have hreturns : withCode code (if s.kind.isFunction then [] else
      ((b.section? .returns).map fun sec => sectionProblem b sec .returnsOnProcedure).toList) =
        [] := by
    split
    · rfl
    · cases b.section? .returns with
      | none => rfl
      | some sec => exact withCode_sectionProblem hne.2.2 b sec
  have hsections : checkedSections b =
      (b.section? .params).toList ++ (b.section? .keywords).toList := by
    cases hparams : b.section? .params <;> cases hkws : b.section? .keywords <;>
      simp [checkedSections, hparams, hkws]
  rw [check, Problem.withCode_append, Problem.withCode_append, hargs, hkeywords, hreturns,
    hsections, List.flatMap_append, Problem.withCode_append, List.append_nil]

/-- What is reported on a place of the entries of a section. -/
theorem reportedAt_documented (s : Signature) (sec : DocSection) (span : Span) :
    Problem.reportedAt .documentedParamMissing span (entryReports s sec) =
      ((sec.entries.filter fun e => !(s.declared sec.tag).contains e.key).filter fun e =>
        e.span == span).map fun e => .about .documentedParamMissing e.key e.span := by
  rw [entryReports, Problem.reportedAt_append, undeclared, undocumented, Problem.reportedAt_about,
    Problem.reportedAt_about_of_ne sec.tag.missingCode_ne.symm, List.append_nil]

/-- What is reported on a place of the parameters that a section should describe. -/
theorem reportedAt_missing (s : Signature) (sec : DocSection) (span : Span) :
    Problem.reportedAt sec.tag.missingCode span (entryReports s sec) =
      (((s.toDescribe sec.tag).filter fun p =>
        !(sec.entries.map (·.key)).contains p.1).filter fun p => p.2 == span).map fun p =>
          .about sec.tag.missingCode p.1 p.2 := by
  rw [entryReports, Problem.reportedAt_append, undeclared, undocumented, Problem.reportedAt_about,
    Problem.reportedAt_about_of_ne sec.tag.missingCode_ne, List.nil_append]

/-- A parameter is reported by the section that should describe it. -/
theorem tag_eq_of_reportedAt_missing {s : Signature} {sec : DocSection} {tag : DocTag} {span : Span}
    (hsec : sec.tag.hasEntries = true) (htag : tag.hasEntries = true)
    (h : Problem.reportedAt tag.missingCode span (entryReports s sec) ≠ []) : sec.tag = tag := by
  by_contra hne
  have hcode : tag.missingCode ≠ sec.tag.missingCode := fun heq =>
    hne (DocTag.eq_of_missingCode_eq hsec htag heq.symm)
  rw [entryReports, Problem.reportedAt_append, undeclared, undocumented,
    Problem.reportedAt_about_of_ne tag.missingCode_ne, Problem.reportedAt_about_of_ne hcode] at h
  exact h rfl

end Docs

/-- The kinds of the reports on a call. -/
theorem CallSite.code_of_mem_check {c : CallSite} {s : Signature} {p : Problem}
    (h : p ∈ c.check s) : p.code = ProblemCode.unknownKeyword.number ∨
      p.code = ProblemCode.tooManyArguments.number := by
  rcases List.mem_append.1 h with h | h
  · unfold unknownKeywords at h
    split at h
    · cases h
    · obtain ⟨k, -, rfl⟩ := List.mem_map.1 h
      exact .inl rfl
  · unfold surplus at h
    split at h
    · rw [List.mem_singleton.1 h]
      exact .inr rfl
    · cases h

namespace Analysis

/-- The sections that are checked, each with its block and with the routine that it documents. -/
def checkedSections (a : Analysis) : List (Signature × DocBlock × DocSection) :=
  a.record.signatures.flatMap fun s => (a.docsFor? s).toList.flatMap fun b =>
    (Docs.checkedSections b).map fun sec => (s, b, sec)

theorem mem_checkedSections {a : Analysis} {s : Signature} {b : DocBlock} {sec : DocSection} :
    (s, b, sec) ∈ a.checkedSections ↔ s ∈ a.record.signatures ∧ a.docsFor? s = some b ∧
      sec.tag.hasEntries = true ∧ b.section? sec.tag = some sec := by
  simp [checkedSections, Docs.mem_checkedSections]

/-- The checks of variables and calls give no reports on entries. -/
theorem withCode_check {code : ProblemCode} (hcode : code ∈ Docs.entryCodes) (a : Analysis)
    (lookup : RoutineLookup) : (withCode code (a.check lookup)).Perm
      (withCode code (a.checkedSections.flatMap fun x => Docs.entryReports x.1 x.2.2)) := by
  have hne : code ≠ .unusedVariable ∧ code ≠ .unknownKeyword ∧ code ≠ .tooManyArguments := by
    revert code
    decide
  have hvariables : withCode code a.record.unusedVariables = [] := by
    refine Problem.withCode_eq_nil fun p hp hnumber => ?_
    obtain ⟨b, -, rfl⟩ := List.mem_map.1 hp
    exact hne.1 (ProblemCode.number_injective hnumber.symm)
  have hcalls : withCode code (a.checkCalls lookup) = [] := by
    refine Problem.withCode_eq_nil fun p hp hnumber => ?_
    obtain ⟨c, -, hp⟩ := List.mem_flatMap.1 hp
    cases hmeant : a.resolveCall lookup c with
    | none => simp [hmeant] at hp
    | some s =>
      rw [hmeant] at hp
      rcases CallSite.code_of_mem_check hp with h | h <;> rw [h] at hnumber
      · exact hne.2.1 (ProblemCode.number_injective hnumber.symm)
      · exact hne.2.2 (ProblemCode.number_injective hnumber.symm)
  have hdocs : withCode code a.checkDocs =
      withCode code (a.checkedSections.flatMap fun x => Docs.entryReports x.1 x.2.2) := by
    simp only [checkDocs, checkedSections, withCode, List.filter_flatMap, List.flatMap_assoc,
      List.flatMap_map]
    refine List.flatMap_congr fun s hs => ?_
    cases a.docsFor? s with
    | none => rfl
    | some b =>
      have hcheck := Docs.withCode_check hcode s b
      rw [withCode, withCode, List.filter_flatMap] at hcheck
      simpa using hcheck
  have hall : withCode code (a.checkDocs ++ a.record.unusedVariables ++ a.checkCalls lookup) =
      withCode code a.checkDocs := by
    rw [Problem.withCode_append, Problem.withCode_append, hvariables, hcalls, List.append_nil,
      List.append_nil]
  rw [← hdocs, ← hall]
  exact (List.mergeSort_perm _ _).filter _

theorem perm_reportedAt {code : ProblemCode} (hcode : code ∈ Docs.entryCodes) (a : Analysis)
    (lookup : RoutineLookup) (span : Span) :
    (Problem.reportedAt code span (a.check lookup)).Perm (a.checkedSections.flatMap fun x =>
      Problem.reportedAt code span (Docs.entryReports x.1 x.2.2)) := by
  rw [← Problem.reportedAt_flatMap]
  exact (withCode_check hcode a lookup).filter _

/-- Every checked section is listed once. -/
theorem nodup_checkedSections (path : Path) (text : Text) :
    (Analysis.read path text).checkedSections.Nodup := by
  have hlaid := laid_tokensFrom text.sourceLines
  refine List.nodup_flatMap.2 ⟨fun s _ => ?_, ?_⟩
  · cases (Analysis.read path text).docsFor? s with
    | none => exact List.nodup_nil
    | some b =>
      simp only [Option.toList_some, List.flatMap_singleton]
      refine List.Nodup.map (fun x y h => by simpa using h) ?_
      refine List.Nodup.filterMap ?_ (by decide)
      intro tag tag' sec hsec hsec'
      rw [← Docs.tag_of_section? hsec, Docs.tag_of_section? hsec']
  · refine (Record.nodup_signatures path hlaid).imp ?_
    intro s s' hne x hx hx'
    obtain ⟨b, -, hx⟩ := List.mem_flatMap.1 hx
    obtain ⟨sec, -, rfl⟩ := List.mem_map.1 hx
    obtain ⟨b', -, hx'⟩ := List.mem_flatMap.1 hx'
    obtain ⟨sec', -, heq⟩ := List.mem_map.1 hx'
    exact hne (congrArg Prod.fst heq).symm

variable (path : Path) (text : Text) (lookup : RoutineLookup)

/-- A report that only one of the checked sections can give. -/
theorem reportedAt_eq_of_unique {code : ProblemCode} (hcode : code ∈ Docs.entryCodes) {span : Span}
    {x : Signature × DocBlock × DocSection} (hx : x ∈ (Analysis.read path text).checkedSections)
    (h : ∀ y ∈ (Analysis.read path text).checkedSections,
      Problem.reportedAt code span (Docs.entryReports y.1 y.2.2) ≠ [] → y = x) {p : Problem}
    (hp : Problem.reportedAt code span (Docs.entryReports x.1 x.2.2) = [p]) :
    Problem.reportedAt code span ((Analysis.read path text).check lookup) = [p] := by
  have hperm := perm_reportedAt hcode (Analysis.read path text) lookup span
  rw [flatMap_eq_of_forall_ne (nodup_checkedSections path text) hx, hp] at hperm
  · exact List.perm_singleton.1 hperm
  · intro y hy hne
    by_contra hsome
    exact hne (h y hy hsome)

theorem reportedAt_eq_nil {code : ProblemCode} (hcode : code ∈ Docs.entryCodes) {span : Span}
    (h : ∀ y ∈ (Analysis.read path text).checkedSections,
      Problem.reportedAt code span (Docs.entryReports y.1 y.2.2) = []) :
    Problem.reportedAt code span ((Analysis.read path text).check lookup) = [] := by
  have hperm := perm_reportedAt hcode (Analysis.read path text) lookup span
  rw [List.flatMap_eq_nil_iff.2 h] at hperm
  exact List.perm_nil.1 hperm

/-- A block documents one routine at most. -/
theorem eq_of_docsFor? {s s' : Signature} {b : DocBlock}
    (hs : s ∈ (Analysis.read path text).record.signatures)
    (hs' : s' ∈ (Analysis.read path text).record.signatures)
    (h : (Analysis.read path text).docsFor? s = some b)
    (h' : (Analysis.read path text).docsFor? s' = some b) : s = s' := by
  have hstart : b.routineStart = some s.start := by simpa using List.find?_some h
  have hstart' : b.routineStart = some s'.start := by simpa using List.find?_some h'
  have hsame : s.start = s'.start := Option.some.inj (hstart.symm.trans hstart')
  refine Record.eq_of_mem_headSpans path (laid_tokensFrom text.sourceLines) hs hs'
    List.mem_cons_self ?_
  rw [hsame]
  exact List.mem_cons_self

/-- An entry is reported if it is in the first section of its kind of a routine's documentation, and
the routine does not declare its name. -/
theorem reportedAt_entry {b : DocBlock} (hb : b ∈ (Analysis.read path text).blocks)
    {sec : DocSection} {e : DocEntry} (hsec : sec ∈ b.sections) (he : e ∈ sec.entries) :
    Problem.reportedAt .documentedParamMissing e.span ((Analysis.read path text).check lookup) =
      if ∃ s ∈ (Analysis.read path text).record.signatures,
          (Analysis.read path text).docsFor? s = some b ∧ b.section? sec.tag = some sec ∧
            e.key ∉ s.declared sec.tag
      then [.about .documentedParamMissing e.key e.span] else [] := by
  have hmem : (sec, e) ∈ b.entries := DocBlock.mem_entries.2 ⟨hsec, he⟩
  obtain ⟨groups, haccounted⟩ := DocBlocks.exists_accountedBy hb
  have hsource : ∀ x ∈ (Analysis.read path text).checkedSections,
      Problem.reportedAt .documentedParamMissing e.span (Docs.entryReports x.1 x.2.2) ≠ [] →
        x.2 = (b, sec) ∧ e.key ∉ x.1.declared sec.tag := by
    rintro ⟨s', b', sec'⟩ hx hsome
    obtain ⟨-, hdocs, -, hfirst⟩ := mem_checkedSections.1 hx
    rw [Docs.reportedAt_documented, ne_eq, List.map_eq_nil_iff] at hsome
    obtain ⟨e', he'⟩ := List.exists_mem_of_ne_nil _ hsome
    obtain ⟨he', hspan⟩ := List.mem_filter.1 he'
    obtain ⟨he', hundeclared⟩ := List.mem_filter.1 he'
    have hmem' : (sec', e') ∈ b'.entries :=
      DocBlock.mem_entries.2 ⟨List.mem_of_find?_eq_some hfirst, he'⟩
    obtain ⟨rfl, rfl, rfl⟩ := DocBlocks.eq_of_entry_line (List.mem_of_find?_eq_some hdocs) hb hmem'
      hmem (congrArg Span.line (eq_of_beq hspan))
    exact ⟨rfl, by simpa using hundeclared⟩
  split
  · rename_i hreported
    obtain ⟨s, hs, hdocs, hfirst, hundeclared⟩ := hreported
    refine reportedAt_eq_of_unique path text lookup (by decide) (x := (s, b, sec))
      (mem_checkedSections.2 ⟨hs, hdocs, haccounted.hasEntries_of_mem hmem, hfirst⟩) ?_ ?_
    · rintro ⟨s', b', sec'⟩ hy hsome
      obtain ⟨hs', hdocs', -, -⟩ := mem_checkedSections.1 hy
      obtain ⟨heq, -⟩ := hsource _ hy hsome
      obtain ⟨rfl, rfl⟩ := Prod.mk.inj heq
      rw [eq_of_docsFor? path text hs hs' hdocs hdocs']
    · have hnodup : ((sec.entries.filter fun e =>
          !(s.declared sec.tag).contains e.key).map (·.span)).Nodup :=
        (haccounted.nodup_spans hsec).sublist (List.filter_sublist.map _)
      rw [Docs.reportedAt_documented, filter_eq_singleton_of_nodup_map hnodup
        (List.mem_filter.2 ⟨he, by simpa using hundeclared⟩)]
      rfl
  · rename_i hnone
    refine reportedAt_eq_nil path text lookup (by decide) ?_
    rintro ⟨s', b', sec'⟩ hy
    by_contra hsome
    obtain ⟨hs', hdocs', -, hfirst'⟩ := mem_checkedSections.1 hy
    obtain ⟨heq, hundeclared⟩ := hsource _ hy hsome
    obtain ⟨rfl, rfl⟩ := Prod.mk.inj heq
    exact hnone ⟨s', hs', hdocs', hfirst', hundeclared⟩

/-- A parameter is reported if the first section of its kind in its routine's documentation has no
entry on it. -/
theorem reportedAt_parameter {s : Signature}
    (hs : s ∈ (Analysis.read path text).record.signatures) {tag : DocTag}
    {p : Text × Span} (hp : p ∈ s.toDescribe tag) :
    Problem.reportedAt tag.missingCode p.2 ((Analysis.read path text).check lookup) =
      if ∃ b ∈ (Analysis.read path text).docsFor? s, ∃ sec ∈ b.section? tag,
          p.1 ∉ sec.entries.map (·.key)
      then [.about tag.missingCode p.1 p.2] else [] := by
  have hlaid := laid_tokensFrom text.sourceLines
  have hnodup : ((s.toDescribe tag).map (·.2)).Nodup :=
    (Record.nodup_parameters path hlaid hs).sublist (s.toDescribe_sublist tag)
  have hspan {s : Signature} {tag : DocTag} {p : Text × Span} (hp : p ∈ s.toDescribe tag) :
      p.2 ∈ s.headSpans :=
    List.mem_cons_of_mem _ ((s.toDescribe_sublist tag).subset (List.mem_map_of_mem hp))
  have hcode := Docs.missingCode_mem_entryCodes tag
  have hsource : ∀ x ∈ (Analysis.read path text).checkedSections,
      Problem.reportedAt tag.missingCode p.2 (Docs.entryReports x.1 x.2.2) ≠ [] →
        x.1 = s ∧ x.2.2.tag = tag ∧ p.1 ∉ x.2.2.entries.map (·.key) := by
    rintro ⟨s', b', sec'⟩ hx hsome
    obtain ⟨hs', -, hlist, -⟩ := mem_checkedSections.1 hx
    obtain rfl := Docs.tag_eq_of_reportedAt_missing hlist (s.hasEntries_of_toDescribe hp) hsome
    rw [Docs.reportedAt_missing, ne_eq, List.map_eq_nil_iff] at hsome
    obtain ⟨p', hp'⟩ := List.exists_mem_of_ne_nil _ hsome
    obtain ⟨hp', hplace⟩ := List.mem_filter.1 hp'
    obtain ⟨hp', hundocumented⟩ := List.mem_filter.1 hp'
    have hplace : p'.2 = p.2 := eq_of_beq hplace
    obtain rfl := Record.eq_of_mem_headSpans path hlaid hs' hs (hspan hp') (hplace ▸ hspan hp)
    obtain rfl := List.inj_on_of_nodup_map hnodup hp' hp hplace
    exact ⟨rfl, rfl, by simpa using hundocumented⟩
  split
  · rename_i hreported
    obtain ⟨b, hdocs, sec, hfirst, hundocumented⟩ := hreported
    obtain rfl := Docs.tag_of_section? hfirst
    refine reportedAt_eq_of_unique path text lookup hcode (x := (s, b, sec))
      (mem_checkedSections.2 ⟨hs, hdocs, s.hasEntries_of_toDescribe hp, hfirst⟩) ?_ ?_
    · rintro ⟨s', b', sec'⟩ hy hsome
      obtain ⟨-, hdocs', -, hfirst'⟩ := mem_checkedSections.1 hy
      obtain ⟨rfl, htag, -⟩ := hsource _ hy hsome
      dsimp only at htag
      obtain rfl := Option.some.inj (hdocs.symm.trans hdocs')
      rw [htag] at hfirst'
      rw [Option.some.inj (hfirst.symm.trans hfirst')]
    · have hnodup' : (((s.toDescribe sec.tag).filter fun p =>
          !(sec.entries.map (·.key)).contains p.1).map (·.2)).Nodup :=
        hnodup.sublist (List.filter_sublist.map _)
      rw [Docs.reportedAt_missing, filter_eq_singleton_of_nodup_map hnodup'
        (List.mem_filter.2 ⟨hp, by simpa using hundocumented⟩)]
      rfl
  · rename_i hnone
    refine reportedAt_eq_nil path text lookup hcode ?_
    rintro ⟨s', b', sec'⟩ hy
    by_contra hsome
    obtain ⟨-, hdocs', -, hfirst'⟩ := mem_checkedSections.1 hy
    obtain ⟨rfl, rfl, hundocumented⟩ := hsource _ hy hsome
    exact hnone ⟨b', hdocs', sec', hfirst', hundocumented⟩

/-- A report comes of a checked section. -/
theorem exists_of_mem_check {code : ProblemCode} (hcode : code ∈ Docs.entryCodes) {p : Problem}
    (hp : p ∈ (Analysis.read path text).check lookup) (hnumber : p.code = code.number) :
    ∃ x ∈ (Analysis.read path text).checkedSections,
      p ∈ Problem.reportedAt code p.start (Docs.entryReports x.1 x.2.2) := by
  rw [← List.mem_flatMap, ← (perm_reportedAt hcode _ lookup p.start).mem_iff]
  simp [Problem.reportedAt, withCode, hp, hnumber]

/-- What is reported of entries and parameters. An entry is reported once if it is in the first
section of its kind of a routine's documentation and the routine does not declare its name, and not
at all otherwise; a parameter is reported once if its routine's documentation has a section of its
kind, the first of which has no entry on it. Nothing else is reported so. -/
theorem entries_checked (path : Path) (text : Text) (lookup : RoutineLookup) :
    let a := Analysis.read path text
    let reported := a.check lookup
    (∀ b ∈ a.blocks, ∀ sec ∈ b.sections, ∀ e ∈ sec.entries,
      Problem.reportedAt .documentedParamMissing e.span reported =
        if ∃ s ∈ a.record.signatures, a.docsFor? s = some b ∧ b.section? sec.tag = some sec ∧
            e.key ∉ s.declared sec.tag
        then [.about .documentedParamMissing e.key e.span] else []) ∧
      (∀ s ∈ a.record.signatures, ∀ tag, ∀ p ∈ s.toDescribe tag,
        Problem.reportedAt tag.missingCode p.2 reported =
          if ∃ b ∈ a.docsFor? s, ∃ sec ∈ b.section? tag, p.1 ∉ sec.entries.map (·.key)
          then [.about tag.missingCode p.1 p.2] else []) ∧
      (∀ x ∈ reported, x.code = ProblemCode.documentedParamMissing.number →
        ∃ s ∈ a.record.signatures, ∃ b ∈ a.docsFor? s, ∃ sec ∈ b.sections, ∃ e ∈ sec.entries,
          x.start = e.span) ∧
      ∀ tag, tag.hasEntries = true → ∀ x ∈ reported, x.code = tag.missingCode.number →
        ∃ s ∈ a.record.signatures, ∃ b ∈ a.docsFor? s, ∃ sec ∈ b.section? tag,
          ∃ p ∈ s.toDescribe tag, x.start = p.2 := by
  refine ⟨fun b hb sec hsec e he => reportedAt_entry path text lookup hb hsec he,
    fun s hs tag p hp => reportedAt_parameter path text lookup hs hp, ?_, ?_⟩
  · intro x hx hcode
    obtain ⟨⟨s, b, sec⟩, hy, hx⟩ := exists_of_mem_check path text lookup (by decide) hx hcode
    obtain ⟨hs, hdocs, -, hfirst⟩ := mem_checkedSections.1 hy
    rw [Docs.reportedAt_documented] at hx
    obtain ⟨e, he, hreport⟩ := List.mem_map.1 hx
    refine ⟨s, hs, b, hdocs, sec, List.mem_of_find?_eq_some hfirst, e, ?_, ?_⟩
    · exact List.mem_of_mem_filter (List.mem_of_mem_filter he)
    · rw [← hreport]
      rfl
  · intro tag hlist x hx hcode
    obtain ⟨⟨s, b, sec⟩, hy, hx⟩ :=
      exists_of_mem_check path text lookup (Docs.missingCode_mem_entryCodes tag) hx hcode
    obtain ⟨hs, hdocs, hsec, hfirst⟩ := mem_checkedSections.1 hy
    obtain rfl := Docs.tag_eq_of_reportedAt_missing hsec hlist (List.ne_nil_of_mem hx)
    rw [Docs.reportedAt_missing] at hx
    obtain ⟨p, hp, hreport⟩ := List.mem_map.1 hx
    refine ⟨s, hs, b, hdocs, sec, hfirst, p, ?_, ?_⟩
    · exact List.mem_of_mem_filter (List.mem_of_mem_filter hp)
    · rw [← hreport]
      rfl

/-- An entry and a parameter that do not fit together are both reported. -/
theorem entries_checked_both_ways :
    let text : Text := ";+\n; :Params:\n;   b: in\n;-\npro p, a\nend\n".toList
    let a := Analysis.read (.ofText ['a']) text
    (∃ b ∈ a.blocks, ∃ sec ∈ b.sections, ∃ e ∈ sec.entries,
      Problem.reportedAt .documentedParamMissing e.span (a.check .none) =
        [.about .documentedParamMissing e.key e.span]) ∧
      ∃ s ∈ a.record.signatures, ∃ p ∈ s.toDescribe .params,
        Problem.reportedAt .argMissingFromDocs p.2 (a.check .none) =
          [.about .argMissingFromDocs p.1 p.2] := by
  intro text a
  obtain ⟨hentries, hparameters, -, -⟩ := entries_checked (.ofText ['a']) text .none
  have hentry : ∃ b ∈ a.blocks, ∃ sec ∈ b.sections, ∃ e ∈ sec.entries,
      ∃ s ∈ a.record.signatures, a.docsFor? s = some b ∧ b.section? sec.tag = some sec ∧
        e.key ∉ s.declared sec.tag := by
    decide +kernel
  have hparameter : ∃ s ∈ a.record.signatures, ∃ p ∈ s.toDescribe .params,
      ∃ b ∈ a.docsFor? s, ∃ sec ∈ b.section? .params, p.1 ∉ sec.entries.map (·.key) := by
    decide +kernel
  obtain ⟨b, hb, sec, hsec, e, he, hreported⟩ := hentry
  obtain ⟨s, hs, p, hp, hmissing⟩ := hparameter
  exact ⟨⟨b, hb, sec, hsec, e, he, (hentries b hb sec hsec e he).trans (if_pos hreported)⟩,
    s, hs, p, hp, (hparameters s hs .params p hp).trans (if_pos hmissing)⟩

/-- The second section on parameters is not looked at, although its entry has no parameter. -/
theorem second_section_unchecked :
    let text : Text :=
      ";+\n; :Params:\n;   a: in\n; :Arguments:\n;   b: in\n;-\npro p, a\nend\n".toList
    let a := Analysis.read (.ofText ['a']) text
    ∃ s ∈ a.record.signatures, ∃ b ∈ a.docsFor? s, ∃ sec ∈ b.sections, sec.tag = .params ∧
      ∃ e ∈ sec.entries, e.key ∉ s.args.map (·.name.lower) ∧
        Problem.reportedAt .documentedParamMissing e.span (a.check .none) = [] := by
  decide +kernel

end Analysis

end RoutineAtlas
