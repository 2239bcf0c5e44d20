import RoutineAtlas.Doc.Link
import RoutineAtlas.Proofs.LetterCase.Token
import RoutineAtlas.Proofs.Record

/-!
# Documentation in small letters

The lines of a documentation block are told apart by their marks, their indents and the small form
of their tags. Read from small lines, a block has the same sections and entries at the same places,
and the same problems: no problem of a block quotes the source.

## Main definitions

* `DocBlock.lower` — the block in small letters.
* `DocBlocks.ofTokens_lower` — the blocks of a file in small letters.
-/

namespace RoutineAtlas

/-! ## Blocks -/

/-- The tag in small letters. -/
def DocTag.lower : DocTag → DocTag
  | .other text => .other text.lower
  | tag => tag

/-- The entry in small letters. -/
def DocEntry.lower (e : DocEntry) : DocEntry :=
  { e with
    name := e.name.lower
    attributes := e.attributes.map Text.lower
    description := e.description.map Text.lower }

@[simp] theorem DocEntry.key_lower (e : DocEntry) : e.lower.key = e.key :=
  Text.lower_lower e.name

/-- The section in small letters. -/
def DocSection.lower (s : DocSection) : DocSection :=
  { s with
    tag := s.tag.lower
    text := s.text.map Text.lower
    entries := s.entries.map DocEntry.lower }

/-- The block in small letters. -/
def DocBlock.lower (b : DocBlock) : DocBlock :=
  { b with sections := b.sections.map DocSection.lower }

namespace DocTag

theorem ofText_lower (t : Text) : ofText t.lower = (ofText t).lower := by
  rw [ofText, ofText, Text.trim_lower, Text.lower_lower]
  cases htag : spellings.lookup t.trim.lower with
  | none => rfl
  | some tag =>
    have hknown : ∀ entry ∈ spellings, entry.2.lower = entry.2 := by decide
    obtain ⟨before, after, heq, -⟩ := List.lookup_eq_some_iff.1 htag
    have hmem : (t.trim.lower, tag) ∈ spellings := by simp [heq]
    exact (hknown _ hmem).symm

@[simp] theorem hasEntries_lower (tag : DocTag) : tag.lower.hasEntries = tag.hasEntries := by
  cases tag <;> rfl

end DocTag

/-! ## Lines -/

theorem caseBlind_isTagChar : CaseBlind isTagChar := caseBlind_of_capitals (by decide)

/-- What the line says, in small letters. -/
def DocLine.lower : DocLine → DocLine
  | .header tag span inline => .header tag.lower span inline.lower
  | .blank => .blank
  | .content indent body => .content indent body.lower

theorem commentBody?_lower (line : Text) :
    commentBody? line.lower = (commentBody? line).map fun x => (x.1, x.2.lower) := by
  simp only [commentBody?, Text.trimStart_lower, Text.length_lower]
  cases line.trimStart with
  | nil => rfl
  | cons c body =>
    by_cases hc : c = ';'
    · subst hc
      simp
    · have hlower : c.toLower ≠ ';' := fun h => hc ((toLower_eq_iff rfl).1 h)
      simp [hc, hlower]

theorem tagHeader?_lower (body : Text) :
    tagHeader? body.lower = (tagHeader? body).map fun x => (x.1.lower, x.2.lower) := by
  simp only [tagHeader?, Text.trimStart_lower]
  cases body.trimStart with
  | nil => rfl
  | cons c rest =>
    by_cases hc : c = ':'
    · subst hc
      simp only [Text.lower_cons, Char.reduceToLower, Text.dropWhile_lower caseBlind_isTagChar,
        Text.takeWhile_lower caseBlind_isTagChar]
      cases rest.dropWhile isTagChar with
      | nil => rfl
      | cons d inline =>
        by_cases hd : d = ':'
        · subst hd
          simp only [Text.lower_cons, Char.reduceToLower, Text.any_head?_lower caseBlind_isAlpha,
            Text.contains_lower (x := '\n') rfl]
          split <;> rfl
        · have hlower : d.toLower ≠ ':' := fun h => hd ((toLower_eq_iff rfl).1 h)
          simp [hd, hlower]
    · have hlower : c.toLower ≠ ':' := fun h => hc ((toLower_eq_iff rfl).1 h)
      simp [hc, hlower]

/-- Trimming the attributes of an entry and leaving out the empty ones. -/
theorem attributes_lower (pieces : List Text) :
    ((pieces.map Text.lower).map Text.trim).filter (fun a => !a.isEmpty) =
      ((pieces.map Text.trim).filter fun a => !a.isEmpty).map Text.lower := by
  rw [List.map_map, show Text.trim ∘ Text.lower = Text.lower ∘ Text.trim from
    funext Text.trim_lower, ← List.map_map, List.filter_map]
  simp only [Function.comp_def, Text.isEmpty_lower]

theorem entryHeader?_lower (body : Text) :
    entryHeader? body.lower = (entryHeader? body).map fun x => (x.1.lower, x.2.map Text.lower) := by
  simp only [entryHeader?, Text.trimStart_lower]
  cases body.trimStart with
  | nil => rfl
  | cons c rest =>
    simp only [Text.lower_cons, caseBlind_isNameStart c, Text.dropWhile_lower caseBlind_extendsWord,
      Text.takeWhile_lower caseBlind_extendsWord, Text.trimStart_lower]
    by_cases hstart : isNameStart c = true
    · rw [if_pos hstart, if_pos hstart]
      cases Text.trimStart (rest.dropWhile extendsWord) with
      | nil => rfl
      | cons d attributes =>
        by_cases hd : d = ':'
        · subst hd
          simp only [Text.lower_cons, Char.reduceToLower, Text.contains_lower (x := '\n') rfl,
            Text.piecesAt_lower (show Char.isAlpha ',' = false from rfl), attributes_lower]
          split <;> rfl
        · have hlower : d.toLower ≠ ':' := fun h => hd ((toLower_eq_iff rfl).1 h)
          simp [hd, hlower]
    · rw [if_neg hstart, if_neg hstart]
      rfl

theorem DocLine.read?_lower (n : Nat) (line : Text) :
    DocLine.read? n line.lower = (DocLine.read? n line).map DocLine.lower := by
  rw [read?, read?, commentBody?_lower]
  cases commentBody? line with
  | none => rfl
  | some found =>
    obtain ⟨column, body⟩ := found
    simp only [Option.map_some, Option.bind_eq_bind, Option.bind_some, Option.pure_def,
      tagHeader?_lower, Text.takeWhile_lower caseBlind_isBlank, Text.length_lower,
      Text.isBlankOnly_lower]
    cases tagHeader? body with
    | some header => simp [lower]
    | none => cases body.isBlankOnly <;> rfl

/-! ## Sections -/

namespace SectionList

/-- The sections in small letters. -/
def lower (s : SectionList) : SectionList :=
  { s with reversed := s.reversed.map DocSection.lower }

variable (s : SectionList) (full : Span)

theorem current_lower : s.lower.current full =
    ((s.current full).1.lower, (s.current full).2.map DocSection.lower) := by
  obtain ⟨reversed, level, problems⟩ := s
  cases reversed <;> rfl

theorem describe_lower (entries : List DocEntry) (line : Text) :
    describe (entries.map DocEntry.lower) line.lower =
      (describe entries line).map DocEntry.lower := by
  rw [describe, describe, List.length_map]
  exact modify_map (fun e => by simp [DocEntry.lower]) entries (entries.length - 1)

theorem addToEntries_lower (sec : DocSection) (before : List DocSection) (indent : Nat)
    (body : Text) :
    s.lower.addToEntries sec.lower (before.map DocSection.lower) full indent body.lower =
      (s.addToEntries sec before full indent body).lower := by
  have hentries : sec.lower.entries = sec.entries.map DocEntry.lower := rfl
  have hlevel : s.lower.level = s.level := rfl
  simp only [addToEntries, hentries, hlevel, List.isEmpty_map, entryHeader?_lower,
    Text.trim_lower, describe_lower]
  by_cases hdeeper : s.level.getD indent < indent
  · rw [if_pos hdeeper, if_pos hdeeper]
    split <;> rfl
  · rw [if_neg hdeeper, if_neg hdeeper]
    cases entryHeader? body with
    | none => rfl
    | some header => simp [lower, DocSection.lower, DocEntry.lower]

theorem add_lower (line : DocLine) : s.lower.add full line.lower = (s.add full line).lower := by
  cases line with
  | header tag span inline =>
    simp only [add, DocLine.lower, DocTag.ofText_lower, Text.isEmpty_lower]
    cases inline.isEmpty <;> rfl
  | blank =>
    obtain ⟨reversed, level, problems⟩ := s
    cases reversed <;> rfl
  | content indent body =>
    simp only [add, DocLine.lower, current_lower]
    have htag : (s.current full).1.lower.tag.hasEntries = (s.current full).1.tag.hasEntries :=
      DocTag.hasEntries_lower _
    rw [htag]
    by_cases hentries : (s.current full).1.tag.hasEntries = true
    · rw [if_pos hentries, if_pos hentries, addToEntries_lower]
    · rw [if_neg hentries, if_neg hentries]
      simp [lower, DocSection.lower]

theorem addLines_lower (n : Nat) (lines : List Text) :
    s.lower.addLines n (lines.map Text.lower) = (s.addLines n lines).lower := by
  induction lines generalizing s n with
  | nil => rfl
  | cons line rest ih =>
    rw [List.map_cons, addLines, addLines, DocLine.read?_lower, Text.length_lower]
    cases DocLine.read? n line with
    | none => exact ih s (n + 1)
    | some said =>
      simp only [Option.map_some, add_lower]
      exact ih _ (n + 1)

theorem ofLines_lower (lines : List Text) (first stop : Nat) :
    ofLines (lines.map Text.lower) first stop =
      ((ofLines lines first stop).1.map DocSection.lower, (ofLines lines first stop).2) := by
  have hempty : empty.lower = empty := rfl
  rw [ofLines, ← List.map_drop, ← List.map_take, ← hempty, addLines_lower]
  simp only [lower, ofLines, List.map_reverse]

end SectionList

/-! ## Files -/

namespace BlockSearch

variable (lines : List Text)

theorem unclosedBlock_lower (opening : Span) (stop : Nat) :
    unclosedBlock (lines.map Text.lower) opening stop =
      Prod.map DocBlock.lower id (unclosedBlock lines opening stop) := by
  rw [unclosedBlock, SectionList.ofLines_lower]
  rfl

theorem closedBlock_lower (opening closing : Span) (routine : Option Span) :
    closedBlock (lines.map Text.lower) opening closing routine =
      Prod.map DocBlock.lower id (closedBlock lines opening closing routine) := by
  rw [closedBlock, SectionList.ofLines_lower]
  rfl

theorem meet_lower (t : Token) : meet t.lower = meet t :=
  rfl

theorem run_lower (search : BlockSearch) (ts : List Token) :
    run (lines.map Text.lower) search (ts.map Token.lower) =
      (run lines search ts).map (Prod.map DocBlock.lower id) := by
  fun_induction run lines search ts with
  | case1 => rfl
  | case2 opening => simp [run, unclosedBlock_lower]
  | case3 opening closing => simp [run, closedBlock_lower]
  | case4 t ts ih => rw [List.map_cons, run, meet_lower, ih]
  | case5 opening t ts hcomment ih =>
    rw [List.map_cons, run, Token.kind_lower, if_pos hcomment, ih]
  | case6 opening t ts hcomment hclose ih =>
    rw [List.map_cons, run, Token.kind_lower, if_neg hcomment, if_pos hclose, Token.start_lower, ih]
  | case7 opening t ts hcomment hclose ih =>
    rw [List.map_cons, run, Token.kind_lower, if_neg hcomment, if_neg hclose, Token.start_lower,
      unclosedBlock_lower, meet_lower, ih, List.map_cons]
  | case8 opening closing t ts hcomment ih =>
    rw [List.map_cons, run, Token.kind_lower, if_pos hcomment, ih]
  | case9 opening closing t ts hcomment routine ih =>
    rw [List.map_cons, run, Token.kind_lower, if_neg hcomment, Token.startsRoutine_lower,
      Token.start_lower]
    simp only [closedBlock_lower, meet_lower, ih, List.map_cons]
    rfl

end BlockSearch

/-- The blocks of a file in small letters are its blocks in small letters, with their problems. -/
theorem DocBlocks.ofTokens_lower (tokens : List Token) (lines : List Text) :
    DocBlocks.ofTokens (tokens.map Token.lower) (lines.map Text.lower) =
      ⟨(DocBlocks.ofTokens tokens lines).blocks.map DocBlock.lower,
        (DocBlocks.ofTokens tokens lines).problems⟩ := by
  simp only [DocBlocks.ofTokens, BlockSearch.run_lower, List.map_map, List.flatMap_map]
  rfl

end RoutineAtlas
