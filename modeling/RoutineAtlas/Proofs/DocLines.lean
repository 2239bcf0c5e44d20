import RoutineAtlas.Proofs.Linking

/-!
# No line of a documentation block is lost

The lines of a block are read one by one, and what a line says is put where it belongs: it opens a
section, goes to the text of a section, is an entry, describes the entry before it, or is reported
as malformed. `Account` writes down for a line what has become of it. Of the accounts of a block,
taken in the order of its lines, the sections and the reports can be made again, so that nothing is
left out and nothing is kept twice.

`SectionList.Accounted` is what the lines read so far leave true; `Accounted.add` is the step of one
line.

## Main definitions

* `CommentLine` — a line with a comment that is not blank.
* `LineUse`, `Account` — what has become of a line.
* `DocSection.MadeOf` — a section is made of the accounts of its lines.
* `DocBlock.commentLines` — the lines of a block that say something.
* `DocBlocks.lines_accounted` — each of them is accounted for once.
-/

namespace RoutineAtlas

open Problem (withCode)

/-! ## Lines and what becomes of them -/

/-- A line with a comment that is not blank, and with nothing before it: its number, all of its
characters, the column after its semicolon and what follows there. -/
structure CommentLine where
  number : Nat
  text : Text
  column : Nat
  body : Text
deriving DecidableEq, Repr

namespace CommentLine

/-- Line number `n`, if it has a comment that is not blank. -/
def read? (n : Nat) (line : Text) : Option CommentLine :=
  (commentBody? line).bind fun x =>
    if x.2.isBlankOnly then none else some ⟨n, line, x.1, x.2⟩

/-- The whole line. -/
def span (l : CommentLine) : Span :=
  ⟨l.number, 0, l.text.length⟩

/-- How far the comment is indented. -/
def indent (l : CommentLine) : Nat :=
  (l.body.takeWhile isBlank).length

/-- The text after the tag that the comment opens with. -/
def inline (l : CommentLine) : List Text :=
  ((tagHeader? l.body).map (·.2.trim)).toList.filter (!·.isEmpty)

end CommentLine

/-- What has become of a line of a block. -/
inductive LineUse where
  /-- It opens a section. -/
  | header (tag : DocTag) (span : Span)
  /-- It is part of the text of a section. -/
  | text (line : Text)
  /-- It is an entry. -/
  | entry (name : Text) (attributes : List Text) (span : Span)
  /-- It describes the entry before it. -/
  | description (line : Text)
  /-- It has been reported. -/
  | malformed (report : Problem)
deriving DecidableEq, Repr

/-- A line of a block together with what has become of it. -/
structure Account where
  line : CommentLine
  use : LineUse
deriving DecidableEq, Repr

namespace Account

/-- What has become of the line is what the line says. -/
def Fits (a : Account) : Prop :=
  match a.use with
  | .header tag span => ∃ word rest, tagHeader? a.line.body = some (word, rest) ∧
      tag = .ofText word ∧
      span = ⟨a.line.number, a.line.column + a.line.indent, word.length + 3⟩
  | .text line => line = a.line.body.trim
  | .entry name attributes span =>
      entryHeader? a.line.body = some (name, attributes) ∧ span = a.line.span
  | .description line => line = a.line.body.trim
  | .malformed report => report = .plain .malformedDocEntry a.line.span

/-- What a section keeps of the line. The text after a tag is kept as text. -/
def kept (a : Account) : List LineUse :=
  match a.use with
  | .header _ _ => a.use :: a.line.inline.map .text
  | .malformed _ => []
  | _ => [a.use]

/-- The report on the line. -/
def report? (a : Account) : Option Problem :=
  match a.use with
  | .malformed report => some report
  | _ => none

/-- A line is used as the tag of its section asks for: in a list of entries it is an entry, part of
one or malformed, and elsewhere it is text. -/
def Suits (a : Account) (tag : DocTag) : Prop :=
  match a.use with
  | .header tag' _ => tag' = tag
  | .text _ => tag.hasEntries = false
  | _ => tag.hasEntries = true

end Account

theorem Account.code_of_report? {a : Account} (h : a.Fits) {p : Problem} (hp : a.report? = some p) :
    p.code = ProblemCode.malformedDocEntry.number := by
  obtain ⟨line, use⟩ := a
  cases use with
  | malformed report =>
    obtain rfl := Option.some.inj hp
    rw [show report = _ from h]
    rfl
  | _ => cases hp

/-- The lines that an entry keeps. -/
def DocEntry.uses (e : DocEntry) : List LineUse :=
  .entry e.name e.attributes e.span :: e.description.map .description

/-- The lines that a section keeps, in their order. -/
def DocSection.uses (s : DocSection) : List LineUse :=
  (s.header.map (.header s.tag)).toList ++ s.text.map .text ++ s.entries.flatMap DocEntry.uses

/-- The section is made of the accounts: it keeps what they say, in their order and no more. All of
its lines come no later than its end, and its entries come after its tag. -/
structure DocSection.MadeOf (s : DocSection) (accounts : List Account) : Prop where
  uses : s.uses = accounts.flatMap Account.kept
  suits : ∀ a ∈ accounts, a.Suits s.tag
  within : ∀ a ∈ accounts, a.line.number ≤ s.stop.line
  plain : s.tag.hasEntries = false → s.entries = []
  tagged : s.tag.hasEntries = true → ∃ h, s.header = some h ∧ h.line ≤ s.stop.line
  entries : ∀ e ∈ s.entries, (∃ h, s.header = some h ∧ h.line < e.span.line) ∧
    e.span.line ≤ s.stop.line

/-! ## Reading a line -/

theorem isBlankOnly_of_tagHeader? {body : Text} {x : Text × Text} (h : tagHeader? body = some x) :
    body.isBlankOnly = false := by
  unfold tagHeader? at h
  split at h
  · rename_i rest htrim
    have hmem : ':' ∈ body := by
      apply (List.dropWhile_sublist isBlank).subset
      have htrim : body.dropWhile isBlank = ':' :: rest := htrim
      rw [htrim]
      exact List.mem_cons_self
    rw [Text.isBlankOnly, List.all_eq_false]
    exact ⟨':', hmem, by decide⟩
  · cases h

/-- A text is blank, or there is a first character that is not. -/
theorem Text.filter_blank_or_trimStart (t : Text) : t.filter (!isBlank ·) = [] ∨
    ∃ (blanks : Text) (c : Char) (after : Text), t = blanks ++ c :: after ∧
      (∀ x ∈ blanks, isBlank x = true) ∧ isBlank c = false ∧ t.trimStart = c :: after := by
  induction t with
  | nil => exact .inl rfl
  | cons x t ih =>
    cases hx : isBlank x with
    | false => exact .inr ⟨[], x, t, rfl, by simp, hx, List.dropWhile_cons_of_neg (by simp [hx])⟩
    | true =>
      rcases ih with hblank | ⟨blanks, c, after, rfl, hblanks, hc, htrim⟩
      · exact .inl (by simpa [hx] using hblank)
      · refine .inr ⟨x :: blanks, c, after, rfl, List.forall_mem_cons.2 ⟨hx, hblanks⟩, hc, ?_⟩
        exact (List.dropWhile_cons_of_pos hx).trans htrim

/-- What a line says within a block: nothing, or what its comment says. -/
theorem DocLine.eq_of_read? {n : Nat} {line : Text} {said : DocLine}
    (h : DocLine.read? n line = some said) :
    (said = .blank ∧ CommentLine.read? n line = none) ∨
      ∃ l, CommentLine.read? n line = some l ∧ l.number = n ∧ l.span = ⟨n, 0, line.length⟩ ∧
        ((∃ word rest, tagHeader? l.body = some (word, rest) ∧
          said = .header word ⟨n, l.column + l.indent, word.length + 3⟩ rest.trim) ∨
        said = .content l.indent l.body) := by
  unfold DocLine.read? at h
  unfold CommentLine.read?
  cases hbody : commentBody? line with
  | none => simp [hbody] at h
  | some x =>
    obtain ⟨column, body⟩ := x
    simp only [hbody, Option.bind_eq_bind, Option.bind_some, Option.pure_def,
      Option.some.injEq] at h
    rw [Option.bind_some]
    cases htag : tagHeader? body with
    | some y =>
      rw [htag] at h
      rw [isBlankOnly_of_tagHeader? htag]
      exact .inr ⟨_, rfl, rfl, rfl, .inl ⟨y.1, y.2, htag, h.symm⟩⟩
    | none =>
      rw [htag] at h
      dsimp only at h
      split at h
      · rename_i hblank
        exact .inl ⟨h.symm, if_pos hblank⟩
      · rename_i hblank
        rw [if_neg hblank]
        exact .inr ⟨_, rfl, rfl, rfl, .inr h.symm⟩

theorem CommentLine.read?_of_eq_none {n : Nat} {line : Text} (h : DocLine.read? n line = none) :
    CommentLine.read? n line = none := by
  cases hbody : commentBody? line with
  | none => simp [CommentLine.read?, hbody]
  | some x => simp [DocLine.read?, hbody] at h

/-! ## Reading the lines of a block -/

namespace DocSection.MadeOf

variable {sec : DocSection} {accounts : List Account}

/-- A section may be extended to a later line. -/
theorem extend (h : sec.MadeOf accounts) {full : Span} (hlater : sec.stop.line ≤ full.line) :
    ({ sec with stop := full } : DocSection).MadeOf accounts where
  uses := h.uses
  suits := h.suits
  within := fun a ha => Nat.le_trans (h.within a ha) hlater
  plain := h.plain
  tagged := fun htag => by
    obtain ⟨header, heq, hle⟩ := h.tagged htag
    exact ⟨header, heq, Nat.le_trans hle hlater⟩
  entries := fun e he => ⟨(h.entries e he).1, Nat.le_trans (h.entries e he).2 hlater⟩

/-- A section takes in a later line. Of its entries, at most one is new, and that is the line. -/
theorem append (h : sec.MadeOf accounts) {sec' : DocSection} {a : Account}
    (hheader : sec'.header = sec.header) (htag : sec'.tag = sec.tag)
    (hstop : sec'.stop = a.line.span) (hlater : sec.stop.line < a.line.number)
    (huses : sec'.uses = sec.uses ++ a.kept) (hsuits : a.Suits sec.tag)
    (hplain : sec.tag.hasEntries = false → sec'.entries = [])
    (hentries : ∀ e ∈ sec'.entries, (∃ e' ∈ sec.entries, e'.span = e.span) ∨
      sec.tag.hasEntries = true ∧ e.span = a.line.span) : sec'.MadeOf (accounts ++ [a]) where
  uses := by rw [huses, h.uses, List.flatMap_append, List.flatMap_singleton]
  suits := by
    rw [htag]
    exact List.forall_mem_append.2 ⟨h.suits, List.forall_mem_singleton.2 hsuits⟩
  within := by
    rw [hstop]
    refine List.forall_mem_append.2 ⟨fun x hx => ?_, List.forall_mem_singleton.2 (Nat.le_refl _)⟩
    exact Nat.le_trans (h.within x hx) (Nat.le_of_lt hlater)
  plain := htag ▸ hplain
  tagged := by
    rw [htag, hheader, hstop]
    intro hlist
    obtain ⟨header, heq, hle⟩ := h.tagged hlist
    exact ⟨header, heq, Nat.le_trans hle (Nat.le_of_lt hlater)⟩
  entries := by
    rw [hheader, hstop]
    intro e he
    rcases hentries e he with ⟨e', he', hspan⟩ | ⟨hlist, hspan⟩
    · obtain ⟨hafter, hle⟩ := h.entries e' he'
      rw [← hspan]
      exact ⟨hafter, Nat.le_trans hle (Nat.le_of_lt hlater)⟩
    · obtain ⟨header, heq, hle⟩ := h.tagged hlist
      rw [hspan]
      exact ⟨⟨header, heq, Nat.lt_of_le_of_lt hle hlater⟩, Nat.le_refl _⟩

end DocSection.MadeOf

namespace SectionList

variable {s : SectionList} {done : List CommentLine} {next n : Nat}
  {groups : List (List Account)} {l : CommentLine}

/-- The lines read so far, all of which come before line number `next`, are accounted for by the
sections: `groups` are the accounts of the sections, those of the section at hand first. -/
structure Accounted (done : List CommentLine) (next : Nat) (s : SectionList)
    (groups : List (List Account)) : Prop where
  lines : groups.reverse.flatten.map (·.line) = done
  fits : ∀ a ∈ groups.flatten, a.Fits
  sections : List.Forall₂ DocSection.MadeOf s.reversed groups
  problems : s.problems = groups.reverse.flatten.filterMap Account.report?
  before : ∀ sec ∈ s.reversed, sec.stop.line < next
  apart : s.reversed.Pairwise fun sec earlier =>
    ∃ h, sec.header = some h ∧ earlier.stop.line < h.line

theorem accounted_empty (next : Nat) : Accounted [] next empty [] where
  lines := rfl
  fits := by simp
  sections := .nil
  problems := rfl
  before := by simp [empty]
  apart := .nil

theorem Accounted.mono (h : Accounted done next s groups) (hle : next ≤ n) :
    Accounted done n s groups :=
  { h with before := fun sec hsec => Nat.lt_of_lt_of_le (h.before sec hsec) hle }

/-- A new section begins with the line. -/
theorem Accounted.begin (h : Accounted done l.number s groups) (sec : DocSection) (use : LineUse)
    (hfits : Account.Fits ⟨l, use⟩) (hsec : sec.MadeOf [⟨l, use⟩]) (hstop : sec.stop = l.span)
    (hreport : Account.report? ⟨l, use⟩ = none)
    (hapart : ∀ earlier ∈ s.reversed, ∃ header, sec.header = some header ∧
      earlier.stop.line < header.line) (level : Option Nat) :
    ∃ groups', Accounted (done ++ [l]) (l.number + 1)
      { s with reversed := sec :: s.reversed, level := level } groups' := by
  refine ⟨[⟨l, use⟩] :: groups, ?_, ?_, .cons hsec h.sections, ?_, ?_, ?_⟩
  · simp [← h.lines]
  · simpa [hfits] using h.fits
  · simp [← h.problems, hreport]
  · refine List.forall_mem_cons.2 ⟨?_, (h.mono (Nat.le_succ _)).before⟩
    rw [hstop]
    exact Nat.lt_succ_self _
  · exact List.pairwise_cons.2 ⟨hapart, h.apart⟩

/-- The section at hand takes in the line. -/
theorem Accounted.grow {sec : DocSection} {earlier : List DocSection}
    (h : Accounted done l.number s groups) (hs : s.reversed = sec :: earlier) (use : LineUse)
    (hfits : Account.Fits ⟨l, use⟩) (sec' : DocSection) (hheader : sec'.header = sec.header)
    (hstop : sec'.stop = l.span)
    (hsec : ∀ accounts, sec.MadeOf accounts → sec'.MadeOf (accounts ++ [⟨l, use⟩]))
    (level : Option Nat) : ∃ groups', Accounted (done ++ [l]) (l.number + 1)
      ⟨sec' :: earlier, level, s.problems ++ (Account.report? ⟨l, use⟩).toList⟩ groups' := by
  have hsections := h.sections
  have hapart := h.apart
  rw [hs] at hsections hapart
  obtain ⟨group, groups, hgroup, hgroups, rfl⟩ := List.forall₂_cons_left_iff.1 hsections
  refine ⟨(group ++ [⟨l, use⟩]) :: groups, ?_, ?_, .cons (hsec group hgroup) hgroups, ?_, ?_, ?_⟩
  · simp [← h.lines]
  · have hall := h.fits
    simp only [List.flatten_cons, List.forall_mem_append] at hall ⊢
    exact ⟨⟨hall.1, by simpa using hfits⟩, hall.2⟩
  · cases hreport : Account.report? ⟨l, use⟩ <;> simp [h.problems, hreport]
  · refine List.forall_mem_cons.2 ⟨?_, fun x hx => ?_⟩
    · rw [hstop]
      exact Nat.lt_succ_self _
    · have hlt := h.before x (by simp [hs, hx])
      omega
  · rw [List.pairwise_cons, hheader]
    exact List.pairwise_cons.1 hapart

/-- A blank line may belong to the section at hand, and says nothing. -/
theorem Accounted.addBlank (h : Accounted done n s groups) (length : Nat) :
    Accounted done (n + 1) (s.add ⟨n, 0, length⟩ .blank) groups := by
  unfold SectionList.add
  dsimp only
  split
  · exact h.mono (Nat.le_succ n)
  · rename_i sec earlier hs
    have hsections := h.sections
    have hapart := h.apart
    rw [hs] at hsections hapart
    obtain ⟨group, groups, hgroup, hgroups, rfl⟩ := List.forall₂_cons_left_iff.1 hsections
    have hlater : sec.stop.line ≤ n := Nat.le_of_lt (h.before sec (by simp [hs]))
    refine ⟨h.lines, h.fits, .cons (hgroup.extend hlater) hgroups, h.problems, ?_, ?_⟩
    · refine List.forall_mem_cons.2 ⟨Nat.lt_succ_self n, fun x hx => ?_⟩
      have hlt := h.before x (by simp [hs, hx])
      omega
    · exact List.pairwise_cons.2 (List.pairwise_cons.1 hapart)

theorem Accounted.addHeader (h : Accounted done l.number s groups) {word rest : Text}
    (htag : tagHeader? l.body = some (word, rest)) :
    ∃ groups', Accounted (done ++ [l]) (l.number + 1) (s.add l.span
      (.header word ⟨l.number, l.column + l.indent, word.length + 3⟩ rest.trim)) groups' := by
  have hinline : l.inline = if rest.trim.isEmpty then [] else [rest.trim] := by
    rw [CommentLine.inline, htag]
    cases hempty : rest.trim.isEmpty <;> simp [hempty]
  refine h.begin _ (.header (.ofText word) ⟨l.number, l.column + l.indent, word.length + 3⟩)
    ⟨word, rest, htag, rfl, rfl⟩ ⟨?_, ?_, ?_, ?_, ?_, ?_⟩ rfl rfl ?_ none
  · simp [DocSection.uses, Account.kept, hinline]
  · exact List.forall_mem_singleton.2 rfl
  · exact List.forall_mem_singleton.2 (Nat.le_refl _)
  · exact fun _ => rfl
  · exact fun _ => ⟨_, rfl, Nat.le_refl _⟩
  · simp
  · exact fun earlier hearlier => ⟨_, rfl, h.before earlier hearlier⟩

section Content

variable {sec : DocSection} {earlier : List DocSection} {level : Option Nat}
  {problems : List Problem}

/-- Text before any tag begins a description. -/
theorem Accounted.addDescription (h : Accounted done l.number ⟨[], level, problems⟩ groups) :
    ∃ groups', Accounted (done ++ [l]) (l.number + 1)
      (add ⟨[], level, problems⟩ l.span (.content l.indent l.body)) groups' := by
  refine h.begin _ (.text l.body.trim) rfl ⟨rfl, ?_, ?_, ?_, ?_, ?_⟩ rfl rfl ?_ level
  · exact List.forall_mem_singleton.2 rfl
  · exact List.forall_mem_singleton.2 (Nat.le_refl _)
  · exact fun _ => rfl
  · simp [DocTag.hasEntries]
  · simp
  · simp

variable (h : Accounted done l.number ⟨sec :: earlier, level, problems⟩ groups)
include h

theorem Accounted.addText (hplain : sec.tag.hasEntries = false) :
    ∃ groups', Accounted (done ++ [l]) (l.number + 1)
      (add ⟨sec :: earlier, level, problems⟩ l.span (.content l.indent l.body)) groups' := by
  have hlater := h.before sec (by simp)
  have hgrow := h.grow rfl (.text l.body.trim) rfl
    { sec with stop := l.span, text := sec.text ++ [l.body.trim] } rfl rfl ?_ level
  · simpa [add, current, hplain, Account.report?] using hgrow
  · intro accounts hmade
    refine hmade.append rfl rfl rfl hlater ?_ hplain hmade.plain fun e he => .inl ⟨e, he, rfl⟩
    simp [DocSection.uses, Account.kept, hmade.plain hplain]

theorem Accounted.addMalformed (hlist : sec.tag.hasEntries = true) (level' : Option Nat) :
    ∃ groups', Accounted (done ++ [l]) (l.number + 1)
      (malformed ⟨{ sec with stop := l.span } :: earlier, level', problems⟩ l.span) groups' := by
  have hlater := h.before sec (by simp)
  refine h.grow rfl (.malformed (.plain .malformedDocEntry l.span)) rfl
    { sec with stop := l.span } rfl rfl ?_ level'
  intro accounts hmade
  refine hmade.append rfl rfl rfl hlater ?_ hlist hmade.plain fun e he => .inl ⟨e, he, rfl⟩
  simp [DocSection.uses, Account.kept]

theorem Accounted.addEntry (hlist : sec.tag.hasEntries = true) {name : Text}
    {attributes : List Text} (hentry : entryHeader? l.body = some (name, attributes))
    (level' : Option Nat) : ∃ groups', Accounted (done ++ [l]) (l.number + 1)
      ⟨{ sec with stop := l.span, entries := sec.entries ++ [⟨name, attributes, [], l.span⟩] } ::
        earlier, level', problems⟩ groups' := by
  have hlater := h.before sec (by simp)
  have hgrow := h.grow rfl (.entry name attributes l.span) ⟨hentry, rfl⟩
    { sec with stop := l.span, entries := sec.entries ++ [⟨name, attributes, [], l.span⟩] }
    rfl rfl ?_ level'
  · simpa [Account.report?] using hgrow
  · intro accounts hmade
    refine hmade.append rfl rfl rfl hlater ?_ hlist (by simp [hlist]) ?_
    · simp [DocSection.uses, Account.kept, DocEntry.uses]
    · refine List.forall_mem_append.2 ⟨fun e he => .inl ⟨e, he, rfl⟩, ?_⟩
      exact List.forall_mem_singleton.2 (.inr ⟨hlist, rfl⟩)

theorem Accounted.addToEntry (hlist : sec.tag.hasEntries = true) (hentries : sec.entries ≠ [])
    (level' : Option Nat) : ∃ groups', Accounted (done ++ [l]) (l.number + 1)
      ⟨{ sec with stop := l.span, entries := describe sec.entries l.body.trim } :: earlier, level',
        problems⟩ groups' := by
  have hlater := h.before sec (by simp)
  obtain ⟨others, e, heq⟩ := (List.eq_nil_or_concat sec.entries).resolve_left hentries
  rw [List.concat_eq_append] at heq
  have hdescribe : describe sec.entries l.body.trim =
      others ++ [{ e with description := e.description ++ [l.body.trim] }] := by
    rw [describe, heq, List.length_append, List.length_singleton, Nat.add_sub_cancel, modify_last]
  rw [hdescribe]
  have hgrow := h.grow rfl (.description l.body.trim) rfl
    { sec with stop := l.span, entries := others ++
      [{ e with description := e.description ++ [l.body.trim] }] } rfl rfl ?_ level'
  · simpa [Account.report?] using hgrow
  · intro accounts hmade
    refine hmade.append rfl rfl rfl hlater ?_ hlist (by simp [hlist]) ?_
    · simp [DocSection.uses, Account.kept, DocEntry.uses, heq]
    · rw [heq]
      refine List.forall_mem_append.2 ⟨fun e' he' => .inl ⟨e', by simp [he'], rfl⟩, ?_⟩
      exact List.forall_mem_singleton.2 (.inl ⟨e, by simp, rfl⟩)

theorem Accounted.addToEntries (hlist : sec.tag.hasEntries = true) :
    ∃ groups', Accounted (done ++ [l]) (l.number + 1)
      (add ⟨sec :: earlier, level, problems⟩ l.span (.content l.indent l.body)) groups' := by
  have hadd : add ⟨sec :: earlier, level, problems⟩ l.span (.content l.indent l.body) =
      SectionList.addToEntries ⟨sec :: earlier, level, problems⟩ { sec with stop := l.span }
        earlier l.span l.indent l.body := if_pos hlist
  rw [hadd]
  unfold SectionList.addToEntries
  dsimp only
  split
  · split
    · exact h.addMalformed hlist _
    · rename_i hentries
      exact h.addToEntry hlist (by simpa using hentries) _
  · split
    · rename_i hentry
      exact h.addEntry hlist hentry _
    · exact h.addMalformed hlist _

end Content

theorem Accounted.addContent (h : Accounted done l.number s groups) :
    ∃ groups', Accounted (done ++ [l]) (l.number + 1)
      (s.add l.span (.content l.indent l.body)) groups' := by
  obtain ⟨reversed, level, problems⟩ := s
  cases reversed with
  | nil => exact h.addDescription
  | cons sec earlier =>
    cases hlist : sec.tag.hasEntries with
    | false => exact h.addText hlist
    | true => exact h.addToEntries hlist

/-- One line keeps the lines accounted for. -/
theorem Accounted.add (h : Accounted done n s groups) {line : Text} {said : DocLine}
    (hsaid : DocLine.read? n line = some said) :
    ∃ groups', Accounted (done ++ (CommentLine.read? n line).toList) (n + 1)
      (s.add ⟨n, 0, line.length⟩ said) groups' := by
  rcases DocLine.eq_of_read? hsaid with ⟨rfl, hline⟩ | ⟨l, hline, rfl, hspan, hsays⟩
  · rw [hline]
    exact ⟨groups, by simpa using h.addBlank line.length⟩
  · rw [hline, ← hspan]
    rcases hsays with ⟨word, rest, htag, rfl⟩ | rfl
    · exact h.addHeader htag
    · exact h.addContent

/-- The lines that say something, among lines that are numbered from `n` on. -/
def commentLinesFrom (n : Nat) (lines : List Text) : List CommentLine :=
  (lines.zipIdx n).filterMap fun x => CommentLine.read? x.2 x.1

/-- Many lines keep the lines accounted for. -/
theorem Accounted.addLines (h : Accounted done n s groups) (lines : List Text) :
    ∃ groups', Accounted (done ++ commentLinesFrom n lines) (n + lines.length)
      (s.addLines n lines) groups' := by
  induction lines generalizing done n s groups with
  | nil => exact ⟨groups, by simpa [commentLinesFrom, SectionList.addLines] using h⟩
  | cons line lines ih =>
    have hlines : commentLinesFrom n (line :: lines) =
        (CommentLine.read? n line).toList ++ commentLinesFrom (n + 1) lines := by
      cases hread : CommentLine.read? n line <;> simp [commentLinesFrom, hread]
    have hnumber : n + (line :: lines).length = n + 1 + lines.length := by
      rw [List.length_cons]
      omega
    rw [hlines, hnumber, ← List.append_assoc, SectionList.addLines]
    split
    · rename_i said hsaid
      obtain ⟨groups', h'⟩ := h.add hsaid
      exact ih h'
    · rename_i hsaid
      rw [CommentLine.read?_of_eq_none hsaid, Option.toList_none, List.append_nil]
      exact ih (h.mono (Nat.le_succ n))

end SectionList

/-! ## Blocks -/

/-- Lines that are numbered from `k` on, cut to those from number `first` up to number `stop`. -/
theorem filter_between_zipIdx (lines : List Text) (first stop k : Nat) :
    ((lines.zipIdx k).filter fun x => first ≤ x.2 && x.2 < stop) =
      ((lines.drop (first - k)).take (stop - max first k)).zipIdx (max first k) := by
  induction lines generalizing k with
  | nil => simp
  | cons line lines ih =>
    rw [List.zipIdx_cons]
    by_cases hfirst : first ≤ k
    · have hmax : max first k = k := Nat.max_eq_right hfirst
      have hmax' : max first (k + 1) = k + 1 := Nat.max_eq_right (Nat.le_succ_of_le hfirst)
      rw [Nat.sub_eq_zero_of_le hfirst, hmax, List.drop_zero]
      by_cases hstop : k < stop
      · rw [List.filter_cons_of_pos (by simp [hfirst, hstop]), ih, hmax',
          Nat.sub_eq_zero_of_le (Nat.le_succ_of_le hfirst), List.drop_zero,
          show stop - k = stop - (k + 1) + 1 by omega, List.take_succ_cons, List.zipIdx_cons]
      · rw [List.filter_cons_of_neg (by simp [hstop]), ih, hmax',
          Nat.sub_eq_zero_of_le (Nat.le_of_not_lt hstop),
          Nat.sub_eq_zero_of_le (by omega : stop ≤ k + 1)]
        simp
    · have hmax : max first (k + 1) = max first k := by omega
      rw [List.filter_cons_of_neg (by simp [hfirst]), ih, hmax,
        show first - k = first - (k + 1) + 1 by omega, List.drop_succ_cons]

/-- The lines of a block that say something, in their order. -/
def DocBlock.commentLines (tokens : List Token) (lines : List Text) (b : DocBlock) :
    List CommentLine :=
  (lines.zipIdx.filter fun x =>
    b.opening.line + 1 ≤ x.2 && x.2 < b.contentEnd tokens lines.length).filterMap fun x =>
      CommentLine.read? x.2 x.1

/-- A line that has no tokens but comments is blank up to its semicolon: the first character that is
not blank is in a token, which begins there. -/
theorem semicolon_first_of_comments {lines : List Text} {n : Nat} {line : Text}
    (hline : lines[n]? = some line)
    (hcomments : ∀ t ∈ tokensFrom 0 lines, t.start.line = n → t.kind.isComment = true) :
    line.filter (!isBlank ·) = [] ∨ ∃ blanks after : Text, line = blanks ++ ';' :: after ∧
      (∀ x ∈ blanks, isBlank x = true) ∧ line.trimStart = ';' :: after := by
  rcases line.filter_blank_or_trimStart with hblank | ⟨blanks, c, after, hsplit, hblanks, hc, htrim⟩
  · exact .inl hblank
  have hcovered : ∃ t ∈ tokensFrom 0 lines, t.start.Covers n blanks.length := by
    by_contra hnone
    have hblank := isBlank_of_not_covers_tokensFrom hline (c := c) (by simp [hsplit])
      fun t ht hcovers => hnone ⟨t, ht, hcovers⟩
    rw [hc] at hblank
    cases hblank
  obtain ⟨t, ht, hsame, hfrom, -⟩ := hcovered
  have hcomment := hcomments t ht hsame
  obtain ⟨i, line', hline', ht⟩ := mem_tokensFrom.1 ht
  obtain ⟨earlier, later, rfl, hstart⟩ := comment_of_mem_lineTokens ht hcomment
  rw [hstart] at hsame hfrom
  dsimp only at hsame hfrom
  obtain rfl : 0 + i = n := hsame
  rw [Nat.zero_add, hline'] at hline
  obtain rfl := Option.some.inj hline
  have hsemicolon : (earlier ++ ';' :: later)[earlier.length]? = some ';' := by simp
  rw [hsplit] at hsemicolon
  have hfirst : c = ';' := by
    rcases Nat.lt_or_eq_of_le hfrom with hlt | heq
    · rw [List.getElem?_append_left hlt] at hsemicolon
      exact absurd (hblanks ';' (List.mem_of_getElem? hsemicolon)) (by decide)
    · have heq : earlier.length = blanks.length := heq
      simpa [heq] using hsemicolon
  subst hfirst
  exact .inr ⟨blanks, after, hsplit, hblanks, htrim⟩

/-- The content of a block is accounted for: each line that says something has one account, the
sections are made of the accounts and follow one another, and the other lines are blank but for
their semicolon. -/
structure DocBlock.AccountedBy (tokens : List Token) (lines : List Text) (b : DocBlock)
    (groups : List (List Account)) : Prop where
  complete : groups.flatten.map (·.line) = b.commentLines tokens lines
  fits : ∀ a ∈ groups.flatten, a.Fits
  sections : List.Forall₂ DocSection.MadeOf b.sections groups
  apart : b.sections.Pairwise fun s s' => ∃ h, s'.header = some h ∧ s.stop.line < h.line
  silent : ∀ n line, lines[n]? = some line → b.opening.line < n →
    n < b.contentEnd tokens lines.length → CommentLine.read? n line = none →
      line.filter (!isBlank ·) = [] ∨ line.filter (!isBlank ·) = [';']

namespace DocBlock.StandsAmong

variable {lines : List Text} {before comments rest : List Token} {b : DocBlock}
  {problems : List Problem} {opening : Token}

/-- Within a block there are no tokens but comments. -/
theorem kind_of_within {tokens : List Token}
    (h : b.StandsAmong lines tokens problems before opening comments rest)
    (hlaid : Token.Laid tokens) {t : Token} (ht : t ∈ tokens)
    (hopening : b.opening.line < t.start.line)
    (hend : t.start.line < b.contentEnd tokens lines.length) : t.kind = .comment := by
  by_contra hkind
  have hrest := h.mem_rest hlaid ht hkind (Cursor.lt_def.2 (.inl hopening))
  obtain ⟨first, later, rfl⟩ := List.exists_cons_of_ne_nil (List.ne_nil_of_mem hrest)
  rw [h.contentEnd_eq hlaid] at hend
  refine absurd hend (Nat.not_lt.2 ?_)
  rcases List.mem_cons.1 hrest with rfl | hlater
  · exact Nat.le_refl _
  · exact Cursor.line_le_of_lt (List.rel_of_pairwise_cons (h.pairwise_rest hlaid) hlater)

/-- A line within a block that says nothing is blank but for its semicolon. -/
theorem silent_of_read? (h : b.StandsAmong lines (tokensFrom 0 lines) problems before opening
      comments rest) {n : Nat} {line : Text} (hline : lines[n]? = some line)
    (hopening : b.opening.line < n) (hend : n < b.contentEnd (tokensFrom 0 lines) lines.length)
    (hread : CommentLine.read? n line = none) :
    line.filter (!isBlank ·) = [] ∨ line.filter (!isBlank ·) = [';'] := by
  have hnone {t : Text} (ht : ∀ x ∈ t, isBlank x = true) : t.filter (!isBlank ·) = [] :=
    List.filter_eq_nil_iff.2 fun x hx => by simp [ht x hx]
  have hcomments : ∀ t ∈ tokensFrom 0 lines, t.start.line = n → t.kind.isComment = true := by
    rintro t ht rfl
    rw [h.kind_of_within (laid_tokensFrom lines) ht hopening hend]
    rfl
  rcases semicolon_first_of_comments hline hcomments with
    hblank | ⟨blanks, after, rfl, hblanks, htrim⟩
  · exact .inl hblank
  · have hbody : commentBody? (blanks ++ ';' :: after) =
        some ((blanks ++ ';' :: after).length - after.length, after) := by
      rw [commentBody?, htrim]
      rfl
    have hafter : Text.isBlankOnly after = true := by
      simpa [CommentLine.read?, hbody] using hread
    rw [List.filter_append, hnone hblanks, List.nil_append, List.filter_cons_of_pos (by decide),
      hnone (List.all_eq_true.1 hafter)]
    exact .inr rfl

/-- Reading the content of a block accounts for its lines. -/
theorem exists_accountedBy
    (h : b.StandsAmong lines (tokensFrom 0 lines) problems before opening comments rest) :
    ∃ groups, b.AccountedBy (tokensFrom 0 lines) lines groups ∧
      withCode .malformedDocEntry problems = groups.flatten.filterMap Account.report? := by
  have hlaid := laid_tokensFrom lines
  obtain ⟨groups, hread⟩ := (SectionList.accounted_empty (b.opening.line + 1)).addLines
    ((lines.drop (b.opening.line + 1)).take
      (b.contentEnd (tokensFrom 0 lines) lines.length - (b.opening.line + 1)))
  have hcontent := h.content
  rw [← h.contentEnd_eq hlaid, ← h.opens, Prod.mk.injEq] at hcontent
  obtain ⟨hsections, hproblems⟩ := hcontent
  refine ⟨groups.reverse, ⟨?_, ?_, ?_, ?_, ?_⟩, ?_⟩
  · rw [hread.lines, commentLines, filter_between_zipIdx]
    simp [SectionList.commentLinesFrom]
  · simpa [or_comm] using hread.fits
  · rw [hsections]
    exact List.rel_reverse hread.sections
  · rw [hsections]
    exact List.pairwise_reverse.2 hread.apart
  · intro n line hline hopening hend hsilent
    exact h.silent_of_read? hline hopening hend hsilent
  · have hunclosed (ps : List Problem) : withCode .malformedDocEntry
        (ps ++ if b.closing.isSome then [] else [.plain .unclosedDocBlock b.opening]) =
          withCode .malformedDocEntry ps := by
      cases b.closing with
      | some c => simp
      | none => exact (Problem.withCode_append ..).trans (List.append_nil _)
    have hreports : (SectionList.ofLines lines (b.opening.line + 1)
        (b.contentEnd (tokensFrom 0 lines) lines.length)).2 =
          groups.reverse.flatten.filterMap Account.report? := hread.problems
    rw [hproblems, hunclosed, hreports, withCode, List.filter_eq_self]
    intro p hp
    obtain ⟨a, ha, hreport⟩ := List.mem_filterMap.1 hp
    exact beq_iff_eq.2 (Account.code_of_report? (hread.fits a (by simpa using ha)) hreport)

end DocBlock.StandsAmong

/-- No line of a documentation block is lost: every line of a block that says something opens a
section, is part of its text, is an entry or part of one, or is reported as malformed. -/
theorem DocBlocks.lines_accounted (lines : List Text) :
    let tokens := (TokenStream.ofLines lines).tokens
    let docs := DocBlocks.ofTokens tokens lines
    ∃ accounts : List (List (List Account)),
      List.Forall₂ (DocBlock.AccountedBy tokens lines) docs.blocks accounts ∧
      withCode .malformedDocEntry docs.problems =
        accounts.flatten.flatten.filterMap Account.report? := by
  intro tokens docs
  have hstands := (found_ofTokens tokens lines).standsAmong
  simp only [docs, ofTokens]
  generalize BlockSearch.run lines .outside tokens = found at hstands ⊢
  induction found with
  | nil => exact ⟨[], .nil, rfl⟩
  | cons x found ih =>
    obtain ⟨⟨_, _, _, _, hx⟩, hfound⟩ := List.forall_mem_cons.1 hstands
    obtain ⟨groups, hgroups, hreports⟩ := hx.exists_accountedBy
    obtain ⟨accounts, haccounts, hproblems⟩ := ih hfound
    refine ⟨groups :: accounts, .cons hgroups haccounts, ?_⟩
    rw [List.flatMap_cons, Problem.withCode_append, hreports, hproblems, List.flatten_cons,
      List.flatten_append, List.filterMap_append]

end RoutineAtlas
