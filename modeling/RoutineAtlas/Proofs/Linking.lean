import RoutineAtlas.Analysis
import RoutineAtlas.Proofs.Reports

/-!
# Blocks and routines are linked one to one

The search for documentation blocks goes over the tokens once. A block begins at every `;+`, takes
in the comments that follow, and ends with a `;-` or before any other token; the first token after
a `;-` that is no comment tells what the block documents. No opening is passed over on the way, and
a routine is documented by one block at most.

`BlockSearch.Found` says of all tokens where the blocks among them begin and end. What a single
block needs of that is `DocBlock.StandsAmong`.

## Main definitions

* `DocBlock.stop?`, `DocBlock.contentEnd` — where the content of a block ends.
* `DocBlock.Occupies` — the lines of a block.
* `BlockSearch.Found` — the blocks of some tokens, by what the tokens are.
* `Analysis.blocks_linked` — blocks, openings and routines belong to each other.
-/

namespace RoutineAtlas

open Problem (withCode)

/-! ## Comments end their line -/

namespace Lexeme

/-- A comment begins with a semicolon and takes the rest of its line. -/
theorem read_of_isComment {leading : Bool} {c : Char} {cs : Text}
    (h : (read leading c cs).kind.isComment = true) :
    c = ';' ∧ (read leading c cs).length = cs.length + 1 := by
  have hplain : ∀ kind ∈ plainKinds ++ loneKinds, kind.isComment = false := by decide
  rcases read_cases leading c cs with ⟨hc, hread⟩ | hread | hkind
  · rw [hread]
    exact ⟨hc, rfl⟩
  · rw [hread] at h
    rcases mark_cases c cs with hkind | ⟨d, rest, kind, -, hpair, hmark⟩
    · rw [hplain _ (List.mem_append_right _ hkind)] at h
      cases h
    · rw [hmark] at h
      unfold pairKind at hpair
      grind [TokenKind.isComment]
  · rw [hplain _ (List.mem_append_left _ hkind)] at h
    cases h

end Lexeme

/-- Where a comment stands in its line. -/
theorem comment_of_mem_lineTokens {n : Nat} {line : Text} {t : Token} (h : t ∈ lineTokens n line)
    (hcomment : t.kind.isComment = true) :
    ∃ before after, line = before ++ ';' :: after ∧
      t.start = ⟨n, before.length, after.length + 1⟩ := by
  obtain ⟨s, hs, rfl⟩ := List.mem_map.1 h
  obtain ⟨before, c, after, leading, hline, htoken⟩ := lexeme_of_mem_scanFrom hs
  dsimp only at htoken
  rw [htoken] at hcomment ⊢
  obtain ⟨rfl, hlength⟩ := Lexeme.read_of_isComment hcomment
  refine ⟨before, after, hline, ?_⟩
  rw [hlength]
  simp [Token.single]

/-- What comes after a comment is on a later line. -/
theorem pairwise_comment_tokensFrom (lines : List Text) :
    (tokensFrom 0 lines).Pairwise fun t u =>
      t.kind.isComment = true → t.start.line < u.start.line := by
  refine (pairwise_before_tokensFrom 0 lines).imp_of_mem ?_
  intro t u ht hu hbefore hcomment
  obtain ⟨i, line, hline, ht⟩ := mem_tokensFrom.1 ht
  obtain ⟨line', hline', hu⟩ := standsIn_of_mem_tokensFrom hu
  rcases hbefore with hlt | ⟨hsame, hcolumn⟩
  · exact hlt
  · obtain ⟨before, after, rfl, hstart⟩ := comment_of_mem_lineTokens ht hcomment
    rw [← hsame, hstart, Nat.zero_add, hline] at hline'
    obtain rfl := Option.some.inj hline'
    -- the comment reaches to the end of the line, and a token has a character
    have hends := hu.ends
    have hnonempty := hu.nonempty
    simp only [hstart, Span.endColumn, List.length_append, List.length_cons] at hcolumn hends
    omega

/-! ## Where a block ends -/

namespace DocBlock

/-- The token at which the content of a block ends: the first one after the opening that is no plain
comment. -/
def stop? (tokens : List Token) (b : DocBlock) : Option Token :=
  tokens.find? fun t => b.opening.startCursor.lt t.start.startCursor && t.kind != .comment

/-- The number of the line before which the content of a block ends, in a file of `count` lines. -/
def contentEnd (tokens : List Token) (count : Nat) (b : DocBlock) : Nat :=
  ((b.stop? tokens).map (·.start.line)).getD count

/-- Line number `n` belongs to the block: it holds the opening, content of the block or its end. -/
def Occupies (tokens : List Token) (count : Nat) (b : DocBlock) (n : Nat) : Prop :=
  n = b.opening.line ∨ (b.opening.line < n ∧ n < b.contentEnd tokens count) ∨
    ∃ closing, b.closing = some closing ∧ n = closing.line

end DocBlock

/-- The start of a token that begins a routine. -/
def Token.routineStart? (t : Token) : Option Span :=
  if t.startsRoutine then some t.start else none

namespace BlockSearch

variable {lines : List Text}

/-- The block that `opening`, the comments after it and the tokens of `rest` make, and its problems,
if the block is never closed. -/
def openBlock (lines : List Text) (opening : Token) (rest : List Token) :
    DocBlock × List Problem :=
  unclosedBlock lines opening.start ((rest.head?.map (·.start.line)).getD lines.length)

/-- The blocks among some tokens. Each constructor says what the tokens begin with: a token outside
of any block, a block with its end and the comments after it, or a block without end. -/
inductive Found (lines : List Text) : List Token → List (DocBlock × List Problem) → Prop
  | done : Found lines [] []
  | outside {t : Token} {rest : List Token} {found : List (DocBlock × List Problem)}
      (hopen : t.kind ≠ .docOpen) (later : Found lines rest found) : Found lines (t :: rest) found
  | closed {opening closing : Token} {comments after rest : List Token}
      {found : List (DocBlock × List Problem)} (hopen : opening.kind = .docOpen)
      (hcomments : ∀ t ∈ comments, t.kind = .comment) (hclose : closing.kind = .docClose)
      (hafter : ∀ t ∈ after, t.kind = .comment) (hrest : ∀ t ∈ rest.head?, t.kind ≠ .comment)
      (later : Found lines rest found) :
      Found lines (opening :: (comments ++ closing :: (after ++ rest)))
        (closedBlock lines opening.start closing.start (rest.head?.bind Token.routineStart?) ::
          found)
  | unclosed {opening : Token} {comments rest : List Token}
      {found : List (DocBlock × List Problem)} (hopen : opening.kind = .docOpen)
      (hcomments : ∀ t ∈ comments, t.kind = .comment)
      (hrest : ∀ t ∈ rest.head?, t.kind ≠ .comment ∧ t.kind ≠ .docClose)
      (later : Found lines rest found) :
      Found lines (opening :: (comments ++ rest)) (openBlock lines opening rest :: found)

/-- What a search has met of the block at hand. -/
inductive Met : BlockSearch → List Token → Prop
  | outside : Met .outside []
  | inside {opening : Token} {comments : List Token} (hopen : opening.kind = .docOpen)
      (hcomments : ∀ t ∈ comments, t.kind = .comment) :
      Met (.inside opening.start) (opening :: comments)
  | closed {opening closing : Token} {comments after : List Token}
      (hopen : opening.kind = .docOpen) (hcomments : ∀ t ∈ comments, t.kind = .comment)
      (hclose : closing.kind = .docClose) (hafter : ∀ t ∈ after, t.kind = .comment) :
      Met (.closed opening.start closing.start) (opening :: (comments ++ closing :: after))

/-- A token that a search outside of blocks meets begins a block or is passed over. -/
theorem found_meet {t : Token} {ts : List Token} {found : List (DocBlock × List Problem)}
    (h : ∀ met, Met (meet t) met → Found lines (met ++ ts) found) :
    Found lines (t :: ts) found := by
  unfold meet at h
  by_cases hopen : t.kind = .docOpen
  · simp only [hopen, beq_self_eq_true, if_true] at h
    exact h [t] (.inside hopen (by simp))
  · simp only [beq_iff_eq, hopen, if_false] at h
    exact .outside hopen (h [] .outside)

/-- The search finds the blocks among what it has met and the tokens ahead. -/
theorem found_run (search : BlockSearch) (ts : List Token) :
    ∀ met, Met search met → Found lines (met ++ ts) (run lines search ts) := by
  fun_induction run lines search ts with
  | case1 =>
    rintro _ ⟨⟩
    exact .done
  | case2 opening =>
    rintro _ (_ | ⟨hopen, hcomments⟩)
    exact .unclosed hopen hcomments (by simp) .done
  | case3 opening closing =>
    rintro _ (_ | _ | ⟨hopen, hcomments, hclose, hafter⟩)
    have hdone : Found lines [] [] := .done
    simpa using hdone.closed hopen hcomments hclose hafter (by simp)
  | case4 t ts ih =>
    rintro _ ⟨⟩
    exact found_meet ih
  | case5 opening t ts hcomment ih =>
    rintro _ (_ | ⟨hopen, hcomments⟩)
    have hcomments := List.forall_mem_append.2
      ⟨hcomments, List.forall_mem_singleton.2 (eq_of_beq hcomment)⟩
    simpa using ih _ (.inside hopen hcomments)
  | case6 opening t ts hcomment hclose ih =>
    rintro _ (_ | ⟨hopen, hcomments⟩)
    simpa using ih _ (.closed hopen hcomments (eq_of_beq hclose) (List.forall_mem_nil _))
  | case7 opening t ts hcomment hclose ih =>
    rintro _ (_ | ⟨hopen, hcomments⟩)
    rw [beq_iff_eq] at hcomment hclose
    exact .unclosed hopen hcomments (by simp [hcomment, hclose]) (found_meet ih)
  | case8 opening closing t ts hcomment ih =>
    rintro _ (_ | _ | ⟨hopen, hcomments, hclose, hafter⟩)
    have hafter := List.forall_mem_append.2
      ⟨hafter, List.forall_mem_singleton.2 (eq_of_beq hcomment)⟩
    simpa using ih _ (.closed hopen hcomments hclose hafter)
  | case9 opening closing t ts hcomment routine ih =>
    rintro _ (_ | _ | ⟨hopen, hcomments, hclose, hafter⟩)
    have hfound := (found_meet ih).closed hopen hcomments hclose hafter (by simpa using hcomment)
    rw [List.cons_append, List.append_assoc, List.cons_append]
    exact hfound

/-- Every opening is found, and nothing else is taken for one. -/
theorem Found.openings {tokens : List Token} {found : List (DocBlock × List Problem)}
    (h : Found lines tokens found) : found.map (·.1.opening) =
      (tokens.filter fun t => t.kind == .docOpen).map (·.start) := by
  have hnone {ts : List Token} (hts : ∀ t ∈ ts, t.kind = .comment) :
      ts.filter (fun t => t.kind == .docOpen) = [] := by
    rw [List.filter_eq_nil_iff]
    intro t ht
    simp [hts t ht]
  induction h with
  | done => rfl
  | outside hopen later ih => simpa [hopen] using ih
  | closed hopen hcomments hclose hafter hrest later ih =>
    simp [hopen, hclose, hnone hcomments, hnone hafter, ih, closedBlock]
  | unclosed hopen hcomments hrest later ih =>
    simp [hopen, hnone hcomments, ih, openBlock, unclosedBlock]

end BlockSearch

/-! ## A block among the tokens -/

/-- A block, with its problems, among the tokens: what comes before its opening, the opening, the
comments that it takes in and what comes after them. -/
structure DocBlock.StandsAmong (lines : List Text) (tokens : List Token) (b : DocBlock)
    (problems : List Problem) (before : List Token) (opening : Token)
    (comments rest : List Token) : Prop where
  tokens_eq : tokens = before ++ opening :: (comments ++ rest)
  kind : opening.kind = .docOpen
  opens : b.opening = opening.start
  comments : ∀ t ∈ comments, t.kind = .comment
  ends : ∀ t ∈ rest.head?, t.kind ≠ .comment
  closes : b.closing = (rest.head?.filter fun t => t.kind == .docClose).map (·.start)
  documents : b.routineStart =
    if b.closing.isSome then
      (rest.tail.find? fun t => t.kind != .comment).bind Token.routineStart?
    else none
  content : (b.sections, problems) =
    let read := SectionList.ofLines lines (opening.start.line + 1)
      ((rest.head?.map (·.start.line)).getD lines.length)
    (read.1, read.2 ++ if b.closing.isSome then [] else [.plain .unclosedDocBlock opening.start])

namespace DocBlock.StandsAmong

variable {lines : List Text} {tokens before comments rest : List Token} {b : DocBlock}
  {problems : List Problem} {opening : Token}

theorem append (h : b.StandsAmong lines tokens problems before opening comments rest)
    (earlier : List Token) :
    b.StandsAmong lines (earlier ++ tokens) problems (earlier ++ before) opening comments rest :=
  { h with tokens_eq := by rw [h.tokens_eq, List.append_assoc] }

theorem opening_mem (h : b.StandsAmong lines tokens problems before opening comments rest) :
    opening ∈ tokens := by
  simp [h.tokens_eq]

theorem rest_subset (h : b.StandsAmong lines tokens problems before opening comments rest) :
    rest ⊆ tokens := by
  intro t ht
  simp [h.tokens_eq, ht]

/-- A block that is closed documents what the first token after its end that is no comment
begins. -/
theorem exists_of_closing (h : b.StandsAmong lines tokens problems before opening comments rest)
    {c : Span} (hc : b.closing = some c) : ∃ closing later, rest = closing :: later ∧
      closing.kind = .docClose ∧ closing.start = c ∧
      b.routineStart = (later.find? fun t => t.kind != .comment).bind Token.routineStart? := by
  have hcloses := h.closes
  rw [hc, eq_comm, Option.map_eq_some_iff] at hcloses
  obtain ⟨closing, hfilter, hstart⟩ := hcloses
  obtain ⟨hhead, hkind⟩ := Option.filter_eq_some_iff.1 hfilter
  obtain ⟨later, rfl⟩ := List.head?_eq_some_iff.1 hhead
  refine ⟨closing, later, rfl, eq_of_beq hkind, hstart, ?_⟩
  rw [h.documents, hc]
  rfl

/-- Only a block that is closed documents a routine. -/
theorem exists_of_routineStart
    (h : b.StandsAmong lines tokens problems before opening comments rest) {s : Span}
    (hs : b.routineStart = some s) : ∃ closing later word, rest = closing :: later ∧
      closing.kind = .docClose ∧ b.closing = some closing.start ∧
      later.find? (fun t => t.kind != .comment) = some word ∧ word.startsRoutine = true ∧
      word.start = s := by
  cases hc : b.closing with
  | none =>
    rw [h.documents, hc] at hs
    cases hs
  | some c =>
    obtain ⟨closing, later, hrest, hkind, rfl, hroutine⟩ := h.exists_of_closing hc
    rw [hs, eq_comm, Option.bind_eq_some_iff] at hroutine
    obtain ⟨word, hfind, hword⟩ := hroutine
    unfold Token.routineStart? at hword
    split at hword
    · rename_i hstarts
      exact ⟨closing, later, word, hrest, hkind, rfl, hfind, hstarts, Option.some.inj hword⟩
    · cases hword

end DocBlock.StandsAmong

namespace BlockSearch

variable {lines : List Text} {tokens : List Token} {found : List (DocBlock × List Problem)}

theorem find?_after {after rest : List Token} (hafter : ∀ t ∈ after, t.kind = .comment)
    (hrest : ∀ t ∈ rest.head?, t.kind ≠ .comment) :
    (after ++ rest).find? (fun t => t.kind != .comment) = rest.head? := by
  rw [List.find?_append, List.find?_eq_none.2 (by simpa using hafter), Option.none_or]
  cases rest with
  | nil => rfl
  | cons t rest => exact List.find?_cons_of_pos (by simpa using hrest t rfl)

/-- Every block that is found stands among the tokens. -/
theorem Found.standsAmong (h : Found lines tokens found) : ∀ x ∈ found,
    ∃ before opening comments rest,
      x.1.StandsAmong lines tokens x.2 before opening comments rest := by
  induction h with
  | done => simp
  | @outside t rest found hopen later ih =>
    intro x hx
    obtain ⟨before, opening, comments, rest, hstands⟩ := ih x hx
    exact ⟨t :: before, opening, comments, rest, hstands.append [t]⟩
  | @closed opening closing comments after rest _ hopen hcomments hclose hafter hrest later ih =>
    refine List.forall_mem_cons.2 ⟨?_, ?_⟩
    · refine ⟨[], opening, comments, closing :: (after ++ rest), rfl, hopen, rfl, hcomments, ?_,
        ?_, ?_, ?_⟩
      · simp [hclose]
      · rw [List.head?_cons, Option.filter_some_pos (by simp [hclose])]
        rfl
      · simp [closedBlock, find?_after hafter hrest]
      · simp [closedBlock]
    · intro x hx
      obtain ⟨before, opening', comments', rest', hstands⟩ := ih x hx
      refine ⟨opening :: (comments ++ closing :: (after ++ before)), opening', comments', rest', ?_⟩
      simpa using hstands.append (opening :: (comments ++ closing :: after))
  | @unclosed opening comments rest found hopen hcomments hrest later ih =>
    refine List.forall_mem_cons.2 ⟨?_, ?_⟩
    · have hnone : (rest.head?.filter fun t => t.kind == .docClose) = none := by
        rw [Option.filter_eq_none_iff]
        intro t ht
        simpa using (hrest t ht).2
      refine ⟨[], opening, comments, rest, rfl, hopen, rfl, hcomments, fun t ht => (hrest t ht).1,
        ?_, rfl, rfl⟩
      rw [hnone]
      rfl
    · intro x hx
      obtain ⟨before, opening', comments', rest', hstands⟩ := ih x hx
      exact ⟨opening :: (comments ++ before), opening', comments', rest',
        by simpa using hstands.append (opening :: comments)⟩

end BlockSearch

/-! ## Blocks of a text -/

theorem Cursor.line_le_of_lt {a b : Cursor} (h : a < b) : a.line ≤ b.line := by
  rcases lt_def.1 h with hline | ⟨hline, -⟩ <;> omega

/-- Of the elements that a search may find, it finds the first. -/
theorem eq_or_rel_of_find? {α : Type} {R : α → α → Prop} {p : α → Bool} {l : List α} {a x : α}
    (h : l.find? p = some a) (hl : l.Pairwise R) (hx : x ∈ l) (hp : p x = true) :
    x = a ∨ R a x := by
  obtain ⟨-, earlier, later, rfl, hearlier⟩ := List.find?_eq_some_iff_append.1 h
  rcases List.mem_append.1 hx with hx | hx
  · exact absurd hp (by simpa using hearlier x hx)
  · rcases List.mem_cons.1 hx with rfl | hx
    · exact .inl rfl
    · exact .inr (List.rel_of_pairwise_cons (List.pairwise_append.1 hl).2.1 hx)

theorem Token.kind_of_startsRoutine {t : Token} (h : t.startsRoutine = true) :
    t.kind = .reserved := by
  simp only [startsRoutine, isReserved, Bool.or_eq_true, Bool.and_eq_true, beq_iff_eq] at h
  rcases h with h | h <;> exact h.1

namespace DocBlock.StandsAmong

variable {lines : List Text} {tokens before comments rest : List Token} {b : DocBlock}
  {problems : List Problem} {opening t : Token}
  (h : b.StandsAmong lines tokens problems before opening comments rest)
  (hlaid : Token.Laid tokens)
include h hlaid

theorem lt_of_mem_before (ht : t ∈ before) : t.start.startCursor < b.opening.startCursor := by
  have hordered := h.tokens_eq ▸ hlaid.pairwise_lt
  rw [h.opens]
  exact (List.pairwise_append.1 hordered).2.2 t ht opening (by simp)

theorem lt_of_mem_after (ht : t ∈ comments ++ rest) :
    b.opening.startCursor < t.start.startCursor := by
  have hordered := h.tokens_eq ▸ hlaid.pairwise_lt
  rw [h.opens]
  exact List.rel_of_pairwise_cons (List.pairwise_append.1 hordered).2.1 ht

theorem pairwise_rest : rest.Pairwise fun t u => t.start.startCursor < u.start.startCursor := by
  have hordered := h.tokens_eq ▸ hlaid.pairwise_lt
  have hafter := (List.pairwise_cons.1 (List.pairwise_append.1 hordered).2.1).2
  exact (List.pairwise_append.1 hafter).2.1

/-- The content of a block ends where the tokens begin that it does not take in. -/
theorem stop?_eq : b.stop? tokens = rest.head? := by
  have hearlier : ∀ t ∈ before ++ [opening], ¬b.opening.startCursor < t.start.startCursor := by
    refine List.forall_mem_append.2 ⟨fun t ht => (h.lt_of_mem_before hlaid ht).not_gt, ?_⟩
    rw [List.forall_mem_singleton, h.opens]
    exact lt_irrefl _
  have htokens : tokens = (before ++ [opening]) ++ (comments ++ rest) := by
    simpa using h.tokens_eq
  rw [stop?, htokens, List.find?_append, List.find?_eq_none.2, Option.none_or, List.find?_append,
    List.find?_eq_none.2, Option.none_or]
  · cases hrest : rest with
    | nil => rfl
    | cons t later =>
      have hlt := Cursor.lt_eq_true_iff.2 (h.lt_of_mem_after hlaid (t := t) (by simp [hrest]))
      exact List.find?_cons_of_pos (by simpa [hlt] using h.ends t (by simp [hrest]))
  · intro t ht
    simp [h.comments t ht]
  · intro t ht
    simp [Cursor.lt_eq_true_iff, hearlier t ht]

theorem contentEnd_eq (count : Nat) :
    b.contentEnd tokens count = (rest.head?.map (·.start.line)).getD count := by
  rw [contentEnd, h.stop?_eq hlaid]

/-- A block begins with its opening. -/
theorem opening_le {count n : Nat} (hn : b.Occupies tokens count n) : b.opening.line ≤ n := by
  rcases hn with rfl | ⟨hlt, -⟩ | ⟨c, hc, rfl⟩
  · exact Nat.le_refl _
  · exact Nat.le_of_lt hlt
  · obtain ⟨closing, later, rfl, -, rfl, -⟩ := h.exists_of_closing hc
    exact Cursor.line_le_of_lt (h.lt_of_mem_after hlaid (t := closing) (by simp))

/-- A later token that is no comment comes after what the block takes in. -/
theorem mem_rest (ht : t ∈ tokens) (hkind : t.kind ≠ .comment)
    (hlt : b.opening.startCursor < t.start.startCursor) : t ∈ rest := by
  rw [h.tokens_eq] at ht
  rcases List.mem_append.1 ht with ht | ht
  · exact absurd (h.lt_of_mem_before hlaid ht) hlt.not_gt
  · rcases List.mem_cons.1 ht with rfl | ht
    · rw [h.opens] at hlt
      exact absurd hlt (lt_irrefl _)
    · rcases List.mem_append.1 ht with ht | ht
      · exact absurd (h.comments t ht) hkind
      · exact ht

/-- The routine that a block documents comes after the block, and no token stands between them but
comments. -/
theorem between_of_routineStart {s : Span} (hs : b.routineStart = some s) :
    ∃ c, b.closing = some c ∧ b.opening.startCursor < c.startCursor ∧
      c.startCursor < s.startCursor ∧
      ∀ t ∈ tokens, c.startCursor < t.start.startCursor → t.start.startCursor < s.startCursor →
        t.kind = .comment := by
  obtain ⟨closing, later, word, rfl, hkind, hc, hfind, hstarts, rfl⟩ := h.exists_of_routineStart hs
  have hopens := h.lt_of_mem_after hlaid (t := closing) (by simp)
  have hordered := h.pairwise_rest hlaid
  refine ⟨closing.start, hc, hopens, ?_, ?_⟩
  · exact List.rel_of_pairwise_cons hordered (List.mem_of_find?_eq_some hfind)
  · intro t ht hlt hword
    by_contra hcomment
    have hrest := h.mem_rest hlaid ht hcomment (hopens.trans hlt)
    rcases List.mem_cons.1 hrest with rfl | hlater
    · exact absurd hlt (lt_irrefl _)
    · rcases eq_or_rel_of_find? hfind (List.pairwise_cons.1 hordered).2 hlater (by simpa)
        with rfl | hgt
      · exact absurd hword (lt_irrefl _)
      · exact absurd hword hgt.not_gt

/-- Conversely, a routine that only comments part from the end of a block is documented by it. -/
theorem routineStart_of_between {c : Span} (hc : b.closing = some c) {word : Token}
    (hword : word ∈ tokens) (hstarts : word.startsRoutine = true)
    (hlt : c.startCursor < word.start.startCursor)
    (hbetween : ∀ t ∈ tokens, c.startCursor < t.start.startCursor →
      t.start.startCursor < word.start.startCursor → t.kind = .comment) :
    b.routineStart = some word.start := by
  obtain ⟨closing, later, rfl, hkind, rfl, hroutine⟩ := h.exists_of_closing hc
  have hordered := h.pairwise_rest hlaid
  have hcode : word.kind ≠ .comment := by simp [Token.kind_of_startsRoutine hstarts]
  have hopens := h.lt_of_mem_after hlaid (t := closing) (by simp)
  have hlater : word ∈ later := by
    rcases List.mem_cons.1 (h.mem_rest hlaid hword hcode (hopens.trans hlt)) with rfl | hlater
    · exact absurd hlt (lt_irrefl _)
    · exact hlater
  obtain ⟨first, hfirst⟩ : ∃ first, later.find? (fun t => t.kind != .comment) = some first := by
    rw [← Option.isSome_iff_exists, List.find?_isSome]
    exact ⟨word, hlater, by simpa⟩
  have hmem := List.mem_of_find?_eq_some hfirst
  rcases eq_or_rel_of_find? hfirst (List.pairwise_cons.1 hordered).2 hlater (by simpa)
    with rfl | hgt
  · rw [hroutine, hfirst]
    exact if_pos hstarts
  · have hcomment := hbetween first (h.rest_subset (by simp [hmem]))
      (List.rel_of_pairwise_cons hordered hmem) hgt
    have hfound := List.find?_some hfirst
    simp [hcomment] at hfound

section Two

variable {before' comments' rest' : List Token} {b' : DocBlock} {problems' : List Problem}
  {opening' : Token} (h' : b'.StandsAmong lines tokens problems' before' opening' comments' rest')
  (hlt : b.opening.startCursor < b'.opening.startCursor)
include h' hlt

theorem opening_mem_rest : opening' ∈ rest :=
  h.mem_rest hlaid h'.opening_mem (by simp [h'.kind]) (h'.opens ▸ hlt)

/-- A block ends before the next one opens. -/
theorem occupies_lt_opening (hcomments : tokens.Pairwise fun t u =>
      t.kind.isComment = true → t.start.line < u.start.line) {count n : Nat}
    (hn : b.Occupies tokens count n) : n < b'.opening.line := by
  have hmem := h.opening_mem_rest hlaid h' hlt
  rw [h.tokens_eq] at hcomments
  obtain ⟨hopening, hafter⟩ := List.pairwise_cons.1 (List.pairwise_append.1 hcomments).2.1
  rw [h'.opens]
  rcases hn with rfl | ⟨-, hcontent⟩ | ⟨c, hc, rfl⟩
  · rw [h.opens]
    exact hopening opening' (List.mem_append_right _ hmem) (by rw [h.kind]; rfl)
  · rw [h.contentEnd_eq hlaid] at hcontent
    obtain ⟨first, later, rfl⟩ := List.exists_cons_of_ne_nil (List.ne_nil_of_mem hmem)
    refine Nat.lt_of_lt_of_le hcontent ?_
    rcases List.mem_cons.1 hmem with rfl | hlater
    · exact Nat.le_refl _
    · exact Cursor.line_le_of_lt (List.rel_of_pairwise_cons (h.pairwise_rest hlaid) hlater)
  · obtain ⟨closing, later, rfl, hkind, rfl, -⟩ := h.exists_of_closing hc
    rcases List.mem_cons.1 hmem with rfl | hlater
    · rw [h'.kind] at hkind
      cases hkind
    · exact List.rel_of_pairwise_cons (List.pairwise_append.1 hafter).2.1 hlater
        (by rw [hkind]; rfl)

/-- Two blocks do not document one routine: nothing but comments stands between the end of the
first one and its routine. -/
theorem routineStart_ne {s : Span} (hs : b.routineStart = some s) :
    b'.routineStart ≠ some s := by
  intro hs'
  obtain ⟨c, hc, -, -, hbetween⟩ := h.between_of_routineStart hlaid hs
  obtain ⟨c', -, hopens', hlast', -⟩ := h'.between_of_routineStart hlaid hs'
  obtain ⟨closing, later, rfl, hkind, rfl, -⟩ := h.exists_of_closing hc
  have hlater : closing.start.startCursor < opening'.start.startCursor := by
    rcases List.mem_cons.1 (h.opening_mem_rest hlaid h' hlt) with rfl | hlater
    · rw [h'.kind] at hkind
      cases hkind
    · exact List.rel_of_pairwise_cons (h.pairwise_rest hlaid) hlater
  have hcomment := hbetween opening' h'.opening_mem hlater (h'.opens ▸ hopens'.trans hlast')
  rw [h'.kind] at hcomment
  cases hcomment

end Two

end DocBlock.StandsAmong

namespace DocBlocks

variable {lines : List Text} {tokens : List Token}

theorem found_ofTokens (tokens : List Token) (lines : List Text) :
    BlockSearch.Found lines tokens (BlockSearch.run lines .outside tokens) :=
  BlockSearch.found_run .outside tokens [] .outside

theorem standsAmong_ofTokens {b : DocBlock} (hb : b ∈ (ofTokens tokens lines).blocks) :
    ∃ problems before opening comments rest,
      b.StandsAmong lines tokens problems before opening comments rest := by
  obtain ⟨x, hx, rfl⟩ := List.mem_map.1 hb
  exact ⟨x.2, (found_ofTokens tokens lines).standsAmong x hx⟩

theorem openings_ofTokens (tokens : List Token) (lines : List Text) :
    (ofTokens tokens lines).blocks.map (·.opening) =
      (tokens.filter fun t => t.kind == .docOpen).map (·.start) := by
  rw [← (found_ofTokens tokens lines).openings, ofTokens, List.map_map]
  rfl

/-- Blocks come in the order of their openings. -/
theorem pairwise_opening (hlaid : Token.Laid tokens) :
    (ofTokens tokens lines).blocks.Pairwise fun b b' =>
      b.opening.startCursor < b'.opening.startCursor := by
  have hopenings : ((ofTokens tokens lines).blocks.map (·.opening)).Pairwise fun s s' =>
      s.startCursor < s'.startCursor := by
    rw [openings_ofTokens, List.pairwise_map]
    exact hlaid.pairwise_lt.sublist List.filter_sublist
  rwa [List.pairwise_map] at hopenings

/-- Each block has lines of its own, which come before those of later blocks. -/
theorem pairwise_occupies (lines : List Text) :
    (ofTokens (tokensFrom 0 lines) lines).blocks.Pairwise fun b b' =>
      ∀ n n', b.Occupies (tokensFrom 0 lines) lines.length n →
        b'.Occupies (tokensFrom 0 lines) lines.length n' → n < n' := by
  have hlaid := laid_tokensFrom lines
  refine (pairwise_opening hlaid).imp_of_mem ?_
  intro b b' hb hb' hlt n n' hn hn'
  obtain ⟨_, _, _, _, _, h⟩ := standsAmong_ofTokens hb
  obtain ⟨_, _, _, _, _, h'⟩ := standsAmong_ofTokens hb'
  have hopening := h.occupies_lt_opening hlaid h' hlt (pairwise_comment_tokensFrom lines) hn
  exact Nat.lt_of_lt_of_le hopening (h'.opening_le hlaid hn')

/-- What the blocks are reported for besides malformed entries is that some have no end. -/
theorem withCode_unclosed (tokens : List Token) (lines : List Text) :
    withCode .unclosedDocBlock (ofTokens tokens lines).problems =
      ((ofTokens tokens lines).blocks.filter (·.closing.isNone)).map fun b =>
        .plain .unclosedDocBlock b.opening := by
  have hstands := (found_ofTokens tokens lines).standsAmong
  simp only [ofTokens]
  generalize BlockSearch.run lines .outside tokens = found at hstands ⊢
  induction found with
  | nil => rfl
  | cons x found ih =>
    obtain ⟨hx, hstands⟩ := List.forall_mem_cons.1 hstands
    obtain ⟨before, opening, comments, rest, hx⟩ := hx
    have hproblems := congrArg Prod.snd hx.content
    dsimp only at hproblems
    rw [List.flatMap_cons, Problem.withCode_append, ih hstands, hproblems, Problem.withCode_append,
      SectionList.withCode_ofLines (by decide), List.nil_append, List.map_cons, ← hx.opens]
    cases hclosing : x.1.closing with
    | none =>
      rw [List.filter_cons_of_pos (by simp [hclosing])]
      rfl
    | some c =>
      rw [List.filter_cons_of_neg (by simp [hclosing])]
      rfl

end DocBlocks

namespace Analysis

variable (path : Path) (text : Text)

/-- A routine of a file begins with a token that says so. -/
theorem exists_word_of_signature {s : Signature}
    (hs : s ∈ (Analysis.read path text).record.signatures) :
    ∃ word ∈ (Analysis.read path text).tokens,
      word.startsRoutine = true ∧ s.start = word.start := by
  obtain ⟨word, after, hstatement, hstarts, hread⟩ :=
    Record.exists_header path (laid_tokensFrom text.sourceLines) hs
  exact ⟨word, (Statement.sublist_of_mem_split hstatement).subset List.mem_cons_self, hstarts,
    (Header.ends_of_read hread).1⟩

/-- No two blocks of a file document one routine. -/
theorem pairwise_routineStart : (Analysis.read path text).blocks.Pairwise fun b b' =>
    ∀ s, b.routineStart = some s → b'.routineStart ≠ some s := by
  have hlaid := laid_tokensFrom text.sourceLines
  refine (DocBlocks.pairwise_opening hlaid).imp_of_mem ?_
  intro b b' hb hb' hlt s hs
  obtain ⟨_, _, _, _, _, h⟩ := DocBlocks.standsAmong_ofTokens hb
  obtain ⟨_, _, _, _, _, h'⟩ := DocBlocks.standsAmong_ofTokens hb'
  exact h.routineStart_ne hlaid h' hlt hs

/-- The documentation of a routine is the block that says so. -/
theorem docsFor?_eq_some_iff {s : Signature} {b : DocBlock}
    (hb : b ∈ (Analysis.read path text).blocks) :
    (Analysis.read path text).docsFor? s = some b ↔ b.routineStart = some s.start := by
  constructor
  · intro h
    simpa using List.find?_some h
  · intro h
    have hfind : ((Analysis.read path text).docsFor? s).isSome = true := by
      rw [docsFor?, List.find?_isSome]
      exact ⟨b, hb, by simp [h]⟩
    obtain ⟨b', hb'⟩ := Option.isSome_iff_exists.1 hfind
    rcases eq_or_rel_of_find? hb' (pairwise_routineStart path text) hb (by simp [h])
      with rfl | hne
    · exact hb'
    · exact absurd h (hne s.start (by simpa using List.find?_some hb'))

/-- Blocks, openings and routines belong to each other. A file has a block for each opening, in
order and on lines of its own; a block is closed if its content ends with a closing delimiter, and
is reported otherwise; and a routine is documented by the block that is closed with nothing but
comments between its end and the routine. -/
theorem blocks_linked (path : Path) (text : Text) :
    let a := Analysis.read path text
    let docs := DocBlocks.ofTokens a.tokens text.sourceLines
    a.blocks = docs.blocks ∧
      a.blocks.map (·.opening) =
        (a.tokens.filter fun t => t.kind == .docOpen).map (·.start) ∧
      a.blocks.Pairwise (fun b b' => ∀ n n', b.Occupies a.tokens text.sourceLines.length n →
        b'.Occupies a.tokens text.sourceLines.length n' → n < n') ∧
      (∀ b ∈ a.blocks,
        b.closing = ((b.stop? a.tokens).filter (·.kind == .docClose)).map (·.start)) ∧
      withCode .unclosedDocBlock docs.problems =
        (a.blocks.filter (·.closing.isNone)).map (fun b =>
          .plain .unclosedDocBlock b.opening) ∧
      a.blocks.Pairwise (fun b b' => ∀ s, b.routineStart = some s → b'.routineStart ≠ some s) ∧
      ∀ s ∈ a.record.signatures, ∀ b ∈ a.blocks,
        (a.docsFor? s = some b ↔
          ∃ closing, b.closing = some closing ∧ closing.startCursor < s.start.startCursor ∧
            ∀ t ∈ a.tokens, closing.startCursor < t.start.startCursor →
              t.start.startCursor < s.start.startCursor → t.kind = .comment) := by
  intro a docs
  have hlaid : Token.Laid a.tokens := laid_tokensFrom text.sourceLines
  refine ⟨rfl, DocBlocks.openings_ofTokens _ _, DocBlocks.pairwise_occupies _, ?_,
    DocBlocks.withCode_unclosed _ _, pairwise_routineStart path text, ?_⟩
  · intro b hb
    obtain ⟨_, _, _, _, _, h⟩ := DocBlocks.standsAmong_ofTokens hb
    have hstop : b.stop? a.tokens = _ := h.stop?_eq hlaid
    rw [hstop]
    exact h.closes
  · intro s hs b hb
    rw [docsFor?_eq_some_iff path text hb]
    obtain ⟨_, _, _, _, _, h⟩ := DocBlocks.standsAmong_ofTokens hb
    constructor
    · intro hroutine
      obtain ⟨c, hc, -, hlt, hbetween⟩ := h.between_of_routineStart hlaid hroutine
      exact ⟨c, hc, hlt, hbetween⟩
    · rintro ⟨c, hc, hlt, hbetween⟩
      obtain ⟨word, hword, hstarts, hstart⟩ := exists_word_of_signature path text hs
      rw [hstart] at hlt hbetween ⊢
      exact h.routineStart_of_between hlaid hc hword hstarts hlt hbetween

/-- The second of two blocks is closed, and only a comment parts it from a routine. -/
theorem blocks_linked_past_comment :
    let text : Text := ";+\n; one\n;+\n; two\n;-\n; three\npro p\nend\n".toList
    let a := Analysis.read (.ofText ['a']) text
    ∃ s ∈ a.record.signatures, ∃ b ∈ a.blocks, b.opening.line = 2 ∧ a.docsFor? s = some b := by
  intro text a
  have hbetween : ∃ s ∈ a.record.signatures, ∃ b ∈ a.blocks, b.opening.line = 2 ∧
      b.closing = some ⟨4, 0, 2⟩ ∧ (Span.startCursor ⟨4, 0, 2⟩) < s.start.startCursor ∧
      ∀ t ∈ a.tokens, (Span.startCursor ⟨4, 0, 2⟩) < t.start.startCursor →
        t.start.startCursor < s.start.startCursor → t.kind = .comment := by
    decide +kernel
  obtain ⟨s, hs, b, hb, hline, hclosing⟩ := hbetween
  obtain ⟨-, -, -, -, -, -, hlinked⟩ := blocks_linked (.ofText ['a']) text
  exact ⟨s, hs, b, hb, hline, (hlinked s hs b hb).2 ⟨_, hclosing⟩⟩

end Analysis

end RoutineAtlas
