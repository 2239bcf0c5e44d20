import Mathlib.Data.List.Nodup
import Mathlib.Data.List.Pairwise
import RoutineAtlas.Proofs.Provenance
import RoutineAtlas.Proofs.Tiling

/-!
# Words and statements stand apart

A name is read as far as it goes, so no word follows another one without a character between them.
A cursor therefore touches one word at most, although a span is touched at both of its ends. The
statements of a file divide the words among them, and whatever word stands between two tokens of a
statement belongs to the statement as well.

This is what makes a place in a text say which word is meant; `Token.Laid` collects the facts about
tokens that it rests on.

## Main definitions

* `Token.Laid` — tokens as they stand in a text.
* `Token.Laid.eq_of_touches` — a cursor touches one word at most.
* `Statement.flatten_split` — the statements of a file hold its tokens, each once and in order.
* `Header.nameTokens` — the words of the name in a header.
-/

namespace RoutineAtlas

/-! ## Words -/

namespace Lexeme

/-- A name is read as far as it goes. -/
theorem next_drop_nameTail (cs : Text) : next isNameChar (cs.drop (nameTail cs)) = false := by
  induction cs with
  | nil => rfl
  | cons c cs ih =>
    rw [nameTail]
    split
    · exact ih
    · rename_i hstop
      have hc : ¬isNameChar c = true := fun hc => hstop (by simp [hc])
      simpa [next] using hc

/-- The kinds of words. -/
def isWordKind (kind : TokenKind) : Bool :=
  kind == .identifier || kind == .reserved

theorem not_isWordKind_quoted (quote : Char) (cs : Text) :
    isWordKind (quoted quote cs).kind = false := by
  unfold quoted
  split
  · rfl
  · split
    · rfl
    · split <;> rfl

theorem not_isWordKind_comment (leading : Bool) (cs : Text) :
    isWordKind (comment leading cs).kind = false := by
  unfold comment
  dsimp only
  split
  · rfl
  · split <;> rfl

theorem not_isWordKind_lone (c : Char) : isWordKind (lone c).kind = false := by
  unfold lone singleKind
  split
  iterate 9 rfl
  split <;> rfl

theorem not_isWordKind_mark (c : Char) (cs : Text) : isWordKind (mark c cs).kind = false := by
  unfold mark
  split
  · exact not_isWordKind_lone c
  · split
    · rename_i kind hkind
      have hpair : kind = .arrow ∨ kind = .doubleColon ∨ kind = .operator := by
        unfold pairKind at hkind
        grind
      rcases hpair with rfl | rfl | rfl <;> rfl
    · exact not_isWordKind_lone c

/-- A word starts as names do, and is all of the name. -/
theorem read_of_isWordKind {leading : Bool} {c : Char} {cs : Text}
    (h : isWordKind (read leading c cs).kind = true) :
    isNameStart c = true ∧ read leading c cs = word c cs := by
  have hcases : (isNameStart c = true ∧ read leading c cs = word c cs) ∨
      isWordKind (read leading c cs).kind = false := by
    unfold read
    split
    · exact .inr (not_isWordKind_comment leading cs)
    · split
      · exact .inr rfl
      · split
        · exact .inr rfl
        · split
          · exact .inr (not_isWordKind_quoted c cs)
          · split
            · exact .inr rfl
            · split
              · exact .inr rfl
              · split
                · rename_i hname
                  exact .inl ⟨hname, rfl⟩
                · exact .inr (not_isWordKind_mark c cs)
  exact hcases.resolve_right (by simp [h])

end Lexeme

/-- A name as a token. -/
def Token.ofName (name : Text) (span : Span) : Token :=
  .single (if isReservedWord name then .reserved else .identifier) name span

/-- A token of a line is the lexeme that is read where it starts. -/
theorem lexeme_of_mem_scanFrom {line column skip : Nat} {leading : Bool} {cs : Text}
    {s : ScannedToken} (h : s ∈ scanFrom line column skip leading cs) :
    ∃ before c after leading', cs = before ++ c :: after ∧
      let l := Lexeme.read leading' c after
      s.token = .single l.kind ((c :: after).take l.length)
        ⟨line, column + before.length, l.length⟩ := by
  fun_induction scanFrom line column skip leading cs with
  | case1 column skip leading => cases h
  | case2 column leading skip c cs ih =>
    obtain ⟨before, d, after, leading', rfl, htoken⟩ := ih h
    refine ⟨c :: before, d, after, leading', rfl, ?_⟩
    rw [htoken, List.length_cons, Nat.add_assoc, Nat.add_comm 1]
  | case3 column leading c cs hblank ih =>
    obtain ⟨before, d, after, leading', rfl, htoken⟩ := ih h
    refine ⟨c :: before, d, after, leading', rfl, ?_⟩
    rw [htoken, List.length_cons, Nat.add_assoc, Nat.add_comm 1]
  | case4 column leading c cs hblank lexeme token ih =>
    rcases List.mem_cons.1 h with rfl | h
    · exact ⟨[], c, cs, leading, rfl, rfl⟩
    · obtain ⟨before, d, after, leading', rfl, htoken⟩ := ih h
      refine ⟨c :: before, d, after, leading', rfl, ?_⟩
      rw [htoken, List.length_cons, Nat.add_assoc, Nat.add_comm 1]

/-- A word of a line stands where a name starts, and takes all of that name. -/
theorem word_of_mem_scanFrom {line column skip : Nat} {leading : Bool} {cs : Text}
    {s : ScannedToken} (h : s ∈ scanFrom line column skip leading cs)
    (hword : s.token.isWord = true) :
    ∃ before c after, cs = before ++ c :: after ∧ isNameStart c = true ∧
      s.token = .ofName (c :: after.take (Lexeme.nameTail after))
        ⟨line, column + before.length, Lexeme.nameTail after + 1⟩ := by
  obtain ⟨before, c, after, leading', hcs, htoken⟩ := lexeme_of_mem_scanFrom h
  dsimp only at htoken
  rw [htoken] at hword
  obtain ⟨hc, hread⟩ := Lexeme.read_of_isWordKind hword
  refine ⟨before, c, after, hcs, hc, ?_⟩
  rw [htoken, hread]
  rfl

theorem isNameChar_of_isNameStart {c : Char} (h : isNameStart c = true) : isNameChar c = true := by
  simp only [isNameStart, isNameChar, Char.isAlphanum, Bool.or_eq_true] at h ⊢
  exact h.imp_left .inl

/-- No word of a line starts where another one ends. -/
theorem endColumn_ne_of_mem_scanFrom {line column : Nat} {cs : Text} {s u : ScannedToken}
    (hs : s ∈ scanFrom line column 0 true cs) (hu : u ∈ scanFrom line column 0 true cs)
    (hsword : s.token.isWord = true) (huword : u.token.isWord = true) :
    s.token.start.endColumn ≠ u.token.start.column := by
  intro heq
  obtain ⟨before, c, after, hcs, -, htoken⟩ := word_of_mem_scanFrom hs hsword
  obtain ⟨before', d, after', hcs', hd, htoken'⟩ := word_of_mem_scanFrom hu huword
  rw [htoken, htoken'] at heq
  have hlength : before'.length = before.length + (Lexeme.nameTail after + 1) := by
    simp only [Span.endColumn, Token.ofName, Token.single] at heq
    omega
  -- the second word starts with what follows the first name
  have hdrop : cs.drop before'.length = after.drop (Lexeme.nameTail after) := by
    rw [hcs, hlength, ← List.drop_drop, List.drop_left, List.drop_succ_cons]
  rw [hcs', List.drop_left] at hdrop
  have hstop := Lexeme.next_drop_nameTail after
  rw [← hdrop] at hstop
  exact absurd (isNameChar_of_isNameStart hd) (by simpa [Lexeme.next] using hstop)

/-! ## Tokens of a text -/

theorem Span.touches_iff {s : Span} {here : Cursor} : s.touches here = true ↔
    s.line = here.line ∧ s.column ≤ here.character ∧ here.character ≤ s.endColumn := by
  simp [touches, and_assoc]

theorem Span.touches_startCursor (s : Span) : s.touches s.startCursor = true :=
  touches_iff.2 ⟨rfl, Nat.le_refl _, Nat.le_add_right _ _⟩

/-- Tokens as they stand in a text: one after the other, each within a line, and no word right after
another word. -/
structure Token.Laid (tokens : List Token) : Prop where
  before : tokens.Pairwise Token.Before
  single : ∀ t ∈ tokens, t.stop = t.start
  nonempty : ∀ t ∈ tokens, 0 < t.start.length
  words : ∀ t ∈ tokens, ∀ u ∈ tokens, t.isWord = true → u.isWord = true →
    t.start.line = u.start.line → t.start.endColumn ≠ u.start.column

theorem laid_tokensFrom (lines : List Text) : Token.Laid (tokensFrom 0 lines) where
  before := pairwise_before_tokensFrom 0 lines
  single := by
    intro t ht
    obtain ⟨line, -, hstands⟩ := standsIn_of_mem_tokensFrom ht
    exact hstands.single
  nonempty := by
    intro t ht
    obtain ⟨line, -, hstands⟩ := standsIn_of_mem_tokensFrom ht
    exact hstands.nonempty
  words := by
    intro t ht u hu htword huword hline
    obtain ⟨i, line, hi, ht⟩ := mem_tokensFrom.1 ht
    obtain ⟨j, line', hj, hu⟩ := mem_tokensFrom.1 hu
    rw [(standsIn_of_mem_lineTokens ht).line, (standsIn_of_mem_lineTokens hu).line,
      Nat.add_left_cancel_iff] at hline
    subst hline
    obtain rfl : line = line' := Option.some.inj (hi.symm.trans hj)
    obtain ⟨s, hs, rfl⟩ := List.mem_map.1 ht
    obtain ⟨s', hs', rfl⟩ := List.mem_map.1 hu
    exact endColumn_ne_of_mem_scanFrom hs hs' htword huword

namespace Token

variable {tokens : List Token} {t u : Token}

theorem Laid.before_or_before (h : Laid tokens) (ht : t ∈ tokens) (hu : u ∈ tokens)
    (hne : t ≠ u) : t.Before u ∨ u.Before t := by
  have hpairwise : tokens.Pairwise fun t u => t.Before u ∨ u.Before t := h.before.imp Or.inl
  have hsymm : Std.Symm fun t u : Token => t.Before u ∨ u.Before t := ⟨fun _ _ => Or.symm⟩
  exact hpairwise.forall ht hu hne

/-- A token does not start where a later one does. -/
theorem Before.startCursor_ne (h : t.Before u) (ht : 0 < t.start.length) :
    t.start.startCursor ≠ u.start.startCursor := by
  intro heq
  have hlt := h.lt ht
  rw [heq, Cursor.lt_iff] at hlt
  omega

theorem Before.ne (h : t.Before u) (ht : 0 < t.start.length) : t ≠ u :=
  fun heq => h.startCursor_ne ht (by rw [heq])

theorem Laid.nodup (h : Laid tokens) : tokens.Nodup :=
  h.before.imp_of_mem fun ht _ hbefore => hbefore.ne (h.nonempty _ ht)

/-- The tokens of a text are told by where they start. -/
theorem Laid.eq_of_startCursor_eq (h : Laid tokens) (ht : t ∈ tokens) (hu : u ∈ tokens)
    (heq : t.start.startCursor = u.start.startCursor) : t = u := by
  by_contra hne
  rcases h.before_or_before ht hu hne with hbefore | hbefore
  · exact hbefore.startCursor_ne (h.nonempty t ht) heq
  · exact hbefore.startCursor_ne (h.nonempty u hu) heq.symm

/-- A cursor touches one word at most. -/
theorem Laid.eq_of_touches (h : Laid tokens) (ht : t ∈ tokens) (hu : u ∈ tokens)
    (htword : t.isWord = true) (huword : u.isWord = true) {here : Cursor}
    (ht' : t.start.touches here = true) (hu' : u.start.touches here = true) : t = u := by
  obtain ⟨hline, hstart, hstop⟩ := Span.touches_iff.1 ht'
  obtain ⟨hline', hstart', hstop'⟩ := Span.touches_iff.1 hu'
  by_contra hne
  rcases h.before_or_before ht hu hne with (hlt | ⟨-, hend⟩) | hlt | ⟨-, hend⟩
  · omega
  · exact h.words t ht u hu htword huword (by omega) (by omega)
  · omega
  · exact h.words u hu t ht huword htword (by omega) (by omega)

end Token

/-! ## Statements -/

/-- The token is part of a statement. -/
def Token.isContent (t : Token) : Bool :=
  !t.kind.isComment && t.kind != .continuation && t.kind != .ampersand

theorem Token.isContent_of_isWord {t : Token} (h : t.isWord = true) : t.isContent = true := by
  simp only [isWord, Bool.or_eq_true, beq_iff_eq] at h
  rcases h with h | h <;> simp [isContent, h, TokenKind.isComment]

namespace Statement

variable {tokens : List Token} {s s' : Statement} {t : Token}

theorem flatten_collected (s : Statement) : (collected s).flatten = s := by
  unfold collected
  split
  · rename_i hempty
    rw [List.isEmpty_iff.1 hempty]
    rfl
  · simp

/-- The statements ahead hold what has been collected and then the tokens ahead. -/
theorem flatten_splitFrom (current : Statement) (continued : Bool) (lastLine : Option Nat)
    (ts : List Token) : (splitFrom current continued lastLine ts).flatten =
      current ++ ts.filter Token.isContent := by
  fun_induction splitFrom current continued lastLine ts with
  | case1 current continued lastLine => simp [flatten_collected]
  | case2 current continued lastLine t ts hcomment ih => simp [ih, Token.isContent, hcomment]
  | case3 current continued lastLine t ts hcomment hcontinuation ih =>
    simp_all [Token.isContent]
  | case4 current continued lastLine t ts hcomment hcontinuation broken finished kept hand ih =>
    have hcurrent : finished.flatten ++ kept = current := by
      cases hbroken : broken <;> simp [finished, kept, hbroken, flatten_collected]
    have ht : t.isContent = false := by simp_all [Token.isContent]
    rw [List.filter_cons_of_neg (by simp [ht]), ← hcurrent]
    simp [ih, flatten_collected]
  | case5 current continued lastLine t ts hcomment hcontinuation broken finished kept hand ih =>
    have hcurrent : finished.flatten ++ kept = current := by
      cases hbroken : broken <;> simp [finished, kept, hbroken, flatten_collected]
    have ht : t.isContent = true := by simp_all [Token.isContent]
    rw [List.flatten_append, ih, List.filter_cons_of_pos ht, ← hcurrent]
    simp

/-- The statements of a file hold its tokens, each once and in order, but for comments,
continuations and separators. -/
theorem flatten_split (tokens : List Token) :
    (split tokens).flatten = tokens.filter Token.isContent :=
  flatten_splitFrom [] false none tokens

theorem ne_nil_of_mem_splitFrom {current : Statement} {continued : Bool} {lastLine : Option Nat}
    {ts : List Token} (h : s ∈ splitFrom current continued lastLine ts) : s ≠ [] := by
  have hcollected {l : Statement} (hs : s ∈ collected l) : s ≠ [] := by
    obtain ⟨rfl, hne⟩ := mem_collected.1 hs
    exact hne
  have hfinished {l : Statement} {broken : Bool} (hs : s ∈ if broken then collected l else []) :
      s ≠ [] := by
    cases broken with
    | true => exact hcollected hs
    | false => cases hs
  fun_induction splitFrom current continued lastLine ts with
  | case1 current continued lastLine => exact hcollected h
  | case2 current continued lastLine t ts hcomment ih => exact ih h
  | case3 current continued lastLine t ts hcomment hcontinuation ih => exact ih h
  | case4 current continued lastLine t ts hcomment hcontinuation broken finished kept hand ih =>
    rcases List.mem_append.1 h with h | h
    · rcases List.mem_append.1 h with h | h
      · exact hfinished h
      · exact hcollected h
    · exact ih h
  | case5 current continued lastLine t ts hcomment hcontinuation broken finished kept hand ih =>
    rcases List.mem_append.1 h with h | h
    · exact hfinished h
    · exact ih h

variable (h : Token.Laid tokens)
include h

theorem nodup_flatten_split : (split tokens).flatten.Nodup := by
  rw [flatten_split]
  exact h.nodup.filter _

theorem nodup_of_mem_split (hs : s ∈ split tokens) : s.Nodup :=
  (List.nodup_flatten.1 (nodup_flatten_split h)).1 s hs

/-- A token is part of one statement only. -/
theorem eq_of_mem_of_mem (hs : s ∈ split tokens) (hs' : s' ∈ split tokens) (ht : t ∈ s)
    (ht' : t ∈ s') : s = s' := by
  by_contra hne
  have hsymm : Std.Symm (List.Disjoint (α := Token)) :=
    ⟨fun _ _ hdisjoint _ ha hb => hdisjoint hb ha⟩
  exact (List.nodup_flatten.1 (nodup_flatten_split h)).2.forall hs hs' hne ht ht'

theorem nodup_split : (split tokens).Nodup := by
  refine (List.nodup_flatten.1 (nodup_flatten_split h)).2.imp_of_mem ?_
  rintro s s' hs - hdisjoint rfl
  obtain ⟨t, ht⟩ := List.exists_mem_of_ne_nil s (ne_nil_of_mem_splitFrom hs)
  exact hdisjoint ht ht

/-- What does not stand before a part of a statement, nor after it, belongs to it. -/
theorem before_or_mem_or_before (earlier part later : List Token)
    (hs : earlier ++ part ++ later ∈ split tokens) (ht : t ∈ tokens)
    (hcontent : t.isContent = true) :
    (∀ u ∈ part, t.Before u) ∨ t ∈ part ∨ ∀ u ∈ part, u.Before t := by
  have hpairwise : (split tokens).flatten.Pairwise Token.Before := by
    rw [flatten_split]
    exact h.before.sublist List.filter_sublist
  have hmem : t ∈ (split tokens).flatten := by
    rw [flatten_split]
    exact List.mem_filter.2 ⟨ht, hcontent⟩
  obtain ⟨above, below, heq⟩ := List.append_of_mem hs
  have hparts : (split tokens).flatten =
      (above.flatten ++ earlier) ++ (part ++ (later ++ below.flatten)) := by
    simp [heq]
  rw [hparts] at hmem hpairwise
  obtain ⟨-, hrest, hbefore⟩ := List.pairwise_append.1 hpairwise
  obtain ⟨-, -, hafter⟩ := List.pairwise_append.1 hrest
  rcases List.mem_append.1 hmem with hmem | hmem
  · exact .inl fun u hu => hbefore t hmem u (List.mem_append_left _ hu)
  · rcases List.mem_append.1 hmem with hmem | hmem
    · exact .inr (.inl hmem)
    · exact .inr (.inr fun u hu => hafter u hu t hmem)

end Statement

/-! ## Headers -/

theorem ParameterList.isWord_of_mem_keywords {seen : Seen} {ts : List Token} {k : Keyword}
    (h : k ∈ (read seen ts).keywords) : ∃ t ∈ ts, t.isWord = true ∧ k.span = t.start := by
  fun_induction read seen ts with
  | case1 seen => cases h
  | case2 seen separator rest hcomma => cases h
  | case3 seen separator hcomma => cases h
  | case4 seen separator hcomma t rest hword => cases h
  | case5 seen separator hcomma t hword isRepeated seen' hseen => cases h
  | case6 seen separator hcomma t hword sign hsign => cases h
  | case7 seen separator hcomma t hword sign hsign target rest htarget isRepeated seen' hseen ih =>
    rcases List.mem_cons.1 h with rfl | h
    · exact ⟨t, by simp, by simpa using hword, rfl⟩
    · obtain ⟨u, hu, hspan⟩ := ih h
      exact ⟨u, by simp [hu], hspan⟩
  | case8 seen separator hcomma t hword sign hsign target rest htarget => cases h
  | case9 seen separator hcomma t hword sign afterSign hsign isRepeated seen' hseen ih =>
    obtain ⟨u, hu, hspan⟩ := ih h
    exact ⟨u, by simp_all, hspan⟩

/-- The words of the name in a header, given what follows the word that begins it. -/
def Header.nameTokens : List Token → List Token
  | name :: colons :: method :: _ =>
    if colons.kind == .doubleColon && method.isWord then [name, method] else [name]
  | after => after.take 1

theorem Header.nameTokens_subset (after : List Token) : nameTokens after ⊆ after := by
  unfold nameTokens
  split
  · split <;> simp
  · exact List.take_subset _ _

/-- The name in a header is a word, or it runs from one word to the next. -/
theorem Header.name_of_read {file : Path} {word : Token} {after : List Token} {s : Signature}
    (h : (Header.read file word after).signature = some s) :
    ∃ name rest, after = name :: rest ∧ name.isWord = true ∧
      ((nameTokens after = [name] ∧ s.nameSpan = name.start) ∨
        ∃ colons method later, rest = colons :: method :: later ∧ colons.isWord = false ∧
          method.isWord = true ∧ nameTokens after = [name, method] ∧ s.nameSpan =
            { name.start with length := method.stop.endColumn - name.start.column }) := by
  cases after with
  | nil => simp [Header.read] at h
  | cons name rest =>
    simp only [Header.read] at h
    split at h
    · rename_i hname
      obtain rfl := Option.some.inj h
      refine ⟨name, rest, rfl, hname, ?_⟩
      cases rest with
      | nil => exact .inl ⟨rfl, rfl⟩
      | cons t rest =>
        cases rest with
        | nil =>
          refine .inl ⟨rfl, ?_⟩
          by_cases ht : t.kind = .doubleColon <;> simp [HeaderName.read, ht]
        | cons method later =>
          by_cases hmethod : t.kind = .doubleColon ∧ method.isWord = true
          · obtain ⟨ht, hmethod⟩ := hmethod
            refine .inr ⟨t, method, later, rfl, by simp [Token.isWord, ht], hmethod, ?_, ?_⟩
            · simp [nameTokens, ht, hmethod]
            · simp [HeaderName.read, ht, hmethod]
          · refine .inl ⟨?_, ?_⟩
            · simpa [nameTokens] using hmethod
            · by_cases ht : t.kind = .doubleColon <;> simp_all [HeaderName.read]
    · cases h

/-- The name in a header begins with a word. -/
theorem Header.start_of_read {file : Path} {word : Token} {after : List Token} {s : Signature}
    (h : (Header.read file word after).signature = some s) :
    ∃ name ∈ after, name.isWord = true ∧ s.nameSpan.startCursor = name.start.startCursor := by
  obtain ⟨name, rest, rfl, hname, ⟨-, hspan⟩ | ⟨_, _, _, -, -, -, -, hspan⟩⟩ := name_of_read h
  · exact ⟨name, List.mem_cons_self, hname, by rw [hspan]⟩
  · exact ⟨name, List.mem_cons_self, hname, by rw [hspan]; rfl⟩

theorem Header.keyword_of_read {file : Path} {word : Token} {after : List Token} {s : Signature}
    (h : (Header.read file word after).signature = some s) {k : Keyword} (hk : k ∈ s.keywords) :
    ∃ t ∈ after, t.isWord = true ∧ k.span = t.start := by
  cases after with
  | nil => simp [Header.read] at h
  | cons name rest =>
    simp only [Header.read] at h
    split at h
    · obtain rfl := Option.some.inj h
      dsimp only at hk
      unfold HeaderName.read at hk
      dsimp only at hk
      split at hk
      · cases hk
      · split at hk
        · split at hk
          · cases hk
          · split at hk
            · obtain ⟨t, ht, hword⟩ := ParameterList.isWord_of_mem_keywords hk
              exact ⟨t, by simp [ht], hword⟩
            · cases hk
        · obtain ⟨t, ht, hword⟩ := ParameterList.isWord_of_mem_keywords hk
          exact ⟨t, List.mem_cons_of_mem _ ht, hword⟩
    · cases h

/-- A word that is touched together with the name in a header is one of its words. -/
theorem Header.mem_nameTokens_of_touches {tokens : List Token} (h : Token.Laid tokens)
    {file : Path} {word : Token} {after : List Token}
    (hs : word :: after ∈ Statement.split tokens) {s : Signature}
    (hread : (Header.read file word after).signature = some s) {u : Token} (hu : u ∈ tokens)
    (huword : u.isWord = true) {here : Cursor} (hname' : s.nameSpan.touches here = true)
    (hu' : u.start.touches here = true) : u ∈ nameTokens after := by
  have hsub : (word :: after).Sublist tokens := Statement.sublist_of_mem_split hs
  obtain ⟨name, rest, rfl, hname, ⟨hwords, hspan⟩ |
    ⟨colons, method, later, rfl, hcolons, hmethod, hwords, hspan⟩⟩ := Header.name_of_read hread
  · rw [hspan] at hname'
    rw [hwords, List.mem_singleton]
    exact h.eq_of_touches hu (hsub.subset (by simp)) huword hname hu' hname'
  · have hpart := Statement.before_or_mem_or_before h [word] [name, colons, method] later hs hu
      (Token.isContent_of_isWord huword)
    have hnamemethod : name.Before method := by
      have hpair := h.before.sublist (((by simp : [name, method].Sublist
        (word :: name :: colons :: method :: later))).trans hsub)
      simpa using hpair
    have hmethodstop := h.single method (hsub.subset (by simp))
    obtain ⟨hline, hleft, hright⟩ := Span.touches_iff.1 (hspan ▸ hname')
    obtain ⟨huline, huleft, huright⟩ := Span.touches_iff.1 hu'
    simp only [Span.endColumn, hmethodstop] at hline hleft hright huright
    rcases hpart with hbefore | hmem | hafter
    · -- a word right before the name would touch it
      have hwordsApart := h.words u hu name (hsub.subset (by simp)) huword hname
      have hbefore := hbefore name (by simp)
      simp only [Token.Before, Span.endColumn] at hbefore hwordsApart
      omega
    · rw [hwords]
      simp only [List.mem_cons, List.not_mem_nil, or_false] at hmem ⊢
      rcases hmem with rfl | rfl | rfl
      · exact .inl rfl
      · rw [huword] at hcolons
        cases hcolons
      · exact .inr rfl
    · -- and so would a word right after its last one
      have hwordsApart := h.words method (hsub.subset (by simp)) u hu hmethod huword
      have hafter := hafter method (by simp)
      simp only [Token.Before, Span.endColumn] at hafter hnamemethod hwordsApart
      omega

end RoutineAtlas
