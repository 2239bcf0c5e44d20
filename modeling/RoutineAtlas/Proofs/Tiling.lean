import RoutineAtlas.Proofs.Lexeme
import RoutineAtlas.Token.Scan

/-!
# Tokens tile the source

Scanning keeps every character. The tokens of a line stand side by side in the order of the line,
each with the very characters it covers, and what lies between them is blank. Since scanning is a
total function, this holds of every text: what makes no sense becomes a token of its own.

`Cut` says so for one line, along the recursion of the scanner. What a file needs of it is read off
from there: `Token.StandsIn` for a single token, `Token.Before` for two of them.

## Main definitions

* `Cut` — characters cut into tokens with blanks between them.
* `Token.StandsIn` — a token covers the characters of its text.
* `Token.Before` — a token ends before another one starts.
* `Tiles` — the tokens of a file cover its lines but for blanks.
-/

namespace RoutineAtlas

theorem Cursor.lt_iff {a b : Cursor} : a.lt b = true ↔
    a.line < b.line ∨ (a.line = b.line ∧ a.character < b.character) := by
  simp [lt]

theorem Cursor.le_iff {a b : Cursor} : a.le b = true ↔
    a.line < b.line ∨ (a.line = b.line ∧ a.character ≤ b.character) := by
  simp [le]

/-- The character of line `line` before which `column` others stand is one of the span's. -/
def Span.Covers (s : Span) (line column : Nat) : Prop :=
  s.line = line ∧ s.column ≤ column ∧ column < s.endColumn

/-! ## One line -/

/-- The characters of line number `line` from `column` on are cut into tokens, with blanks between
them. -/
inductive Cut (line : Nat) : Nat → Text → List Token → Prop
  | done (column : Nat) : Cut line column [] []
  | blank {column : Nat} {c : Char} {cs : Text} {ts : List Token} (hc : isBlank c = true)
      (rest : Cut line (column + 1) cs ts) : Cut line column (c :: cs) ts
  | token {column : Nat} {word cs : Text} {ts : List Token} (kind : TokenKind) (hword : word ≠ [])
      (rest : Cut line (column + word.length) cs ts) :
      Cut line column (word ++ cs) (.single kind word ⟨line, column, word.length⟩ :: ts)

/-- A scan cuts what it has not skipped. The characters that it skips belong to the token read last,
which has room for them in the line. -/
theorem cut_scanFrom (line column skip : Nat) (leading : Bool) {cs : Text}
    (h : skip ≤ cs.length) :
    Cut line (column + skip) (cs.drop skip)
      ((scanFrom line column skip leading cs).map (·.token)) := by
  fun_induction scanFrom line column skip leading cs with
  | case1 column skip leading =>
    rw [List.drop_nil]
    exact .done _
  | case2 column leading skip c cs ih =>
    have hrest := ih (Nat.le_of_succ_le_succ h)
    rwa [Nat.add_right_comm] at hrest
  | case3 column leading c cs hblank ih => exact .blank hblank (ih (Nat.zero_le _))
  | case4 column leading c cs hblank lexeme token ih =>
    have hpos : 0 < lexeme.length := (Lexeme.fits_read leading c cs).pos
    have hle : lexeme.length ≤ cs.length + 1 := (Lexeme.fits_read leading c cs).le
    have hlength : ((c :: cs).take lexeme.length).length = lexeme.length := by
      rw [List.length_take, List.length_cons]
      exact Nat.min_eq_left hle
    have hrest : Cut line (column + ((c :: cs).take lexeme.length).length)
        ((c :: cs).drop lexeme.length)
        ((scanFrom line (column + 1) (lexeme.length - 1) false cs).map (·.token)) := by
      obtain ⟨n, hn⟩ : ∃ n, lexeme.length = n + 1 := Nat.exists_eq_succ_of_ne_zero (by omega)
      have htail := ih (show lexeme.length - 1 ≤ cs.length from by omega)
      rw [hlength, hn, List.drop_succ_cons]
      rwa [hn, Nat.add_sub_cancel, Nat.add_assoc, Nat.add_comm 1 n] at htail
    have hword : (c :: cs).take lexeme.length ≠ [] := by
      intro hnil
      rw [hnil, List.length_nil] at hlength
      omega
    have hcut := Cut.token lexeme.kind hword hrest
    rw [List.take_append_drop, hlength] at hcut
    exact hcut

/-- The token covers characters of line number `line`, of which `cs` are those from `column` on,
and these are its text. -/
structure Token.StandsIn (t : Token) (line column : Nat) (cs : Text) : Prop where
  single : t.stop = t.start
  line : t.start.line = line
  nonempty : 0 < t.start.length
  starts : column ≤ t.start.column
  ends : t.start.endColumn ≤ column + cs.length
  text : t.text = (cs.drop (t.start.column - column)).take t.start.length

/-- The first token ends where the second one starts, or earlier. -/
def Token.Before (t u : Token) : Prop :=
  t.start.line < u.start.line ∨
    (t.start.line = u.start.line ∧ t.start.endColumn ≤ u.start.column)

/-- A token that stands further to the right stands among more characters. -/
theorem Token.StandsIn.append {t : Token} {line column : Nat} {cs : Text} (word : Text)
    (h : t.StandsIn line (column + word.length) cs) : t.StandsIn line column (word ++ cs) where
  single := h.single
  line := h.line
  nonempty := h.nonempty
  starts := Nat.le_of_add_right_le h.starts
  ends := by
    have hends := h.ends
    rw [List.length_append]
    omega
  text := by
    have hstarts := h.starts
    have hsplit : t.start.column - column =
        word.length + (t.start.column - (column + word.length)) := by omega
    rw [hsplit, List.drop_append, List.drop_eq_nil_of_le (by omega), List.nil_append,
      Nat.add_sub_cancel_left]
    exact h.text

namespace Cut

variable {line column : Nat} {cs : Text} {ts : List Token}

theorem standsIn (h : Cut line column cs ts) : ∀ t ∈ ts, t.StandsIn line column cs := by
  induction h with
  | done column => simp
  | blank hc rest ih =>
    intro t ht
    exact (ih t ht).append [_]
  | @token column word cs ts kind hword rest ih =>
    refine List.forall_mem_cons.2 ⟨?_, fun t ht => (ih t ht).append word⟩
    have htext : word = ((word ++ cs).drop (column - column)).take word.length := by simp
    exact ⟨rfl, rfl, List.length_pos_iff.2 hword, Nat.le_refl _,
      by simp [Token.single, Span.endColumn], htext⟩

theorem pairwise_before (h : Cut line column cs ts) : ts.Pairwise Token.Before := by
  induction h with
  | done column => exact .nil
  | blank hc rest ih => exact ih
  | token kind hword rest ih =>
    refine List.pairwise_cons.2 ⟨?_, ih⟩
    intro u hu
    have hu := rest.standsIn u hu
    exact .inr ⟨hu.line.symm, hu.starts⟩

/-- A character that no token covers is blank. -/
theorem isBlank_of_not_covers (h : Cut line column cs ts) {j : Nat} {c : Char}
    (hc : cs[j]? = some c) (hnone : ∀ t ∈ ts, ¬t.start.Covers line (column + j)) :
    isBlank c = true := by
  induction h generalizing j with
  | done column => simp at hc
  | @blank column d cs ts hd rest ih =>
    cases j with
    | zero =>
      obtain rfl : d = c := by simpa using hc
      exact hd
    | succ j =>
      apply ih (by simpa using hc)
      rwa [Nat.add_assoc, Nat.add_comm 1 j]
  | @token column word cs ts kind hword rest ih =>
    obtain ⟨hfirst, hrest⟩ := List.forall_mem_cons.1 hnone
    -- the first token covers its word, so the character stands after that
    have hafter : word.length ≤ j := by
      by_cases hj : j < word.length
      · exact absurd ⟨rfl, Nat.le_add_right _ _, Nat.add_lt_add_left hj column⟩ hfirst
      · omega
    obtain ⟨k, rfl⟩ := Nat.exists_eq_add_of_le hafter
    apply ih (j := k)
    · rwa [List.getElem?_append_right hafter, Nat.add_sub_cancel_left] at hc
    · rwa [Nat.add_assoc]

end Cut

/-! ## A file -/

/-- The tokens of line number `n`. -/
def lineTokens (n : Nat) (line : Text) : List Token :=
  (scanLine n line).map (·.token)

/-- The tokens of lines that are numbered from `first` on. -/
def tokensFrom (first : Nat) (lines : List Text) : List Token :=
  (scanLinesFrom first lines).map (·.token)

theorem tokens_ofLines (lines : List Text) :
    (TokenStream.ofLines lines).tokens = tokensFrom 0 lines :=
  rfl

@[simp] theorem tokensFrom_nil (first : Nat) : tokensFrom first [] = [] :=
  rfl

theorem tokensFrom_cons (first : Nat) (line : Text) (rest : List Text) :
    tokensFrom first (line :: rest) = lineTokens first line ++ tokensFrom (first + 1) rest :=
  List.map_append

theorem cut_lineTokens (n : Nat) (line : Text) : Cut n 0 line (lineTokens n line) :=
  cut_scanFrom n 0 0 true (Nat.zero_le _)

theorem standsIn_of_mem_lineTokens {n : Nat} {line : Text} {t : Token}
    (h : t ∈ lineTokens n line) : t.StandsIn n 0 line :=
  (cut_lineTokens n line).standsIn t h

theorem mem_tokensFrom {first : Nat} {lines : List Text} {t : Token} :
    t ∈ tokensFrom first lines ↔
      ∃ i line, lines[i]? = some line ∧ t ∈ lineTokens (first + i) line := by
  induction lines generalizing first with
  | nil => simp
  | cons l rest ih =>
    rw [tokensFrom_cons, List.mem_append, ih]
    constructor
    · rintro (hl | ⟨i, line, hline, ht⟩)
      · exact ⟨0, l, rfl, hl⟩
      · refine ⟨i + 1, line, hline, ?_⟩
        rwa [Nat.add_assoc, Nat.add_comm 1 i] at ht
    · rintro ⟨i, line, hline, ht⟩
      cases i with
      | zero =>
        obtain rfl : l = line := by simpa using hline
        exact .inl ht
      | succ i =>
        refine .inr ⟨i, line, by simpa using hline, ?_⟩
        rwa [Nat.add_assoc, Nat.add_comm 1 i]

theorem pairwise_before_tokensFrom (first : Nat) (lines : List Text) :
    (tokensFrom first lines).Pairwise Token.Before := by
  induction lines generalizing first with
  | nil => exact .nil
  | cons l rest ih =>
    rw [tokensFrom_cons, List.pairwise_append]
    refine ⟨(cut_lineTokens first l).pairwise_before, ih (first + 1), ?_⟩
    intro t ht u hu
    obtain ⟨i, line, -, hu⟩ := mem_tokensFrom.1 hu
    left
    rw [(standsIn_of_mem_lineTokens ht).line, (standsIn_of_mem_lineTokens hu).line]
    omega

/-- A token of a file stands in the line that its span names. -/
theorem standsIn_of_mem_tokensFrom {lines : List Text} {t : Token} (h : t ∈ tokensFrom 0 lines) :
    ∃ line, lines[t.start.line]? = some line ∧ t.StandsIn t.start.line 0 line := by
  obtain ⟨n, line, hline, ht⟩ := mem_tokensFrom.1 h
  rw [Nat.zero_add] at ht
  have hstands := standsIn_of_mem_lineTokens ht
  rw [← hstands.line] at hline hstands
  exact ⟨line, hline, hstands⟩

/-- A character that no token covers is blank. -/
theorem isBlank_of_not_covers_tokensFrom {lines : List Text} {n column : Nat} {cs : Text}
    {c : Char} (hline : lines[n]? = some cs) (hc : cs[column]? = some c)
    (h : ∀ t ∈ tokensFrom 0 lines, ¬t.start.Covers n column) : isBlank c = true := by
  refine (cut_lineTokens n cs).isBlank_of_not_covers hc fun t ht => ?_
  rw [Nat.zero_add]
  exact h t (mem_tokensFrom.2 ⟨n, cs, hline, by rwa [Nat.zero_add]⟩)

/-- A token that comes before another one starts before it, and shares no character with it. -/
theorem Token.Before.lt {t u : Token} (h : t.Before u) (ht : 0 < t.start.length) :
    t.start.startCursor.lt u.start.startCursor = true := by
  rw [Cursor.lt_iff]
  rcases h with hline | ⟨hline, hcolumn⟩
  · exact .inl hline
  · refine .inr ⟨hline, ?_⟩
    simp only [Span.startCursor, Span.endColumn] at hcolumn ⊢
    omega

theorem Token.Before.not_covers {t u : Token} (h : t.Before u) {line column : Nat}
    (ht : t.start.Covers line column) : ¬u.start.Covers line column := by
  rintro ⟨hline, hcolumn, -⟩
  obtain ⟨hline', -, hcolumn'⟩ := ht
  rcases h with hbefore | ⟨-, hbefore⟩ <;> omega

/-- The tokens cover the lines, each character at most once, and leave out nothing but blanks. -/
structure Tiles (tokens : List Token) (lines : List Text) : Prop where
  /-- Tokens come in the order in which they start, -/
  increasing : tokens.Pairwise fun t u => t.start.startCursor.lt u.start.startCursor = true
  /-- and no two of them share a character. -/
  disjoint : tokens.Pairwise fun t u =>
    ∀ line column, t.start.Covers line column → ¬u.start.Covers line column
  nonempty : ∀ t ∈ tokens, 1 ≤ t.start.length
  single : ∀ t ∈ tokens, t.start = t.stop
  /-- A token lies within its line, and its text is what stands there. -/
  within : ∀ t ∈ tokens, ∃ line, lines[t.start.line]? = some line ∧
    t.start.column + t.start.length ≤ line.length ∧
    t.text = (line.drop t.start.column).take t.start.length
  /-- A character that no token covers is blank. -/
  blank : ∀ n cs, lines[n]? = some cs → ∀ column c, cs[column]? = some c →
    (∀ t ∈ tokens, ¬t.start.Covers n column) → isBlank c = true

/-- Scanning tiles every list of lines, whatever they hold. -/
theorem TokenStream.tiles_ofLines (lines : List Text) : Tiles (ofLines lines).tokens lines := by
  rw [tokens_ofLines]
  have hbefore := pairwise_before_tokensFrom 0 lines
  have hstands : ∀ t ∈ tokensFrom 0 lines, ∃ line, lines[t.start.line]? = some line ∧
      t.StandsIn t.start.line 0 line :=
    fun t ht => standsIn_of_mem_tokensFrom ht
  refine ⟨?_, hbefore.imp fun h _ _ => h.not_covers, ?_, ?_, ?_, ?_⟩
  · refine hbefore.imp_of_mem fun ht _ h => h.lt ?_
    obtain ⟨line, -, ht⟩ := hstands _ ht
    exact ht.nonempty
  · intro t ht
    obtain ⟨line, -, ht⟩ := hstands t ht
    exact ht.nonempty
  · intro t ht
    obtain ⟨line, -, ht⟩ := hstands t ht
    exact ht.single.symm
  · intro t ht
    obtain ⟨line, hline, ht⟩ := hstands t ht
    refine ⟨line, hline, ?_, ht.text⟩
    simpa [Span.endColumn] using ht.ends
  · intro n cs hline column c hc hnone
    exact isBlank_of_not_covers_tokensFrom hline hc hnone

end RoutineAtlas
