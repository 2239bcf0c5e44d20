import RoutineAtlas.Proofs.Lookahead

/-!
# String literals

Any text can be written as a string literal: between two quotes, with every quote within it doubled.
Quotes are taken two at a time, so a run of them at either end of the text meets the quote that
opens or closes the literal. What decides is that the doubled text is taken as a whole, whatever
stands after it (`Lexeme.quotedTail_doubled_append`). Thus the quote after it closes the literal,
and without that quote the literal has no end.

A double quote before an octal digit opens a number instead.

## Main definitions

* `Text.doubled` — a text as it is written between quotes.
* `Text.FollowsQuote` — a text before which a quote opens a literal.
* `TokenStream.literals_round_trip` — the tokens of a literal, with and without its closing quote.
-/

namespace RoutineAtlas

namespace Text

/-- The text with every `quote` written twice. -/
def doubled (quote : Char) (t : Text) : Text :=
  t.flatMap fun c => if c = quote then [quote, quote] else [c]

/-- The quote opens a literal when the text follows it. A double quote and an octal digit start a
number. -/
def FollowsQuote (quote : Char) (t : Text) : Prop :=
  quote = '\'' ∨ quote = '"' ∧ Lexeme.next Lexeme.isOctalDigit t = false

instance (quote : Char) (t : Text) : Decidable (FollowsQuote quote t) :=
  inferInstanceAs (Decidable (_ ∨ _))

variable {quote c : Char} {t : Text}

@[simp] theorem doubled_nil : doubled quote [] = [] := rfl

theorem doubled_cons_self : doubled quote (quote :: t) = quote :: quote :: doubled quote t := by
  simp [doubled]

theorem doubled_cons_of_ne (h : c ≠ quote) : doubled quote (c :: t) = c :: doubled quote t := by
  simp [doubled, h]

/-- Doubling leaves the first character where it is. -/
theorem exists_doubled_cons (quote c : Char) (t : Text) :
    ∃ rest, doubled quote (c :: t) = c :: rest := by
  by_cases h : c = quote
  · subst h
    exact ⟨_, doubled_cons_self⟩
  · exact ⟨_, doubled_cons_of_ne h⟩

theorem FollowsQuote.isBlank_eq_false (h : FollowsQuote quote t) : isBlank quote = false := by
  rcases h with rfl | ⟨rfl, -⟩ <;> decide

/-- Where a text can follow a quote, so can its doubled form, with or without another quote. -/
theorem FollowsQuote.doubled_append (h : FollowsQuote quote t) {more : Text}
    (hmore : more ⊆ [quote]) : FollowsQuote quote (doubled quote t ++ more) := by
  refine h.imp id fun hdouble => ⟨hdouble.1, ?_⟩
  obtain ⟨rfl, hnext⟩ := hdouble
  cases t with
  | nil =>
    cases more with
    | nil => rfl
    | cons d more =>
      obtain rfl : d = '"' := by simpa using hmore (List.mem_cons_self ..)
      rfl
  | cons c t =>
    obtain ⟨rest, hrest⟩ := exists_doubled_cons '"' c t
    rw [hrest]
    exact hnext

end Text

/-! ## Lexemes -/

namespace Lexeme

open Text (doubled FollowsQuote)

variable {quote : Char} {cs : Text}

/-- A doubled text is taken as a whole: none of its quotes closes the literal. -/
theorem quotedTail_doubled_append (quote : Char) (t rest : Text) :
    quotedTail quote (doubled quote t ++ rest) =
      (quotedTail quote rest).map (· + (doubled quote t).length) := by
  induction t with
  | nil => simp
  | cons c t ih =>
    by_cases hc : c = quote
    · subst hc
      rw [Text.doubled_cons_self, List.cons_append, List.cons_append, quotedTail_of_eq, if_pos rfl,
        ih, Option.map_map]
      rfl
    · rw [Text.doubled_cons_of_ne hc, List.cons_append, quotedTail_of_ne hc, ih, Option.map_map]
      rfl

theorem quoted_of_closed (h : quotedTail quote cs = some cs.length) :
    quoted quote cs = ⟨.string, cs.length + 1, none⟩ := by
  rw [quoted, h]
  simp only [List.drop_length]

theorem quoted_of_open (h : quotedTail quote cs = none) :
    quoted quote cs = ⟨.string, cs.length + 1, some .unterminatedString⟩ := by
  rw [quoted, h]

theorem quoted_doubled_closed (quote : Char) (t : Text) :
    quoted quote (doubled quote t ++ [quote]) =
      ⟨.string, (doubled quote t ++ [quote]).length + 1, none⟩ := by
  apply quoted_of_closed
  have hclose : quotedTail quote [quote] = some 1 := by simp [quotedTail]
  rw [quotedTail_doubled_append, hclose, List.length_append, Nat.add_comm]
  rfl

theorem quoted_doubled_open (quote : Char) (t : Text) :
    quoted quote (doubled quote t) =
      ⟨.string, (doubled quote t).length + 1, some .unterminatedString⟩ := by
  apply quoted_of_open
  have hopen := quotedTail_doubled_append quote t []
  rwa [List.append_nil] at hopen

theorem read_quote (h : FollowsQuote quote cs) (leading : Bool) :
    read leading quote cs = quoted quote cs := by
  rcases h with rfl | ⟨rfl, hnext⟩
  · rfl
  · simp [read, hnext]

end Lexeme

/-! ## Lines -/

variable {quote : Char} {cs : Text} {l : Lexeme}

/-- A lexeme that takes all the line is its only token. -/
theorem scanLine_of_whole (line : Nat) (hquote : isBlank quote = false)
    (hread : Lexeme.read true quote cs = l) (hl : l.length = cs.length + 1) :
    scanLine line (quote :: cs) =
      [⟨.single l.kind (quote :: cs) ⟨line, 0, cs.length + 1⟩, l.fault⟩] := by
  rw [scanLine, scanFrom_lexeme line 0 hquote hread, hl, Nat.add_sub_cancel, List.drop_length,
    scanFrom, List.take_of_length_le (by simp)]

/-- The token stream of one line with a string literal in it and nothing else. -/
theorem TokenStream.ofLines_of_quoted {fault : Option ProblemCode}
    (hquote : Text.FollowsQuote quote cs)
    (hquoted : Lexeme.quoted quote cs = ⟨.string, cs.length + 1, fault⟩) :
    let span : Span := ⟨0, 0, (quote :: cs).length⟩
    let token := Token.single .string (quote :: cs) span
    ofLines [quote :: cs] = ⟨[token], (ScannedToken.problem? ⟨token, fault⟩).toList⟩ := by
  intro span token
  have hread := (Lexeme.read_quote hquote true).trans hquoted
  have hscanned : scanLinesFrom 0 [quote :: cs] = [⟨token, fault⟩] := by
    rw [scanLinesFrom, scanLinesFrom, scanLine_of_whole 0 hquote.isBlank_eq_false hread rfl]
    rfl
  have hdangling : dangling? [token] = none := rfl
  rw [ofLines, hscanned]
  simp only [List.map_cons, List.map_nil, hdangling, Option.map_none, Option.toList_none,
    List.append_nil, List.filterMap_cons, List.filterMap_nil]
  cases ScannedToken.problem? ⟨token, fault⟩ <;> rfl

/-- Every text, with its quotes doubled and between two quotes, is one string literal. Without its
closing quote it is one still, and all that is reported is that it has no end. -/
theorem TokenStream.literals_round_trip (quote : Char) (t : Text) (hquote : t.FollowsQuote quote) :
    let cut := quote :: t.doubled quote
    let whole := cut ++ [quote]
    ofLines [whole] = ⟨[.single .string whole ⟨0, 0, whole.length⟩], []⟩ ∧
      ofLines [cut] = ⟨[.single .string cut ⟨0, 0, cut.length⟩],
        [.plain .unterminatedString ⟨0, 0, cut.length⟩]⟩ := by
  intro cut whole
  constructor
  · exact ofLines_of_quoted (hquote.doubled_append (List.Subset.refl _))
      (Lexeme.quoted_doubled_closed quote t)
  · have hopens := hquote.doubled_append (List.nil_subset [quote])
    rw [List.append_nil] at hopens
    exact ofLines_of_quoted hopens (Lexeme.quoted_doubled_open quote t)

/-- A text with a quote at either end, and an octal digit between the two. -/
theorem TokenStream.literals_round_trip_quotes :
    let t : Text := "\"0\"".toList
    let cut := "\"\"\"0\"\"".toList
    let whole := "\"\"\"0\"\"\"".toList
    t.FollowsQuote '"' ∧ ofLines [whole] = ⟨[.single .string whole ⟨0, 0, 7⟩], []⟩ ∧
      ofLines [cut] = ⟨[.single .string cut ⟨0, 0, 6⟩], [.plain .unterminatedString ⟨0, 0, 6⟩]⟩ :=
  have hquote : Text.FollowsQuote '"' "\"0\"".toList := by decide
  ⟨hquote, literals_round_trip '"' "\"0\"".toList hquote⟩

end RoutineAtlas
