import RoutineAtlas.Token.Lexeme

/-!
# How long lexemes are

Every kind of token measures for itself how many characters it takes, some of them looking up to
three characters ahead: a suffix, an exponent or a doubled quote counts only if what follows it
fits. Whatever a line holds, a lexeme takes at least one character and no more than are left.

Each measure is bounded by the characters it was given, and `fits_read` puts the bounds together.

## Main definitions

* `Lexeme.Fits` — the lexeme takes some of the given characters, and only these.
* `Lexeme.fits_read` — every lexeme that is read fits.
* `Lexeme.read_cases` — what a lexeme can be, by its kind.
-/

namespace RoutineAtlas.Lexeme

theorem next_eq_true {p : Char → Bool} {cs : Text} (h : next p cs = true) :
    ∃ c rest, cs = c :: rest ∧ p c = true := by
  cases cs with
  | nil => simp [next] at h
  | cons c rest => exact ⟨c, rest, rfl, h⟩

theorem run_le (p : Char → Bool) (cs : Text) : run p cs ≤ cs.length :=
  (List.takeWhile_prefix p).length_le

theorem run_pos {p : Char → Bool} {c : Char} (h : p c = true) (cs : Text) :
    0 < run p (c :: cs) := by
  simp [run, h]

theorem nameTail_le (cs : Text) : nameTail cs ≤ cs.length := by
  induction cs with
  | nil => exact Nat.le_refl 0
  | cons c cs ih =>
    rw [nameTail]
    split
    · exact Nat.succ_le_succ ih
    · exact Nat.zero_le _

/-! ## Numbers -/

theorem typeSuffix_le (cs : Text) : typeSuffix cs ≤ cs.length := by
  unfold typeSuffix
  dsimp only
  split
  · rename_i suffix hfind
    have hfits := List.find?_some hfind
    rw [Bool.and_eq_true, List.isPrefixOf_iff_prefix] at hfits
    simpa using hfits.1.length_le
  · exact Nat.zero_le _

theorem le_withSuffix (cs : Text) (digits : Nat) : digits ≤ withSuffix cs digits :=
  Nat.le_add_right _ _

theorem withSuffix_le {cs : Text} {digits : Nat} (h : digits ≤ cs.length) :
    withSuffix cs digits ≤ cs.length := by
  have hsuffix := typeSuffix_le (cs.drop digits)
  rw [List.length_drop] at hsuffix
  rw [withSuffix]
  omega

theorem two_le_of_hasBaseMarker {cs : Text} (h : hasBaseMarker cs = true) : 2 ≤ cs.length := by
  unfold hasBaseMarker at h
  split at h
  · simp
  · cases h

theorem fraction_le (cs : Text) : fraction cs ≤ cs.length := by
  unfold fraction
  split
  · rename_i rest
    have hdigits := run_le Char.isDigit rest
    rw [List.length_cons]
    split <;> omega
  · exact Nat.zero_le _

theorem isAlpha_eq_false_of_isDigit {c : Char} (h : c.isDigit = true) : c.isAlpha = false := by
  delta Char.isAlpha Char.isUpper Char.isLower
  delta Char.isDigit at h
  simp only [Bool.and_eq_true, decide_eq_true_eq, UInt32.le_iff_toNat_le, ge_iff_le,
    Bool.or_eq_false_iff, Bool.and_eq_false_iff, decide_eq_false_iff_not, Char.reduceVal,
    UInt32.reduceToNat] at h ⊢
  omega

/-- A point before a digit belongs to the number. -/
theorem fraction_pos {rest : Text} (h : next Char.isDigit rest = true) :
    0 < fraction ('.' :: rest) := by
  obtain ⟨d, after, rfl, hd⟩ := next_eq_true h
  simp [fraction, next, isAlpha_eq_false_of_isDigit hd]

/-- A character is only skipped where there is one. -/
theorem skip_le (p : Char → Bool) (cs : Text) : (if next p cs then 1 else 0) ≤ cs.length := by
  split
  · rename_i hnext
    obtain ⟨c, after, rfl, -⟩ := next_eq_true hnext
    simp
  · exact Nat.zero_le _

theorem exponent_le (cs : Text) : exponent cs ≤ cs.length := by
  unfold exponent
  split
  · exact Nat.zero_le _
  · rename_i marker rest
    dsimp only
    split
    · have hsign := skip_le (fun c => c == '+' || c == '-') rest
      generalize (if next (fun c => c == '+' || c == '-') rest then 1 else 0) = sign at *
      have hdigits := run_le Char.isDigit (rest.drop sign)
      rw [List.length_drop] at hdigits
      rw [List.length_cons]
      split
      · omega
      · split <;> omega
    · exact Nat.zero_le _

theorem number_le (cs : Text) : number cs ≤ cs.length := by
  unfold number
  split
  · rename_i hmarker
    have htwo := two_le_of_hasBaseMarker hmarker
    have hdigits := run_le isHexDigit (cs.drop 2)
    rw [List.length_drop] at hdigits
    exact withSuffix_le (by omega)
  · dsimp only
    apply withSuffix_le
    have hwhole := run_le Char.isDigit cs
    have hfraction := fraction_le (cs.drop (run Char.isDigit cs))
    have hexponent := exponent_le
      (cs.drop (run Char.isDigit cs + fraction (cs.drop (run Char.isDigit cs))))
    simp only [List.length_drop] at hfraction hexponent
    omega

/-- A number starts with a digit, or with a point before a digit, and takes it. -/
theorem number_pos {c : Char} {cs : Text}
    (h : (c.isDigit || (c == '.' && next Char.isDigit cs)) = true) : 0 < number (c :: cs) := by
  unfold number
  split
  · exact Nat.lt_of_lt_of_le (by omega) (le_withSuffix _ _)
  · refine Nat.lt_of_lt_of_le ?_ (le_withSuffix _ _)
    rw [Bool.or_eq_true, Bool.and_eq_true, beq_iff_eq] at h
    cases hdigit : c.isDigit with
    | true =>
      have hwhole := run_pos hdigit cs
      omega
    | false =>
      obtain ⟨rfl, hnext⟩ := h.resolve_left (by simp [hdigit])
      have hwhole : run Char.isDigit ('.' :: cs) = 0 := rfl
      have hfraction := fraction_pos hnext
      rw [hwhole, List.drop_zero]
      omega

/-! ## String literals and marks -/

theorem quotedTail_le {quote : Char} {cs : Text} {n : Nat} (h : quotedTail quote cs = some n) :
    n ≤ cs.length := by
  fun_induction quotedTail quote cs generalizing n with
  | case1 => cases h
  | case2 => simp_all
  | case3 c hc d ds hd ih =>
    obtain ⟨m, hm, rfl⟩ := Option.map_eq_some_iff.1 h
    have hrest := ih hm
    simp only [List.length_cons]
    omega
  | case4 => simp_all
  | case5 c cs hc ih =>
    obtain ⟨m, hm, rfl⟩ := Option.map_eq_some_iff.1 h
    exact Nat.succ_le_succ (ih hm)

/-- The lexeme takes at least the character it starts with, and at most all that follow. -/
structure Fits (l : Lexeme) (cs : Text) : Prop where
  pos : 0 < l.length
  le : l.length ≤ cs.length + 1

theorem fits_quoted (quote : Char) (cs : Text) : (quoted quote cs).Fits cs := by
  unfold quoted
  split
  · exact ⟨Nat.succ_pos _, Nat.le_refl _⟩
  · rename_i tail htail
    have hle := quotedTail_le htail
    split
    · exact ⟨Nat.succ_pos _, Nat.succ_le_succ hle⟩
    · rename_i marker rest hdrop
      have hrest : (cs.drop tail).length = rest.length + 1 := by rw [hdrop, List.length_cons]
      have hsuffix := typeSuffix_le rest
      rw [List.length_drop] at hrest
      split
      · constructor <;> dsimp only <;> omega
      · constructor <;> dsimp only <;> omega

theorem fits_lone (c : Char) (cs : Text) : (lone c).Fits cs :=
  ⟨Nat.one_pos, Nat.succ_le_succ (Nat.zero_le _)⟩

theorem fits_mark (c : Char) (cs : Text) : (mark c cs).Fits cs := by
  unfold mark
  split
  · exact fits_lone c []
  · rename_i d rest
    split
    · exact ⟨Nat.two_pos, by simp⟩
    · exact fits_lone c (d :: rest)

/-! ## All lexemes -/

/-- Reading at a character that is no blank always takes it, and never reads past the line. -/
theorem fits_read (leading : Bool) (c : Char) (cs : Text) : (read leading c cs).Fits cs := by
  unfold read
  split
  · exact ⟨Nat.succ_pos _, Nat.le_refl _⟩
  · split
    · exact ⟨Nat.one_pos, Nat.succ_le_succ (Nat.zero_le _)⟩
    · split
      · have hle : run isOctalDigit cs + 1 ≤ (c :: cs).length :=
          Nat.succ_le_succ (run_le isOctalDigit cs)
        exact ⟨Nat.lt_of_lt_of_le (Nat.succ_pos _) (le_withSuffix _ _), withSuffix_le hle⟩
      · split
        · exact fits_quoted c cs
        · split
          · exact ⟨Nat.succ_pos _, Nat.succ_le_succ (nameTail_le cs)⟩
          · split
            · rename_i hnumber
              exact ⟨number_pos hnumber, number_le (c :: cs)⟩
            · split
              · exact ⟨Nat.succ_pos _, Nat.succ_le_succ (nameTail_le cs)⟩
              · exact fits_mark c cs

/-! ## Kinds -/

/-- The kinds of lexemes that are neither comments nor marks. -/
def plainKinds : List TokenKind :=
  [.continuation, .number, .string, .systemVariable, .reserved, .identifier]

/-- The kinds of marks of one character. -/
def loneKinds : List TokenKind :=
  [.comma, .colon, .leftParen, .rightParen, .leftBracket, .rightBracket, .leftBrace, .rightBrace,
    .ampersand, .operator, .unknown]

theorem kind_quoted (quote : Char) (cs : Text) : (quoted quote cs).kind ∈ plainKinds := by
  unfold quoted
  split
  · simp [plainKinds]
  · split
    · simp [plainKinds]
    · split <;> simp [plainKinds]

/-- A lexeme is a comment, which begins with a semicolon, or a mark, or of a plain kind. -/
theorem read_cases (leading : Bool) (c : Char) (cs : Text) :
    (c = ';' ∧ read leading c cs = comment leading cs) ∨ read leading c cs = mark c cs ∨
      (read leading c cs).kind ∈ plainKinds := by
  unfold read
  split
  · rename_i heq
    exact .inl ⟨eq_of_beq heq, rfl⟩
  · refine .inr ?_
    split
    · exact .inr (by simp [lineContinuation, plainKinds])
    · split
      · exact .inr (by simp [plainKinds])
      · split
        · exact .inr (kind_quoted c cs)
        · split
          · exact .inr (by simp [plainKinds])
          · split
            · exact .inr (by simp [plainKinds])
            · split
              · refine .inr ?_
                unfold word
                dsimp only
                split <;> decide
              · exact .inl rfl

theorem kind_lone (c : Char) : (lone c).kind ∈ loneKinds := by
  unfold lone singleKind
  split
  iterate 9 decide
  split <;> decide

/-- A mark is one character, or two that make a kind together. -/
theorem mark_cases (c : Char) (cs : Text) : (mark c cs).kind ∈ loneKinds ∨
    ∃ d rest kind, cs = d :: rest ∧ pairKind c d = some kind ∧ mark c cs = ⟨kind, 2, none⟩ := by
  unfold mark
  split
  · exact .inl (kind_lone c)
  · rename_i d rest
    split
    · rename_i kind hpair
      exact .inr ⟨d, rest, kind, rfl, hpair, rfl⟩
    · exact .inl (kind_lone c)

theorem kind_comment (leading : Bool) (cs : Text) :
    (comment leading cs).kind ∈ [TokenKind.docOpen, .docClose, .comment] := by
  unfold comment
  dsimp only
  split
  · decide
  · split <;> decide

end RoutineAtlas.Lexeme
