import RoutineAtlas.Proofs.Separation

/-!
# Names as they are scanned

What has been scanned as a word is a name through and through, with dollar signs only inside. Such a
name scans to the same word again, wherever it is written and whatever stands behind it that does
not itself go on with a name.

## Main definitions

* `Text.isName` — the spelling of names.
* `Token.IsSpelled` — a token that is a name if it is a word.
* `tokensAt_name` — a name scans to its word.
-/

namespace RoutineAtlas

/-! ## Spelling -/

theorem isBlank_eq_false_of_extendsWord {c : Char} (h : extendsWord c = true) :
    isBlank c = false := by
  have hrange : 36 ≤ c.toNat ∧ c.toNat ≤ 122 := by
    simp only [extendsWord, isNameChar, Bool.or_eq_true, beq_iff_eq] at h
    rcases h with (h | rfl) | rfl
    · delta Char.isAlphanum Char.isAlpha Char.isUpper Char.isLower Char.isDigit at h
      simp only [Bool.or_eq_true, Bool.and_eq_true, decide_eq_true_eq, UInt32.le_iff_toNat_le,
        ge_iff_le, Char.reduceVal, UInt32.reduceToNat] at h
      change 36 ≤ c.val.toNat ∧ c.val.toNat ≤ 122
      omega
    · decide
    · decide
  simp only [isBlank, Bool.or_eq_false_iff, Bool.and_eq_false_iff, decide_eq_false_iff_not,
    beq_eq_false_iff_ne]
  omega

theorem extendsWord_of_isNameStart {c : Char} (h : isNameStart c = true) :
    extendsWord c = true := by
  rw [extendsWord, isNameChar_of_isNameStart h, Bool.true_or]

theorem isBlank_eq_false_of_isNameStart {c : Char} (h : isNameStart c = true) :
    isBlank c = false :=
  isBlank_eq_false_of_extendsWord (extendsWord_of_isNameStart h)

theorem ne_of_isNameStart {c x : Char} (h : isNameStart c = true) (hx : isNameStart x = false) :
    c ≠ x := by
  rintro rfl
  rw [h] at hx
  cases hx

theorem isDigit_eq_false_of_isNameStart {c : Char} (h : isNameStart c = true) :
    c.isDigit = false := by
  by_contra hdigit
  have halpha := Lexeme.isAlpha_eq_false_of_isDigit (Bool.not_eq_false _ ▸ hdigit)
  simp only [isNameStart, halpha, Bool.false_or, beq_iff_eq] at h
  rw [h] at hdigit
  exact hdigit rfl

/-- The text is a name: it starts as names do, and the name goes on to its end. -/
def Text.isName : Text → Bool
  | [] => false
  | c :: cs => isNameStart c && Lexeme.nameTail cs == cs.length

namespace Lexeme

theorem nameTail_cons {c : Char} {cs : Text}
    (h : isNameChar c = true ∨ c = '$' ∧ next isNameChar cs = true) :
    nameTail (c :: cs) = nameTail cs + 1 := by
  rw [nameTail, if_pos]
  simpa using h

theorem of_nameTail_cons {c : Char} {cs : Text} (h : nameTail (c :: cs) = cs.length + 1) :
    (isNameChar c = true ∨ c = '$' ∧ next isNameChar cs = true) ∧ nameTail cs = cs.length := by
  by_cases hc : isNameChar c = true ∨ c = '$' ∧ next isNameChar cs = true
  · rw [nameTail_cons hc, Nat.add_right_cancel_iff] at h
    exact ⟨hc, h⟩
  · rw [nameTail, if_neg (by simpa using hc)] at h
    cases h

theorem nameTail_pos {cs : Text} (h : next isNameChar cs = true) : 0 < nameTail cs := by
  obtain ⟨c, rest, rfl, hc⟩ := next_eq_true h
  rw [nameTail_cons (.inl hc)]
  exact Nat.succ_pos _

/-- What has been taken for the rest of a name is one by itself. -/
theorem nameTail_take (cs : Text) : nameTail (cs.take (nameTail cs)) = nameTail cs := by
  induction cs with
  | nil => rfl
  | cons c cs ih =>
    by_cases h : isNameChar c = true ∨ c = '$' ∧ next isNameChar cs = true
    · rw [nameTail_cons h, List.take_succ_cons, nameTail_cons, ih]
      refine h.imp_right fun hdollar => ⟨hdollar.1, ?_⟩
      -- the character that the dollar sign needs after it is taken as well
      obtain ⟨n, hn⟩ := Nat.exists_eq_succ_of_ne_zero (Nat.ne_of_gt (nameTail_pos hdollar.2))
      obtain ⟨d, rest, rfl, hd⟩ := next_eq_true hdollar.2
      rw [hn, List.take_succ_cons]
      exact hd
    · rw [nameTail, if_neg (by simpa using h)]
      rfl

/-- After a whole name, what is taken for a name goes on with what follows. -/
theorem nameTail_append {tail rest : Text} (h : nameTail tail = tail.length) :
    nameTail (tail ++ rest) = tail.length + nameTail rest := by
  induction tail with
  | nil => exact (Nat.zero_add _).symm
  | cons c tail ih =>
    obtain ⟨hc, htail⟩ := of_nameTail_cons h
    rw [List.cons_append, nameTail_cons, ih htail, List.length_cons, Nat.add_right_comm]
    refine hc.imp_right fun hdollar => ⟨hdollar.1, ?_⟩
    obtain ⟨d, more, rfl, hd⟩ := next_eq_true hdollar.2
    exact hd

theorem extendsWord_of_nameTail {cs : Text} (h : nameTail cs = cs.length) :
    ∀ c ∈ cs, extendsWord c = true := by
  induction cs with
  | nil => simp
  | cons c cs ih =>
    obtain ⟨hc, htail⟩ := of_nameTail_cons h
    refine List.forall_mem_cons.2 ⟨?_, ih htail⟩
    simpa [extendsWord] using hc.imp_right And.left

/-- What starts as names do is read as a word. -/
theorem read_of_isNameStart {c : Char} (h : isNameStart c = true) (leading : Bool) (cs : Text) :
    read leading c cs = word c cs := by
  have hne (x : Char) (hx : isNameStart x = false) : (c == x) = false :=
    beq_false_of_ne (ne_of_isNameStart h hx)
  simp [read, hne ';' rfl, hne '$' rfl, hne '"' rfl, hne '\'' rfl, hne '!' rfl, hne '.' rfl,
    isDigit_eq_false_of_isNameStart h, h]

end Lexeme

namespace Text

variable {name : Text}

theorem exists_of_isName (h : name.isName = true) : ∃ c cs, name = c :: cs ∧
    isNameStart c = true ∧ Lexeme.nameTail cs = cs.length := by
  cases name with
  | nil => cases h
  | cons c cs =>
    simp only [isName, Bool.and_eq_true, beq_iff_eq] at h
    exact ⟨c, cs, rfl, h⟩

theorem extendsWord_of_isName (h : name.isName = true) : ∀ c ∈ name, extendsWord c = true := by
  obtain ⟨c, cs, rfl, hc, htail⟩ := exists_of_isName h
  refine List.forall_mem_cons.2 ⟨?_, Lexeme.extendsWord_of_nameTail htail⟩
  exact extendsWord_of_isNameStart hc

end Text

/-- Words are spelled as names are, and whether a word is reserved shows in its spelling. -/
def Token.IsSpelled (t : Token) : Prop :=
  t.isWord = true → t.text.isName = true ∧ ∃ span, t = .ofName t.text span

theorem isSpelled_of_mem_tokensFrom {lines : List Text} {t : Token} (h : t ∈ tokensFrom 0 lines) :
    t.IsSpelled := by
  intro hword
  obtain ⟨n, line, -, ht⟩ := mem_tokensFrom.1 h
  obtain ⟨s, hs, rfl⟩ := List.mem_map.1 ht
  obtain ⟨before, c, after, -, hc, htoken⟩ := word_of_mem_scanFrom hs hword
  rw [htoken]
  refine ⟨?_, _, rfl⟩
  have hlength : (after.take (Lexeme.nameTail after)).length = Lexeme.nameTail after :=
    List.length_take_of_le (Lexeme.nameTail_le after)
  simp [Token.ofName, Token.single, Text.isName, hc, Lexeme.nameTail_take, hlength]

/-! ## Scanning -/

/-- The tokens of a line from `column` on. -/
def tokensAt (line column : Nat) (leading : Bool) (cs : Text) : List Token :=
  (scanFrom line column 0 leading cs).map (·.token)

section Scanning

variable (line column : Nat) (leading : Bool) {rest : Text}

theorem scanFrom_skip (skip : Nat) (cs : Text) : scanFrom line column skip leading cs =
    scanFrom line (column + skip) 0 leading (cs.drop skip) := by
  induction cs generalizing column skip with
  | nil => simp [scanFrom]
  | cons c cs ih =>
    cases skip with
    | zero => rfl
    | succ skip =>
      rw [scanFrom, ih, List.drop_succ_cons, Nat.add_assoc, Nat.add_comm 1]

/-- A lexeme is a token, and the line is scanned from its end on. -/
theorem tokensAt_lexeme {c : Char} {cs : Text} {l : Lexeme} (hblank : isBlank c = false)
    (hread : Lexeme.read leading c (cs ++ rest) = l) (hlength : l.length = cs.length + 1) :
    tokensAt line column leading (c :: cs ++ rest) =
      .single l.kind (c :: cs) ⟨line, column, cs.length + 1⟩ ::
        tokensAt line (column + (cs.length + 1)) false rest := by
  have htake : (c :: (cs ++ rest)).take (cs.length + 1) = c :: cs := by
    rw [List.take_succ_cons, List.take_left]
  have hskip : scanFrom line (column + 1) (cs.length + 1 - 1) false (cs ++ rest) =
      scanFrom line (column + (cs.length + 1)) 0 false rest := by
    rw [Nat.add_sub_cancel, scanFrom_skip, List.drop_left, Nat.add_assoc, Nat.add_comm 1]
  simp only [tokensAt, List.cons_append, scanFrom, hblank, hread, hlength, htake, hskip]
  rfl

theorem tokensAt_name {name : Text} (h : name.isName = true)
    (hrest : Lexeme.nameTail rest = 0) :
    tokensAt line column leading (name ++ rest) =
      .ofName name ⟨line, column, name.length⟩ ::
        tokensAt line (column + name.length) false rest := by
  obtain ⟨c, cs, rfl, hc, htail⟩ := Text.exists_of_isName h
  have hword : Lexeme.read leading c (cs ++ rest) =
      ⟨if isReservedWord (c :: cs) then .reserved else .identifier, cs.length + 1, none⟩ := by
    rw [Lexeme.read_of_isNameStart hc, Lexeme.word, Lexeme.nameTail_append htail, hrest,
      Nat.add_zero, List.take_left]
  exact tokensAt_lexeme line column leading (isBlank_eq_false_of_isNameStart hc) hword rfl

end Scanning

end RoutineAtlas
