import Mathlib.Tactic.SplitIfs
import RoutineAtlas.Proofs.LetterCase.Token
import RoutineAtlas.Proofs.Names

/-!
# What stands before a member's name

A lexeme is measured by looking ahead, so what follows it can make it longer: a suffix, an exponent
or the base marker of a literal starts like a word. But the name of a member comes after `->` or
`.`, and no lexeme goes on beyond these. There is one exception: a point right after digits may be
part of a number, as in `1.`, and whether it is depends on the letter that follows. Between the mark
and the name there are only signs, and a sign does not depend on the word after it at all. So if one
name of a member is put in the place of another, the tokens before it stay as they are.

## Main definitions

* `Lexeme.partsPoint` — a point before these characters does not belong to a number.
* `Lexeme.Interchangeable` — some lexemes that end before one text are the same before another.
* `Reaches` — a token of the line starts there, and those before it are of the given kinds.
* `scanFrom_before` — which of two interchangeable texts follows some tokens makes no difference.
-/

namespace RoutineAtlas

namespace Lexeme

/-- The characters begin with a letter that no exponent begins with. A point before them does not
belong to a number. -/
def partsPoint (cs : Text) : Bool :=
  next (fun c => c.isAlpha && !"ed".toList.contains c.toLower) cs

/-- The lexemes of the given kinds that end before `v` are read in the same way before `v'`. -/
def Interchangeable (kinds : TokenKind → Bool) (v v' : Text) : Prop :=
  ∀ {leading : Bool} {c : Char} {cs : Text}, (read leading c (cs ++ v)).length ≤ cs.length + 1 →
    kinds (read leading c (cs ++ v)).kind = true →
    read leading c (cs ++ v') = read leading c (cs ++ v)

variable {p : Char → Bool} {cs : Text}

/-! ## Type suffixes -/

theorem next_dropWhile (p : Char → Bool) (cs : Text) : next p (cs.dropWhile p) = false := by
  induction cs with
  | nil => rfl
  | cons c cs ih =>
    rw [List.dropWhile_cons]
    split
    · exact ih
    · rename_i hc
      exact Bool.eq_false_iff.2 hc

/-- A suffix fits exactly if it is all of the word at the front. -/
theorem fits_iff {suffix : Text} (hsuffix : suffix ∈ typeSuffixes) :
    (suffix.isPrefixOf cs.lower && !next extendsWord (cs.drop suffix.length)) = true ↔
      suffix = Text.lower (cs.takeWhile extendsWord) := by
  have hall : typeSuffixes.all (fun suffix => suffix.all extendsWord) = true := by decide
  have hletters : ∀ c ∈ suffix, extendsWord c = true :=
    List.all_eq_true.1 (List.all_eq_true.1 hall suffix hsuffix)
  rw [Bool.and_eq_true, List.isPrefixOf_iff_prefix, Bool.not_eq_true',
    ← Text.takeWhile_lower caseBlind_extendsWord]
  constructor
  · rintro ⟨⟨rest, hrest⟩, hnext⟩
    rw [← next_lower caseBlind_extendsWord, ← Text.drop_lower, ← hrest, List.drop_left] at hnext
    have hnone : rest.takeWhile extendsWord = [] := by
      cases rest with
      | nil => rfl
      | cons c rest =>
        have hc : extendsWord c = false := hnext
        rw [List.takeWhile_cons, if_neg (by simp [hc])]
    rw [← hrest, List.takeWhile_append_of_pos hletters, hnone, List.append_nil]
  · rintro rfl
    refine ⟨List.takeWhile_prefix _, ?_⟩
    have hdrop : (cs.takeWhile extendsWord ++ cs.dropWhile extendsWord).drop
        (cs.takeWhile extendsWord).length = cs.dropWhile extendsWord := List.drop_left
    rw [List.takeWhile_append_dropWhile] at hdrop
    rw [Text.takeWhile_lower caseBlind_extendsWord, Text.length_lower, hdrop, next_dropWhile]

/-- A type suffix is a whole word, and one of those listed. -/
theorem typeSuffix_eq (cs : Text) : typeSuffix cs =
    if typeSuffixes.contains (Text.lower (cs.takeWhile extendsWord)) then
      (cs.takeWhile extendsWord).length else 0 := by
  unfold typeSuffix
  dsimp only
  split
  · rename_i suffix hfind
    have hmem := List.mem_of_find?_eq_some hfind
    have hfits := List.find?_some hfind
    obtain rfl := (fits_iff hmem).1 hfits
    rw [if_pos (List.contains_iff_mem.2 hmem), Text.length_lower]
  · rename_i hnone
    refine (if_neg fun hmem => ?_).symm
    have hmem := List.contains_iff_mem.1 hmem
    exact List.find?_eq_none.1 hnone _ hmem ((fits_iff hmem).2 rfl)

/-! ## What ends every word -/

section

variable {c : Char}

theorem extendsWord_of_isDigit (h : c.isDigit = true) : extendsWord c = true := by
  simp [extendsWord, isNameChar, Char.isAlphanum, h]

theorem extendsWord_of_toLower {letters : List Char} (hletters : letters.all extendsWord = true)
    (h : letters.contains c.toLower = true) : extendsWord c = true := by
  rw [← caseBlind_extendsWord c]
  exact List.all_eq_true.1 hletters _ (List.contains_iff_mem.1 h)

theorem isDigit_of_isOctalDigit (h : isOctalDigit c = true) : c.isDigit = true := by
  delta Char.isDigit
  simp only [isOctalDigit, Bool.and_eq_true, decide_eq_true_eq, Char.le_def,
    UInt32.le_iff_toNat_le, ge_iff_le, Char.reduceVal, UInt32.reduceToNat] at h ⊢
  omega

theorem extendsWord_of_isHexDigit (h : isHexDigit c = true) : extendsWord c = true := by
  rw [isHexDigit, Bool.or_eq_true] at h
  rcases h with hdigit | hletter
  · exact extendsWord_of_isDigit hdigit
  · have halpha : c.toLower.isAlpha = true := by
      delta Char.isAlpha Char.isUpper Char.isLower
      simp only [Bool.and_eq_true, Bool.or_eq_true, decide_eq_true_eq, Char.le_def,
        UInt32.le_iff_toNat_le, ge_iff_le, Char.reduceVal, UInt32.reduceToNat] at hletter ⊢
      omega
    rw [caseBlind_isAlpha] at halpha
    simp [extendsWord, isNameChar, Char.isAlphanum, halpha]

variable (hx : extendsWord c = false)
include hx

/-- Nothing that can only stand within a word is met in a character that ends it. -/
theorem eq_false_of_extendsWord {p : Char → Bool} (hp : p c = true → extendsWord c = true) :
    p c = false := by
  by_contra h
  rw [hp (Bool.not_eq_false _ ▸ h)] at hx
  cases hx

theorem isDigit_eq_false : c.isDigit = false :=
  eq_false_of_extendsWord hx extendsWord_of_isDigit

theorem isOctalDigit_eq_false : isOctalDigit c = false :=
  eq_false_of_extendsWord hx fun h => extendsWord_of_isDigit (isDigit_of_isOctalDigit h)

theorem isHexDigit_eq_false : isHexDigit c = false :=
  eq_false_of_extendsWord hx extendsWord_of_isHexDigit

theorem isNameChar_eq_false : isNameChar c = false :=
  eq_false_of_extendsWord hx fun h => by rw [extendsWord, h, Bool.true_or]

theorem isNameStart_eq_false : isNameStart c = false :=
  eq_false_of_extendsWord hx extendsWord_of_isNameStart

theorem not_contains_toLower {letters : List Char} (hletters : letters.all extendsWord = true) :
    letters.contains c.toLower = false :=
  eq_false_of_extendsWord (p := fun c => letters.contains c.toLower) hx
    (extendsWord_of_toLower hletters)

theorem ne_of_extendsWord {d : Char} (hd : extendsWord d = true) : c ≠ d := by
  rintro rfl
  rw [hx] at hd
  cases hd

end

/-! ## Before a mark -/

theorem trimStart_append {x : Char} (hx : isBlank x = false) (cs u : Text) :
    Text.trimStart (cs ++ x :: u) = Text.trimStart cs ++ x :: u := by
  have hmark : (x :: u).dropWhile isBlank = x :: u := by
    rw [List.dropWhile_cons, if_neg (by simp [hx])]
  rw [Text.trimStart, Text.trimStart, List.dropWhile_append, hmark]
  split
  · rename_i hempty
    rw [List.isEmpty_iff.1 hempty, List.nil_append]
  · rfl

section Mark

variable {x : Char} {u u' : Text}

theorem next_before (p : Char → Bool) (cs : Text) (x : Char) (u u' : Text) :
    next p (cs ++ x :: u') = next p (cs ++ x :: u) := by
  cases cs <;> rfl

theorem next_before_of_false (hx : p x = false) (cs u : Text) :
    next p (cs ++ x :: u) = next p cs := by
  cases cs with
  | nil => exact hx
  | cons c cs => rfl

theorem takeWhile_before (hx : p x = false) (cs u : Text) :
    (cs ++ x :: u).takeWhile p = cs.takeWhile p := by
  induction cs with
  | nil => rw [List.nil_append, List.takeWhile_cons, if_neg (by simp [hx]), List.takeWhile_nil]
  | cons c cs ih => rw [List.cons_append, List.takeWhile_cons, List.takeWhile_cons, ih]

theorem run_before (hx : p x = false) (cs u : Text) : run p (cs ++ x :: u) = run p cs :=
  congrArg List.length (takeWhile_before hx cs u)

theorem typeSuffix_before (hx : extendsWord x = false) (cs u : Text) :
    typeSuffix (cs ++ x :: u) = typeSuffix cs := by
  rw [typeSuffix_eq, typeSuffix_eq, takeWhile_before hx]

theorem withSuffix_before (hx : extendsWord x = false) {digits : Nat} (h : digits ≤ cs.length)
    (u : Text) : withSuffix (cs ++ x :: u) digits = withSuffix cs digits := by
  rw [withSuffix, withSuffix, List.drop_append_of_le_length h, typeSuffix_before hx]

variable (hx : extendsWord x = false)
include hx

theorem nameTail_before (cs u : Text) : nameTail (cs ++ x :: u) = nameTail cs := by
  have hchar := isNameChar_eq_false hx
  have hdollar : x ≠ '$' := ne_of_extendsWord hx rfl
  induction cs with
  | nil => simp [nameTail, hchar, hdollar]
  | cons c cs ih => rw [List.cons_append, nameTail, nameTail, ih, next_before_of_false hchar]

theorem hasBaseMarker_before (cs u : Text) : hasBaseMarker (cs ++ x :: u) = hasBaseMarker cs := by
  have hdigit := isHexDigit_eq_false hx
  have hmarker : "xbo".toList.contains x.toLower = false := not_contains_toLower hx (by decide)
  have hzero : (x == '0') = false := beq_false_of_ne (ne_of_extendsWord hx rfl)
  cases cs with
  | nil => rw [List.nil_append, hasBaseMarker_cons, hzero, Bool.false_and, hasBaseMarker]; simp
  | cons c cs =>
    rw [List.cons_append, hasBaseMarker_cons, hasBaseMarker_cons]
    cases cs with
    | nil =>
      cases u with
      | nil => rfl
      | cons digit u =>
        change (c == '0' && ("xbo".toList.contains x.toLower && isHexDigit digit)) =
          (c == '0' && false)
        rw [hmarker, Bool.false_and]
    | cons marker cs =>
      cases cs with
      | nil => simp [hdigit]
      | cons digit cs => rfl

/-- A point that is not taken stays alone if what follows parts it from the number as well. -/
theorem fraction_before (hpoint : partsPoint u = true → partsPoint u' = true)
    (h : fraction (cs ++ x :: u) ≤ cs.length) :
    fraction (cs ++ x :: u') = fraction (cs ++ x :: u) := by
  cases cs with
  | nil =>
    have hnone : fraction (x :: u) = 0 := Nat.le_zero.1 h
    rw [List.nil_append, List.nil_append, hnone]
    rw [fraction_cons] at hnone ⊢
    split
    · rename_i hx
      rw [if_pos hx] at hnone
      split at hnone
      · rename_i hparts
        exact if_pos (hpoint hparts)
      · cases hnone
    · rfl
  | cons c cs =>
    simp only [List.cons_append, fraction_cons, next_before _ cs x u u',
      run_before (isDigit_eq_false hx)]

theorem exponent_before (hu : next Char.isDigit u = false) (hu' : next Char.isDigit u' = false)
    (cs : Text) : exponent (cs ++ x :: u') = exponent (cs ++ x :: u) := by
  cases cs with
  | nil =>
    have hmarker : "ed".toList.contains x.toLower = false := not_contains_toLower hx (by decide)
    simp only [List.nil_append, exponent, hmarker]
    rfl
  | cons marker cs =>
    have hnone {u : Text} (hu : next Char.isDigit u = false) : run Char.isDigit u = 0 := by
      cases u with
      | nil => rfl
      | cons c u =>
        have hc : c.isDigit = false := hu
        rw [run, List.takeWhile_cons, if_neg (by simp [hc]), List.length_nil]
    -- after a sign, the digits are looked for one character further on
    have hdigits (sign : Bool) :
        run Char.isDigit ((cs ++ x :: u').drop (if sign then 1 else 0)) =
          run Char.isDigit ((cs ++ x :: u).drop (if sign then 1 else 0)) := by
      have hrun (cs : Text) :
          run Char.isDigit (cs ++ x :: u') = run Char.isDigit (cs ++ x :: u) := by
        rw [run_before (isDigit_eq_false hx), run_before (isDigit_eq_false hx)]
      cases sign with
      | false => exact hrun cs
      | true =>
        cases cs with
        | nil => exact (hnone hu').trans (hnone hu).symm
        | cons c cs => exact hrun cs
    simp only [List.cons_append, exponent, next_before _ cs x u u', hdigits]

theorem number_of_base (hbase : hasBaseMarker cs = true) (u : Text) :
    number (cs ++ x :: u) = number cs := by
  have hlength : 2 ≤ cs.length := by
    unfold hasBaseMarker at hbase
    split at hbase
    · simp
    · cases hbase
  have hrun : 2 + run isHexDigit (cs.drop 2) ≤ cs.length := by
    have hle := run_le isHexDigit (cs.drop 2)
    rw [List.length_drop] at hle
    omega
  rw [number, number, hasBaseMarker_before hx, if_pos hbase, if_pos hbase,
    List.drop_append_of_le_length hlength, run_before (isHexDigit_eq_false hx),
    withSuffix_before hx hrun]

theorem number_of_decimal (hbase : hasBaseMarker cs = false) (u : Text) :
    let whole := run Char.isDigit cs
    let decimal := whole + fraction (cs.drop whole ++ x :: u)
    number (cs ++ x :: u) =
      withSuffix (cs ++ x :: u) (decimal + exponent ((cs ++ x :: u).drop decimal)) := by
  rw [number, hasBaseMarker_before hx, if_neg (by simp [hbase]), run_before (isDigit_eq_false hx)]
  dsimp only
  rw [List.drop_append_of_le_length (run_le _ _)]

theorem number_before (hu : next Char.isDigit u = false) (hu' : next Char.isDigit u' = false)
    (hpoint : partsPoint u = true → partsPoint u' = true)
    (h : number (cs ++ x :: u) ≤ cs.length) : number (cs ++ x :: u') = number (cs ++ x :: u) := by
  cases hbase : hasBaseMarker cs with
  | true => rw [number_of_base hx hbase, number_of_base hx hbase]
  | false =>
    have heq := number_of_decimal hx hbase u
    have heq' := number_of_decimal hx hbase u'
    dsimp only at heq heq'
    have hwhole := run_le Char.isDigit cs
    generalize run Char.isDigit cs = whole at heq heq' hwhole
    have hle := Nat.le_trans (le_withSuffix _ _) (heq ▸ h)
    have hlength : (cs.drop whole).length = cs.length - whole := List.length_drop
    rw [fraction_before hx hpoint (by omega)] at heq'
    generalize whole + fraction (cs.drop whole ++ x :: u) = decimal at heq heq' hle
    have hdecimal : decimal ≤ cs.length := by omega
    rw [List.drop_append_of_le_length hdecimal] at heq heq' hle
    rw [exponent_before hx hu hu'] at heq'
    rw [heq, heq', withSuffix_before hx hle,
      withSuffix_before hx hle]

end Mark

/-! ## Lexemes before a mark -/

theorem quotedTail_pos {quote : Char} {n : Nat} (h : quotedTail quote cs = some n) : 0 < n := by
  fun_induction quotedTail quote cs generalizing n with
  | case1 => cases h
  | case2 | case4 =>
    obtain rfl := Option.some.inj h
    exact Nat.one_pos
  | case3 | case5 =>
    obtain ⟨m, -, rfl⟩ := Option.map_eq_some_iff.1 h
    exact Nat.succ_pos _

theorem quotedTail_of_ne {quote c : Char} (h : c ≠ quote) (cs : Text) :
    quotedTail quote (c :: cs) = (quotedTail quote cs).map (· + 1) := by
  rw [quotedTail.eq_def]
  simp [h]

theorem quotedTail_of_eq (quote d : Char) (cs : Text) : quotedTail quote (quote :: d :: cs) =
    if d = quote then (quotedTail quote cs).map (· + 2) else some 1 := by
  rw [quotedTail.eq_def]
  simp

section Mark

variable {x : Char} {u u' : Text}

/-- A literal that is closed before another character is closed there whatever comes later. -/
theorem quotedTail_before {quote : Char} (hquote : x ≠ quote) {n : Nat}
    (h : quotedTail quote (cs ++ x :: u) = some n) (hn : n ≤ cs.length) :
    quotedTail quote (cs ++ x :: u') = some n := by
  induction hlength : cs.length using Nat.strongRecOn generalizing cs n with
  | ind length ih =>
    cases cs with
    | nil => exact absurd hn (Nat.not_le.2 (quotedTail_pos h))
    | cons c cs =>
      by_cases hc : c = quote
      · subst hc
        cases cs with
        | nil =>
          rw [List.cons_append, List.nil_append, quotedTail_of_eq, if_neg hquote] at h ⊢
          exact h
        | cons d cs =>
          simp only [List.cons_append, quotedTail_of_eq] at h ⊢
          split at h
          · rename_i hd
            obtain ⟨m, hm, rfl⟩ := Option.map_eq_some_iff.1 h
            simp only [List.length_cons] at hn hlength
            rw [if_pos hd, ih cs.length (by omega) hm (by omega) rfl]
            rfl
          · rename_i hd
            rwa [if_neg hd]
      · rw [List.cons_append, quotedTail_of_ne hc] at h ⊢
        obtain ⟨m, hm, rfl⟩ := Option.map_eq_some_iff.1 h
        simp only [List.length_cons] at hn hlength
        rw [ih cs.length (by omega) hm (by omega) rfl]
        rfl

theorem quoted_of_drop {quote marker : Char} {tail : Nat} {rest : Text}
    (h : quotedTail quote cs = some tail) (hdrop : cs.drop tail = marker :: rest) :
    quoted quote cs = if "xob".toList.contains marker.toLower && !next extendsWord rest then
      ⟨.number, tail + 2 + typeSuffix rest, none⟩ else ⟨.string, tail + 1, none⟩ := by
  rw [quoted, h]
  simp only [hdrop]

theorem exists_quotedTail {quote : Char}
    (h : (quoted quote (cs ++ x :: u)).length ≤ cs.length + 1) :
    ∃ tail, quotedTail quote (cs ++ x :: u) = some tail ∧ tail ≤ cs.length := by
  cases htail : quotedTail quote (cs ++ x :: u) with
  | none =>
    rw [quoted, htail] at h
    simp only [List.length_append, List.length_cons] at h
    omega
  | some tail =>
    refine ⟨tail, rfl, ?_⟩
    cases hdrop : (cs ++ x :: u).drop tail with
    | nil =>
      simp only [quoted, htail, hdrop] at h
      exact Nat.le_of_succ_le_succ h
    | cons marker more =>
      rw [quoted_of_drop htail hdrop] at h
      split at h <;> dsimp only at h <;> omega

theorem quoted_before (hx : extendsWord x = false) {quote : Char} (hquote : x ≠ quote)
    (h : (quoted quote (cs ++ x :: u)).length ≤ cs.length + 1) :
    quoted quote (cs ++ x :: u') = quoted quote (cs ++ x :: u) := by
  obtain ⟨tail, htail, hle⟩ := exists_quotedTail h
  have htail' : quotedTail quote (cs ++ x :: u') = some tail := quotedTail_before hquote htail hle
  have hdrop (u : Text) : (cs ++ x :: u).drop tail = cs.drop tail ++ x :: u :=
    List.drop_append_of_le_length hle
  cases hmarker : cs.drop tail with
  | nil =>
    -- the mark is no base marker
    have hnone : "xob".toList.contains x.toLower = false := not_contains_toLower hx (by decide)
    have hrest (u : Text) : (cs ++ x :: u).drop tail = x :: u := by
      rw [hdrop, hmarker, List.nil_append]
    rw [quoted_of_drop htail (hrest u), quoted_of_drop htail' (hrest u'), hnone]
    rfl
  | cons marker rest =>
    have hrest (u : Text) : (cs ++ x :: u).drop tail = marker :: (rest ++ x :: u) := by
      rw [hdrop, hmarker, List.cons_append]
    rw [quoted_of_drop htail (hrest u), quoted_of_drop htail' (hrest u'),
      next_before _ rest x u u', typeSuffix_before hx, typeSuffix_before hx]

theorem octal_before (hx : extendsWord x = false) (c : Char) (cs u : Text) :
    withSuffix (c :: (cs ++ x :: u)) (run isOctalDigit (cs ++ x :: u) + 1) =
      withSuffix (c :: cs) (run isOctalDigit cs + 1) := by
  have hdigits : run isOctalDigit cs + 1 ≤ (c :: cs).length := Nat.succ_le_succ (run_le _ _)
  rw [run_before (isOctalDigit_eq_false hx)]
  exact withSuffix_before hx hdigits u

theorem word_before (hx : extendsWord x = false) (c : Char) (cs u : Text) :
    word c (cs ++ x :: u) = word c cs := by
  rw [word, word, nameTail_before hx, List.take_append_of_le_length (nameTail_le cs)]

theorem lineContinuation_before (hblank : isBlank x = false) (cs u u' : Text) :
    lineContinuation (cs ++ x :: u') = lineContinuation (cs ++ x :: u) := by
  rw [lineContinuation, lineContinuation, trimStart_append hblank, trimStart_append hblank,
    next_before _ _ x u u']

/-- No lexeme that ends before `->` or `.` depends on what comes after these. -/
theorem interchangeable_of_mark (hmark : x = '-' ∨ x = '.') (hu : next Char.isDigit u = false)
    (hu' : next Char.isDigit u' = false) (hpoint : partsPoint u = true → partsPoint u' = true) :
    Interchangeable (fun _ => true) (x :: u) (x :: u') := by
  have hx : extendsWord x = false := by
    rcases hmark with rfl | rfl <;> rfl
  have hblank : isBlank x = false := by
    rcases hmark with rfl | rfl <;> decide
  intro leading c cs h _
  simp only [read, next_before _ cs x u u', nameTail_before hx] at h ⊢
  split_ifs at h ⊢ with hcomment hdollar hquote hliteral hsystem hnumber hname
  · -- a comment would take the mark as well
    simp only [comment, List.length_append, List.length_cons] at h
    omega
  · exact lineContinuation_before hblank cs u u'
  · rw [octal_before hx, octal_before hx]
  · have hne : x ≠ c := by
      rintro rfl
      rcases hmark with rfl | rfl <;> cases hliteral
    exact quoted_before hx hne h
  · rfl
  · have hnumber : number (c :: cs ++ x :: u') = number (c :: cs ++ x :: u) :=
      number_before hx hu hu' hpoint h
    exact congrArg (fun n => (⟨.number, n, none⟩ : Lexeme)) hnumber
  · rw [word_before hx, word_before hx]
  · cases cs <;> rfl

end Mark

/-! ## Before a word -/

section Word

variable {v v' : Text}

theorem isOctalDigit_eq_false_of_isNameStart {c : Char} (h : isNameStart c = true) :
    isOctalDigit c = false := by
  by_contra hoctal
  have hdigit := isDigit_of_isOctalDigit (Bool.not_eq_false _ ▸ hoctal)
  rw [isDigit_eq_false_of_isNameStart h] at hdigit
  cases hdigit

/-- The kinds of tokens that are neither names nor values. -/
def isSign : TokenKind → Bool
  | .identifier | .reserved | .systemVariable | .number | .string => false
  | _ => true

theorem not_isSign_quoted (quote : Char) (cs : Text) : isSign (quoted quote cs).kind = false := by
  unfold quoted
  split
  · rfl
  · split
    · rfl
    · split <;> rfl

theorem not_isSign_word (c : Char) (cs : Text) : isSign (word c cs).kind = false := by
  unfold word
  dsimp only
  split <;> rfl

/-- A character that names do not start with is not looked for in a word. -/
theorem next_append_of_false (hp : ∀ c, isNameStart c = true → p c = false)
    (hv : next isNameStart v = true) : next p (cs ++ v) = next p cs := by
  obtain ⟨c, rest, rfl, hc⟩ := next_eq_true hv
  exact next_before_of_false (hp c hc) cs rest

theorem next_append_of_true (hp : ∀ c, isNameStart c = true → p c = true)
    (hv : next isNameStart v = true) : next p (cs ++ v) = (cs.isEmpty || next p cs) := by
  cases cs with
  | nil =>
    obtain ⟨c, rest, rfl, hc⟩ := next_eq_true hv
    exact hp c hc
  | cons c cs => rfl

/-- Only some marks are the second of two that go together. -/
theorem pairKind_eq_none
    (hp : ('>' :: ':' :: pairOperators.map (·.2)).all (fun d => !p d) = true) (c : Char) {d : Char}
    (h : p d = true) : pairKind c d = none := by
  have hne : ∀ x ∈ '>' :: ':' :: pairOperators.map (·.2), d ≠ x := by
    rintro x hx rfl
    have hd := List.all_eq_true.1 hp d hx
    simp [h] at hd
  have hoperator : (c, d) ∉ pairOperators := by
    intro hmem
    exact hne d (by simpa using .inr (.inr ⟨c, hmem⟩)) rfl
  simp [pairKind, hne '>' (by simp), hne ':' (by simp), hoperator]

variable (hv : next isNameStart v = true) (hv' : next isNameStart v' = true)
include hv hv'

theorem mark_before_word (c : Char) (cs : Text) : mark c (cs ++ v') = mark c (cs ++ v) := by
  cases cs with
  | nil =>
    obtain ⟨d, rest, rfl, hd⟩ := next_eq_true hv
    obtain ⟨d', rest', rfl, hd'⟩ := next_eq_true hv'
    have hp : ('>' :: ':' :: pairOperators.map (·.2)).all (fun d => !isNameStart d) = true := by
      decide
    simp only [List.nil_append, mark, pairKind_eq_none hp c hd, pairKind_eq_none hp c hd']
  | cons d cs => rfl

theorem lineContinuation_before_word (cs : Text) :
    lineContinuation (cs ++ v') = lineContinuation (cs ++ v) := by
  have hother : ∀ c, isNameStart c = true → (c != ';') = true := by
    intro c hc
    simp [ne_of_isNameStart hc (x := ';') rfl]
  have htrim {v : Text} (hv : next isNameStart v = true) :
      Text.trimStart (cs ++ v) = Text.trimStart cs ++ v := by
    obtain ⟨c, rest, rfl, hc⟩ := next_eq_true hv
    exact trimStart_append (isBlank_eq_false_of_isNameStart hc) cs rest
  rw [lineContinuation, lineContinuation, htrim hv, htrim hv', next_append_of_true hother hv,
    next_append_of_true hother hv']

/-- A sign does not depend on the word after it. -/
theorem interchangeable_of_word : Interchangeable isSign v v' := by
  have hdigit : ∀ c, isNameStart c = true → c.isDigit = false :=
    fun c => isDigit_eq_false_of_isNameStart
  have hoctal : ∀ c, isNameStart c = true → isOctalDigit c = false :=
    fun c => isOctalDigit_eq_false_of_isNameStart
  have hstart : ∀ c, isNameStart c = true → isNameStart c = true := fun c hc => hc
  intro leading c cs h hkind
  -- what is looked at before a branch is taken does not depend on the word
  simp only [read, next_append_of_false hdigit hv, next_append_of_false hdigit hv',
    next_append_of_false hoctal hv, next_append_of_false hoctal hv',
    next_append_of_true hstart hv, next_append_of_true hstart hv'] at h hkind ⊢
  split_ifs at h hkind ⊢ with hcomment hdollar hquote hliteral hsystem hnumber hname
  · -- a comment would take the word as well
    obtain ⟨d, rest, rfl, -⟩ := next_eq_true hv
    simp only [comment, List.length_append, List.length_cons] at h
    omega
  · exact lineContinuation_before_word hv hv' cs
  · cases hkind
  · rw [not_isSign_quoted] at hkind
    cases hkind
  · cases hkind
  · cases hkind
  · rw [not_isSign_word] at hkind
    cases hkind
  · exact mark_before_word hv hv' c cs

end Word

end Lexeme

/-! ## Lines -/

/-- In the line of `left` and `v`, whose first character is number `column`, a token starts right
after `left`, and those before it are of the given kinds. -/
structure Reaches (kinds : TokenKind → Bool) (line column : Nat) (leading : Bool)
    (left v : Text) : Prop where
  starts : ∃ s ∈ scanFrom line column 0 leading (left ++ v),
    s.token.start.column = column + left.length
  kinds : ∀ s ∈ scanFrom line column 0 leading (left ++ v),
    s.token.start.column < column + left.length → kinds s.token.kind = true

/-- No token starts before the characters that are scanned. -/
theorem le_column_of_mem_scanFrom {line column : Nat} {leading : Bool} {cs : Text}
    {s : ScannedToken} (h : s ∈ scanFrom line column 0 leading cs) :
    column ≤ s.token.start.column := by
  have hcut := cut_scanFrom line column 0 leading (Nat.zero_le cs.length)
  exact (hcut.standsIn s.token (List.mem_map_of_mem h)).starts

section

variable {kinds : TokenKind → Bool} {line column : Nat} {leading : Bool} {c : Char}
  {left v v' : Text}

theorem scanFrom_blank (hblank : isBlank c = true) (cs : Text) :
    scanFrom line column 0 leading (c :: cs) = scanFrom line (column + 1) 0 leading cs := by
  rw [scanFrom, if_pos hblank]

theorem scanFrom_lexeme (line column : Nat) (hblank : isBlank c = false) {cs : Text} {l : Lexeme}
    (hread : Lexeme.read leading c cs = l) :
    scanFrom line column 0 leading (c :: cs) =
      ⟨.single l.kind ((c :: cs).take l.length) ⟨line, column, l.length⟩, l.fault⟩ ::
        scanFrom line (column + l.length) 0 false (cs.drop (l.length - 1)) := by
  have hpos : 0 < l.length := hread ▸ (Lexeme.fits_read leading c cs).pos
  have hskip := scanFrom_skip line (column + 1) false (l.length - 1) cs
  rw [show column + 1 + (l.length - 1) = column + l.length by omega] at hskip
  rw [scanFrom, if_neg (by simp [hblank]), hread, ← hskip]

/-- A lexeme that ends before `v` leaves `v` to be scanned. -/
theorem scanFrom_lexeme_append (line column : Nat) (hblank : isBlank c = false) {l : Lexeme}
    (hread : Lexeme.read leading c (left ++ v) = l) (hle : l.length ≤ left.length + 1) :
    scanFrom line column 0 leading (c :: left ++ v) =
      ⟨.single l.kind ((c :: left).take l.length) ⟨line, column, l.length⟩, l.fault⟩ ::
        scanFrom line (column + l.length) 0 false (left.drop (l.length - 1) ++ v) := by
  have htake : (c :: left ++ v).take l.length = (c :: left).take l.length :=
    List.take_append_of_le_length hle
  rw [← List.drop_append_of_le_length (by omega), ← htake]
  exact scanFrom_lexeme line column hblank hread

theorem Reaches.of_blank (h : Reaches kinds line column leading (c :: left) v)
    (hblank : isBlank c = true) : Reaches kinds line (column + 1) leading left v := by
  have hcolumn : column + (c :: left).length = column + 1 + left.length := by
    rw [List.length_cons]
    omega
  obtain ⟨hstarts, hkinds⟩ := h
  rw [List.cons_append, scanFrom_blank hblank, hcolumn] at hstarts hkinds
  exact ⟨hstarts, hkinds⟩

/-- A lexeme before a token that starts after `left` ends in time. -/
theorem Reaches.of_cons (h : Reaches kinds line column leading (c :: left) v)
    (hblank : isBlank c = false) :
    let l := Lexeme.read leading c (left ++ v)
    l.length ≤ left.length + 1 ∧ kinds l.kind = true ∧
      Reaches kinds line (column + l.length) false (left.drop (l.length - 1)) v := by
  intro l
  have hpos : 0 < l.length := (Lexeme.fits_read leading c (left ++ v)).pos
  obtain ⟨⟨s, hs, hstart⟩, hkinds⟩ := h
  rw [List.length_cons] at hstart hkinds
  -- the token after `left` is not the one that starts with `c`
  have hnext {first : ScannedToken} {rest : List ScannedToken} (hs : s ∈ first :: rest)
      (hfirst : first.token.start.column = column) : s ∈ rest := by
    refine (List.mem_cons.1 hs).resolve_left ?_
    rintro rfl
    omega
  have hle : l.length ≤ left.length + 1 := by
    rw [List.cons_append, scanFrom_lexeme line column hblank rfl] at hs
    have hcolumn := le_column_of_mem_scanFrom (hnext hs rfl)
    change column + l.length ≤ _ at hcolumn
    omega
  have hends : column + l.length + (left.drop (l.length - 1)).length =
      column + (left.length + 1) := by
    rw [List.length_drop]
    omega
  rw [scanFrom_lexeme_append line column hblank rfl hle] at hs hkinds
  obtain ⟨hfirst, hkinds⟩ := List.forall_mem_cons.1 hkinds
  refine ⟨hle, hfirst (Nat.lt_add_of_pos_right (Nat.succ_pos _)), ⟨s, hnext hs rfl, ?_⟩, ?_⟩
  · exact hstart.trans hends.symm
  · rwa [hends]

/-- Which of two texts follows the tokens before it makes no difference to them. -/
theorem scanFrom_before (hread : Lexeme.Interchangeable kinds v v')
    (h : Reaches kinds line column leading left v) :
    ∃ before leading',
      scanFrom line column 0 leading (left ++ v) =
        before ++ scanFrom line (column + left.length) 0 leading' v ∧
      scanFrom line column 0 leading (left ++ v') =
        before ++ scanFrom line (column + left.length) 0 leading' v' ∧
      ∀ s ∈ before, s.token.start.column < column + left.length := by
  induction hlength : left.length using Nat.strongRecOn generalizing column leading left with
  | ind length ih =>
    subst hlength
    cases left with
    | nil => exact ⟨[], leading, rfl, rfl, by simp⟩
    | cons c left =>
      cases hblank : isBlank c with
      | true =>
        obtain ⟨before, leading', hscan, hscan', hcolumns⟩ :=
          ih left.length (Nat.lt_succ_self _) (h.of_blank hblank) rfl
        have hcolumn : column + 1 + left.length = column + (c :: left).length := by
          rw [List.length_cons]
          omega
        rw [hcolumn] at hscan hscan' hcolumns
        refine ⟨before, leading', ?_, ?_, hcolumns⟩
        · rw [List.cons_append, scanFrom_blank hblank, hscan]
        · rw [List.cons_append, scanFrom_blank hblank, hscan']
      | false =>
        obtain ⟨hle, hkind, hreaches⟩ := h.of_cons hblank
        have hpos := (Lexeme.fits_read leading c (left ++ v)).pos
        have hsame := hread hle hkind
        have hscan := scanFrom_lexeme_append line column hblank rfl hle
        have hscan' := scanFrom_lexeme_append line column hblank hsame hle
        generalize Lexeme.read leading c (left ++ v) = l at *
        have hrest : (left.drop (l.length - 1)).length = left.length - (l.length - 1) :=
          List.length_drop
        obtain ⟨before, leading', hbefore, hbefore', hcolumns⟩ :=
          ih (left.drop (l.length - 1)).length (by rw [List.length_cons]; omega) hreaches rfl
        have hcolumn : column + l.length + (left.drop (l.length - 1)).length =
            column + (c :: left).length := by
          rw [List.length_cons]
          omega
        rw [hcolumn] at hbefore hbefore' hcolumns
        rw [hbefore] at hscan
        rw [hbefore'] at hscan'
        refine ⟨_ :: before, leading', hscan, hscan', List.forall_mem_cons.2 ⟨?_, hcolumns⟩⟩
        exact Nat.lt_add_of_pos_right (Nat.succ_pos _)

end

end RoutineAtlas
