import RoutineAtlas.Analysis.Check
import RoutineAtlas.Proofs.DocLines
import RoutineAtlas.Proofs.MemberName

/-!
# Remarks

A comment at the end of a line changes nothing but the tokens. To each lexeme of the line, the blank
before the comment is what the end of the line was; the exception is a literal that has no end,
since it would take the comment in. The continuation looks further, but it lets comments pass. So
there is one token more. It belongs to no statement, it is no part of a documentation block because
the token before it has ended every block, and the line says no more within a block than it did.

## Main definitions

* `Lexeme.IsRemark` — a blank and, after this and perhaps more blanks, a comment.
* `Lexeme.read_remark` — a lexeme does not see a remark.
* `TakesRemark` — the lines after which a remark can be put.
* `scanLine_remark` — the tokens of a line with a remark.
* `Analysis.trailing_comment_inert` — what a remark leaves as it was.
-/

namespace RoutineAtlas

namespace Lexeme

/-! ## Before a blank -/

section Blank

variable {x : Char}

theorem ne_of_isBlank (hx : isBlank x = true) {c : Char} (hc : isBlank c = false) : x ≠ c := by
  rintro rfl
  rw [hx] at hc
  cases hc

theorem extendsWord_blank (hx : isBlank x = true) : extendsWord x = false := by
  by_contra h
  rw [isBlank_eq_false_of_extendsWord (Bool.not_eq_false _ ▸ h)] at hx
  cases hx

variable (hx : isBlank x = true)
include hx

theorem fraction_blank (cs u : Text) : fraction (cs ++ x :: u) = fraction cs := by
  cases cs with
  | nil =>
    have hpoint : x ≠ '.' := ne_of_isBlank hx (by decide)
    rw [List.nil_append, fraction_cons, if_neg (by simpa using hpoint)]
    rfl
  | cons c cs =>
    have hstart := isNameStart_eq_false (extendsWord_blank hx)
    have hletter : (x.isAlpha && !"ed".toList.contains x.toLower) = false := by
      rw [isNameStart, Bool.or_eq_false_iff] at hstart
      rw [hstart.1, Bool.false_and]
    have hnext := next_before_of_false
      (p := fun c => c.isAlpha && !"ed".toList.contains c.toLower) hletter cs u
    rw [List.cons_append, fraction_cons, fraction_cons, hnext,
      run_before (isDigit_eq_false (extendsWord_blank hx))]

theorem exponent_blank (cs u : Text) : exponent (cs ++ x :: u) = exponent cs := by
  have hword := extendsWord_blank hx
  cases cs with
  | nil =>
    have hmarker : "ed".toList.contains x.toLower = false := not_contains_toLower hword (by decide)
    simp only [List.nil_append, exponent, hmarker]
    rfl
  | cons marker cs =>
    have hsign : (x == '+' || x == '-') = false := by
      simp [ne_of_isBlank hx (c := '+') (by decide), ne_of_isBlank hx (c := '-') (by decide)]
    have hnext := next_before_of_false (p := fun c => c == '+' || c == '-') hsign cs u
    -- a sign that is skipped is one of the characters before the blank
    have hskip := skip_le (fun c => c == '+' || c == '-') cs
    simp only [List.cons_append, exponent, hnext, List.drop_append_of_le_length hskip,
      run_before (isDigit_eq_false hword), next_before_of_false hword]

theorem number_blank (cs u : Text) : number (cs ++ x :: u) = number cs := by
  have hword := extendsWord_blank hx
  cases hbase : hasBaseMarker cs with
  | true => exact number_of_base hword hbase u
  | false =>
    have hnumber := number_of_decimal hword hbase u
    dsimp only at hnumber
    have hwhole := run_le Char.isDigit cs
    have hfraction := fraction_le (cs.drop (run Char.isDigit cs))
    rw [List.length_drop] at hfraction
    rw [hnumber, number, if_neg (by simp [hbase]), fraction_blank hx]
    dsimp only
    generalize run Char.isDigit cs = whole at *
    generalize fraction (cs.drop whole) = digits at *
    have hexponent := exponent_le (cs.drop (whole + digits))
    rw [List.length_drop] at hexponent
    rw [List.drop_append_of_le_length (by omega), exponent_blank hx,
      withSuffix_before hword (by omega)]

/-- A literal that is closed stays so before a character that is not its quote. -/
theorem quotedTail_blank {quote : Char} (hquote : isBlank quote = false) {cs : Text} {n : Nat}
    (h : quotedTail quote cs = some n) (u : Text) : quotedTail quote (cs ++ x :: u) = some n := by
  fun_induction quotedTail quote cs generalizing n with
  | case1 => cases h
  | case2 c hc =>
    obtain rfl := eq_of_beq hc
    rw [List.singleton_append, quotedTail_of_eq, if_neg (ne_of_isBlank hx hquote)]
    exact h
  | case3 c hc d ds hd ih =>
    obtain rfl := eq_of_beq hc
    obtain ⟨m, hm, rfl⟩ := Option.map_eq_some_iff.1 h
    rw [List.cons_append, List.cons_append, quotedTail_of_eq, if_pos (eq_of_beq hd), ih hm]
    rfl
  | case4 c hc d ds hd =>
    obtain rfl := eq_of_beq hc
    rw [List.cons_append, List.cons_append, quotedTail_of_eq, if_neg (by simpa using hd)]
    exact h
  | case5 c cs hc ih =>
    obtain ⟨m, hm, rfl⟩ := Option.map_eq_some_iff.1 h
    rw [List.cons_append, quotedTail_of_ne (by simpa using hc), ih hm]
    rfl

theorem quoted_blank {quote : Char} (hquote : isBlank quote = false) {cs : Text}
    (h : (quoted quote cs).fault ≠ some .unterminatedString) (u : Text) :
    quoted quote (cs ++ x :: u) = quoted quote cs := by
  have hword := extendsWord_blank hx
  cases htail : quotedTail quote cs with
  | none =>
    rw [quoted, htail] at h
    exact absurd rfl h
  | some tail =>
    have htail' := quotedTail_blank hx hquote htail u
    have hdrop : (cs ++ x :: u).drop tail = cs.drop tail ++ x :: u :=
      List.drop_append_of_le_length (quotedTail_le htail)
    cases hmarker : cs.drop tail with
    | nil =>
      -- the blank is no base marker
      have hnone : "xob".toList.contains x.toLower = false :=
        not_contains_toLower hword (by decide)
      rw [hmarker, List.nil_append] at hdrop
      rw [quoted_of_drop htail' hdrop, hnone, quoted, htail]
      simp [hmarker]
    | cons marker rest =>
      rw [hmarker, List.cons_append] at hdrop
      rw [quoted_of_drop htail' hdrop, quoted_of_drop htail hmarker, next_before_of_false hword,
        typeSuffix_before hword]

theorem mark_blank (c : Char) (cs u : Text) : mark c (cs ++ x :: u) = mark c cs := by
  cases cs with
  | nil =>
    have hp : ('>' :: ':' :: pairOperators.map (·.2)).all (fun d => !isBlank d) = true := by
      decide
    simp only [List.nil_append, mark, pairKind_eq_none hp c hx]
  | cons d cs => rfl

end Blank

/-! ## Before a remark -/

/-- A blank stands first, and what comes after the blanks is a comment. -/
structure IsRemark (v : Text) : Prop where
  blank : next isBlank v = true
  comment : next (· == ';') v.trimStart = true

theorem trimStart_append_of_ne_nil {cs : Text} (h : cs.trimStart ≠ []) (v : Text) :
    Text.trimStart (cs ++ v) = cs.trimStart ++ v := by
  have hcs : cs.dropWhile isBlank ≠ [] := h
  rw [Text.trimStart, List.dropWhile_append, if_neg (by simpa using hcs)]
  rfl

theorem lineContinuation_remark {v : Text} (hv : IsRemark v) (cs : Text) :
    lineContinuation (cs ++ v) = lineContinuation cs := by
  by_cases hcs : cs.trimStart = []
  · have htrim : Text.trimStart (cs ++ v) = v.trimStart := by
      have hnil : cs.dropWhile isBlank = [] := hcs
      rw [Text.trimStart, List.dropWhile_append, hnil]
      rfl
    obtain ⟨c, rest, hcomment, hc⟩ := next_eq_true hv.comment
    rw [lineContinuation, lineContinuation, htrim, hcs, hcomment]
    simp [next, eq_of_beq hc]
  · obtain ⟨c, rest, hcons⟩ := List.exists_cons_of_ne_nil hcs
    rw [lineContinuation, lineContinuation, trimStart_append_of_ne_nil hcs, hcons]
    rfl

theorem isComment_comment (leading : Bool) (cs : Text) :
    (comment leading cs).kind.isComment = true := by
  have hkind : ∀ kind ∈ [TokenKind.docOpen, .docClose, .comment], kind.isComment = true := by
    decide
  exact hkind _ (kind_comment leading cs)

/-- A lexeme that is not a comment and has an end does not see a remark. -/
theorem read_remark {v : Text} (hv : IsRemark v) {leading : Bool} {c : Char} {cs : Text}
    (hcomment : (read leading c cs).kind.isComment = false)
    (hfault : (read leading c cs).fault ≠ some .unterminatedString) :
    read leading c (cs ++ v) = read leading c cs := by
  have hcontinuation := lineContinuation_remark hv cs
  obtain ⟨x, u, rfl, hx⟩ := next_eq_true hv.blank
  have hword := extendsWord_blank hx
  simp only [read, next_before_of_false (isOctalDigit_eq_false hword),
    next_before_of_false (isNameStart_eq_false hword),
    next_before_of_false (isDigit_eq_false hword), nameTail_before hword,
    octal_before hword] at hcomment hfault ⊢
  split_ifs at hcomment hfault ⊢ with hsemicolon hdollar hoctal hquote hsystem hnumber hname
  · rw [isComment_comment] at hcomment
    cases hcomment
  · exact hcontinuation
  · rfl
  · have hblank : isBlank c = false := by
      rcases Bool.or_eq_true_iff.1 hquote with hc | hc <;> rw [eq_of_beq hc] <;> decide
    exact quoted_blank hx hblank hfault u
  · rfl
  · rw [← List.cons_append, number_blank hx]
  · exact word_before hword c cs u
  · exact mark_blank hx c cs u

end Lexeme

open Lexeme (IsRemark)

/-! ## The line -/

section Line

variable {n column : Nat} {leading : Bool} {line v : Text}

theorem exists_scanFrom_trimStart (n column : Nat) (leading : Bool) (cs : Text) :
    ∃ column', scanFrom n column 0 leading cs = scanFrom n column' 0 leading cs.trimStart := by
  induction cs generalizing column with
  | nil => exact ⟨column, rfl⟩
  | cons c cs ih =>
    cases hblank : isBlank c with
    | true =>
      obtain ⟨column', hscan⟩ := ih (column + 1)
      refine ⟨column', ?_⟩
      rw [scanFrom_blank hblank, hscan, Text.trimStart, Text.trimStart,
        List.dropWhile_cons_of_pos hblank]
    | false =>
      refine ⟨column, ?_⟩
      rw [Text.trimStart, List.dropWhile_cons_of_neg (by simp [hblank])]

/-- The tokens before a remark are those of the line without it. After one of them, what follows
does not stand first in its line. -/
theorem scanFrom_remark (hv : IsRemark v)
    (hcomment : ∀ s ∈ scanFrom n column 0 leading line, s.token.kind.isComment = false)
    (hfault : ∀ s ∈ scanFrom n column 0 leading line, s.fault ≠ some .unterminatedString) :
    ∃ leading', scanFrom n column 0 leading (line ++ v) =
        scanFrom n column 0 leading line ++ scanFrom n (column + line.length) 0 leading' v ∧
      (leading = false ∨ scanFrom n column 0 leading line ≠ [] → leading' = false) := by
  induction hlength : line.length using Nat.strongRecOn generalizing column leading line with
  | ind length ih =>
    subst hlength
    cases line with
    | nil => exact ⟨leading, rfl, fun h => h.resolve_right fun hne => hne rfl⟩
    | cons c line =>
      cases hblank : isBlank c with
      | true =>
        rw [scanFrom_blank hblank] at hcomment hfault
        obtain ⟨leading', hscan, hlater⟩ :=
          ih line.length (Nat.lt_succ_self _) hcomment hfault rfl
        refine ⟨leading', ?_, by rwa [scanFrom_blank hblank]⟩
        rw [List.cons_append, scanFrom_blank hblank, scanFrom_blank hblank, hscan,
          List.length_cons, Nat.add_assoc, Nat.add_comm 1]
      | false =>
        obtain ⟨l, hl⟩ : ∃ l, Lexeme.read leading c line = l := ⟨_, rfl⟩
        have hpos : 0 < l.length := hl ▸ (Lexeme.fits_read leading c line).pos
        have hle : l.length ≤ line.length + 1 := hl ▸ (Lexeme.fits_read leading c line).le
        have hscan := scanFrom_lexeme n column hblank hl
        rw [hscan] at hcomment hfault
        obtain ⟨hkind, hcomment⟩ := List.forall_mem_cons.1 hcomment
        obtain ⟨hclosed, hfault⟩ := List.forall_mem_cons.1 hfault
        have hread : Lexeme.read leading c (line ++ v) = l := by
          subst hl
          exact Lexeme.read_remark hv hkind hclosed
        have hdrop : (line.drop (l.length - 1)).length = line.length - (l.length - 1) :=
          List.length_drop
        obtain ⟨leading', hrest, hlater⟩ :=
          ih _ (by rw [hdrop, List.length_cons]; omega) hcomment hfault rfl
        have hcolumn : column + l.length + (line.drop (l.length - 1)).length =
            column + (c :: line).length := by
          rw [hdrop, List.length_cons]
          omega
        refine ⟨leading', ?_, fun _ => hlater (.inl rfl)⟩
        rw [scanFrom_lexeme_append n column hblank hread hle, hscan, hrest, hcolumn,
          List.cons_append]

/-- A remark can be put after line number `n`: it has tokens, none of them is a comment, and all of
its literals are closed. -/
structure TakesRemark (n : Nat) (line : Text) : Prop where
  token : scanLine n line ≠ []
  plain : ∀ s ∈ scanLine n line, s.token.kind.isComment = false
  closed : ∀ s ∈ scanLine n line, s.fault ≠ some .unterminatedString

/-- A remark is one token more. -/
theorem scanLine_remark (hv : IsRemark v) (h : TakesRemark n line) : ∃ t : Token,
    t.kind = .comment ∧ scanLine n (line ++ v) = scanLine n line ++ [⟨t, none⟩] := by
  obtain ⟨leading, hscan, hlater⟩ := scanFrom_remark hv h.plain h.closed
  obtain rfl : leading = false := hlater (.inr h.token)
  obtain ⟨column, htrim⟩ := exists_scanFrom_trimStart n (0 + line.length) false v
  obtain ⟨c, rest, hcons, hc⟩ := Lexeme.next_eq_true hv.comment
  obtain rfl := eq_of_beq hc
  have hread : Lexeme.read false ';' rest = ⟨.comment, rest.length + 1, none⟩ := rfl
  rw [hcons, scanFrom_lexeme n column (by decide) hread] at htrim
  refine ⟨.single .comment (';' :: rest) ⟨n, column, rest.length + 1⟩, rfl, ?_⟩
  rw [scanLine, hscan, htrim]
  simp [scanLine, scanFrom]

/-- A line that takes a remark does not begin with a semicolon. -/
theorem TakesRemark.trimStart (h : TakesRemark n line) :
    ∃ c rest, line.trimStart = c :: rest ∧ c ≠ ';' := by
  obtain ⟨column, hscan⟩ := exists_scanFrom_trimStart n 0 true line
  obtain ⟨htoken, hplain, -⟩ := h
  rw [scanLine, hscan] at htoken hplain
  cases htrim : line.trimStart with
  | nil =>
    rw [htrim] at htoken
    exact absurd rfl htoken
  | cons c rest =>
    refine ⟨c, rest, rfl, ?_⟩
    rintro rfl
    have hread : Lexeme.read true ';' rest = Lexeme.comment true rest := rfl
    rw [htrim, scanFrom_lexeme n column (by decide) hread] at hplain
    have hfirst : (Lexeme.comment true rest).kind.isComment = false :=
      hplain _ List.mem_cons_self
    rw [Lexeme.isComment_comment] at hfirst
    cases hfirst

end Line

/-! ## Who passes a comment over -/

section Tokens

variable {t u : Token}

theorem TokenStream.dangling?_remark (ht : t.kind.isComment = true) (left right : List Token) :
    dangling? (left ++ t :: right) = dangling? (left ++ right) := by
  simp [dangling?, List.find?_append, ht]

theorem Statement.split_remark (ht : t.kind.isComment = true) (left right : List Token) :
    split (left ++ t :: right) = split (left ++ right) := by
  obtain ⟨done, current, continued, lastLine, hrest⟩ := exists_splitFrom_append left [] false none
  rw [split, split, hrest, hrest, splitFrom, if_pos ht]

namespace BlockSearch

/-- After a token, the search goes on from some state; a token that is no comment ends all
blocks. -/
theorem exists_run_cons (lines : List Text) (search : BlockSearch) (t : Token) :
    ∃ done search', (∀ rest, run lines search (t :: rest) = done ++ run lines search' rest) ∧
      (t.kind.isComment = false → search' = .outside) := by
  have hmeet (h : t.kind.isComment = false) : meet t = .outside := by
    rw [meet, if_neg]
    intro hkind
    rw [eq_of_beq hkind] at h
    cases h
  have hkinds {kind : TokenKind} (hkind : (t.kind == kind) = true)
      (h : t.kind.isComment = false) : kind.isComment = false := eq_of_beq hkind ▸ h
  cases search with
  | outside => exact ⟨[], meet t, fun rest => rfl, hmeet⟩
  | inside opening =>
    by_cases hcomment : (t.kind == .comment) = true
    · refine ⟨[], .inside opening, fun rest => ?_, fun h => ?_⟩
      · rw [run, if_pos hcomment, List.nil_append]
      · cases hkinds hcomment h
    · by_cases hclose : (t.kind == .docClose) = true
      · refine ⟨[], .closed opening t.start, fun rest => ?_, fun h => ?_⟩
        · rw [run, if_neg hcomment, if_pos hclose, List.nil_append]
        · cases hkinds hclose h
      · refine ⟨[unclosedBlock lines opening t.start.line], meet t, fun rest => ?_, hmeet⟩
        rw [run, if_neg hcomment, if_neg hclose, List.singleton_append]
  | closed opening closing =>
    by_cases hcomment : (t.kind == .comment) = true
    · refine ⟨[], .closed opening closing, fun rest => ?_, fun h => ?_⟩
      · rw [run, if_pos hcomment, List.nil_append]
      · cases hkinds hcomment h
    · refine ⟨[closedBlock lines opening closing t.routineStart?], meet t, fun rest => ?_, hmeet⟩
      rw [run, if_neg hcomment, List.singleton_append, Token.routineStart?]

theorem exists_run_append (lines : List Text) (search : BlockSearch) (before : List Token) :
    ∃ done search', ∀ rest, run lines search (before ++ rest) = done ++ run lines search' rest := by
  induction before generalizing search with
  | nil => exact ⟨[], search, fun rest => rfl⟩
  | cons t before ih =>
    obtain ⟨done, search', hstep, -⟩ := exists_run_cons lines search t
    obtain ⟨more, search'', hrest⟩ := ih search'
    refine ⟨done ++ more, search'', fun rest => ?_⟩
    rw [List.cons_append, hstep, hrest, List.append_assoc]

/-- A comment after a token that is none is outside of all blocks. -/
theorem run_remark (ht : t.kind = .comment) (hu : u.kind.isComment = false) (lines : List Text)
    (left right : List Token) :
    run lines .outside (left ++ [u] ++ t :: right) =
      run lines .outside (left ++ [u] ++ right) := by
  obtain ⟨done, search, hleft⟩ := exists_run_append lines .outside left
  obtain ⟨more, search', hstep, houtside⟩ := exists_run_cons lines search u
  have hmeet : meet t = .outside := by
    rw [meet, ht]
    rfl
  simp only [List.append_assoc, List.singleton_append]
  rw [hleft, hleft, hstep, hstep, houtside hu, run, hmeet]

/-- Of the lines, the search takes their number and what the documentation blocks say. -/
theorem run_congr {lines lines' : List Text} (hlength : lines'.length = lines.length)
    (hsections : ∀ first stop,
      SectionList.ofLines lines' first stop = SectionList.ofLines lines first stop)
    (search : BlockSearch) (ts : List Token) : run lines' search ts = run lines search ts := by
  have hunclosed (opening : Span) (stop : Nat) :
      unclosedBlock lines' opening stop = unclosedBlock lines opening stop := by
    rw [unclosedBlock, unclosedBlock, hsections]
  have hclosed (opening closing : Span) (routine : Option Span) :
      closedBlock lines' opening closing routine = closedBlock lines opening closing routine := by
    rw [closedBlock, closedBlock, hsections]
  induction ts generalizing search with
  | nil => cases search <;> simp only [run, hunclosed, hclosed, hlength]
  | cons t ts ih => cases search <;> simp only [run, hunclosed, hclosed, ih]

end BlockSearch

end Tokens

/-! ## What a line says within a block -/

theorem commentBody?_eq_none {line : Text} {c : Char} {rest : Text}
    (h : line.trimStart = c :: rest) (hc : c ≠ ';') : commentBody? line = none := by
  rw [commentBody?, h]
  split
  · rename_i heq
    exact absurd (List.cons.inj heq).1 hc
  · rfl

namespace SectionList

theorem addLines_congr {lines lines' : List Text}
    (h : List.Forall₂ (fun l l' => l = l' ∨ commentBody? l = none ∧ commentBody? l' = none)
      lines lines') (s : SectionList) (n : Nat) : s.addLines n lines = s.addLines n lines' := by
  induction h generalizing s n with
  | nil => rfl
  | cons hline _ ih =>
    rcases hline with rfl | ⟨hnone, hnone'⟩
    · simp only [addLines, ih]
    · simp [addLines, DocLine.read?, hnone, hnone', ih]

/-- A line without a comment of its own can be any other. -/
theorem ofLines_congr {line line' : Text} (hline : commentBody? line = none)
    (hline' : commentBody? line' = none) (above below : List Text) (first stop : Nat) :
    ofLines (above ++ line' :: below) first stop = ofLines (above ++ line :: below) first stop := by
  have hsame (lines : List Text) : List.Forall₂ (fun l l' =>
      l = l' ∨ commentBody? l = none ∧ commentBody? l' = none) lines lines :=
    List.forall₂_same.2 fun l _ => .inl rfl
  have hlines := List.rel_append (hsame above) (.cons (.inr ⟨hline', hline⟩) (hsame below))
  rw [ofLines, ofLines, addLines_congr (List.forall₂_take _ (List.forall₂_drop _ hlines))]

end SectionList

/-- Within a block, a line that takes a remark says nothing, with the remark or without. -/
theorem TakesRemark.commentBody? {n : Nat} {line : Text} (h : TakesRemark n line) (v : Text) :
    commentBody? line = none ∧ commentBody? (line ++ v) = none := by
  obtain ⟨c, rest, htrim, hc⟩ := h.trimStart
  have htrim' := Lexeme.trimStart_append_of_ne_nil (htrim ▸ List.cons_ne_nil c rest) v
  rw [htrim, List.cons_append] at htrim'
  exact ⟨commentBody?_eq_none htrim hc, commentBody?_eq_none htrim' hc⟩

/-! ## The file -/

section File

variable {above below : List Text} {line v : Text}

/-- The new token comes after one that is no comment. -/
theorem exists_scanLinesFrom_remark (hv : IsRemark v) (h : TakesRemark above.length line)
    (below : List Text) :
    ∃ left u right t, scanLinesFrom 0 (above ++ line :: below) = left ++ [u] ++ right ∧
      scanLinesFrom 0 (above ++ (line ++ v) :: below) = left ++ [u] ++ ⟨t, none⟩ :: right ∧
      u.token.kind.isComment = false ∧ t.kind = .comment := by
  obtain ⟨t, ht, hscan⟩ := scanLine_remark hv h
  obtain ⟨earlier, u, hline⟩ := (List.eq_nil_or_concat' _).resolve_left h.token
  refine ⟨scanLinesFrom 0 above ++ earlier, u, scanLinesFrom (0 + above.length + 1) below, t, ?_,
    ?_, h.plain u (by simp [hline]), ht⟩
  · rw [scanLinesFrom_append, scanLinesFrom, Nat.zero_add, hline]
    simp
  · rw [scanLinesFrom_append, scanLinesFrom, Nat.zero_add, hscan, hline]
    simp

theorem TokenStream.problems_remark {left right : List ScannedToken} {t : Token}
    (ht : t.kind.isComment = true) {lines lines' : List Text}
    (hscan : scanLinesFrom 0 lines = left ++ right)
    (hscan' : scanLinesFrom 0 lines' = left ++ ⟨t, none⟩ :: right) :
    (ofLines lines').problems = (ofLines lines).problems := by
  have hdangling := dangling?_remark ht (left.map (·.token)) (right.map (·.token))
  simp [ofLines, hscan, hscan', hdangling, ScannedToken.problem?]

theorem DocBlocks.ofTokens_remark (h : TakesRemark above.length line) {t u : Token}
    (ht : t.kind = .comment) (hu : u.kind.isComment = false) (left right : List Token) :
    ofTokens (left ++ [u] ++ t :: right) (above ++ (line ++ v) :: below) =
      ofTokens (left ++ [u] ++ right) (above ++ line :: below) := by
  obtain ⟨hline, hline'⟩ := h.commentBody? v
  have hlength : (above ++ (line ++ v) :: below).length = (above ++ line :: below).length := by
    simp
  rw [ofTokens, ofTokens, BlockSearch.run_remark ht hu,
    BlockSearch.run_congr hlength (SectionList.ofLines_congr hline hline' above below)]

namespace Analysis

variable {path : Path} {text text' : Text}

/-- Line number `n` has tokens, none of them is a comment, and no literal without an end is reported
there. -/
structure TakesRemark (a : Analysis) (n : Nat) : Prop where
  token : ∃ t ∈ a.tokens, t.start.line = n
  plain : ∀ t ∈ a.tokens, t.start.line = n → t.kind.isComment = false
  closed : ∀ p ∈ a.parseProblems, p.start.line = n →
    p.code ≠ ProblemCode.unterminatedString.number

theorem takesRemark_line (h : (Analysis.read path text).TakesRemark above.length)
    (hlines : text.sourceLines = above ++ line :: below) :
    RoutineAtlas.TakesRemark above.length line := by
  have htokens : (Analysis.read path text).tokens = tokensFrom 0 (above ++ line :: below) :=
    congrArg (tokensFrom 0) hlines
  have hmem {s : ScannedToken} (hs : s ∈ scanLine above.length line) :
      s.token ∈ (Analysis.read path text).tokens ∧ s.token.start.line = above.length := by
    rw [htokens]
    exact mem_lineTokens_iff.1 (List.mem_map_of_mem hs)
  refine ⟨?_, fun s hs => h.plain _ (hmem hs).1 (hmem hs).2, fun s hs hfault => ?_⟩
  · obtain ⟨t, ht, hline⟩ := h.token
    rw [htokens] at ht
    have ht : t ∈ lineTokens above.length line := mem_lineTokens_iff.2 ⟨ht, hline⟩
    intro hnil
    rw [lineTokens, hnil] at ht
    cases ht
  · -- a literal without an end would have been reported
    have hscanned : s ∈ scanLinesFrom 0 text.sourceLines := by
      rw [hlines, scanLinesFrom_append, scanLinesFrom, Nat.zero_add]
      exact List.mem_append_right _ (List.mem_append_left _ hs)
    have hproblem : s.problem? = some (.plain .unterminatedString s.token.start) := by
      rw [ScannedToken.problem?, hfault]
      rfl
    have hreported : .plain .unterminatedString s.token.start ∈
        (Analysis.read path text).parseProblems := by
      refine List.mem_mergeSort.2 (List.mem_append_left _ (List.mem_append_left _ ?_))
      exact List.mem_append_left _ (List.mem_filterMap.2 ⟨s, hscanned, hproblem⟩)
    exact h.closed _ hreported (hmem hs).2 rfl

/-- But for its tokens, a file is read as if the remark were not there. -/
theorem read_remark (hv : IsRemark v) (hlines : text.sourceLines = above ++ line :: below)
    (hlines' : text'.sourceLines = above ++ (line ++ v) :: below)
    (h : (Analysis.read path text).TakesRemark above.length) :
    ∃ tokens, Analysis.read path text' = { Analysis.read path text with tokens := tokens } := by
  have hline := takesRemark_line h hlines
  obtain ⟨left, u, right, t, hscan, hscan', hu, ht⟩ := exists_scanLinesFrom_remark hv hline below
  rw [← hlines] at hscan
  rw [← hlines'] at hscan'
  have hpassed : t.kind.isComment = true := by rw [ht]; rfl
  have htokens : (TokenStream.ofLines text.sourceLines).tokens =
      left.map (·.token) ++ [u.token] ++ right.map (·.token) := by
    simp [TokenStream.ofLines, hscan]
  have htokens' : (TokenStream.ofLines text'.sourceLines).tokens =
      left.map (·.token) ++ [u.token] ++ t :: right.map (·.token) := by
    simp [TokenStream.ofLines, hscan']
  have hproblems := TokenStream.problems_remark hpassed hscan hscan'
  have hdocs : DocBlocks.ofTokens (TokenStream.ofLines text'.sourceLines).tokens text'.sourceLines =
      DocBlocks.ofTokens (TokenStream.ofLines text.sourceLines).tokens text.sourceLines := by
    rw [htokens, htokens', hlines, hlines']
    exact DocBlocks.ofTokens_remark hline ht hu _ _
  have hrecord : Record.ofTokens path (TokenStream.ofLines text'.sourceLines).tokens =
      Record.ofTokens path (TokenStream.ofLines text.sourceLines).tokens := by
    rw [Record.ofTokens, Record.ofTokens, htokens, htokens', Statement.split_remark hpassed]
  refine ⟨(TokenStream.ofLines text'.sourceLines).tokens, ?_⟩
  simp only [Analysis.read, hproblems, hdocs, hrecord]

end Analysis

namespace Text

/-- After a line, a space and a semicolon make a remark. So they do after a carriage return, which
then no longer ends the line and is one more blank. -/
theorem exists_remark (left : Text) {piece : Text} (hpiece : piece.withoutReturn = []) (r : Text) :
    ∃ v, IsRemark v ∧ left ++ ' ' :: ';' :: r = withoutReturn (left ++ piece) ++ v := by
  have hspace : IsRemark (' ' :: ';' :: r) := ⟨rfl, rfl⟩
  have hreturn : IsRemark ('\r' :: ' ' :: ';' :: r) := ⟨rfl, rfl⟩
  rcases eq_withoutReturn_append piece with heq | heq
  · rw [heq, hpiece, List.append_nil]
    rcases eq_withoutReturn_append left with hleft | hleft
    · exact ⟨_, hspace, by rw [← hleft]⟩
    · refine ⟨_, hreturn, ?_⟩
      nth_rewrite 1 [hleft]
      rw [List.append_assoc, List.singleton_append]
  · rw [heq, hpiece, List.nil_append, withoutReturn_append_return]
    exact ⟨_, hspace, rfl⟩

theorem exists_sourceLines_remark (before : Text) {after remark : Text}
    (hend : after.sourceLines.head? = some []) (hremark : '\n' ∉ remark) :
    ∃ above line v below, List.length above = before.endCursor.line ∧ IsRemark v ∧
      sourceLines (before ++ after) = above ++ line :: below ∧
      sourceLines (before ++ ' ' :: ';' :: remark ++ after) = above ++ (line ++ v) :: below := by
  obtain ⟨above, left, habove, -, hpieces⟩ := exists_pieces before
  obtain ⟨piece, more, hafter⟩ := exists_piecesBetween '\n' after
  have hpiece : withoutReturn piece = [] := by
    rw [sourceLines, piecesAt, hafter] at hend
    exact Option.some.inj hend
  obtain ⟨v, hv, hline⟩ := exists_remark left hpiece (withoutReturn (remark ++ piece))
  refine ⟨above.map withoutReturn, withoutReturn (left ++ piece), v, more.map withoutReturn,
    by rw [List.length_map, habove], hv, ?_, ?_⟩
  · rw [sourceLines, piecesAt, hpieces _ _ _ hafter, List.map_append, List.map_cons]
  · have hpart : '\n' ∉ ' ' :: ';' :: remark := by simpa using hremark
    have hmarks : ([' ', ';'] : Text) ≠ [] := by simp
    have hreturn := withoutReturn_append hmarks (by decide) left (remark ++ piece)
    rw [sourceLines, piecesAt, List.append_assoc before,
      hpieces _ _ _ (piecesBetween_append hpart hafter), List.map_append, List.map_cons, ← hline]
    simpa using hreturn

end Text

end File

/-- Comments at the end of a line are inert. Take a text up to the end of a line, which ends where
`after` begins. If the line has tokens, no comment and no literal without an end, then a space, a
semicolon and whatever else stands on a line can be put there: what the file defines, uses and
calls, its documentation and its problems are the same. -/
theorem Analysis.trailing_comment_inert (path : Path) (before after remark : Text)
    (withChecks : Bool) (lookup : RoutineLookup) (hend : after.sourceLines.head? = some [])
    (hremark : '\n' ∉ remark)
    (h : (Analysis.run path (before ++ after) withChecks lookup).TakesRemark
      before.endCursor.line) :
    let old := Analysis.run path (before ++ after) withChecks lookup
    let new := Analysis.run path (before ++ ' ' :: ';' :: remark ++ after) withChecks lookup
    new.record = old.record ∧ new.blocks = old.blocks ∧ new.parseProblems = old.parseProblems ∧
      new.checkProblems = old.checkProblems := by
  obtain ⟨above, line, v, below, habove, hv, hlines, hlines'⟩ :=
    Text.exists_sourceLines_remark before hend hremark
  have hread : (Analysis.read path (before ++ after)).TakesRemark above.length := by
    rw [habove]
    cases withChecks <;> exact ⟨h.token, h.plain, h.closed⟩
  obtain ⟨tokens, hnew⟩ := read_remark hv hlines hlines' hread
  -- the checks do not look at the tokens
  cases withChecks <;> simp only [Analysis.run, hnew] <;> exact ⟨rfl, rfl, rfl, rfl⟩

/-- A comment after the continuation mentions a variable. The line is still continued, and the
variable is still reported as not used. -/
theorem Analysis.trailing_comment_inert_continued :
    let before : Text := "pro f\n  y = 1 + $".toList
    let after : Text := "\r\n    2\nend\n".toList
    let old := Analysis.run (.ofText ['a']) (before ++ after) true .none
    let new := Analysis.run (.ofText ['a'])
      (before ++ ' ' :: ';' :: " print, y".toList ++ after) true .none
    old.TakesRemark before.endCursor.line ∧ new.tokens ≠ old.tokens ∧
      new.checkProblems.map (·.code) = [ProblemCode.unusedVariable.number] ∧
      new.record = old.record ∧ new.blocks = old.blocks ∧
      new.parseProblems = old.parseProblems ∧ new.checkProblems = old.checkProblems := by
  intro before after old new
  obtain ⟨htoken, hplain, hclosed, hunused, htokens⟩ :
      (∃ t ∈ old.tokens, t.start.line = before.endCursor.line) ∧
        (∀ t ∈ old.tokens, t.start.line = before.endCursor.line → t.kind.isComment = false) ∧
        (∀ p ∈ old.parseProblems, p.start.line = before.endCursor.line →
          p.code ≠ ProblemCode.unterminatedString.number) ∧
        old.checkProblems.map (·.code) = [ProblemCode.unusedVariable.number] ∧
        new.tokens ≠ old.tokens := by
    decide +kernel
  have htakes : old.TakesRemark before.endCursor.line := ⟨htoken, hplain, hclosed⟩
  obtain ⟨hrecord, hblocks, hparse, hcheck⟩ := trailing_comment_inert (.ofText ['a']) before after
    " print, y".toList true .none (by decide +kernel) (by decide) htakes
  exact ⟨htakes, htokens, by rw [hcheck, hunused], hrecord, hblocks, hparse, hcheck⟩

end RoutineAtlas
