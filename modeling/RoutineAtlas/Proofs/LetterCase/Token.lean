import RoutineAtlas.Proofs.LetterCase.Text
import RoutineAtlas.Token.Scan

/-!
# Tokens in small letters

Where a lexeme ends and of which kind it is depends on the classes of its characters and, for a
word, on its small form. Scanning a text in small letters therefore gives the tokens of the text,
each in small letters and at its place.

## Main definitions

* `Token.lower` — the token in small letters.
* `Lexeme.read_lower` — a lexeme is read alike in either case.
* `scanLinesFrom_lower` — the tokens of small lines.
-/

namespace RoutineAtlas

namespace Lexeme

variable {p : Char → Bool}

theorem caseBlind_isOctalDigit : CaseBlind isOctalDigit := caseBlind_of_capitals (by decide)

theorem caseBlind_isHexDigit : CaseBlind isHexDigit := caseBlind_of_capitals (by decide)

theorem next_lower (hp : CaseBlind p) (cs : Text) : next p cs.lower = next p cs := by
  cases cs with
  | nil => rfl
  | cons c cs => exact hp c

theorem run_lower (hp : CaseBlind p) (cs : Text) : run p cs.lower = run p cs := by
  rw [run, Text.takeWhile_lower hp, Text.length_lower, run]

theorem nameTail_lower (cs : Text) : nameTail cs.lower = nameTail cs := by
  induction cs with
  | nil => rfl
  | cons c cs ih =>
    rw [Text.lower_cons, nameTail, nameTail, caseBlind_isNameChar, beq_toLower rfl,
      next_lower caseBlind_isNameChar, ih]

/-! ## Numbers -/

theorem typeSuffix_lower (cs : Text) : typeSuffix cs.lower = typeSuffix cs := by
  simp only [typeSuffix, Text.lower_lower, Text.drop_lower, next_lower caseBlind_extendsWord]

theorem withSuffix_lower (cs : Text) (digits : Nat) :
    withSuffix cs.lower digits = withSuffix cs digits := by
  rw [withSuffix, Text.drop_lower, typeSuffix_lower, withSuffix]

theorem hasBaseMarker_cons (c : Char) (cs : Text) : hasBaseMarker (c :: cs) =
    (c == '0' && match cs with
      | marker :: digit :: _ => "xbo".toList.contains marker.toLower && isHexDigit digit
      | _ => false) := by
  by_cases hc : c = '0'
  · subst hc
    match cs with
    | [] => rfl
    | [_] => rfl
    | _ :: _ :: _ => rfl
  · rw [beq_eq_false_iff_ne.2 hc, Bool.false_and, hasBaseMarker]
    intro marker digit rest heq
    exact hc (List.cons.inj heq).1

theorem hasBaseMarker_lower (cs : Text) : hasBaseMarker cs.lower = hasBaseMarker cs := by
  cases cs with
  | nil => rfl
  | cons c cs =>
    rw [Text.lower_cons, hasBaseMarker_cons, hasBaseMarker_cons, beq_toLower rfl]
    match cs with
    | [] => rfl
    | [_] => rfl
    | marker :: digit :: _ =>
      simp only [Text.lower_cons, toLower_toLower, caseBlind_isHexDigit digit]

theorem fraction_cons (c : Char) (cs : Text) : fraction (c :: cs) =
    if c == '.' then
      if next (fun c => c.isAlpha && !"ed".toList.contains c.toLower) cs then 0
      else run Char.isDigit cs + 1
    else 0 := by
  by_cases hc : c = '.'
  · subst hc
    rfl
  · rw [if_neg (by simpa using hc), fraction]
    intro rest heq
    exact hc (List.cons.inj heq).1

theorem fraction_lower (cs : Text) : fraction cs.lower = fraction cs := by
  cases cs with
  | nil => rfl
  | cons c cs =>
    rw [Text.lower_cons, fraction_cons, fraction_cons, beq_toLower rfl,
      next_lower (caseBlind_of_capitals (by decide)), run_lower caseBlind_isDigit]

theorem exponent_lower (cs : Text) : exponent cs.lower = exponent cs := by
  cases cs with
  | nil => rfl
  | cons marker rest =>
    have hsign : CaseBlind fun c => c == '+' || c == '-' := caseBlind_of_capitals (by decide)
    simp only [exponent, Text.lower_cons, toLower_toLower, Text.drop_lower, next_lower hsign,
      run_lower caseBlind_isDigit, next_lower caseBlind_extendsWord]

theorem number_lower (cs : Text) : number cs.lower = number cs := by
  simp only [number, hasBaseMarker_lower, withSuffix_lower, Text.drop_lower,
    run_lower caseBlind_isHexDigit, run_lower caseBlind_isDigit, fraction_lower, exponent_lower]

/-! ## Literals, marks and words -/

theorem quotedTail_lower {quote : Char} (hquote : quote.isAlpha = false) (cs : Text) :
    quotedTail quote cs.lower = quotedTail quote cs := by
  fun_induction quotedTail quote cs with
  | case1 => rfl
  | case2 c hc =>
    simp only [Text.lower_cons, Text.lower_nil, quotedTail, beq_toLower hquote, hc, if_true]
  | case3 c hc d ds hd ih =>
    simp only [Text.lower_cons, quotedTail, beq_toLower hquote, hc, hd, if_true, ih]
  | case4 c hc d ds hd =>
    simp only [Text.lower_cons, quotedTail, beq_toLower hquote, hc, hd, if_true, if_false,
      Bool.false_eq_true]
  | case5 c cs hc ih =>
    rw [Text.lower_cons, quotedTail.eq_def]
    simp only [beq_toLower hquote, hc, if_false, Bool.false_eq_true, ih]

theorem quoted_lower {quote : Char} (hquote : quote.isAlpha = false) (cs : Text) :
    quoted quote cs.lower = quoted quote cs := by
  rw [quoted, quoted, quotedTail_lower hquote, Text.length_lower]
  cases quotedTail quote cs with
  | none => rfl
  | some tail =>
    simp only [Text.drop_lower]
    cases cs.drop tail with
    | nil => rfl
    | cons marker rest =>
      simp only [Text.lower_cons, toLower_toLower, next_lower caseBlind_extendsWord,
        typeSuffix_lower]

theorem pairKind_toLower (c d : Char) : pairKind c.toLower d.toLower = pairKind c d := by
  have hmarks : pairOperators.all (fun x => !x.1.isAlpha && !x.2.isAlpha) = true := by decide
  have hpair (x : Char × Char) (hx : x ∈ pairOperators) :
      x.1.isAlpha = false ∧ x.2.isAlpha = false := by
    simpa using List.all_eq_true.1 hmarks x hx
  have hoperator :
      pairOperators.contains (c.toLower, d.toLower) = pairOperators.contains (c, d) := by
    rw [Bool.eq_iff_iff, List.contains_iff_mem, List.contains_iff_mem]
    constructor
    · intro h
      obtain ⟨hc, hd⟩ := hpair _ h
      have hsame : (c, d) = (c.toLower, d.toLower) :=
        Prod.ext ((toLower_eq_iff hc).1 rfl) ((toLower_eq_iff hd).1 rfl)
      rwa [hsame]
    · intro h
      obtain ⟨hc, hd⟩ := hpair _ h
      rwa [(toLower_eq_iff hc).2 rfl, (toLower_eq_iff hd).2 rfl]
  simp only [pairKind, beq_toLower (x := '-') rfl, beq_toLower (x := '>') rfl,
    beq_toLower (x := ':') rfl, hoperator]

theorem lone_toLower (c : Char) : lone c.toLower = lone c := by
  have hkind : CaseBlind singleKind := caseBlind_of_capitals (by decide)
  rw [lone, hkind c, lone]

theorem mark_lower (c : Char) (cs : Text) : mark c.toLower cs.lower = mark c cs := by
  cases cs with
  | nil => exact lone_toLower c
  | cons d ds => simp only [mark, Text.lower_cons, pairKind_toLower, lone_toLower]

theorem comment_lower (leading : Bool) (cs : Text) :
    comment leading cs.lower = comment leading cs := by
  have hplus : CaseBlind (· == '+') := caseBlind_of_capitals (by decide)
  have hminus : CaseBlind (· == '-') := caseBlind_of_capitals (by decide)
  rw [comment, comment, next_lower hplus, next_lower hminus, Text.length_lower]

theorem lineContinuation_lower (cs : Text) : lineContinuation cs.lower = lineContinuation cs := by
  have hother : CaseBlind (· != ';') := caseBlind_of_capitals (by decide)
  rw [lineContinuation, Text.trimStart_lower, next_lower hother, lineContinuation]

theorem word_lower (c : Char) (cs : Text) : word c.toLower cs.lower = word c cs := by
  have hreserved (t : Text) : isReservedWord t.lower = isReservedWord t := by
    rw [isReservedWord, Text.lower_lower, isReservedWord]
  rw [word, word, nameTail_lower, Text.take_lower, ← Text.lower_cons, hreserved]

/-- A lexeme is read alike in either case. -/
theorem read_lower (leading : Bool) (c : Char) (cs : Text) :
    read leading c.toLower cs.lower = read leading c cs := by
  -- Of all branches only a literal keeps its first character, to find the quote that closes it.
  have hquoted (h : (c == '\'' || c == '"') = true) :
      quoted c.toLower cs.lower = quoted c cs := by
    have hmark : c = '\'' ∨ c = '"' := by simpa using h
    obtain rfl | rfl := hmark
    · exact quoted_lower rfl cs
    · exact quoted_lower rfl cs
  simp only [read, beq_toLower (x := ';') rfl, beq_toLower (x := '$') rfl,
    beq_toLower (x := '"') rfl, beq_toLower (x := '\'') rfl, beq_toLower (x := '!') rfl,
    beq_toLower (x := '.') rfl, comment_lower, lineContinuation_lower, ← Text.lower_cons,
    withSuffix_lower, number_lower, nameTail_lower, run_lower caseBlind_isOctalDigit,
    next_lower caseBlind_isOctalDigit, next_lower caseBlind_isNameStart,
    next_lower caseBlind_isDigit, caseBlind_isDigit c, caseBlind_isNameStart c, word_lower,
    mark_lower]
  by_cases hquote : (c == '\'' || c == '"') = true
  · rw [hquoted hquote]
  · simp only [hquote, Bool.false_eq_true, if_false]

end Lexeme

/-! ## Tokens -/

namespace Token

/-- The token in small letters. -/
def lower (t : Token) : Token :=
  { t with text := t.text.lower }

variable (t : Token)

@[simp] theorem kind_lower : t.lower.kind = t.kind :=
  rfl

@[simp] theorem text_lower : t.lower.text = t.text.lower :=
  rfl

@[simp] theorem start_lower : t.lower.start = t.start :=
  rfl

@[simp] theorem isReserved_lower (word : String) : t.lower.isReserved word = t.isReserved word := by
  rw [isReserved, Text.sameName, text_lower, Text.lower_lower]
  rfl

@[simp] theorem startsRoutine_lower : t.lower.startsRoutine = t.startsRoutine := by
  rw [startsRoutine, isReserved_lower, isReserved_lower, startsRoutine]

end Token

/-! ## Scanning -/

/-- The scanned token in small letters. -/
def ScannedToken.lower (s : ScannedToken) : ScannedToken :=
  { s with token := s.token.lower }

theorem scanFrom_lower (line column skip : Nat) (leading : Bool) (cs : Text) :
    scanFrom line column skip leading cs.lower =
      (scanFrom line column skip leading cs).map ScannedToken.lower := by
  fun_induction scanFrom line column skip leading cs with
  | case1 => rfl
  | case2 column skip leading c cs ih => rw [Text.lower_cons, scanFrom, ih]
  | case3 column leading c cs hblank ih =>
    rw [Text.lower_cons, scanFrom, caseBlind_isBlank, if_pos hblank, ih]
  | case4 column leading c cs hblank lexeme token ih =>
    rw [Text.lower_cons, scanFrom, caseBlind_isBlank, if_neg hblank, Lexeme.read_lower]
    simp only [← Text.lower_cons, Text.take_lower, List.map_cons, ← ih]
    rfl

theorem scanLinesFrom_lower (first : Nat) (lines : List Text) :
    scanLinesFrom first (lines.map Text.lower) =
      (scanLinesFrom first lines).map ScannedToken.lower := by
  induction lines generalizing first with
  | nil => rfl
  | cons line lines ih =>
    rw [List.map_cons, scanLinesFrom, scanLinesFrom, List.map_append, ih, scanLine, scanFrom_lower,
      scanLine]

/-! ## Problems

The text of a problem may quote the source, so it is small letters that two reports have in
common. The fixed part of a message has capitals of its own: a report on the small text is not in
small letters, but comes to the same once it is put so. -/

/-- A string in small letters. -/
def lowerString (s : String) : String :=
  String.ofList (Text.lower s.toList)

@[simp] theorem lowerString_append (s t : String) :
    lowerString (s ++ t) = lowerString s ++ lowerString t := by
  rw [lowerString, String.toList_append, Text.lower_append, String.ofList_append]
  rfl

@[simp] theorem lowerString_ofList (t : Text) :
    lowerString (String.ofList t) = String.ofList t.lower := by
  rw [lowerString, String.toList_ofList]

namespace Problem

/-- The problem with its text in small letters. -/
def lower (p : Problem) : Problem :=
  { p with info := lowerString p.info }

theorem sort_map_lower (ps : List Problem) : sort (ps.map lower) = (sort ps).map lower := by
  symm
  exact List.map_mergeSort fun p _ q _ => rfl

end Problem

theorem ScannedToken.map_lower_problem? (s : ScannedToken) :
    s.lower.problem?.map Problem.lower = s.problem?.map Problem.lower := by
  obtain ⟨token, fault⟩ := s
  cases fault with
  | none => rfl
  | some code =>
    cases code with
    | unknownToken =>
      simp [problem?, lower, Problem.on, Problem.lower, ProblemCode.messageColon]
    | _ => rfl

namespace TokenStream

theorem dangling?_lower (ts : List Token) :
    dangling? (ts.map Token.lower) = (dangling? ts).map Token.lower := by
  rw [dangling?, dangling?, ← List.map_reverse, List.find?_map,
    show ((fun t : Token => !t.kind.isComment) ∘ Token.lower) = fun t => !t.kind.isComment from rfl]
  cases ts.reverse.find? fun t => !t.kind.isComment with
  | none => rfl
  | some t =>
    simp only [Option.map_some, Token.kind_lower]
    by_cases hkind : t.kind = .continuation <;> simp [hkind]

variable (lines : List Text)

/-- The tokens of small lines are the small tokens. -/
theorem tokens_ofLines_lower :
    (ofLines (lines.map Text.lower)).tokens = (ofLines lines).tokens.map Token.lower := by
  simp only [ofLines, scanLinesFrom_lower, List.map_map]
  rfl

theorem problems_ofLines_lower : (ofLines (lines.map Text.lower)).problems.map Problem.lower =
    (ofLines lines).problems.map Problem.lower := by
  have hscanned (ss : List ScannedToken) :
      ((ss.map ScannedToken.lower).filterMap (·.problem?)).map Problem.lower =
        (ss.filterMap (·.problem?)).map Problem.lower := by
    rw [List.filterMap_map, List.map_filterMap, List.map_filterMap]
    exact congrArg (fun f => ss.filterMap f) (funext ScannedToken.map_lower_problem?)
  have htokens : (scanLinesFrom 0 (lines.map Text.lower)).map (·.token) =
      ((scanLinesFrom 0 lines).map (·.token)).map Token.lower := tokens_ofLines_lower lines
  rw [ofLines, ofLines, htokens, dangling?_lower, scanLinesFrom_lower]
  simp only [List.map_append, hscanned]
  cases dangling? ((scanLinesFrom 0 lines).map (·.token)) <;> rfl

end TokenStream

end RoutineAtlas
