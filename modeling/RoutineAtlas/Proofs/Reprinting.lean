import RoutineAtlas.Proofs.Lines
import RoutineAtlas.Proofs.Names
import RoutineAtlas.Proofs.Nesting
import RoutineAtlas.Proofs.Selection

/-!
# A printed head reads back

A signature can be printed as the header of a routine. Whatever header it has been read from, with
continued lines, comments or faults, the printed one is a valid line of source, and with a line
`end` after it, reading gives back one routine with the same head.

Three things make it so. What has been scanned as a word is a name through and through. Such a name
scans to the same word again before anything that does not go on with it, and printing puts only
commas, `=` and `::` behind names. And the readers of headers take a reserved word wherever they
take a name, except for the variable of a keyword, which was no reserved word when it was first
read.

## Main definitions

* `Parameter`, `Signature.parameters` — what is printed of parameters.
* `Signature.IsPrintable` — all names in a head are spelled as names are.
* `Signature.SameHead` — two heads say the same, wherever they are written.
* `Analysis.read_headerText` — the head of a routine survives printing and reading.
-/

namespace RoutineAtlas

/-! ## Scanning what is printed -/

section Scanning

variable (line column : Nat) (leading : Bool) {rest : Text}

theorem tokensAt_space : tokensAt line column leading (' ' :: rest) =
    tokensAt line (column + 1) leading rest :=
  rfl

/-- A comma or `=` makes a token by itself, whatever stands behind it. -/
theorem tokensAt_lone {c : Char} (hc : c = ',' ∨ c = '=') :
    tokensAt line column leading (c :: rest) =
      .single (Lexeme.singleKind c) [c] ⟨line, column, 1⟩ ::
        tokensAt line (column + 1) false rest := by
  have hread : Lexeme.read leading c ([] ++ rest) = ⟨Lexeme.singleKind c, 1, none⟩ := by
    rcases hc with rfl | rfl
    · cases rest <;> rfl
    · cases rest <;> rfl
  have hblank : isBlank c = false := by rcases hc with rfl | rfl <;> decide
  exact tokensAt_lexeme line column leading hblank hread rfl

theorem tokensAt_colons : tokensAt line column leading (':' :: ':' :: rest) =
    .single .doubleColon [':', ':'] ⟨line, column, 2⟩ ::
      tokensAt line (column + 2) false rest := by
  have hread : Lexeme.read leading ':' ([':'] ++ rest) = ⟨.doubleColon, 2, none⟩ := rfl
  exact tokensAt_lexeme line column leading (by decide) hread rfl

end Scanning

/-! ## Parameters -/

/-- A parameter as it is printed. -/
inductive Parameter where
  | argument (name : Text)
  | keyword (name target : Text)

namespace Parameter

def text : Parameter → Text
  | argument name => ',' :: ' ' :: name
  | keyword name target => ',' :: ' ' :: name ++ '=' :: target

def argument? : Parameter → Option Text
  | argument name => some name
  | keyword _ _ => none

def keyword? : Parameter → Option (Text × Text)
  | argument _ => none
  | keyword name target => some (name, target)

/-- The names are spelled as names are, and that of a variable is not reserved. -/
def IsPrintable : Parameter → Prop
  | argument name => name.isName = true
  | keyword name target =>
    name.isName = true ∧ target.isName = true ∧ isReservedWord target = false

/-- The parameters in the order in which they are printed. -/
def inOrder (args : List Argument) (keywords : List Keyword) : List Parameter :=
  args.map (fun a => argument a.name) ++ keywords.map fun k => keyword k.name k.target

variable (args : List Argument) (keywords : List Keyword)

theorem filterMap_argument?_inOrder :
    (inOrder args keywords).filterMap argument? = args.map (·.name) := by
  simp [inOrder, List.filterMap_map, Function.comp_def, argument?]

theorem filterMap_keyword?_inOrder :
    (inOrder args keywords).filterMap keyword? = keywords.map fun k => (k.name, k.target) := by
  simp [inOrder, List.filterMap_map, Function.comp_def, keyword?]

theorem nameTail_text (ps : List Parameter) :
    Lexeme.nameTail (ps.flatMap text) = 0 := by
  cases ps with
  | nil => rfl
  | cons p ps => cases p <;> rfl

end Parameter

namespace ParameterText

/-- The parameter without the places of its tokens. -/
def parameter : ParameterText → Parameter
  | argument _ name _ _ => .argument name.text
  | keyword _ name _ target _ _ _ _ => .keyword name.text target.text

theorem names_argument? (ps : List ParameterText) :
    (ps.filterMap argument?).map (·.name) = (ps.map parameter).filterMap Parameter.argument? := by
  rw [List.map_filterMap, List.filterMap_map]
  congr
  funext p
  cases p <;> rfl

theorem names_keyword? (ps : List ParameterText) :
    (ps.filterMap keyword?).map (fun k => (k.name, k.target)) =
      (ps.map parameter).filterMap Parameter.keyword? := by
  rw [List.map_filterMap, List.filterMap_map]
  congr
  funext p
  cases p <;> rfl

end ParameterText

theorem Token.isWord_ofName (name : Text) (span : Span) :
    (Token.ofName name span).isWord = true := by
  unfold ofName
  split <;> rfl

/-- Printed parameters scan to tokens that can be read as these parameters. -/
theorem Parameter.exists_written (line column : Nat) {ps : List Parameter}
    (h : ∀ p ∈ ps, p.IsPrintable) :
    ∃ written : List ParameterText, written.map ParameterText.parameter = ps ∧
      tokensAt line column false (ps.flatMap text) = HeaderText.parameterTokens written := by
  induction ps generalizing column with
  | nil => exact ⟨[], rfl, rfl⟩
  | cons p ps ih =>
    obtain ⟨hp, hps⟩ := List.forall_mem_cons.1 h
    have hnext := nameTail_text ps
    cases p with
    | argument name =>
      obtain ⟨written, rfl, htokens⟩ := ih (column + 1 + 1 + name.length) hps
      refine ⟨.argument (.single .comma [','] ⟨line, column, 1⟩)
        (.ofName name ⟨line, column + 1 + 1, name.length⟩) rfl (Token.isWord_ofName _ _) :: written,
        rfl, ?_⟩
      rw [List.flatMap_cons, text, List.cons_append, List.cons_append,
        tokensAt_lone _ _ _ (.inl rfl), tokensAt_space, tokensAt_name line _ false hp hnext,
        htokens]
      rfl
    | keyword name target =>
      obtain ⟨hname, htarget, hreserved⟩ := hp
      obtain ⟨written, rfl, htokens⟩ :=
        ih (column + 1 + 1 + name.length + 1 + target.length) hps
      refine ⟨.keyword (.single .comma [','] ⟨line, column, 1⟩)
        (.ofName name ⟨line, column + 1 + 1, name.length⟩)
        (.single .operator ['='] ⟨line, column + 1 + 1 + name.length, 1⟩)
        (.ofName target ⟨line, column + 1 + 1 + name.length + 1, target.length⟩) rfl
        (Token.isWord_ofName _ _) rfl (by simp [Token.ofName, Token.single, hreserved]) :: written,
        rfl, ?_⟩
      have htext (rest : Text) : (keyword name target).text ++ rest =
          ',' :: ' ' :: (name ++ '=' :: (target ++ rest)) := by
        simp [text]
      rw [List.flatMap_cons, htext, tokensAt_lone _ _ _ (.inl rfl), tokensAt_space,
        tokensAt_name line _ false hname rfl, tokensAt_lone _ _ _ (.inr rfl),
        tokensAt_name line _ false htarget hnext, htokens]
      rfl

/-! ## Heads -/

/-- The name of a routine, which is a method or not. -/
inductive IsRoutineName : Bool → Text → Prop
  | plain {name : Text} : name.isName = true → IsRoutineName false name
  | method {owner name : Text} : owner.isName = true → name.isName = true →
    IsRoutineName true (owner ++ ':' :: ':' :: name)

theorem IsRoutineName.extendsWord_or_eq {isMethod : Bool} {name : Text}
    (h : IsRoutineName isMethod name) : ∀ c ∈ name, extendsWord c = true ∨ c = ':' := by
  cases h with
  | plain hname => exact fun c hc => .inl (Text.extendsWord_of_isName hname c hc)
  | method howner hname =>
    simp only [List.mem_append, List.mem_cons]
    rintro c (hc | rfl | rfl | hc)
    · exact .inl (Text.extendsWord_of_isName howner c hc)
    · exact .inr rfl
    · exact .inr rfl
    · exact .inl (Text.extendsWord_of_isName hname c hc)

theorem IsRoutineName.exists_written (line column : Nat) {isMethod : Bool} {name rest : Text}
    (h : IsRoutineName isMethod name) (hrest : Lexeme.nameTail rest = 0) :
    ∃ written : NameText, written.text = name ∧ written.isMethod = isMethod ∧
      tokensAt line column false (name ++ rest) =
        written.tokens ++ tokensAt line (column + name.length) false rest := by
  cases h with
  | plain hname =>
    exact ⟨.plain (.ofName name ⟨line, column, name.length⟩) (Token.isWord_ofName _ _), rfl, rfl,
      tokensAt_name line column false hname hrest⟩
  | @method owner name howner hname =>
    refine ⟨.method (.ofName owner ⟨line, column, owner.length⟩)
      (.single .doubleColon [':', ':'] ⟨line, column + owner.length, 2⟩)
      (.ofName name ⟨line, column + owner.length + 2, name.length⟩)
      (Token.isWord_ofName _ _) rfl (Token.isWord_ofName _ _), rfl, rfl, ?_⟩
    rw [List.append_assoc, tokensAt_name line column false howner rfl, List.cons_append,
      List.cons_append, tokensAt_colons, tokensAt_name line _ false hname hrest]
    simp only [NameText.tokens, List.length_append, List.length_cons, List.cons_append,
      List.nil_append]
    congr 4
    omega

namespace Signature

/-- What the head declares, in the order in which it is printed. -/
def parameters (s : Signature) : List Parameter :=
  Parameter.inOrder s.args s.keywords

/-- All names in the head are spelled as names are, and it passes on keywords exactly if one of its
own is for that. -/
structure IsPrintable (s : Signature) : Prop where
  name : IsRoutineName s.kind.isMethod s.name
  parameters : ∀ p ∈ s.parameters, p.IsPrintable
  acceptsExtra : s.acceptsExtra = s.keywords.any fun k => isExtraKeyword k.name

/-- The two heads say the same: they may differ in where they are written. -/
structure SameHead (s t : Signature) : Prop where
  kind : s.kind = t.kind
  name : s.name = t.name
  args : s.args.map (·.name) = t.args.map (·.name)
  keywords : (s.keywords.map fun k => (k.name, k.target)) =
    t.keywords.map fun k => (k.name, k.target)
  acceptsExtra : s.acceptsExtra = t.acceptsExtra

theorem headerText_eq (s : Signature) : s.headerText =
    s.kind.keyword.toList ++ ' ' :: (s.name ++ s.parameters.flatMap Parameter.text) := by
  simp [headerText, parameters, Parameter.inOrder, List.flatMap_append, List.flatMap_map,
    Parameter.text]

variable {s t : Signature}

theorem SameHead.parameters_eq (h : s.SameHead t) : s.parameters = t.parameters := by
  have hargs := congrArg (List.map Parameter.argument) h.args
  have hkeywords := congrArg (List.map fun k => Parameter.keyword k.1 k.2) h.keywords
  simp only [List.map_map, Function.comp_def] at hargs hkeywords
  rw [parameters, parameters, Parameter.inOrder, Parameter.inOrder, hargs, hkeywords]

theorem SameHead.headerText_eq (h : s.SameHead t) : s.headerText = t.headerText := by
  rw [Signature.headerText_eq, Signature.headerText_eq, h.kind, h.name, h.parameters_eq]

theorem SameHead.sameInterface (h : s.SameHead t) : s.sameInterface t = true := by
  have hargs := congrArg (List.map Text.lower) h.args
  have hkeywords := congrArg (List.map fun k => k.1.lower) h.keywords
  simp only [List.map_map, Function.comp_def] at hargs hkeywords
  simp [Signature.sameInterface, key, h.name, h.kind, h.acceptsExtra, hargs, hkeywords]

/-- A printed head scans to the tokens of a valid header, which says the same. -/
theorem IsPrintable.exists_written (h : s.IsPrintable) :
    ∃ written : HeaderText, lineTokens 0 s.headerText = written.statement ∧
      ∀ file, (written.signature file).SameHead s := by
  have hnext := Parameter.nameTail_text s.parameters
  obtain ⟨name, hname, hmethod, htokens⟩ := h.name.exists_written 0
    (0 + s.kind.keyword.toList.length + 1) hnext
  obtain ⟨ps, hps, hparameters⟩ := Parameter.exists_written 0
    (0 + s.kind.keyword.toList.length + 1 + s.name.length) h.parameters
  let word : Token := .ofName s.kind.keyword.toList ⟨0, 0, s.kind.keyword.toList.length⟩
  have hstarts : word.startsRoutine = true := by
    simp only [word]
    cases s.kind <;> rfl
  have hkind : RoutineKind.of (word.isReserved "function") name.isMethod = s.kind := by
    rw [hmethod]
    simp only [word]
    cases s.kind <;> rfl
  have hword : Text.isName s.kind.keyword.toList = true := by cases s.kind <;> rfl
  have hargs : (ps.filterMap ParameterText.argument?).map (·.name) = s.args.map (·.name) := by
    rw [ParameterText.names_argument?, hps, Signature.parameters,
      Parameter.filterMap_argument?_inOrder]
  have hkeywords : (ps.filterMap ParameterText.keyword?).map (fun k => (k.name, k.target)) =
      s.keywords.map fun k => (k.name, k.target) := by
    rw [ParameterText.names_keyword?, hps, Signature.parameters,
      Parameter.filterMap_keyword?_inOrder]
  refine ⟨⟨word, name, ps, hstarts⟩, ?_, fun file => ⟨hkind, hname, hargs, hkeywords, ?_⟩⟩
  · change tokensAt 0 0 true s.headerText = _
    rw [Signature.headerText_eq, tokensAt_name 0 0 true hword rfl, tokensAt_space, htokens,
      hparameters]
    rfl
  · have hany := congrArg (List.any · fun k => isExtraKeyword k.1) hkeywords
    simp only [List.any_map, Function.comp_def] at hany
    exact hany.trans h.acceptsExtra.symm

end Signature

/-! ## What is read can be printed -/

theorem ParameterList.isPrintable_read {ts : List Token} (h : ∀ t ∈ ts, t.IsSpelled)
    (seen : Seen) :
    ∀ p ∈ Parameter.inOrder (read seen ts).args (read seen ts).keywords, p.IsPrintable := by
  -- only the cases that read a parameter hold something to print
  have hargument {t : Token} {problems : List Problem} {l : ParameterList} (ht : t.IsSpelled)
      (hword : t.isWord = true) (hl : ∀ p ∈ Parameter.inOrder l.args l.keywords, p.IsPrintable) :
      ∀ p ∈ Parameter.inOrder (addArgument t problems l).args (addArgument t problems l).keywords,
        p.IsPrintable :=
    List.forall_mem_cons.2 ⟨(ht hword).1, hl⟩
  fun_induction read seen ts with
  | case5 seen separator hcomma t hword isRepeated seen' hseen =>
    exact hargument (h t (by simp)) (by simpa using hword) (by simp [Parameter.inOrder])
  | case7 seen separator hcomma t hword sign hsign target rest htarget isRepeated seen' hseen ih =>
    have hrest := ih fun u hu => h u (by simp [hu])
    have htargetWord : target.isWord = true := by simp [Token.isWord, htarget]
    obtain ⟨hname, -⟩ := h t (by simp) (by simpa using hword)
    obtain ⟨htargetName, span, hspelled⟩ := h target (by simp) htargetWord
    have hreserved : isReservedWord target.text = false := by
      have hkind := congrArg Token.kind hspelled
      simp only [Token.ofName, Token.single, eq_of_beq htarget] at hkind
      cases hcase : isReservedWord target.text with
      | false => rfl
      | true => simp [hcase] at hkind
    intro p hp
    simp only [Parameter.inOrder, addKeyword, List.map_cons, List.mem_append, List.mem_cons] at hp
    rcases hp with hp | rfl | hp
    · exact hrest p (List.mem_append_left _ hp)
    · exact ⟨hname, htargetName, hreserved⟩
    · exact hrest p (List.mem_append_right _ hp)
  | case9 seen separator hcomma t hword sign afterSign hsign isRepeated seen' hseen ih =>
    refine hargument (h t (by simp)) (by simpa using hword) (ih fun u hu => h u ?_)
    exact List.mem_cons_of_mem _ (List.mem_cons_of_mem _ hu)
  | case1 | case2 | case3 | case4 | case6 | case8 => simp [Parameter.inOrder, faulty]

theorem HeaderName.isPrintable_read {name : Token} {after : List Token}
    (h : ∀ t ∈ name :: after, t.IsSpelled) (hword : name.isWord = true) :
    let head := HeaderName.read name after
    IsRoutineName head.isMethod head.text ∧
      ∀ p ∈ Parameter.inOrder head.parameters.args head.parameters.keywords, p.IsPrintable := by
  obtain ⟨hname, hafter⟩ := List.forall_mem_cons.1 h
  have hplain : IsRoutineName false name.text := .plain (hname hword).1
  cases after with
  | nil => exact ⟨hplain, by simp [HeaderName.read, Parameter.inOrder]⟩
  | cons t rest =>
    by_cases ht : t.kind = .doubleColon
    · cases rest with
      | nil => simpa [HeaderName.read, ht, ParameterList.faulty, Parameter.inOrder] using hplain
      | cons method rest =>
        by_cases hmethod : method.isWord = true
        · simp only [HeaderName.read, ht, hmethod, beq_self_eq_true, if_true]
          refine ⟨.method (hname hword).1 (hafter method (by simp) hmethod).1, ?_⟩
          exact ParameterList.isPrintable_read (fun u hu => hafter u (by simp [hu])) _
        · simpa [HeaderName.read, ht, hmethod, ParameterList.faulty, Parameter.inOrder] using hplain
    · simp only [HeaderName.read, beq_false_of_ne ht]
      exact ⟨hplain, ParameterList.isPrintable_read hafter _⟩

theorem RoutineKind.isMethod_of (isFunction isMethod : Bool) :
    (RoutineKind.of isFunction isMethod).isMethod = isMethod := by
  cases isFunction <;> cases isMethod <;> rfl

theorem Header.isPrintable_read {file : Path} {word : Token} {after : List Token}
    (h : ∀ t ∈ after, t.IsSpelled) {s : Signature}
    (hread : (Header.read file word after).signature = some s) : s.IsPrintable := by
  cases after with
  | nil => simp [Header.read] at hread
  | cons name rest =>
    simp only [Header.read] at hread
    split at hread
    · rename_i hword
      obtain rfl := Option.some.inj hread
      obtain ⟨hname, hparameters⟩ := HeaderName.isPrintable_read h hword
      exact ⟨(RoutineKind.isMethod_of _ _).symm ▸ hname, hparameters, rfl⟩
    · cases hread

/-- Every head that is read can be printed. -/
theorem Analysis.isPrintable_of_mem_signatures {path : Path} {text : Text} {s : Signature}
    (hs : s ∈ (Analysis.read path text).record.signatures) : s.IsPrintable := by
  have hlaid := laid_tokensFrom text.sourceLines
  obtain ⟨word, after, hsplit, -, hread⟩ := Outline.header_of_mem_signatures
    (Outline.allotted_ofStatements path (Statement.nodup_split hlaid)) hs
  refine Header.isPrintable_read (fun t ht => ?_) hread
  exact isSpelled_of_mem_tokensFrom
    ((Statement.sublist_of_mem_split hsplit).subset (List.mem_cons_of_mem _ ht))

/-! ## A printed head and its end -/

theorem Token.isContent_of_kind {t : Token} {kind : TokenKind} (h : t.kind = kind)
    (hkind : kind ∈ [.reserved, .comma, .doubleColon, .operator]) : t.isContent = true := by
  subst h
  simp only [List.mem_cons, List.not_mem_nil, or_false] at hkind
  rcases hkind with hkind | hkind | hkind | hkind <;> simp [isContent, hkind, TokenKind.isComment]

theorem NameText.isContent_of_mem_tokens (n : NameText) : ∀ t ∈ n.tokens, t.isContent = true := by
  cases n with
  | plain name isWord => simpa [tokens] using Token.isContent_of_isWord isWord
  | method owner colons name owner_isWord isDoubleColon name_isWord =>
    simpa [tokens] using ⟨Token.isContent_of_isWord owner_isWord,
      Token.isContent_of_kind isDoubleColon (by simp), Token.isContent_of_isWord name_isWord⟩

theorem ParameterText.isContent_of_mem_tokens (p : ParameterText) :
    ∀ t ∈ p.tokens, t.isContent = true := by
  cases p with
  | argument comma name isComma isWord =>
    simpa [tokens] using
      ⟨Token.isContent_of_kind isComma (by simp), Token.isContent_of_isWord isWord⟩
  | keyword comma name sign target isComma isWord isSign isIdentifier =>
    have hsign : sign.kind = .operator := by
      simp only [Token.isOperator, Bool.and_eq_true, beq_iff_eq] at isSign
      exact isSign.1
    have htarget : target.isWord = true := by simp [Token.isWord, isIdentifier]
    simpa [tokens] using
      ⟨Token.isContent_of_kind isComma (by simp), Token.isContent_of_isWord isWord,
        Token.isContent_of_kind hsign (by simp), Token.isContent_of_isWord htarget⟩

/-- A valid header is one statement of one line. -/
theorem HeaderText.isContent_of_mem_statement (h : HeaderText) :
    ∀ t ∈ h.statement, t.isContent = true := by
  refine List.forall_mem_cons.2 ⟨?_, List.forall_mem_append.2
    ⟨h.name.isContent_of_mem_tokens, fun t ht => ?_⟩⟩
  · have hreserved : h.word.kind = .reserved := by
      have hstarts := h.startsRoutine
      simp only [Token.startsRoutine, Token.isReserved, Bool.or_eq_true, Bool.and_eq_true,
        beq_iff_eq] at hstarts
      exact hstarts.elim And.left And.left
    exact Token.isContent_of_kind hreserved (by simp)
  · obtain ⟨p, -, ht⟩ := List.mem_flatMap.1 ht
    exact p.isContent_of_mem_tokens t ht

/-- Text of names and of the marks between them. -/
theorem Signature.IsPrintable.not_mem_headerText {s : Signature} (h : s.IsPrintable) {c : Char}
    (hc : extendsWord c = false) (hmark : c ∉ [' ', ',', '=', ':']) : c ∉ s.headerText := by
  have hname {name : Text} (hname : name.isName = true) : c ∉ name := by
    intro hmem
    rw [Text.extendsWord_of_isName hname c hmem] at hc
    cases hc
  simp only [List.mem_cons, List.not_mem_nil, or_false, not_or] at hmark
  obtain ⟨hspace, hcomma, hsign, hcolon⟩ := hmark
  rw [headerText_eq]
  simp only [List.mem_append, List.mem_cons, List.mem_flatMap, not_or, not_exists, not_and]
  refine ⟨?_, hspace, ?_, ?_⟩
  · exact hname (by cases s.kind <;> rfl)
  · intro hmem
    rcases h.name.extendsWord_or_eq c hmem with hword | hword
    · rw [hword] at hc
      cases hc
    · exact hcolon hword
  · intro p hp
    have hprintable := h.parameters p hp
    cases p with
    | argument name => simp [Parameter.text, hcomma, hspace, hname hprintable]
    | keyword name target =>
      simp [Parameter.text, hcomma, hspace, hsign, hname hprintable.1, hname hprintable.2.1]

/-- The lines of a printed head with a line `end` after it, which may itself be ended. -/
theorem Signature.IsPrintable.sourceLines_eq {s : Signature} (h : s.IsPrintable) {last : Text}
    (hlast : last ∈ [[], ['\n']]) :
    Text.sourceLines (s.headerText ++ '\n' :: ("end".toList ++ last)) =
      s.headerText :: "end".toList :: List.replicate last.length [] := by
  have hfeed : '\n' ∉ s.headerText := h.not_mem_headerText rfl (by decide)
  have hreturn : '\r' ∉ s.headerText := h.not_mem_headerText rfl (by decide)
  have hrest : (piecesBetween '\n' ("end".toList ++ last)).map Text.withoutReturn =
      "end".toList :: List.replicate last.length [] := by
    simp only [List.mem_cons, List.not_mem_nil, or_false] at hlast
    rcases hlast with rfl | rfl <;> decide
  have hnext : piecesBetween '\n' ('\n' :: ("end".toList ++ last)) =
      [] :: piecesBetween '\n' ("end".toList ++ last) := rfl
  rw [Text.sourceLines, Text.piecesAt, piecesBetween_append hfeed hnext, List.append_nil,
    List.map_cons, Text.withoutReturn_eq hreturn, hrest]

theorem tokensFrom_replicate_nil (first count : Nat) :
    tokensFrom first (List.replicate count []) = [] := by
  induction count generalizing first with
  | zero => rfl
  | succ count ih => rw [List.replicate_succ, tokensFrom_cons, ih]; rfl

theorem statementsFrom_replicate_nil (first count : Nat) :
    statementsFrom first (List.replicate count []) = [] := by
  induction count generalizing first with
  | zero => rfl
  | succ count ih => rw [List.replicate_succ, statementsFrom, ih]; rfl

theorem Token.isPlain_of_isContent {t : Token} (h : t.isContent = true) : t.IsPlain := by
  simp only [isContent, Bool.and_eq_true, bne_iff_ne] at h
  exact ⟨h.2, h.1.2⟩

theorem withoutComments_eq_self {ts : List Token} (h : ∀ t ∈ ts, t.isContent = true) :
    withoutComments ts = ts := by
  refine List.filter_eq_self.2 fun t ht => ?_
  have hcontent := h t ht
  simp only [Token.isContent, Bool.and_eq_true] at hcontent
  exact hcontent.1.1

/-- A printed head with a line `end` after it reads as one routine with the same head. -/
theorem Signature.IsPrintable.exists_routine {s : Signature} (h : s.IsPrintable) (file : Path)
    {last : Text} (hlast : last ∈ [[], ['\n']]) :
    ∃ t : Signature, t.SameHead s ∧
      (Analysis.read file (s.headerText ++ '\n' :: ("end".toList ++ last))).record.routines =
        [⟨t, 0, true⟩] := by
  obtain ⟨written, htokens, hsame⟩ := h.exists_written
  let ending : Token := .ofName "end".toList ⟨1, 0, 3⟩
  have hend : lineTokens 1 "end".toList = [ending] := rfl
  let routine : RoutineText := ⟨written, [], ending, .nil, rfl⟩
  have hcontent := written.isContent_of_mem_statement
  have hlines : OnePerLine (s.headerText :: "end".toList :: List.replicate last.length [])
      ([routine].flatMap RoutineText.statements) := by
    constructor
    · rw [tokensFrom_cons, tokensFrom_cons, tokensFrom_replicate_nil, htokens, hend]
      refine List.forall_mem_append.2 ⟨fun t ht => Token.isPlain_of_isContent (hcontent t ht), ?_⟩
      have hending : ending.IsPlain := Token.isPlain_of_isContent rfl
      simpa using hending
    · rw [statementsFrom, statementsFrom, statementsFrom_replicate_nil, lineStatement,
        lineStatement, htokens, hend, withoutComments_eq_self hcontent]
      rfl
  refine ⟨written.signature file, hsame file, ?_⟩
  have hread := (Record.recovers_program file [routine] _ hlines).1
  rw [← h.sourceLines_eq hlast] at hread
  exact hread

/-- For every text and every head in its record: the head as it is printed, with a line `end` after
it, reads as one routine, which has its end. It is of the same kind and name, with the same
arguments, keywords and variables in the same order; so it can be called in the same ways, and it is
printed alike. -/
theorem Analysis.read_headerText (path file : Path) (text : Text) (s : Signature)
    (hs : s ∈ (Analysis.read path text).record.signatures) (last : Text)
    (hlast : last ∈ [[], ['\n']]) :
    ∃ t : Signature,
      (Analysis.read file (s.headerText ++ '\n' :: ("end".toList ++ last))).record.routines =
        [⟨t, 0, true⟩] ∧
      t.SameHead s ∧ t.sameInterface s = true ∧ t.headerText = s.headerText := by
  obtain ⟨t, hsame, hroutines⟩ :=
    (Analysis.isPrintable_of_mem_signatures hs).exists_routine file hlast
  exact ⟨t, hroutines, hsame, hsame.sameInterface, hsame.headerText_eq⟩

/-- A method and parameters that are called like reserved words or hold dollar signs, in a header
over two lines that is reported as invalid, of a routine that lacks its end. -/
theorem Analysis.read_headerText_invalid :
    let text := "Function a$1::end, $ ; a method\n  begin, IF = v$2, 3\n".toList
    let head := "function a$1::end, begin, IF=v$2"
    ∃ s ∈ (Analysis.read (.ofString "a.pro") text).record.signatures,
      s.headerText = head.toList ∧ ∃ t : Signature,
        (Analysis.read (.ofString "b.pro") (head.toList ++ "\nend\n".toList)).record.routines =
          [⟨t, 0, true⟩] ∧
        t.SameHead s ∧ t.sameInterface s = true ∧ t.headerText = head.toList := by
  intro text head
  let s : Signature := ⟨"a$1::end".toList, .functionMethod, [⟨"begin".toList, ⟨1, 2, 5⟩⟩],
    [⟨"IF".toList, "v$2".toList, ⟨1, 9, 2⟩, ⟨1, 14, 3⟩⟩], false, .ofString "a.pro", ⟨0, 9, 8⟩,
    ⟨0, 0, 8⟩, ⟨1, 19, 1⟩⟩
  have hs : s ∈ (Analysis.read (.ofString "a.pro") text).record.signatures := by decide +kernel
  have hhead : s.headerText = head.toList := by decide +kernel
  obtain ⟨t, hroutines, hsame, hinterface, hprinted⟩ :=
    Analysis.read_headerText (.ofString "a.pro") (.ofString "b.pro") text s hs ['\n'] (by simp)
  rw [hhead] at hroutines hprinted
  exact ⟨s, hs, hhead, t, hroutines, hsame, hinterface, hprinted⟩

end RoutineAtlas
