import RoutineAtlas.Proofs.Record
import RoutineAtlas.Proofs.Transcription.Statement

/-!
# Records of what is written down again

Reading statements into a record compares names by their small forms only, and carries places along
without a look at them. Two readers that walk through the same statements, the one as they are and
the other as they are written down again, therefore stay in step: after every statement the second
has the first one's routines and scopes, written down again, with the same routine open at the same
depth. Their problems agree as far as the transcription goes, since a report may quote a name and
says where it stands.

## Main definitions

* `Transcription.record`, `Transcription.problem` — a record and a problem, written down again.
* `Outline.Transcribed` — the two readers are in step.
* `Outline.transcribed_ofStatements` — they are so after all statements of a file.
-/

namespace RoutineAtlas

namespace Transcription

variable (f : Transcription)

/-! ## Variables and findings -/

/-- The kind of a variable, with its names written down again. -/
def bindingKind : BindingKind → BindingKind
  | .keyword name => .keyword (f.text name)
  | .common block => .common (f.text block)
  | kind => kind

/-- The occurrence, written down again. -/
def occurrence (o : Occurrence) : Occurrence :=
  ⟨f.span o.span, o.role⟩

/-- The variable, written down again; its own name is in small letters, which stay. -/
def binding (b : Binding) : Binding :=
  ⟨b.name, f.bindingKind b.kind, b.occurrences.map f.occurrence⟩

theorem occur_map (bs : List Binding) (name : Text) (kind : BindingKind) (o : Occurrence) :
    occur (bs.map f.binding) (f.text name) (f.bindingKind kind) (f.occurrence o) =
      (occur bs name kind o).map f.binding := by
  induction bs with
  | nil => simp [occur, binding, f.lower_text]
  | cons b bs ih =>
    have hname : (f.binding b).name = b.name := rfl
    rw [List.map_cons, occur, occur, hname, f.lower_text, ih]
    split
    · simp [binding]
    · rfl

/-- What has been found, written down again. -/
def finding : Finding → Finding
  | .occurrence name kind o => .occurrence (f.text name) (f.bindingKind kind) (f.occurrence o)
  | .call site => .call (f.callSite site)

theorem bind_finding (bs : List Binding) (found : Finding) :
    Finding.bind (bs.map f.binding) (f.finding found) = (Finding.bind bs found).map f.binding := by
  cases found with
  | occurrence name kind o => exact f.occur_map bs name kind o
  | call site => rfl

theorem call?_finding (found : Finding) : (f.finding found).call? = found.call?.map f.callSite := by
  cases found <;> rfl

theorem ofRole?_place (scope : Nat) (p : Place) (role : IdentifierRole) :
    Finding.ofRole? scope (f.place p) role = (Finding.ofRole? scope p role).map f.finding := by
  cases role with
  | call kind => exact congrArg (some ∘ Finding.call) (f.call_place p kind scope)
  | _ => rfl

theorem findings_statement (s : Statement) (scope : Nat) (known : List Text) :
    Statement.findings (s.map f.token) scope known = (s.findings scope known).map f.finding := by
  have hblock : (((s.map f.token)[1]?.map (·.text)).getD [] : Text) =
      f.text ((s[1]?.map (·.text)).getD []) := by
    rw [List.getElem?_map]
    cases s[1]? with
    | none => exact f.text_nil.symm
    | some t => rfl
  rw [Statement.findings, Statement.findings, isSilent_statement, isCommon_statement,
    isLabel_statement, commonMembers_statement, roles_statement, hblock]
  split
  · rfl
  · split
    · rw [List.map_map, List.map_map]
      rfl
    · split
      · rfl
      · rw [List.filterMap_map, List.map_filterMap]
        exact congrArg (fun g => (s.roles known).filterMap g)
          (funext fun x => f.ofRole?_place scope x.1 x.2)

/-! ## Scopes -/

/-- The scope, written down again. -/
def scope (s : Scope) : Scope :=
  ⟨s.kind, f.span s.start, f.span s.stop, s.bindings.map f.binding⟩

/-- The draft, written down again. -/
def scopeDraft (d : ScopeDraft) : ScopeDraft :=
  ⟨d.kind, f.span d.start, f.span d.stop, d.bindings.map f.binding,
    d.statements.map (List.map f.token)⟩

section

variable (d : ScopeDraft) (index : Nat)

theorem known_scopeDraft : (f.scopeDraft d).known = d.known := by
  simp only [ScopeDraft.known, scopeDraft, List.map_map, List.flatMap_map, defined_statement]
  rfl

theorem findings_scopeDraft :
    (f.scopeDraft d).findings index = (d.findings index).map f.finding := by
  have hstatements : (f.scopeDraft d).statements = d.statements.map (List.map f.token) := rfl
  simp only [ScopeDraft.findings, known_scopeDraft, hstatements, List.flatMap_map,
    findings_statement, List.map_flatMap]

theorem scope_scopeDraft : (f.scopeDraft d).scope index = f.scope (d.scope index) := by
  rw [ScopeDraft.scope, findings_scopeDraft, List.foldl_map, ScopeDraft.scope]
  simp only [scopeDraft, scope]
  rw [List.foldl_hom (List.map f.binding) fun bs found => f.bind_finding bs found]

theorem calls_scopeDraft : (f.scopeDraft d).calls index = (d.calls index).map f.callSite := by
  rw [ScopeDraft.calls, findings_scopeDraft, List.filterMap_map, ScopeDraft.calls,
    List.map_filterMap]
  exact congrArg (fun g => (d.findings index).filterMap g) (funext f.call?_finding)

end

/-! ## Signatures and problems -/

/-- The argument, written down again. -/
def argument (a : Argument) : Argument :=
  ⟨f.text a.name, f.span a.span⟩

/-- The keyword, written down again. -/
def keyword (k : Keyword) : Keyword :=
  ⟨f.text k.name, f.text k.target, f.span k.span, f.span k.targetSpan⟩

/-- The signature, written down again. -/
def signature (s : Signature) : Signature :=
  { s with
    name := f.text s.name
    args := s.args.map f.argument
    keywords := s.keywords.map f.keyword
    nameSpan := f.span s.nameSpan
    start := f.span s.start
    stop := f.span s.stop }

theorem key_signature (s : Signature) : (f.signature s).key = s.key :=
  congrArg (RoutineKey.mk · s.kind) (f.lower_text s.name)

theorem isExtraKeyword_text (name : Text) : isExtraKeyword (f.text name) = isExtraKeyword name := by
  rw [isExtraKeyword, f.lower_text, isExtraKeyword]

theorem headerBindings_signature (s : Signature) :
    Outline.headerBindings (f.signature s) = (Outline.headerBindings s).map f.binding := by
  have hargs (bs : List Binding) :
      s.args.foldl (fun bs a => occur bs (f.text a.name) .argument ⟨f.span a.span, .definition⟩)
          (bs.map f.binding) =
        (s.args.foldl (fun bs a => occur bs a.name .argument ⟨a.span, .definition⟩) bs).map
          f.binding :=
    List.foldl_hom _ fun bs a => f.occur_map bs a.name .argument ⟨a.span, .definition⟩
  have hkeywords (bs : List Binding) :
      s.keywords.foldl (fun bs k => occur bs (f.text k.target) (.keyword (f.text k.name))
          ⟨f.span k.targetSpan, .definition⟩) (bs.map f.binding) =
        (s.keywords.foldl (fun bs k => occur bs k.target (.keyword k.name)
          ⟨k.targetSpan, .definition⟩) bs).map f.binding :=
    List.foldl_hom _ fun bs k =>
      f.occur_map bs k.target (.keyword k.name) ⟨k.targetSpan, .definition⟩
  rw [Outline.headerBindings, Outline.headerBindings, ← hkeywords, ← hargs, signature,
    List.foldl_map, List.foldl_map]
  rfl

/-- The routine, written down again. -/
def routine (r : Routine) : Routine :=
  { r with signature := f.signature r.signature }

/-- The record, written down again. -/
def record (r : Record) : Record where
  routines := r.routines.map f.routine
  scopes := r.scopes.map f.scope
  calls := r.calls.map f.callSite

/-- What a problem has in common with that of the transcript. -/
def problem (p : Problem) : Problem :=
  ⟨p.code, f.info p.info, f.span p.start, f.span p.stop⟩

theorem problem_on (code : ProblemCode) {info info' : String} (h : f.info info' = f.info info)
    (span : Span) : f.problem (.on code info' (f.span span)) = f.problem (.on code info span) := by
  simp only [problem, Problem.on, h, f.span_span]

/-- A fault is reported alike at its place in the transcript. -/
theorem problem_fault (fault : HeaderFault) (span : Span) :
    f.problem (fault.problem (f.span span)) = f.problem (fault.problem span) :=
  f.problem_on _ rfl span

/-- So is one that quotes what it found. -/
theorem problem_unexpected (text : Text) (span : Span) :
    f.problem ((HeaderFault.unexpected (f.text text)).problem (f.span span)) =
      f.problem ((HeaderFault.unexpected text).problem span) := by
  refine f.problem_on _ ?_ span
  have hquoted := f.info_quoted
    (ProblemCode.invalidRoutineHeader.message ++ ": " ++ "unexpected \"") "\"" text
  simpa only [HeaderFault.detail, String.append_assoc] using hquoted

theorem map_problem_repetition (isRepeated : Bool) (target : Token) :
    (ParameterList.repetition isRepeated (f.token target)).map f.problem =
      (ParameterList.repetition isRepeated target).map f.problem := by
  rw [ParameterList.repetition, key_token, start_token, ParameterList.repetition]
  cases isRepeated with
  | false => rfl
  | true => exact congrArg (fun p => [p]) (f.problem_on _ rfl target.start)

/-- The open routine, written down again. -/
def openRoutine (r : OpenRoutine) : OpenRoutine :=
  { r with start := f.span r.start }

end Transcription

/-! ## Headers -/

namespace ParameterList

/-- The second list has the parameters of the first, written down again, and its problems as far as
the transcription goes. -/
structure Transcribed (f : Transcription) (l l' : ParameterList) : Prop where
  args : l'.args = l.args.map f.argument
  keywords : l'.keywords = l.keywords.map f.keyword
  problems : l'.problems.map f.problem = l.problems.map f.problem

variable {f : Transcription}

theorem Transcribed.addArgument {l l' : ParameterList} (h : Transcribed f l l') (t : Token)
    {problems problems' : List Problem}
    (hproblems : problems'.map f.problem = problems.map f.problem) :
    Transcribed f (ParameterList.addArgument t problems l)
      (ParameterList.addArgument (f.token t) problems' l') where
  args := congrArg (List.cons _) h.args
  keywords := h.keywords
  problems := by simp only [ParameterList.addArgument, List.map_append, h.problems, hproblems]

theorem Transcribed.addKeyword {l l' : ParameterList} (h : Transcribed f l l') (t target : Token)
    {problems problems' : List Problem}
    (hproblems : problems'.map f.problem = problems.map f.problem) :
    Transcribed f (ParameterList.addKeyword t target problems l)
      (ParameterList.addKeyword (f.token t) (f.token target) problems' l') where
  args := h.args
  keywords := congrArg (List.cons _) h.keywords
  problems := by simp only [ParameterList.addKeyword, List.map_append, h.problems, hproblems]

theorem transcribed_faulty {fault fault' : HeaderFault} {span span' : Span}
    (h : f.problem (fault'.problem span') = f.problem (fault.problem span)) :
    Transcribed f (faulty fault span) (faulty fault' span') :=
  ⟨rfl, rfl, congrArg (fun p => [p]) h⟩

variable (f)

theorem transcribed_read (seen : Seen) (ts : List Token) :
    Transcribed f (read seen ts) (read seen (ts.map f.token)) := by
  -- Where a case leaves the tokens after a parameter open, no equation of `read` applies, and its
  -- definition is opened as a whole.
  fun_induction read seen ts with
  | case1 => exact ⟨rfl, rfl, rfl⟩
  | case2 seen separator rest hcomma =>
    rw [List.map_cons, read.eq_def]
    simp only [Transcription.kind_token, hcomma, if_true]
    exact transcribed_faulty (f.problem_unexpected separator.text separator.start)
  | case3 seen separator hcomma =>
    simp only [List.map_cons, List.map_nil, read, Transcription.kind_token, hcomma]
    exact transcribed_faulty (f.problem_fault _ separator.start)
  | case4 seen separator hcomma t rest hword =>
    rw [List.map_cons, List.map_cons, read.eq_def]
    simp only [Transcription.kind_token, hcomma, Transcription.isWord_token, hword, if_true]
    exact transcribed_faulty (f.problem_fault _ t.start)
  | case5 seen separator hcomma t hword isRepeated seen' hseen =>
    simp only [List.map_cons, List.map_nil, read, Transcription.kind_token, hcomma,
      Transcription.isWord_token, hword, Transcription.key_token, hseen]
    exact Transcribed.addArgument ⟨rfl, rfl, rfl⟩ t (f.map_problem_repetition isRepeated t)
  | case6 seen separator hcomma t hword sign hsign =>
    simp (disch := decide) only [List.map_cons, List.map_nil, read, Transcription.kind_token,
      hcomma, Transcription.isWord_token, hword, Transcription.isOperator_token, hsign, if_true]
    exact transcribed_faulty (f.problem_fault _ t.stop)
  | case7 seen separator hcomma t hword sign hsign target rest htarget isRepeated seen' hseen ih =>
    simp (disch := decide) only [List.map_cons, read, Transcription.kind_token, hcomma,
      Transcription.isWord_token, hword, Transcription.isOperator_token, hsign, if_true, htarget,
      Transcription.key_token, hseen]
    exact ih.addKeyword t target (f.map_problem_repetition isRepeated target)
  | case8 seen separator hcomma t hword sign hsign target rest htarget =>
    simp (disch := decide) only [List.map_cons, read, Transcription.kind_token, hcomma,
      Transcription.isWord_token, hword, Transcription.isOperator_token, hsign, if_true, htarget]
    exact transcribed_faulty (f.problem_fault _ target.start)
  | case9 seen separator hcomma t hword sign afterSign hsign isRepeated seen' hseen ih =>
    rw [List.map_cons, List.map_cons, List.map_cons, read.eq_def seen (f.token separator :: _)]
    simp (disch := decide) only [Transcription.kind_token, hcomma, Transcription.isWord_token,
      hword, Transcription.isOperator_token, hsign, Transcription.key_token, hseen]
    exact ih.addArgument t (f.map_problem_repetition isRepeated t)

end ParameterList

/-- The second name is the first, written down again. -/
structure HeaderName.Transcribed (f : Transcription) (n n' : HeaderName) : Prop where
  text : n'.text = f.text n.text
  span : n'.span = f.span n.span
  isMethod : n'.isMethod = n.isMethod
  parameters : n.parameters.Transcribed f n'.parameters

theorem HeaderName.transcribed_read (f : Transcription) (name : Token) (after : List Token) :
    Transcribed f (HeaderName.read name after)
      (HeaderName.read (f.token name) (after.map f.token)) := by
  have plain {l l' : ParameterList} (h : l.Transcribed f l') :
      HeaderName.Transcribed f ⟨name.text, name.start, false, l⟩
        ⟨(f.token name).text, (f.token name).start, false, l'⟩ := ⟨rfl, rfl, rfl, h⟩
  match after with
  | [] => exact plain ⟨rfl, rfl, rfl⟩
  | t :: rest =>
    by_cases hcolons : (t.kind == .doubleColon) = true
    · match rest with
      | [] =>
        simp only [read, List.map_cons, List.map_nil, Transcription.kind_token, hcolons, if_true]
        exact plain (ParameterList.transcribed_faulty (f.problem_fault _ t.start))
      | method :: rest =>
        simp only [read, List.map_cons, Transcription.kind_token, hcolons, if_true,
          Transcription.isWord_token]
        by_cases hword : method.isWord = true
        · simp only [hword, if_true]
          exact ⟨(f.text_colons name.text method.text).symm,
            (f.span_through name.start method.stop).symm, rfl,
            ParameterList.transcribed_read f .none rest⟩
        · simp only [hword, Bool.false_eq_true, if_false]
          exact plain (ParameterList.transcribed_faulty (f.problem_fault _ t.start))
    · simp only [read, List.map_cons, Transcription.kind_token, hcolons, Bool.false_eq_true,
        if_false]
      exact plain (ParameterList.transcribed_read f .none (t :: rest))

/-- The second header has the signature of the first, written down again, and its problems as far as
the transcription goes. -/
structure Header.Transcribed (f : Transcription) (h h' : Header) : Prop where
  signature : h'.signature = h.signature.map f.signature
  problems : h'.problems.map f.problem = h.problems.map f.problem

theorem Header.transcribed_read (f : Transcription) (file : Path) (word : Token)
    (after : List Token) :
    Transcribed f (Header.read file word after)
      (Header.read file (f.token word) (after.map f.token)) := by
  have nameless := congrArg (fun p => [p]) (f.problem_fault .missingName word.start)
  cases after with
  | nil => exact ⟨rfl, nameless⟩
  | cons name rest =>
    rw [List.map_cons, read, read, Transcription.isWord_token]
    by_cases hword : name.isWord = true
    · obtain ⟨htext, hspan, hmethod, hargs, hkeywords, hproblems⟩ :=
        HeaderName.transcribed_read f name rest
      have hextra (ks : List Keyword) : ((ks.map f.keyword).any fun k => isExtraKeyword k.name) =
          ks.any fun k => isExtraKeyword k.name := by
        rw [List.any_map]
        exact congrArg ks.any (funext fun k => f.isExtraKeyword_text k.name)
      have hstop : Statement.stop (f.token word :: f.token name :: rest.map f.token) =
          f.span (Statement.stop (word :: name :: rest)) := f.stop_statement (word :: name :: rest)
      rw [if_pos hword, if_pos hword]
      refine ⟨?_, hproblems⟩
      simp only [htext, hspan, hmethod, hargs, hkeywords, hextra, hstop,
        Transcription.isReserved_token]
      rfl
    · rw [if_neg hword, if_neg hword]
      exact ⟨rfl, nameless⟩

/-! ## Outlines -/

namespace Outline

/-- The second outline is the first, written down again, with its problems as far as the
transcription goes. -/
structure Transcribed (f : Transcription) (o o' : Outline) : Prop where
  routines : o'.routines = o.routines.map f.routine
  scopes : o'.scopes = o.scopes.map f.scopeDraft
  problems : o'.problems.map f.problem = o.problems.map f.problem
  openRoutine : o'.openRoutine = o.openRoutine.map f.openRoutine
  mainScope : o'.mainScope = o.mainScope
  mainDepth : o'.mainDepth = o.mainDepth

theorem transcribed_empty (f : Transcription) : Transcribed f empty empty :=
  ⟨rfl, rfl, rfl, rfl, rfl, rfl⟩

section

variable {f : Transcription} {o o' : Outline} (h : Transcribed f o o')
include h

theorem Transcribed.abandon : Transcribed f o.abandon o'.abandon := by
  rw [Outline.abandon, Outline.abandon, h.openRoutine]
  cases o.openRoutine with
  | none => exact h
  | some r =>
    have hend : f.problem (.plain .missingEnd (f.span r.start)) =
        f.problem (.plain .missingEnd r.start) := f.problem_on _ rfl r.start
    exact { h with
      problems := by simp [h.problems, Transcription.openRoutine, hend]
      openRoutine := rfl }

theorem Transcribed.redefinition (s : Signature) :
    (o'.redefinition (f.signature s)).map f.problem = (o.redefinition s).map f.problem := by
  have hknown : (o'.routines.any fun r => r.signature.key == (f.signature s).key) =
      o.routines.any fun r => r.signature.key == s.key := by
    rw [h.routines, List.any_map, f.key_signature]
    exact congrArg o.routines.any (funext fun r => by
      rw [Function.comp_apply, Transcription.routine, f.key_signature])
  rw [Outline.redefinition, Outline.redefinition, hknown]
  split
  · exact congrArg (fun p => [p]) (f.problem_on _ (f.info_quoted _ _ s.name) s.nameSpan)
  · rfl

theorem Transcribed.begin (s : Signature) :
    Transcribed f (o.begin s) (o'.begin (f.signature s)) := by
  have hscope : o'.scopes.length = o.scopes.length := by rw [h.scopes, List.length_map]
  have hroutine : o'.routines.length = o.routines.length := by rw [h.routines, List.length_map]
  rw [Outline.begin, Outline.begin, hscope, hroutine]
  exact {
    routines := by simp [h.routines, Transcription.routine]
    scopes := by
      rw [h.scopes, f.headerBindings_signature, List.map_append]
      rfl
    problems := by simp only [List.map_append, h.problems, h.redefinition]
    openRoutine := rfl
    mainScope := h.mainScope
    mainDepth := h.mainDepth }

theorem Transcribed.addHeader (file : Path) (word : Token) (after : List Token) :
    Transcribed f (o.addHeader file word after)
      (o'.addHeader file (f.token word) (after.map f.token)) := by
  have hheader := Header.transcribed_read f file word after
  have hreported : Transcribed f
      { o with problems := o.problems ++ (Header.read file word after).problems }
      { o' with problems := o'.problems ++
          (Header.read file (f.token word) (after.map f.token)).problems } :=
    { h with problems := by simp only [List.map_append, h.problems, hheader.problems] }
  rw [Outline.addHeader, Outline.addHeader, hheader.signature]
  cases (Header.read file word after).signature with
  | none => exact hreported
  | some s => exact hreported.begin s

theorem Transcribed.close (r : OpenRoutine) (s : Statement) :
    Transcribed f (o.close r s) (o'.close (f.openRoutine r) (s.map f.token)) :=
  { h with
    routines := by
      simp only [Outline.close, h.routines]
      exact modify_map (fun _ => by rfl) o.routines r.routine
    scopes := by
      simp only [Outline.close, h.scopes, f.stop_statement]
      exact modify_map (fun _ => by rfl) o.scopes r.scope
    openRoutine := rfl }

theorem Transcribed.put (scope : Nat) (s : Statement) :
    Transcribed f (o.put scope s) (o'.put scope (s.map f.token)) :=
  { h with
    scopes := by
      simp only [Outline.put, h.scopes, f.stop_statement]
      exact modify_map (fun d => by simp [Transcription.scopeDraft]) o.scopes scope }

theorem Transcribed.withMain (start : Span) :
    (o'.withMain (f.span start)).1 = (o.withMain start).1 ∧
      Transcribed f (o.withMain start).2 (o'.withMain (f.span start)).2 := by
  have hscope : o'.scopes.length = o.scopes.length := by rw [h.scopes, List.length_map]
  rw [Outline.withMain, Outline.withMain, h.mainScope]
  cases o.mainScope with
  | some scope => exact ⟨rfl, h⟩
  | none =>
    refine ⟨hscope, { h with scopes := ?_, mainScope := congrArg some hscope }⟩
    rw [h.scopes, List.map_append]
    rfl

theorem Transcribed.addToMain (first : Token) (s : Statement) :
    Transcribed f (o.addToMain first s) (o'.addToMain (f.token first) (s.map f.token)) := by
  rw [Outline.addToMain, Outline.addToMain, f.isSingle_statement, h.mainDepth]
  by_cases hend : (s.isSingle "end" && o.mainDepth == 0) = true
  · rw [if_pos hend, if_pos hend]
    exact h
  · rw [if_neg hend, if_neg hend]
    obtain ⟨hscope, hmain⟩ := h.withMain first.start
    have hdepth (depth : Nat) :
        Transcribed f { (o.withMain first.start).2 with mainDepth := depth }
          { (o'.withMain (f.span first.start)).2 with mainDepth := depth } :=
      { hmain with mainDepth := rfl }
    simp only [f.start_token, f.depthAfter_statement, hscope, hmain.mainDepth]
    exact (hdepth _).put _ s

theorem Transcribed.addToRoutine (r : OpenRoutine) (s : Statement) :
    Transcribed f (o.addToRoutine r s) (o'.addToRoutine (f.openRoutine r) (s.map f.token)) := by
  have hopened : (f.openRoutine r).depth = r.depth := rfl
  rw [Outline.addToRoutine, Outline.addToRoutine, f.isSingle_statement, f.depthAfter_statement,
    hopened]
  by_cases hend : (s.isSingle "end" && r.depth == 0) = true
  · rw [if_pos hend, if_pos hend]
    exact h.close r s
  · rw [if_neg hend, if_neg hend]
    have hopen (r : OpenRoutine) : Transcribed f { o with openRoutine := some r }
        { o' with openRoutine := some (f.openRoutine r) } := { h with openRoutine := rfl }
    exact (hopen { r with depth := s.depthAfter r.depth }).put r.scope s

/-- One statement keeps the two readers in step. -/
theorem Transcribed.add (file : Path) (s : Statement) :
    Transcribed f (add file o s) (add file o' (s.map f.token)) := by
  cases s with
  | nil => exact h
  | cons first after =>
    rw [List.map_cons, Outline.add, Outline.add, f.startsRoutine_token, h.openRoutine]
    by_cases hstarts : first.startsRoutine = true
    · rw [if_pos hstarts, if_pos hstarts]
      exact h.abandon.addHeader file first after
    · rw [if_neg hstarts, if_neg hstarts]
      cases o.openRoutine with
      | some r => exact h.addToRoutine r (first :: after)
      | none => exact h.addToMain first (first :: after)

/-- So do all statements of a file. -/
theorem Transcribed.addAll (file : Path) (ss : List Statement) :
    Transcribed f (ss.foldl (Outline.add file) o)
      ((ss.map (List.map f.token)).foldl (Outline.add file) o') := by
  induction ss generalizing o o' with
  | nil => exact h
  | cons s ss ih => exact ih (h.add file s)

/-- The record of the second reader is that of the first, written down again. -/
theorem Transcribed.record : o'.record = f.record o.record := by
  have hscopes : (o.scopes.map f.scopeDraft).mapIdx (fun i d => d.scope i) =
      (o.scopes.mapIdx fun i d => d.scope i).map f.scope :=
    List.ext_getElem? fun i => by simp [Function.comp_def, Transcription.scope_scopeDraft]
  have hcalls : (o.scopes.map f.scopeDraft).mapIdx (fun i d => d.calls i) =
      (o.scopes.mapIdx fun i d => d.calls i).map (List.map f.callSite) :=
    List.ext_getElem? fun i => by simp [Function.comp_def, Transcription.calls_scopeDraft]
  rw [Outline.record, Outline.record, Transcription.record, h.routines, h.scopes, hscopes, hcalls,
    List.map_flatten]

end

theorem transcribed_ofStatements (f : Transcription) (file : Path) (ss : List Statement) :
    Transcribed f (ofStatements file ss) (ofStatements file (ss.map (List.map f.token))) :=
  ((transcribed_empty f).addAll file ss).abandon

end Outline

end RoutineAtlas
