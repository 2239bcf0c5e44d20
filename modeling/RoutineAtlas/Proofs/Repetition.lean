import RoutineAtlas.Proofs.Endings
import RoutineAtlas.Proofs.Nesting
import RoutineAtlas.Proofs.Sequence

/-!
# Repeated parameters

A parameter repeats an earlier one of the same head if both are keywords of one name, or arguments
of one name, or if they bind one variable. Two lists of what has been seen are kept for this, one of
names and one of variables, and a parameter whose name is on the first does not get its variable
onto the second. So the variable of a keyword that repeats the name of another keyword is forgotten,
and a later parameter that binds it once more goes unreported.

`Seen.Records` says what the lists hold after some parameters. All else is about places: a report
stands at the variable of a parameter, and no two parameters of a file have theirs in one place.

## Main definitions

* `Declaration` — a parameter of a head.
* `Declaration.Repeats` — the parameter is found to repeat an earlier one.
* `Record.repeated_parameters_reported` — which parameters of a file are reported.
-/

namespace RoutineAtlas

/-! ## Parameters -/

/-- A parameter of a head: the name that callers use if it is a keyword, the variable it binds, and
where that is written. -/
structure Declaration where
  keyword : Option Text
  target : Text
  span : Span
deriving DecidableEq, Repr

namespace Declaration

def ofArgument (a : Argument) : Declaration :=
  ⟨none, a.name, a.span⟩

def ofKeyword (k : Keyword) : Declaration :=
  ⟨some k.name, k.target, k.targetSpan⟩

/-- Whether the parameter is a keyword, and its name in the form that comparisons use. -/
def label (d : Declaration) : Bool × Text :=
  (d.keyword.isSome, (d.keyword.getD d.target).lower)

/-- Where the variable is written. -/
def place (d : Declaration) : Cursor :=
  d.span.startCursor

/-- The report on a parameter that repeats another. -/
def report (d : Declaration) : Problem :=
  .about .duplicateParameter d.target.lower d.span

/-- Among these parameters an earlier one has the name of `d`, or it binds the variable of `d` and
does not itself have the name of one before it. -/
def Repeats (all : List Declaration) (d : Declaration) : Prop :=
  ∃ q ∈ all, q.place < d.place ∧ (q.label = d.label ∨ (q.target.lower = d.target.lower ∧
    ∀ e ∈ all, e.place < q.place → e.label ≠ q.label))

instance (all : List Declaration) (d : Declaration) : Decidable (d.Repeats all) :=
  inferInstanceAs (Decidable (∃ q ∈ all, _ ∧ (_ ∨ (_ ∧ ∀ e ∈ all, _ → _))))

end Declaration

/-- The parameters that a head declares. -/
def Signature.declarations (s : Signature) : List Declaration :=
  s.args.map .ofArgument ++ s.keywords.map .ofKeyword

/-! ## What has been seen -/

namespace ParameterList.Seen

variable {seen : Seen} {d : Declaration} {earlier ds : List Declaration}

/-- Whether a parameter repeats an earlier one, and what has been seen after it. -/
def look (seen : Seen) (d : Declaration) : Bool × Seen :=
  match d.keyword with
  | .none => seen.argument d.target.lower
  | .some name => seen.keyword name.lower d.target.lower

/-- The names of keywords, or of arguments. -/
def names (seen : Seen) (isKeyword : Bool) : List Text :=
  if isKeyword then seen.keywords else seen.arguments

theorem look_fst (seen : Seen) (d : Declaration) : (seen.look d).1 = true ↔
    d.label.2 ∈ seen.names d.label.1 ∨ d.target.lower ∈ seen.targets := by
  cases hd : d.keyword with
  | none =>
    simp only [look, hd, argument, Declaration.label, names]
    split <;> simp_all
  | some name =>
    simp only [look, hd, keyword, Declaration.label, names]
    split <;> simp_all

theorem mem_names_look (seen : Seen) (d : Declaration) (isKeyword : Bool) (name : Text) :
    name ∈ (seen.look d).2.names isKeyword ↔
      name ∈ seen.names isKeyword ∨ d.label = (isKeyword, name) := by
  cases hd : d.keyword with
  | none =>
    simp only [look, hd, argument, Declaration.label, names]
    split <;> grind
  | some k =>
    simp only [look, hd, keyword, Declaration.label, names]
    split <;> grind

theorem mem_targets_look (seen : Seen) (d : Declaration) (v : Text) :
    v ∈ (seen.look d).2.targets ↔
      v ∈ seen.targets ∨ (d.target.lower = v ∧ d.label.2 ∉ seen.names d.label.1) := by
  cases hd : d.keyword with
  | none =>
    simp only [look, hd, argument, Declaration.label, names]
    split <;> grind
  | some name =>
    simp only [look, hd, keyword, Declaration.label, names]
    split <;> grind

/-- The parameters seen so far: all of their names are known, and the variables of those that do not
have the name of an earlier one. -/
structure Records (seen : Seen) (earlier : List Declaration) : Prop where
  names : ∀ isKeyword name, name ∈ seen.names isKeyword ↔
    ∃ q ∈ earlier, q.label = (isKeyword, name)
  targets : ∀ v, v ∈ seen.targets ↔ ∃ q ∈ earlier, q.target.lower = v ∧
    ∀ e ∈ earlier, e.place < q.place → e.label ≠ q.label

theorem records_none : Records .none [] := by
  constructor <;> simp [none, names]

theorem Records.look (h : seen.Records earlier) (hd : ∀ q ∈ earlier, q.place < d.place) :
    (seen.look d).2.Records (earlier ++ [d]) where
  names := by
    intro isKeyword name
    rw [mem_names_look, h.names]
    simp [or_and_right, exists_or]
  targets := by
    intro v
    rw [mem_targets_look, h.targets, h.names]
    constructor
    · rintro (⟨q, hq, htarget, hfirst⟩ | ⟨htarget, hnew⟩)
      · refine ⟨q, List.mem_append_left _ hq, htarget, ?_⟩
        rw [List.forall_mem_append, List.forall_mem_singleton]
        exact ⟨hfirst, fun hlt => absurd hlt (hd q hq).asymm⟩
      · refine ⟨d, by simp, htarget, ?_⟩
        rw [List.forall_mem_append, List.forall_mem_singleton]
        exact ⟨fun e he _ hlabel => hnew ⟨e, he, hlabel⟩, fun hlt => absurd hlt (lt_irrefl _)⟩
    · rintro ⟨q, hq, htarget, hfirst⟩
      rw [List.forall_mem_append] at hfirst
      rcases List.mem_append.1 hq with hq | hq
      · exact .inl ⟨q, hq, htarget, hfirst.1⟩
      · obtain rfl := List.mem_singleton.1 hq
        exact .inr ⟨htarget, fun ⟨e, he, hlabel⟩ => hfirst.1 e he (hd e he) hlabel⟩

/-- The reports on some parameters. -/
def reports (seen : Seen) : List Declaration → List Problem
  | [] => []
  | d :: ds => (if (seen.look d).1 then [d.report] else []) ++ (seen.look d).2.reports ds

/-- A parameter is found to repeat an earlier one exactly if it does. -/
theorem Records.look_fst_iff (h : seen.Records earlier) {later : List Declaration}
    (hplaces : (earlier ++ d :: later).Pairwise fun p q => p.place < q.place) :
    (seen.look d).1 = true ↔ d.Repeats (earlier ++ d :: later) := by
  obtain ⟨-, hrest, hbefore⟩ := List.pairwise_append.1 hplaces
  have hd : ∀ q ∈ earlier, q.place < d.place := fun q hq => hbefore q hq d List.mem_cons_self
  -- what stands before `d` has been seen
  have hseen : ∀ q ∈ earlier ++ d :: later, q.place < d.place → q ∈ earlier := by
    intro q hq hlt
    rcases List.mem_append.1 hq with hq | hq
    · exact hq
    · rcases List.mem_cons.1 hq with rfl | hq
      · exact absurd hlt (lt_irrefl _)
      · exact absurd hlt (List.rel_of_pairwise_cons hrest hq).asymm
  rw [look_fst, h.names, h.targets]
  constructor
  · rintro (⟨q, hq, hlabel⟩ | ⟨q, hq, htarget, hfirst⟩)
    · exact ⟨q, List.mem_append_left _ hq, hd q hq, .inl hlabel⟩
    · refine ⟨q, List.mem_append_left _ hq, hd q hq, .inr ⟨htarget, fun e he hlt => ?_⟩⟩
      exact hfirst e (hseen e he (hlt.trans (hd q hq))) hlt
  · rintro ⟨q, hq, hlt, hlabel | ⟨htarget, hfirst⟩⟩
    · exact .inl ⟨q, hseen q hq hlt, hlabel⟩
    · exact .inr ⟨q, hseen q hq hlt, htarget,
        fun e he => hfirst e (List.mem_append_left _ he)⟩

/-- A parameter is reported if it repeats one of those before it. -/
theorem Records.mem_reports (h : seen.Records earlier)
    (hplaces : (earlier ++ ds).Pairwise fun p q => p.place < q.place) {x : Problem} :
    x ∈ seen.reports ds ↔ ∃ d ∈ ds, d.Repeats (earlier ++ ds) ∧ x = d.report := by
  induction ds generalizing seen earlier with
  | nil => simp [reports]
  | cons d ds ih =>
    have hd : ∀ q ∈ earlier, q.place < d.place :=
      fun q hq => (List.pairwise_append.1 hplaces).2.2 q hq d List.mem_cons_self
    have hlater := @ih _ _ (h.look hd) (by rwa [List.append_assoc])
    rw [List.append_assoc, List.singleton_append] at hlater
    rw [reports, List.mem_append, hlater, List.exists_mem_cons_iff]
    refine or_congr_left ?_
    have hfound := h.look_fst_iff hplaces
    split
    · rename_i hlook
      simp [hfound.1 hlook]
    · rename_i hlook
      simp [mt hfound.2 hlook]

end ParameterList.Seen

/-! ## Heads -/

open Problem (withCode)

/-- The parameters that have been read. -/
def ParameterList.declarations (l : ParameterList) : List Declaration :=
  l.args.map .ofArgument ++ l.keywords.map .ofKeyword

/-- The parameters are the given ones, in some order, and the reports of repetitions are those that
their order calls for. -/
structure ParameterList.Declares (seen : Seen) (l : ParameterList) (ds : List Declaration) :
    Prop where
  declarations : l.declarations.Perm ds
  reports : withCode .duplicateParameter l.problems = seen.reports ds

namespace ParameterList

variable {seen : Seen} {l : ParameterList} {ds : List Declaration}

theorem withCode_repetition (isRepeated : Bool) (t : Token) :
    withCode .duplicateParameter (repetition isRepeated t) = repetition isRepeated t := by
  cases isRepeated <;> rfl

theorem Declares.addArgument {t : Token} (h : l.Declares (seen.argument t.key).2 ds) :
    (addArgument t (repetition (seen.argument t.key).1 t) l).Declares seen
      (⟨none, t.text, t.start⟩ :: ds) where
  declarations := h.declarations.cons _
  reports := by
    simp only [ParameterList.addArgument, Problem.withCode_append, withCode_repetition, h.reports]
    rfl

theorem Declares.addKeyword {t target : Token}
    (h : l.Declares (seen.keyword t.key target.key).2 ds) :
    (addKeyword t target (repetition (seen.keyword t.key target.key).1 target) l).Declares seen
      (⟨some t.text, target.text, target.start⟩ :: ds) where
  declarations := List.perm_middle.trans (h.declarations.cons _)
  reports := by
    simp only [ParameterList.addKeyword, Problem.withCode_append, withCode_repetition, h.reports]
    rfl

theorem declares_faulty (seen : Seen) (fault : HeaderFault) (span : Span) :
    (faulty fault span).Declares seen [] :=
  ⟨.refl _, rfl⟩

/-- Reading goes from parameter to parameter, and each has its variable after that of the one
before. -/
theorem exists_declares (ts : List Token) : ∃ ds : List Declaration,
    (ds.map (·.span)).Sublist (ts.map (·.start)) ∧
      ∀ seen, (read seen ts).Declares seen ds := by
  have hfault {ts : List Token} (fault : HeaderFault) (span : Span)
      (hread : ∀ seen, read seen ts = faulty fault span) : ∃ ds : List Declaration,
        (ds.map (·.span)).Sublist (ts.map (·.start)) ∧
          ∀ seen, (read seen ts).Declares seen ds :=
    ⟨[], List.nil_sublist _, fun seen => hread seen ▸ declares_faulty seen fault span⟩
  fun_induction read .none ts with
  | case1 => exact ⟨[], List.nil_sublist _, fun seen => ⟨.refl _, rfl⟩⟩
  | case2 _ separator rest hcomma =>
    exact hfault _ _ (read_unexpected (by simpa using hcomma) rest)
  | case3 _ separator hcomma =>
    exact hfault .missingParameter separator.start fun seen => by
      rw [read.eq_def]
      exact if_neg hcomma
  | case4 _ separator hcomma t rest hword =>
    exact hfault _ _ (read_missingParameter (by simpa using hcomma) (by simpa using hword) rest)
  | case5 _ separator hcomma t hword isRepeated seen' hseen =>
    refine ⟨[⟨none, t.text, t.start⟩], by simp, fun seen => ?_⟩
    rw [read_argument (by simpa using hcomma) (by simpa using hword) rfl]
    exact Declares.addArgument ⟨.refl _, rfl⟩
  | case6 _ separator hcomma t hword sign hsign =>
    exact hfault .missingVariable t.stop fun seen => by
      rw [read.eq_def]
      simp [hcomma, hword, hsign]
  | case7 _ separator hcomma t hword sign hsign target rest htarget isRepeated seen' hseen ih =>
    obtain ⟨ds, hsub, hds⟩ := ih
    refine ⟨⟨some t.text, target.text, target.start⟩ :: ds, ?_, fun seen => ?_⟩
    · exact (((hsub.cons_cons _).cons _).cons _).cons _
    · rw [read_keyword (by simpa using hcomma) (by simpa using hword) hsign
        (by simpa using htarget)]
      exact (hds _).addKeyword
  | case8 _ separator hcomma t hword sign hsign target rest htarget =>
    exact hfault _ _ (read_missingVariable (by simpa using hcomma) (by simpa using hword) hsign
      (by simpa using htarget) rest)
  | case9 _ separator hcomma t hword sign afterSign hsign isRepeated seen' hseen ih =>
    obtain ⟨ds, hsub, hds⟩ := ih
    refine ⟨⟨none, t.text, t.start⟩ :: ds, (hsub.cons_cons _).cons _, fun seen => ?_⟩
    rw [read_argument (by simpa using hcomma) (by simpa using hword) (by simpa using hsign)]
    exact (hds _).addArgument

end ParameterList

theorem HeaderName.exists_declares (name : Token) (after : List Token) :
    ∃ ds : List Declaration, (ds.map (·.span)).Sublist (after.map (·.start)) ∧
      (HeaderName.read name after).parameters.Declares .none ds := by
  have hfault {fault : HeaderFault} {span : Span} : ∃ ds : List Declaration,
      (ds.map (·.span)).Sublist (after.map (·.start)) ∧
        (ParameterList.faulty fault span).Declares .none ds :=
    ⟨[], List.nil_sublist _, ParameterList.declares_faulty _ fault span⟩
  unfold HeaderName.read
  dsimp only
  split
  · exact ⟨[], List.nil_sublist _, .refl _, rfl⟩
  · split
    · split
      · exact hfault
      · split
        · rename_i rest _
          obtain ⟨ds, hsub, hds⟩ := ParameterList.exists_declares rest
          exact ⟨ds, (hsub.cons _).cons _, hds .none⟩
        · exact hfault
    · obtain ⟨ds, hsub, hds⟩ := ParameterList.exists_declares _
      exact ⟨ds, hsub, hds .none⟩

/-- The parameters of a head in the order of their variables, and the reports on them. -/
theorem Header.exists_declarations (file : Path) (word : Token) (after : List Token) :
    ∃ ds : List Declaration, (ds.map (·.span)).Sublist (after.map (·.start)) ∧
      (∀ sig ∈ (Header.read file word after).signature, sig.declarations.Perm ds) ∧
      withCode .duplicateParameter (Header.read file word after).problems =
        ParameterList.Seen.none.reports ds := by
  cases after with
  | nil => exact ⟨[], List.nil_sublist _, by simp [Header.read], rfl⟩
  | cons name rest =>
    simp only [Header.read]
    split
    · obtain ⟨ds, hsub, hds⟩ := HeaderName.exists_declares name rest
      refine ⟨ds, hsub.cons _, ?_, hds.reports⟩
      rintro sig ⟨rfl⟩
      exact hds.declarations
    · exact ⟨[], List.nil_sublist _, by simp, rfl⟩

/-! ## Files -/

/-- The repetitions that are reported for a statement: only a header has some. -/
def Statement.repetitions (file : Path) : Statement → List Problem
  | [] => []
  | word :: after =>
    if word.startsRoutine then
      withCode .duplicateParameter (Header.read file word after).problems
    else []

theorem Statement.repetitions_of_not_isHeader (file : Path) {s : Statement}
    (h : s.isHeader = false) : s.repetitions file = [] := by
  cases s with
  | nil => rfl
  | cons word after => exact if_neg (by simpa [isHeader] using h)

/-- Repetitions are reported for one header after the other. -/
theorem Outline.withCode_duplicateParameter (file : Path) (statements : List Statement) :
    withCode .duplicateParameter (ofStatements file statements).problems =
      statements.flatMap (Statement.repetitions file) := by
  rw [ofStatements, withCode_abandon (by decide)]
  induction statements using List.reverseRecOn with
  | nil => rfl
  | append_singleton statements s ih =>
    rw [List.foldl_concat, List.flatMap_append, List.flatMap_singleton, ← ih]
    generalize statements.foldl (add file) empty = o
    cases turn_add file o s with
    | @begins word after sig _ hword hread hroutines hproblems hopen =>
      rw [hproblems, Problem.withCode_append, Problem.withCode_append,
        withCode_abandon (by decide), withCode_redefinition, Statement.repetitions, if_pos hword]
      simp
    | @nameless word after _ hword hroutines hproblems hopen =>
      rw [hproblems, Problem.withCode_append, withCode_abandon (by decide), Statement.repetitions,
        if_pos hword]
    | closes hs hr hroutines hproblems hopen =>
      rw [hproblems, Statement.repetitions_of_not_isHeader file hs, List.append_nil]
    | keeps hs hroutines hproblems hopen =>
      rw [hproblems, Statement.repetitions_of_not_isHeader file hs, List.append_nil]

theorem Declaration.repeats_congr {all all' : List Declaration} (h : ∀ d, d ∈ all ↔ d ∈ all')
    (d : Declaration) : d.Repeats all ↔ d.Repeats all' := by
  simp only [Repeats, h]

section

variable {tokens : List Token} (h : Token.Laid tokens) {file : Path} {word : Token}
  {after : List Token} (hs : word :: after ∈ Statement.split tokens)
include h hs

/-- The variables of a head stand one after the other. -/
theorem Declaration.pairwise_place {ds : List Declaration}
    (hsub : (ds.map (·.span)).Sublist (after.map (·.start))) :
    ds.Pairwise fun p q => p.place < q.place := by
  have htokens : (tokens.map (·.start)).Pairwise fun s s' => s.startCursor < s'.startCursor := by
    rw [List.pairwise_map]
    refine h.before.imp_of_mem fun ht _ hbefore => ?_
    have hlt := hbefore.lt (h.nonempty _ ht)
    rwa [Cursor.lt_iff, ← Cursor.lt_def] at hlt
  have hafter : (after.map (·.start)).Sublist (tokens.map (·.start)) :=
    ((List.sublist_cons_self word after).trans (Statement.sublist_of_mem_split hs)).map _
  have hds := htokens.sublist (hsub.trans hafter)
  rwa [List.pairwise_map] at hds

/-- Within its head, a parameter is reported exactly if it repeats an earlier one. -/
theorem Header.exists_report_iff (hword : word.startsRoutine = true) {sig : Signature}
    (hread : (Header.read file word after).signature = some sig) {d : Declaration}
    (hd : d ∈ sig.declarations) :
    (∃ x ∈ Statement.repetitions file (word :: after), x.start = d.span) ↔
      d.Repeats sig.declarations := by
  obtain ⟨ds, hsub, hperm, hreports⟩ := Header.exists_declarations file word after
  have hmem : ∀ d, d ∈ sig.declarations ↔ d ∈ ds := fun d => (hperm sig hread).mem_iff
  have hplaces := Declaration.pairwise_place h hs hsub
  have hreported (x : Problem) : x ∈ Statement.repetitions file (word :: after) ↔
      ∃ d ∈ ds, d.Repeats ds ∧ x = d.report := by
    rw [Statement.repetitions, if_pos hword, hreports]
    exact ParameterList.Seen.records_none.mem_reports hplaces
  rw [Declaration.repeats_congr hmem]
  constructor
  · rintro ⟨x, hx, hstart⟩
    obtain ⟨d', hd', hrepeats, rfl⟩ := (hreported x).1 hx
    have hplace : d'.place = d.place := congrArg Span.startCursor hstart
    -- no two variables of the head are in one place
    have hnodup : (ds.map (·.place)).Nodup :=
      List.pairwise_map.2 (hplaces.imp fun hlt => ne_of_lt hlt)
    obtain rfl : d' = d := List.inj_on_of_nodup_map hnodup hd' ((hmem d).1 hd) hplace
    exact hrepeats
  · intro hrepeats
    exact ⟨d.report, (hreported _).2 ⟨d, (hmem d).1 hd, hrepeats, rfl⟩, rfl⟩

/-- What is reported where a token of the head stands is reported for the head. -/
theorem Statement.eq_of_mem_repetitions {t : Token} (ht : t ∈ after) {s : Statement}
    (hs' : s ∈ split tokens) {x : Problem} (hx : x ∈ s.repetitions file)
    (hstart : x.start = t.start) : s = word :: after := by
  cases s with
  | nil => cases hx
  | cons word' after' =>
    rw [repetitions] at hx
    split at hx
    · obtain ⟨ds, hsub, -, hreports⟩ := Header.exists_declarations file word' after'
      rw [hreports, ParameterList.Seen.records_none.mem_reports
        (Declaration.pairwise_place h hs' hsub)] at hx
      obtain ⟨d, hd, -, rfl⟩ := hx
      obtain ⟨t', ht', heq⟩ := List.mem_map.1 (hsub.subset (List.mem_map_of_mem hd))
      have hmem {word : Token} {after : List Token} (hs : word :: after ∈ split tokens) {t : Token}
          (ht : t ∈ after) : t ∈ tokens :=
        (sublist_of_mem_split hs).subset (List.mem_cons_of_mem _ ht)
      obtain rfl : t' = t := by
        refine h.eq_of_startCursor_eq (hmem hs' ht') (hmem hs ht) ?_
        rw [heq, ← hstart]
        rfl
      exact eq_of_mem_of_mem h hs' hs (List.mem_cons_of_mem _ ht') (List.mem_cons_of_mem _ ht)
    · cases hx

end

namespace Record

/-- A parameter is reported where its variable is written exactly if it repeats an earlier one: one
of the same name, or one that binds the same variable and does not have the name of one before
it. -/
theorem repeated_parameters_reported (file : Path) (lines : List Text) :
    let (record, problems) := Record.ofTokens file (TokenStream.ofLines lines).tokens
    ∀ r ∈ record.routines, ∀ d ∈ r.signature.declarations,
      (∃ x ∈ problems, x.code = ProblemCode.duplicateParameter.number ∧ x.start = d.span) ↔
        d.Repeats r.signature.declarations := by
  have hlaid := laid_tokensFrom lines
  have hallotted := Outline.allotted_ofStatements file (Statement.nodup_split hlaid)
  intro r hr d hd
  obtain ⟨word, after, hs, hword, hread⟩ := hallotted.header r hr
  have hreported (x : Problem) : (x ∈ (Record.ofTokens file (tokensFrom 0 lines)).2 ∧
      x.code = ProblemCode.duplicateParameter.number) ↔
        ∃ s ∈ Statement.split (tokensFrom 0 lines), x ∈ s.repetitions file := by
    rw [← List.mem_flatMap, ← Outline.withCode_duplicateParameter, Problem.withCode,
      List.mem_filter, beq_iff_eq]
    rfl
  rw [← Header.exists_report_iff hlaid hs hword hread hd]
  constructor
  · rintro ⟨x, hx, hcode, hstart⟩
    obtain ⟨s, hs', hx⟩ := (hreported x).1 ⟨hx, hcode⟩
    obtain ⟨ds, hsub, hperm, -⟩ := Header.exists_declarations file word after
    obtain ⟨t, ht, heq⟩ := List.mem_map.1
      (hsub.subset (List.mem_map_of_mem ((hperm _ hread).mem_iff.1 hd)))
    obtain rfl := Statement.eq_of_mem_repetitions hlaid hs ht hs' hx (hstart.trans heq.symm)
    exact ⟨x, hx, hstart⟩
  · rintro ⟨x, hx, hstart⟩
    obtain ⟨hmem, hcode⟩ := (hreported x).2 ⟨_, hs, hx⟩
    exact ⟨x, hmem, hcode, hstart⟩

/-- An argument repeats the variable of a keyword, in other letters. -/
theorem repeated_parameters_reported_recased :
    let lines := [Text.ofString "pro p, k=a, K=b, A"]
    let (record, problems) := Record.ofTokens (.ofText ['f']) (TokenStream.ofLines lines).tokens
    let d : Declaration := ⟨none, ['A'], ⟨0, 17, 1⟩⟩
    (∃ r ∈ record.routines, d ∈ r.signature.declarations ∧ d.Repeats r.signature.declarations) ∧
      ∃ x ∈ problems, x.code = ProblemCode.duplicateParameter.number ∧ x.start = d.span := by
  have hrepeats : let lines := [Text.ofString "pro p, k=a, K=b, A"]
      let d : Declaration := ⟨none, ['A'], ⟨0, 17, 1⟩⟩
      ∃ r ∈ (Record.ofTokens (.ofText ['f']) (TokenStream.ofLines lines).tokens).1.routines,
        d ∈ r.signature.declarations ∧ d.Repeats r.signature.declarations := by
    decide +kernel
  obtain ⟨r, hr, hd, hrepeats⟩ := hrepeats
  exact ⟨⟨r, hr, hd, hrepeats⟩, (repeated_parameters_reported _ _ r hr _ hd).2 hrepeats⟩

/-- The second of two keywords of one name binds `b`, and an argument that binds `b` again goes
unreported. -/
theorem repeated_parameter_missed :
    let lines := [Text.ofString "pro p, k=a, k=b, b"]
    let (record, problems) := Record.ofTokens (.ofText ['f']) (TokenStream.ofLines lines).tokens
    let d : Declaration := ⟨none, ['b'], ⟨0, 17, 1⟩⟩
    (∃ r ∈ record.routines, d ∈ r.signature.declarations ∧ ∃ q ∈ r.signature.declarations,
      q.place < d.place ∧ q.target.lower = d.target.lower) ∧
      ¬∃ x ∈ problems, x.code = ProblemCode.duplicateParameter.number ∧ x.start = d.span := by
  decide +kernel

end Record

end RoutineAtlas
