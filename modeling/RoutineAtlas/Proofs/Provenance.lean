import RoutineAtlas.Proofs.Record

/-!
# Where the spans of a record come from

Reading the structure of a file makes up no places. The statements of a file are made of its tokens
in their order, and every span that its record or a report on its structure holds starts where one
of the tokens starts; a variable occurs only where a token of its name stands, and a call ends with
a token of the same statement.

Each reader gets one lemma that says from which tokens its result is written, and
`Outline.WrittenIn.add` carries them through a file, one statement at a time.

## Main definitions

* `Span.MarkedBy` — the span starts where one of the tokens does.
* `Signature.WrittenIn`, `Binding.WrittenIn`, `CallSite.WrittenIn` — written with the tokens.
* `Record.WrittenIn` — all of a record is.
* `Record.writtenIn_ofTokens` — the record of a file is written with the tokens of the file.
-/

namespace RoutineAtlas

/-! ## Statements -/

namespace Statement

theorem mem_collected {s current : Statement} :
    s ∈ collected current ↔ s = current ∧ current ≠ [] := by
  unfold collected
  cases current <;> simp

/-- At a break the statement so far is finished, -/
theorem sublist_of_mem_finished {s current : Statement} {broken : Bool}
    (h : s ∈ if broken then collected current else []) : s.Sublist current := by
  cases broken with
  | false => cases h
  | true =>
    obtain ⟨rfl, -⟩ := mem_collected.1 h
    exact List.Sublist.refl _

/-- and otherwise it is kept. -/
theorem kept_sublist (broken : Bool) (current : Statement) :
    (if broken then [] else current).Sublist current := by
  cases broken with
  | false => exact List.Sublist.refl _
  | true => exact List.nil_sublist _

/-- A statement is made of tokens in the order of the file. -/
theorem sublist_of_mem_splitFrom {s current : Statement} {continued : Bool} {lastLine : Option Nat}
    {ts : List Token} (h : s ∈ splitFrom current continued lastLine ts) :
    s.Sublist (current ++ ts) := by
  fun_induction splitFrom current continued lastLine ts with
  | case1 current continued lastLine =>
    rw [(mem_collected.1 h).1]
    exact List.sublist_append_left _ _
  | case2 current continued lastLine t ts hcomment ih =>
    exact (ih h).trans ((List.sublist_cons_self t ts).append_left current)
  | case3 current continued lastLine t ts hcomment hcontinuation ih =>
    exact (ih h).trans ((List.sublist_cons_self t ts).append_left current)
  | case4 current continued lastLine t ts hcomment hcontinuation broken finished kept hand ih =>
    rcases List.mem_append.1 h with h | h
    · refine List.Sublist.trans ?_ (List.sublist_append_left current _)
      rcases List.mem_append.1 h with h | h
      · exact sublist_of_mem_finished h
      · rw [(mem_collected.1 h).1]
        exact kept_sublist broken current
    · refine (ih h).trans ?_
      rw [List.nil_append]
      exact (List.sublist_cons_self t ts).trans (List.sublist_append_right _ _)
  | case5 current continued lastLine t ts hcomment hcontinuation broken finished kept hand ih =>
    rcases List.mem_append.1 h with h | h
    · exact (sublist_of_mem_finished h).trans (List.sublist_append_left current _)
    · refine (ih h).trans ?_
      rw [List.append_assoc, List.singleton_append]
      exact (kept_sublist broken current).append_right _

theorem sublist_of_mem_split {s : Statement} {tokens : List Token} (h : s ∈ split tokens) :
    s.Sublist tokens :=
  sublist_of_mem_splitFrom h

end Statement

/-! ## Spans and problems -/

variable {tokens more : List Token}

/-- The span starts where one of the tokens starts. -/
def Span.MarkedBy (tokens : List Token) (s : Span) : Prop :=
  ∃ t ∈ tokens, s.startCursor = t.start.startCursor ∨ s.startCursor = t.stop.startCursor

theorem Span.MarkedBy.mono {s : Span} (h : s.MarkedBy tokens) (hsub : tokens ⊆ more) :
    s.MarkedBy more := by
  obtain ⟨t, ht, heq⟩ := h
  exact ⟨t, hsub ht, heq⟩

theorem Token.markedBy_start {t : Token} (h : t ∈ tokens) : t.start.MarkedBy tokens :=
  ⟨t, h, .inl rfl⟩

theorem Token.markedBy_stop {t : Token} (h : t ∈ tokens) : t.stop.MarkedBy tokens :=
  ⟨t, h, .inr rfl⟩

/-- The problem is about a single span, which starts where one of the tokens does. -/
structure Problem.MarkedBy (tokens : List Token) (p : Problem) : Prop where
  single : p.stop = p.start
  marked : p.start.MarkedBy tokens

theorem Problem.MarkedBy.mono {p : Problem} (h : p.MarkedBy tokens) (hsub : tokens ⊆ more) :
    p.MarkedBy more :=
  ⟨h.single, h.marked.mono hsub⟩

theorem Problem.markedBy_on {span : Span} (h : span.MarkedBy tokens) (code : ProblemCode)
    (info : String) : (Problem.on code info span).MarkedBy tokens :=
  ⟨rfl, h⟩

/-! ## Headers -/

/-- The parameters, and the problems with them, are written with the tokens. -/
structure ParameterList.WrittenIn (tokens : List Token) (l : ParameterList) : Prop where
  args : ∀ a ∈ l.args, ∃ t ∈ tokens, a = ⟨t.text, t.start⟩
  keywords : ∀ k ∈ l.keywords, ∃ t ∈ tokens, ∃ u ∈ tokens, k = ⟨t.text, u.text, t.start, u.start⟩
  problems : ∀ p ∈ l.problems, p.MarkedBy tokens

namespace ParameterList

theorem WrittenIn.mono {l : ParameterList} (h : l.WrittenIn tokens) (hsub : tokens ⊆ more) :
    l.WrittenIn more where
  args := by
    intro a ha
    obtain ⟨t, ht, heq⟩ := h.args a ha
    exact ⟨t, hsub ht, heq⟩
  keywords := by
    intro k hk
    obtain ⟨t, ht, u, hu, heq⟩ := h.keywords k hk
    exact ⟨t, hsub ht, u, hsub hu, heq⟩
  problems := fun p hp => (h.problems p hp).mono hsub

theorem writtenIn_empty (tokens : List Token) : WrittenIn tokens ⟨[], [], []⟩ := by
  constructor <;> simp

theorem writtenIn_faulty {span : Span} (h : span.MarkedBy tokens) (fault : HeaderFault) :
    (faulty fault span).WrittenIn tokens where
  args := by simp [faulty]
  keywords := by simp [faulty]
  problems := by
    intro p hp
    rw [List.mem_singleton.1 hp]
    exact Problem.markedBy_on h _ _

theorem markedBy_repetition {t : Token} (ht : t ∈ tokens) (isRepeated : Bool) :
    ∀ p ∈ repetition isRepeated t, p.MarkedBy tokens := by
  intro p hp
  unfold repetition at hp
  split at hp
  · rw [List.mem_singleton.1 hp]
    exact Problem.markedBy_on (Token.markedBy_start ht) _ _
  · cases hp

theorem WrittenIn.addArgument {t : Token} {rest : ParameterList} (h : rest.WrittenIn tokens)
    (ht : t ∈ tokens) (isRepeated : Bool) :
    (ParameterList.addArgument t (repetition isRepeated t) rest).WrittenIn tokens where
  args := List.forall_mem_cons.2 ⟨⟨t, ht, rfl⟩, h.args⟩
  keywords := h.keywords
  problems := List.forall_mem_append.2 ⟨markedBy_repetition ht isRepeated, h.problems⟩

theorem WrittenIn.addKeyword {t target : Token} {rest : ParameterList} (h : rest.WrittenIn tokens)
    (ht : t ∈ tokens) (htarget : target ∈ tokens) (isRepeated : Bool) :
    (ParameterList.addKeyword t target (repetition isRepeated target) rest).WrittenIn tokens where
  args := h.args
  keywords := List.forall_mem_cons.2 ⟨⟨t, ht, target, htarget, rfl⟩, h.keywords⟩
  problems := List.forall_mem_append.2 ⟨markedBy_repetition htarget isRepeated, h.problems⟩

/-- Parameters are written with the tokens that they are read from. -/
theorem writtenIn_read (seen : Seen) (tokens : List Token) :
    (read seen tokens).WrittenIn tokens := by
  fun_induction read seen tokens with
  | case1 seen => exact writtenIn_empty _
  | case2 seen separator rest hcomma =>
    exact writtenIn_faulty (Token.markedBy_start (by simp)) _
  | case3 seen separator hcomma =>
    exact writtenIn_faulty (Token.markedBy_start (by simp)) _
  | case4 seen separator hcomma t rest hword =>
    exact writtenIn_faulty (Token.markedBy_start (by simp)) _
  | case5 seen separator hcomma t hword isRepeated seen' hseen =>
    exact (writtenIn_empty _).addArgument (by simp) isRepeated
  | case6 seen separator hcomma t hword sign hsign =>
    exact writtenIn_faulty (Token.markedBy_stop (by simp)) _
  | case7 seen separator hcomma t hword sign hsign target rest htarget isRepeated seen' hseen ih =>
    exact (ih.mono (by intro u hu; simp [hu])).addKeyword (by simp) (by simp) isRepeated
  | case8 seen separator hcomma t hword sign hsign target rest htarget =>
    exact writtenIn_faulty (Token.markedBy_start (by simp)) _
  | case9 seen separator hcomma t hword sign afterSign hsign isRepeated seen' hseen ih =>
    exact (ih.mono (by intro u hu; simp_all)).addArgument (by simp) isRepeated

end ParameterList

/-- The signature is written with the tokens. -/
structure Signature.WrittenIn (tokens : List Token) (s : Signature) : Prop where
  start : s.start.MarkedBy tokens
  name : s.nameSpan.MarkedBy tokens
  args : ∀ a ∈ s.args, ∃ t ∈ tokens, a = ⟨t.text, t.start⟩
  keywords : ∀ k ∈ s.keywords, ∃ t ∈ tokens, ∃ u ∈ tokens, k = ⟨t.text, u.text, t.start, u.start⟩

theorem HeaderName.writtenIn_read (name : Token) (after : List Token) :
    (HeaderName.read name after).parameters.WrittenIn (name :: after) ∧
      (HeaderName.read name after).span.startCursor = name.start.startCursor := by
  cases after with
  | nil => exact ⟨ParameterList.writtenIn_empty _, rfl⟩
  | cons t rest =>
    simp only [HeaderName.read]
    split
    · cases rest with
      | nil => exact ⟨ParameterList.writtenIn_faulty (Token.markedBy_start (by simp)) _, rfl⟩
      | cons method rest =>
        dsimp only
        split
        · refine ⟨(ParameterList.writtenIn_read _ rest).mono ?_, rfl⟩
          intro u hu
          simp [hu]
        · exact ⟨ParameterList.writtenIn_faulty (Token.markedBy_start (by simp)) _, rfl⟩
    · refine ⟨(ParameterList.writtenIn_read _ (t :: rest)).mono ?_, rfl⟩
      exact List.subset_cons_self _ _

theorem Header.writtenIn_of_read {file : Path} {word : Token} {after : List Token} {s : Signature}
    (h : (Header.read file word after).signature = some s) : s.WrittenIn (word :: after) := by
  cases after with
  | nil => simp [Header.read] at h
  | cons name rest =>
    simp only [Header.read] at h
    split at h
    · obtain rfl := Option.some.inj h
      obtain ⟨hparameters, hspan⟩ := HeaderName.writtenIn_read name rest
      have hparameters := hparameters.mono (List.subset_cons_self word (name :: rest))
      exact ⟨Token.markedBy_start (by simp), ⟨name, by simp, .inl hspan⟩, hparameters.args,
        hparameters.keywords⟩
    · cases h

theorem Header.markedBy_of_read {file : Path} {word : Token} {after : List Token} :
    ∀ p ∈ (Header.read file word after).problems, p.MarkedBy (word :: after) := by
  have hnameless : ∀ p ∈ [HeaderFault.missingName.problem word.start],
      p.MarkedBy (word :: after) := by
    intro p hp
    rw [List.mem_singleton.1 hp]
    exact Problem.markedBy_on (Token.markedBy_start (by simp)) _ _
  cases after with
  | nil => exact hnameless
  | cons name rest =>
    simp only [Header.read]
    split
    · intro p hp
      exact ((HeaderName.writtenIn_read name rest).1.problems p hp).mono (List.subset_cons_self _ _)
    · exact hnameless

/-! ## Variables -/

/-- The variable occurs, and only where a token of its name stands. -/
structure Binding.WrittenIn (tokens : List Token) (b : Binding) : Prop where
  occurs : b.occurrences ≠ []
  named : ∀ o ∈ b.occurrences, ∃ t ∈ tokens, t.key = b.name ∧ o.span = t.start

theorem writtenIn_occur {bindings : List Binding} (h : ∀ b ∈ bindings, b.WrittenIn tokens)
    {t : Token} (ht : t ∈ tokens) (kind : BindingKind) (role : OccurrenceRole) :
    ∀ b ∈ occur bindings t.text kind ⟨t.start, role⟩, b.WrittenIn tokens := by
  induction bindings with
  | nil =>
    intro b hb
    rw [List.mem_singleton.1 hb]
    refine ⟨by simp, ?_⟩
    intro o ho
    rw [List.mem_singleton.1 ho]
    exact ⟨t, ht, rfl, rfl⟩
  | cons first rest ih =>
    obtain ⟨hfirst, hrest⟩ := List.forall_mem_cons.1 h
    rw [occur]
    split
    · rename_i hname
      refine List.forall_mem_cons.2 ⟨⟨by simp, ?_⟩, hrest⟩
      refine List.forall_mem_append.2 ⟨hfirst.named, ?_⟩
      intro o ho
      rw [List.mem_singleton.1 ho]
      exact ⟨t, ht, (eq_of_beq hname).symm, rfl⟩
    · exact List.forall_mem_cons.2 ⟨hfirst, ih hrest⟩

theorem Outline.writtenIn_headerBindings {s : Signature} (h : s.WrittenIn tokens) :
    ∀ b ∈ headerBindings s, b.WrittenIn tokens := by
  have hargs : ∀ (args : List Argument) (bs : List Binding),
      (∀ a ∈ args, ∃ t ∈ tokens, a = ⟨t.text, t.start⟩) → (∀ b ∈ bs, b.WrittenIn tokens) →
      ∀ b ∈ args.foldl (fun bs a => occur bs a.name .argument ⟨a.span, .definition⟩) bs,
        b.WrittenIn tokens := by
    intro args
    induction args with
    | nil => exact fun bs _ hbs => hbs
    | cons a rest ih =>
      intro bs hargs hbs
      obtain ⟨⟨t, ht, rfl⟩, hrest⟩ := List.forall_mem_cons.1 hargs
      exact ih _ hrest (writtenIn_occur hbs ht _ _)
  have hkeywords : ∀ (keywords : List Keyword) (bs : List Binding),
      (∀ k ∈ keywords, ∃ t ∈ tokens, ∃ u ∈ tokens, k = ⟨t.text, u.text, t.start, u.start⟩) →
      (∀ b ∈ bs, b.WrittenIn tokens) →
      ∀ b ∈ keywords.foldl
        (fun bs k => occur bs k.target (.keyword k.name) ⟨k.targetSpan, .definition⟩) bs,
        b.WrittenIn tokens := by
    intro keywords
    induction keywords with
    | nil => exact fun bs _ hbs => hbs
    | cons k rest ih =>
      intro bs hkeywords hbs
      obtain ⟨⟨t, -, u, hu, rfl⟩, hrest⟩ := List.forall_mem_cons.1 hkeywords
      exact ih _ hrest (writtenIn_occur hbs hu _ _)
  exact hkeywords _ _ h.keywords (hargs _ _ h.args (by simp))

/-! ## Calls -/

namespace PassedItems

/-- What is passed, and the end of it, are written with the tokens. -/
structure WrittenIn (tokens : List Token) (items : PassedItems) : Prop where
  keywords : ∀ k ∈ items.keywords, ∃ t ∈ tokens, k = ⟨t.text, t.start⟩
  stop : ∃ t ∈ tokens, items.stop = t.stop

theorem writtenIn_stop {t : Token} (h : t ∈ tokens) (n : Nat) : WrittenIn tokens ⟨[], n, t.stop⟩ :=
  ⟨by simp, t, h, rfl⟩

theorem mem_of_keyword? {item : List Token} {k : PassedKeyword} (h : keyword? item = some k) :
    ∃ t ∈ item, k = ⟨t.text, t.start⟩ := by
  match item with
  | [] => simp [keyword?] at h
  | [_] => simp [keyword?] at h
  | first :: second :: rest =>
    simp only [keyword?] at h
    split at h
    · exact ⟨first, by simp, (Option.some.inj h).symm⟩
    · split at h
      · exact ⟨second, by simp, (Option.some.inj h).symm⟩
      · cases h

theorem WrittenIn.add {items : PassedItems} (h : items.WrittenIn tokens) {item : List Token}
    (hitem : item ⊆ tokens) (isEmpty : Bool) :
    (PassedItems.add item isEmpty items).WrittenIn tokens := by
  unfold PassedItems.add
  split
  · exact h
  · split
    · rename_i k hk
      obtain ⟨t, ht, heq⟩ := mem_of_keyword? hk
      exact ⟨List.forall_mem_cons.2 ⟨⟨t, hitem ht, heq⟩, h.keywords⟩, h.stop⟩
    · exact ⟨h.keywords, h.stop⟩

/-- Items are written with the tokens of the item at hand and with those ahead. -/
theorem writtenIn_readFrom (parens : Bool) {item ts : List Token} (isEmpty : Bool) (depth : Int)
    {last : Token} (hlast : last ∈ tokens) (hitem : item ⊆ tokens) (hts : ts ⊆ tokens) :
    (readFrom parens item isEmpty depth last.stop ts).WrittenIn tokens := by
  induction ts generalizing item isEmpty depth last with
  | nil => exact (writtenIn_stop hlast 0).add hitem isEmpty
  | cons t ts ih =>
    obtain ⟨ht, hrest⟩ := List.cons_subset.1 hts
    rw [readFrom]
    split
    · split
      · exact (ih _ _ ht hrest hrest).add hitem isEmpty
      · refine WrittenIn.add ?_ hitem isEmpty
        cases parens
        · exact writtenIn_stop hlast 0
        · exact writtenIn_stop ht 0
    · exact ih _ _ ht hitem hrest

theorem writtenIn_read (isFunction : Bool) {last : Token} {after : List Token}
    (hlast : last ∈ tokens) (hafter : after ⊆ tokens) :
    (read isFunction last after).WrittenIn tokens := by
  cases after with
  | nil => exact writtenIn_stop hlast 0
  | cons t ts =>
    obtain ⟨ht, hts⟩ := List.cons_subset.1 hafter
    rw [read]
    by_cases hopens : (t.kind == if isFunction then .leftParen else .comma) = true
    · rw [if_pos hopens]
      exact writtenIn_readFrom _ _ _ ht hts hts
    · rw [if_neg hopens]
      exact writtenIn_stop hlast 0

end PassedItems

/-- The call starts with a token, and all of it is written with this token and later ones. -/
def CallSite.WrittenIn (tokens : List Token) (c : CallSite) : Prop :=
  ∃ t rest, (t :: rest).Sublist tokens ∧ c.span = t.start ∧
    (∀ k ∈ c.keywords, ∃ u ∈ t :: rest, k = ⟨u.text, u.start⟩) ∧ ∃ u ∈ t :: rest, c.stop = u.stop

theorem MethodName.subset_of_extend (text : Text) (last : Token) (after : List Token) :
    let name := MethodName.extend text last after
    name.last ∈ last :: after ∧ name.after ⊆ last :: after := by
  fun_induction MethodName.extend text last after with
  | case1 text last => simp
  | case2 text last t => simp
  | case3 text last t w rest hcolons ih =>
    have hsub : w :: rest ⊆ last :: t :: w :: rest := by
      intro u hu
      exact List.mem_cons_of_mem _ (List.mem_cons_of_mem _ hu)
    exact ⟨hsub ih.1, List.Subset.trans ih.2 hsub⟩
  | case4 text last t w rest hcolons =>
    exact ⟨List.mem_cons_self, List.subset_cons_self _ _⟩

theorem Place.writtenIn_call {p : Place} (h : (p.token :: p.after).Sublist tokens)
    (kind : RoutineKind) (scope : Nat) : (p.call kind scope).WrittenIn tokens := by
  have hitems : (PassedItems.read kind.isFunction
      (if kind.isMethod then p.methodName else ⟨p.token.text, p.token, p.after⟩).last
      (if kind.isMethod then p.methodName else ⟨p.token.text, p.token, p.after⟩).after).WrittenIn
        (p.token :: p.after) := by
    split
    · obtain ⟨hlast, hafter⟩ := MethodName.subset_of_extend p.token.text p.token p.after
      exact PassedItems.writtenIn_read _ hlast hafter
    · exact PassedItems.writtenIn_read _ List.mem_cons_self (List.subset_cons_self _ _)
  exact ⟨p.token, p.after, h, rfl, hitems.keywords, hitems.stop⟩

/-! ## Statements of a scope -/

theorem Place.suffix_of_mem_rolesFrom {known : List Text} {before : List Token}
    {brackets : List TokenKind} {ts : List Token} {x : Place × IdentifierRole}
    (h : x ∈ rolesFrom known before brackets ts) : x.1.token :: x.1.after <:+ ts := by
  induction ts generalizing before brackets with
  | nil => cases h
  | cons t ts ih =>
    simp only [rolesFrom] at h
    split at h
    · rcases List.mem_cons.1 h with rfl | h
      · exact List.suffix_refl _
      · exact (ih h).trans (List.suffix_cons t ts)
    · exact (ih h).trans (List.suffix_cons t ts)

/-- What has been found is written with the tokens. -/
def Finding.WrittenIn (tokens : List Token) : Finding → Prop
  | .occurrence name _ o => ∃ t ∈ tokens, name = t.text ∧ o.span = t.start
  | .call site => site.WrittenIn tokens

theorem Statement.writtenIn_findings {s : Statement} (h : s.Sublist tokens) (scope : Nat)
    (known : List Text) : ∀ f ∈ s.findings scope known, f.WrittenIn tokens := by
  intro f hf
  unfold findings at hf
  split at hf
  · cases hf
  · split at hf
    · obtain ⟨t, ht, rfl⟩ := List.mem_map.1 hf
      exact ⟨t, h.subset (List.mem_of_mem_drop (List.mem_filter.1 ht).1), rfl, rfl⟩
    · split at hf
      · cases hf
      · obtain ⟨⟨p, role⟩, hp, hfound⟩ := List.mem_filterMap.1 hf
        have hplace : (p.token :: p.after).Sublist tokens :=
          (Place.suffix_of_mem_rolesFrom hp).sublist.trans h
        have hmem : p.token ∈ tokens := hplace.subset List.mem_cons_self
        cases role with
        | definition =>
          obtain rfl := Option.some.inj hfound
          exact ⟨p.token, hmem, rfl, rfl⟩
        | reference =>
          obtain rfl := Option.some.inj hfound
          exact ⟨p.token, hmem, rfl, rfl⟩
        | call kind =>
          obtain rfl := Option.some.inj hfound
          exact Place.writtenIn_call hplace kind scope
        | aside => cases hfound

/-- The variables that the head of a scope binds, and its statements, are written with the
tokens. -/
structure ScopeDraft.WrittenIn (tokens : List Token) (d : ScopeDraft) : Prop where
  bindings : ∀ b ∈ d.bindings, b.WrittenIn tokens
  statements : ∀ s ∈ d.statements, s.Sublist tokens

namespace ScopeDraft

variable {d : ScopeDraft}

theorem WrittenIn.findings (h : d.WrittenIn tokens) (index : Nat) :
    ∀ f ∈ d.findings index, f.WrittenIn tokens := by
  intro f hf
  obtain ⟨s, hs, hf⟩ := List.mem_flatMap.1 hf
  exact Statement.writtenIn_findings (h.statements s hs) index _ f hf

theorem writtenIn_foldl_bind {findings : List Finding} (h : ∀ f ∈ findings, f.WrittenIn tokens)
    {bindings : List Binding} (hbindings : ∀ b ∈ bindings, b.WrittenIn tokens) :
    ∀ b ∈ findings.foldl Finding.bind bindings, b.WrittenIn tokens := by
  induction findings generalizing bindings with
  | nil => exact hbindings
  | cons f rest ih =>
    obtain ⟨hf, hrest⟩ := List.forall_mem_cons.1 h
    apply ih hrest
    cases f with
    | call site => exact hbindings
    | occurrence name kind o =>
      obtain ⟨t, ht, rfl, hspan⟩ := hf
      obtain ⟨span, role⟩ := o
      obtain rfl : span = t.start := hspan
      exact writtenIn_occur hbindings ht kind role

theorem WrittenIn.scope (h : d.WrittenIn tokens) (index : Nat) :
    ∀ b ∈ (d.scope index).bindings, b.WrittenIn tokens :=
  writtenIn_foldl_bind (h.findings index) h.bindings

theorem WrittenIn.calls (h : d.WrittenIn tokens) (index : Nat) :
    ∀ c ∈ d.calls index, c.WrittenIn tokens := by
  intro c hc
  obtain ⟨f, hf, hcall⟩ := List.mem_filterMap.1 hc
  cases f with
  | occurrence name kind o => cases hcall
  | call site =>
    obtain rfl := Option.some.inj hcall
    exact h.findings index _ hf

end ScopeDraft

/-! ## Files -/

namespace Outline

variable {o : Outline} {file : Path}

/-- All that has been read so far is written with the tokens. -/
structure WrittenIn (tokens : List Token) (o : Outline) : Prop where
  signatures : ∀ r ∈ o.routines, r.signature.WrittenIn tokens
  scopes : ∀ d ∈ o.scopes, d.WrittenIn tokens
  problems : ∀ p ∈ o.problems, p.MarkedBy tokens
  opened : ∀ r, o.openRoutine = some r → r.start.MarkedBy tokens

theorem writtenIn_empty (tokens : List Token) : empty.WrittenIn tokens := by
  constructor <;> simp [empty]

theorem WrittenIn.abandon (h : o.WrittenIn tokens) : o.abandon.WrittenIn tokens := by
  unfold Outline.abandon
  split
  · rename_i r hr
    refine ⟨h.signatures, h.scopes, List.forall_mem_append.2 ⟨h.problems, ?_⟩, by simp⟩
    intro p hp
    rw [List.mem_singleton.1 hp]
    exact Problem.markedBy_on (h.opened r hr) _ _
  · exact h

theorem WrittenIn.begin (h : o.WrittenIn tokens) {s : Signature} (hs : s.WrittenIn tokens) :
    (o.begin s).WrittenIn tokens where
  signatures := by
    refine List.forall_mem_append.2 ⟨h.signatures, ?_⟩
    intro r hr
    rw [List.mem_singleton.1 hr]
    exact hs
  scopes := by
    refine List.forall_mem_append.2 ⟨h.scopes, ?_⟩
    intro d hd
    rw [List.mem_singleton.1 hd]
    exact ⟨writtenIn_headerBindings hs, by simp⟩
  problems := by
    refine List.forall_mem_append.2 ⟨h.problems, ?_⟩
    intro p hp
    unfold redefinition at hp
    split at hp
    · rw [List.mem_singleton.1 hp]
      exact Problem.markedBy_on hs.name _ _
    · cases hp
  opened := by
    intro r hr
    obtain rfl := Option.some.inj hr
    exact hs.start

theorem WrittenIn.addHeader (h : o.WrittenIn tokens) {word : Token} {after : List Token}
    (hsub : word :: after ⊆ tokens) : (o.addHeader file word after).WrittenIn tokens := by
  have hreported : ({ o with
      problems := o.problems ++ (Header.read file word after).problems } : Outline).WrittenIn
        tokens := by
    refine ⟨h.signatures, h.scopes, List.forall_mem_append.2 ⟨h.problems, ?_⟩, h.opened⟩
    exact fun p hp => (Header.markedBy_of_read p hp).mono hsub
  simp only [Outline.addHeader]
  split
  · rename_i s hs
    obtain ⟨hstart, hname, hargs, hkeywords⟩ := Header.writtenIn_of_read hs
    refine hreported.begin ⟨hstart.mono hsub, hname.mono hsub, ?_, ?_⟩
    · intro a ha
      obtain ⟨t, ht, heq⟩ := hargs a ha
      exact ⟨t, hsub ht, heq⟩
    · intro k hk
      obtain ⟨t, ht, u, hu, heq⟩ := hkeywords k hk
      exact ⟨t, hsub ht, u, hsub hu, heq⟩
  · exact hreported

theorem WrittenIn.put (h : o.WrittenIn tokens) (scope : Nat) {s : Statement}
    (hs : s.Sublist tokens) : (o.put scope s).WrittenIn tokens := by
  refine ⟨h.signatures, forall_mem_modify h.scopes scope ?_, h.problems, h.opened⟩
  intro d hd
  refine ⟨hd.bindings, List.forall_mem_append.2 ⟨hd.statements, ?_⟩⟩
  intro s' hs'
  rw [List.mem_singleton.1 hs']
  exact hs

theorem WrittenIn.addToRoutine (h : o.WrittenIn tokens) {r : OpenRoutine}
    (hr : o.openRoutine = some r) {s : Statement} (hs : s.Sublist tokens) :
    (o.addToRoutine r s).WrittenIn tokens := by
  unfold Outline.addToRoutine
  split
  · refine ⟨forall_mem_modify h.signatures _ fun _ => id, forall_mem_modify h.scopes _ ?_,
      h.problems, by simp [close]⟩
    exact fun d hd => ⟨hd.bindings, hd.statements⟩
  · have hdeeper : ({ o with
        openRoutine := some { r with depth := s.depthAfter r.depth } } : Outline).WrittenIn
          tokens := by
      refine ⟨h.signatures, h.scopes, h.problems, ?_⟩
      intro r' hr'
      obtain rfl := Option.some.inj hr'
      exact h.opened r hr
    exact hdeeper.put r.scope hs

theorem WrittenIn.addToMain (h : o.WrittenIn tokens) (first : Token) {s : Statement}
    (hs : s.Sublist tokens) : (o.addToMain first s).WrittenIn tokens := by
  unfold Outline.addToMain
  split
  · exact h
  · have hmain : (o.withMain first.start).2.WrittenIn tokens := by
      unfold withMain
      split
      · exact h
      · refine ⟨h.signatures, List.forall_mem_append.2 ⟨h.scopes, ?_⟩, h.problems, h.opened⟩
        intro d hd
        rw [List.mem_singleton.1 hd]
        constructor <;> simp
    have hdeeper : ({ (o.withMain first.start).2 with
        mainDepth := s.depthAfter (o.withMain first.start).2.mainDepth } : Outline).WrittenIn
          tokens :=
      ⟨hmain.signatures, hmain.scopes, hmain.problems, hmain.opened⟩
    exact hdeeper.put (o.withMain first.start).1 hs

/-- One statement adds only what is written with its tokens. -/
theorem WrittenIn.add (h : o.WrittenIn tokens) {s : Statement} (hs : s.Sublist tokens) :
    (o.add file s).WrittenIn tokens := by
  cases s with
  | nil => exact h
  | cons first after =>
    simp only [Outline.add]
    split
    · exact h.abandon.addHeader hs.subset
    · split
      · rename_i r hr
        exact h.addToRoutine hr hs
      · exact h.addToMain first hs

theorem writtenIn_ofStatements (file : Path) {statements : List Statement}
    (h : ∀ s ∈ statements, s.Sublist tokens) : (ofStatements file statements).WrittenIn tokens := by
  have hfold : ∀ o : Outline, o.WrittenIn tokens →
      (statements.foldl (Outline.add file) o).WrittenIn tokens := by
    induction statements with
    | nil => exact fun o ho => ho
    | cons s rest ih =>
      obtain ⟨hs, hrest⟩ := List.forall_mem_cons.1 h
      exact fun o ho => ih hrest _ (ho.add hs)
  exact (hfold empty (writtenIn_empty tokens)).abandon

end Outline

/-- All of a record is written with the tokens. -/
structure Record.WrittenIn (tokens : List Token) (r : Record) : Prop where
  signatures : ∀ s ∈ r.signatures, s.WrittenIn tokens
  bindings : ∀ s ∈ r.scopes, ∀ b ∈ s.bindings, b.WrittenIn tokens
  calls : ∀ c ∈ r.calls, c.WrittenIn tokens

theorem Outline.WrittenIn.record {o : Outline} (h : o.WrittenIn tokens) :
    o.record.WrittenIn tokens where
  signatures := by
    intro s hs
    obtain ⟨r, hr, rfl⟩ := List.mem_map.1 hs
    exact h.signatures r hr
  bindings := by
    intro s hs
    obtain ⟨i, hi, rfl⟩ := List.mem_mapIdx.1 hs
    exact (h.scopes _ (List.getElem_mem hi)).scope i
  calls := by
    intro c hc
    obtain ⟨calls, hcalls, hc⟩ := List.mem_flatten.1 hc
    obtain ⟨i, hi, rfl⟩ := List.mem_mapIdx.1 hcalls
    exact (h.scopes _ (List.getElem_mem hi)).calls i c hc

/-- The record of a file, and the problems with its structure, are written with its tokens. -/
theorem Record.writtenIn_ofTokens (file : Path) (tokens : List Token) :
    (Record.ofTokens file tokens).1.WrittenIn tokens ∧
      ∀ p ∈ (Record.ofTokens file tokens).2, p.MarkedBy tokens := by
  have houtline : (Outline.ofStatements file (Statement.split tokens)).WrittenIn tokens :=
    Outline.writtenIn_ofStatements file fun s hs => Statement.sublist_of_mem_split hs
  exact ⟨houtline.record, houtline.problems⟩

end RoutineAtlas
