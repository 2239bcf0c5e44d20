import Mathlib.Algebra.Order.BigOperators.Group.List
import Mathlib.Data.Multiset.Bind
import Mathlib.Data.Multiset.OrderedMonoid
import Mathlib.Tactic.Abel
import RoutineAtlas.Proofs.LetterCase.Text
import RoutineAtlas.Proofs.Scoping

/-!
# Every word is accounted for once

A record says of many words of a file what they are there for: variables occur in headers, in
declarations of common blocks and in statements, calls name routines and keywords, and headers name
what they declare. Several readers find these uses, each with rules of its own, and none of them
knows what the others have found. Still no word is used twice.

The proof keeps a ledger. A use is entered as the place where it starts, and the uses found in a
statement are a part of the words of that statement, counted with multiplicity. As the statements of
a file divide its words among them, the uses of the whole record are a part of the words of the
file, of which no two start at one place.

## Main definitions

* `wordStarts` — where the words among some tokens start.
* `Statement.claims` — what a statement may enter into the ledger.
* `Outline.kept` — the ledger of what has been read so far.
* `Record.AccountsOnce` — each word is at most one occurrence, or the name of one call.
-/

namespace RoutineAtlas

/-! ## Words -/

/-- Where the words among some tokens start. -/
def wordStarts (ts : List Token) : Multiset Cursor :=
  ↑((ts.filter Token.isWord).map (·.start.startCursor))

section Words

variable {t : Token} {ts us : List Token}

@[simp] theorem wordStarts_nil : wordStarts [] = 0 :=
  rfl

theorem wordStarts_cons_of_isWord (h : t.isWord = true) :
    wordStarts (t :: ts) = {t.start.startCursor} + wordStarts ts := by
  simp [wordStarts, h]

theorem wordStarts_le_cons (t : Token) (ts : List Token) :
    wordStarts ts ≤ wordStarts (t :: ts) := by
  cases h : t.isWord with
  | true => rw [wordStarts_cons_of_isWord h]; exact Multiset.le_add_left _ _
  | false => simp [wordStarts, h]

@[simp] theorem wordStarts_append : wordStarts (ts ++ us) = wordStarts ts + wordStarts us := by
  simp [wordStarts]

theorem wordStarts_le_of_sublist (h : ts.Sublist us) : wordStarts ts ≤ wordStarts us :=
  Multiset.coe_le.2 ((h.filter _).map _).subperm

theorem mem_wordStarts {x : Cursor} :
    x ∈ wordStarts ts ↔ ∃ t ∈ ts, t.isWord = true ∧ t.start.startCursor = x := by
  simp [wordStarts, and_assoc]

theorem sum_wordStarts (ss : List Statement) :
    (ss.map wordStarts).sum = wordStarts ss.flatten := by
  induction ss with
  | nil => rfl
  | cons s rest ih => simp [ih]

end Words

/-- No two tokens of a text start at one place. -/
theorem Token.Laid.nodup_wordStarts {tokens : List Token} (h : Token.Laid tokens) :
    (wordStarts tokens).Nodup := by
  rw [wordStarts, Multiset.coe_nodup, List.Nodup, List.pairwise_map]
  refine (h.before.sublist List.filter_sublist).imp_of_mem ?_
  intro t u ht _ hbefore
  exact hbefore.startCursor_ne (h.nonempty t (List.mem_of_mem_filter ht))

/-! ## Variables -/

/-- Where some variables occur. -/
def occurrenceStarts (bindings : List Binding) : List Cursor :=
  bindings.flatMap fun b => b.occurrences.map (·.span.startCursor)

theorem occurrenceStarts_occur (bindings : List Binding) (name : Text) (kind : BindingKind)
    (o : Occurrence) : (↑(occurrenceStarts (occur bindings name kind o)) : Multiset Cursor) =
      {o.span.startCursor} + ↑(occurrenceStarts bindings) := by
  induction bindings with
  | nil => rfl
  | cons b rest ih =>
    rw [occur]
    split
    · simp only [occurrenceStarts, List.flatMap_cons, List.map_append, List.map_cons, List.map_nil,
        ← Multiset.coe_add, Multiset.coe_singleton]
      abel
    · simp only [occurrenceStarts, List.flatMap_cons, ← Multiset.coe_add] at ih ⊢
      rw [ih]
      abel

/-- The names after one more occurrence: a new one comes last, and in small letters. -/
theorem map_name_occur (bindings : List Binding) (name : Text) (kind : BindingKind)
    (o : Occurrence) : (occur bindings name kind o).map (·.name) =
      if name.lower ∈ bindings.map (·.name) then bindings.map (·.name)
      else bindings.map (·.name) ++ [name.lower] := by
  induction bindings with
  | nil => rfl
  | cons b rest ih =>
    rw [occur]
    by_cases hname : b.name = name.lower
    · simp [hname]
    · have hne : name.lower ≠ b.name := fun heq => hname heq.symm
      rw [if_neg (by simpa using hname), List.map_cons, ih]
      simp only [List.map_cons, List.mem_cons, hne, false_or]
      split <;> rfl

/-- The variables have different names, all in small letters. -/
structure NamedApart (bindings : List Binding) : Prop where
  distinct : (bindings.map (·.name)).Nodup
  small : ∀ b ∈ bindings, b.name.lower = b.name

theorem namedApart_nil : NamedApart [] :=
  ⟨List.nodup_nil, by simp⟩

theorem NamedApart.occur {bindings : List Binding} (h : NamedApart bindings) (name : Text)
    (kind : BindingKind) (o : Occurrence) : NamedApart (occur bindings name kind o) where
  distinct := by
    rw [map_name_occur]
    split
    · exact h.distinct
    · rename_i hnew
      exact List.concat_eq_append ▸ h.distinct.concat hnew
  small := by
    have hnames : ∀ x ∈ (RoutineAtlas.occur bindings name kind o).map (·.name), x.lower = x := by
      have hold : ∀ x ∈ bindings.map (·.name), x.lower = x := List.forall_mem_map.2 h.small
      rw [map_name_occur]
      split
      · exact hold
      · exact List.forall_mem_append.2 ⟨hold, by simp⟩
    exact List.forall_mem_map.1 hnames

/-! ## Findings -/

namespace Finding

/-- Where a finding starts. -/
def start : Finding → Cursor
  | occurrence _ _ o => o.span.startCursor
  | call site => site.span.startCursor

/-- Every finding is kept: an occurrence with its variable, and a call with the calls. -/
theorem starts_foldl_bind (findings : List Finding) (bindings : List Binding) :
    (↑(occurrenceStarts (findings.foldl bind bindings)) : Multiset Cursor) +
        ↑((findings.filterMap call?).map (·.span.startCursor)) =
      ↑(occurrenceStarts bindings) + ↑(findings.map start) := by
  induction findings generalizing bindings with
  | nil => simp
  | cons f rest ih =>
    rw [List.foldl_cons]
    have hrest := ih (f.bind bindings)
    cases f with
    | occurrence name kind o =>
      rw [bind, occurrenceStarts_occur] at hrest
      simp only [List.filterMap_cons, call?, List.map_cons, start, ← Multiset.cons_coe,
        ← Multiset.singleton_add]
      rw [bind, hrest]
      abel
    | call site =>
      simp only [List.filterMap_cons, call?, List.map_cons, start, ← Multiset.cons_coe,
        ← Multiset.singleton_add]
      rw [add_left_comm, hrest, bind]
      abel

theorem namedApart_foldl_bind {bindings : List Binding} (h : NamedApart bindings)
    (findings : List Finding) : NamedApart (findings.foldl bind bindings) := by
  induction findings generalizing bindings with
  | nil => exact h
  | cons f rest ih =>
    cases f with
    | occurrence name kind o => exact ih (h.occur name kind o)
    | call site => exact ih h

end Finding

/-! ## Statements -/

instance (p : Place) : Decidable p.NamesKeyword :=
  decidable_of_iff (p.token.isWord = true ∧ p.isKeywordName = true ∧
      p.prevIs (fun t => Place.separates t || t.isOperator "/") = true)
    ⟨fun ⟨hword, hname, hprev⟩ => ⟨hword, hname, hprev⟩,
      fun h => ⟨h.isWord, h.isKeywordName, h.prev⟩⟩

/-- Where the statement names keywords that a call of it may pass. The declaration of a common block
holds no calls. -/
def Statement.keywordStarts (s : Statement) : Multiset Cursor :=
  if s.isCommon then 0
  else ↑((s.places.filter fun p => p.NamesKeyword).map (·.token.start.startCursor))

/-- What is found at a place starts with the token of the place. -/
theorem Finding.start_of_ofRole? {scope : Nat} {p : Place} {role : IdentifierRole} {f : Finding}
    (h : ofRole? scope p role = some f) : f.start = p.token.start.startCursor ∧ role ≠ .aside := by
  cases role with
  | aside => cases h
  | definition | reference | call kind =>
    obtain rfl := Option.some.inj h
    exact ⟨rfl, by simp⟩

/-- A word has a role, or is the name of a keyword, but not both. -/
theorem Place.starts_rolesFrom_le (known : List Text) (scope : Nat) (before : List Token)
    (brackets : List TokenKind) (ts : List Token) :
    (↑(((rolesFrom known before brackets ts).filterMap fun (p, role) =>
        Finding.ofRole? scope p role).map Finding.start) : Multiset Cursor) +
        ↑(((placesFrom before ts).filter fun p => p.NamesKeyword).map
          (·.token.start.startCursor)) ≤
      wordStarts ts := by
  induction ts generalizing before brackets with
  | nil => exact le_refl _
  | cons t ts ih =>
    simp only [rolesFrom, placesFrom]
    generalize hopen : (if t.kind.opens then t.kind :: brackets
      else if t.kind.closes then brackets.tail else brackets) = brackets'
    have hrest := ih (t :: before) brackets'
    by_cases hnames : NamesKeyword ⟨before, t, ts⟩
    · -- a keyword has no role but to stand aside
      have hnone : Finding.ofRole? scope ⟨before, t, ts⟩
          (role ⟨before, t, ts⟩ brackets'.head? known) = none := by
        rw [hnames.role_eq_aside]
        rfl
      have hword : t.isWord = true := hnames.isWord
      rw [List.filter_cons_of_pos (by simpa using hnames), List.map_cons, ← Multiset.cons_coe,
        ← Multiset.singleton_add, add_left_comm, wordStarts_cons_of_isWord hword]
      refine add_le_add_right ?_ _
      split
      · simp only [List.filterMap_cons, hnone]
        exact hrest
      · exact hrest
    · rw [List.filter_cons_of_neg (by simpa using hnames)]
      split
      · rename_i hrole
        have hword : t.isWord = true := isWord_of_hasRole hrole
        cases hfound : Finding.ofRole? scope ⟨before, t, ts⟩
            (role ⟨before, t, ts⟩ brackets'.head? known) with
        | none =>
          simp only [List.filterMap_cons, hfound]
          exact hrest.trans (wordStarts_le_cons t ts)
        | some f =>
          simp only [List.filterMap_cons, hfound, List.map_cons, ← Multiset.cons_coe,
            ← Multiset.singleton_add, add_assoc]
          rw [wordStarts_cons_of_isWord hword, (Finding.start_of_ofRole? hfound).1]
          exact add_le_add_right hrest _
      · exact hrest.trans (wordStarts_le_cons t ts)

namespace Statement

theorem keywordStarts_le (s : Statement) : s.keywordStarts ≤ wordStarts s := by
  unfold keywordStarts
  split
  · exact Multiset.zero_le _
  · exact (Multiset.le_add_left _ _).trans (Place.starts_rolesFrom_le [] 0 [] [] s)

/-- What a statement finds, and the keywords that it names, are different words of it. -/
theorem starts_findings_le (s : Statement) (scope : Nat) (known : List Text) :
    ↑((s.findings scope known).map Finding.start) + s.keywordStarts ≤ wordStarts s := by
  have hkeywords := s.keywordStarts_le
  unfold findings
  split
  · simpa using hkeywords
  · split
    · rename_i hcommon
      have hmembers : (s.commonMembers.map fun t => t.start.startCursor).Sublist
          ((s.filter Token.isWord).map fun t => t.start.startCursor) := by
        have hword : ∀ t : Token, (t.kind == .identifier) = true → t.isWord = true := by
          intro t ht
          simp [Token.isWord, ht]
        exact ((List.monotone_filter_right _ hword).trans
          ((List.drop_sublist 2 s).filter _)).map _
      rw [keywordStarts, if_pos hcommon, add_zero, List.map_map]
      exact Multiset.coe_le.2 hmembers.subperm
    · rename_i hcommon
      split
      · simpa using hkeywords
      · rw [keywordStarts, if_neg hcommon]
        exact Place.starts_rolesFrom_le known scope [] [] s

end Statement

/-! ## Headers -/

/-- The variables that a header binds, as what it says about its scope. -/
def Signature.bound (s : Signature) : List Finding :=
  s.args.map (fun a => .occurrence a.name .argument ⟨a.span, .definition⟩) ++
    s.keywords.map fun k => .occurrence k.target (.keyword k.name) ⟨k.targetSpan, .definition⟩

theorem Outline.headerBindings_eq (s : Signature) :
    headerBindings s = s.bound.foldl Finding.bind [] := by
  rw [Signature.bound, List.foldl_append, List.foldl_map, List.foldl_map]
  rfl

theorem Signature.starts_headerBindings (s : Signature) :
    (↑(occurrenceStarts (Outline.headerBindings s)) : Multiset Cursor) =
      ↑(s.args.map (·.span.startCursor)) + ↑(s.keywords.map (·.targetSpan.startCursor)) := by
  have hkept := Finding.starts_foldl_bind s.bound []
  have hnone : s.bound.filterMap Finding.call? = [] := by
    simp [bound, Finding.call?]
  rw [← Outline.headerBindings_eq, hnone] at hkept
  simpa [occurrenceStarts, bound, Finding.start, Function.comp_def] using hkept

namespace ParameterList

/-- Where the parameters and the names of the keywords among them are written. -/
def starts (l : ParameterList) : Multiset Cursor :=
  ↑(l.args.map (·.span.startCursor)) + ↑(l.keywords.map (·.targetSpan.startCursor)) +
    ↑(l.keywords.map (·.span.startCursor))

@[simp] theorem starts_faulty (fault : HeaderFault) (span : Span) :
    (faulty fault span).starts = 0 :=
  rfl

theorem starts_addArgument (t : Token) (problems : List Problem) (rest : ParameterList) :
    (addArgument t problems rest).starts = {t.start.startCursor} + rest.starts := by
  simp only [starts, addArgument, List.map_cons, ← Multiset.cons_coe, ← Multiset.singleton_add]
  abel

theorem starts_addKeyword (t target : Token) (problems : List Problem) (rest : ParameterList) :
    (addKeyword t target problems rest).starts =
      {t.start.startCursor} + ({target.start.startCursor} + rest.starts) := by
  simp only [starts, addKeyword, List.map_cons, ← Multiset.cons_coe, ← Multiset.singleton_add]
  abel

/-- Parameters, and the names of the keywords among them, are different words. -/
theorem starts_read_le (seen : Seen) (ts : List Token) : (read seen ts).starts ≤ wordStarts ts := by
  fun_induction read seen ts with
  | case1 seen => exact le_refl _
  | case2 seen separator rest hcomma => exact Multiset.zero_le _
  | case3 seen separator hcomma => exact Multiset.zero_le _
  | case4 seen separator hcomma t rest hword => exact Multiset.zero_le _
  | case5 seen separator hcomma t hword isRepeated seen' hseen =>
    refine le_trans ?_ (wordStarts_le_cons separator [t])
    rw [wordStarts_cons_of_isWord (by simpa using hword), starts_addArgument]
    exact le_refl _
  | case6 seen separator hcomma t hword sign hsign => exact Multiset.zero_le _
  | case7 seen separator hcomma t hword sign hsign target rest htarget isRepeated seen' hseen ih =>
    have htargetWord : target.isWord = true := by simp [Token.isWord, htarget]
    refine le_trans ?_ (wordStarts_le_cons separator _)
    rw [wordStarts_cons_of_isWord (by simpa using hword), starts_addKeyword]
    refine add_le_add_right (le_trans ?_ (wordStarts_le_cons sign _)) _
    rw [wordStarts_cons_of_isWord htargetWord]
    exact add_le_add_right ih _
  | case8 seen separator hcomma t hword sign hsign target rest htarget =>
    exact Multiset.zero_le _
  | case9 seen separator hcomma t hword sign afterSign hsign isRepeated seen' hseen ih =>
    refine le_trans ?_ (wordStarts_le_cons separator _)
    rw [wordStarts_cons_of_isWord (by simpa using hword), starts_addArgument]
    exact add_le_add_right ih _

end ParameterList

theorem HeaderName.starts_read_le (name : Token) (after : List Token) :
    wordStarts (Header.nameTokens (name :: after)) +
      (HeaderName.read name after).parameters.starts ≤ wordStarts (name :: after) := by
  have hnone (ts : List Token) : wordStarts [name] + 0 ≤ wordStarts (name :: ts) := by
    rw [add_zero]
    exact wordStarts_le_of_sublist (by simp)
  cases after with
  | nil => exact hnone []
  | cons t rest =>
    by_cases ht : t.kind = .doubleColon
    · cases rest with
      | nil => simpa [Header.nameTokens, HeaderName.read, ht] using hnone [t]
      | cons method rest =>
        by_cases hmethod : method.isWord = true
        · simp only [Header.nameTokens, HeaderName.read, ht, hmethod, beq_self_eq_true,
            Bool.and_self, if_true]
          have hsub : [name, method].Sublist [name, t, method] := by simp
          calc wordStarts [name, method] + (ParameterList.read .none rest).starts
              ≤ wordStarts [name, t, method] + wordStarts rest :=
                add_le_add (wordStarts_le_of_sublist hsub) (ParameterList.starts_read_le .none rest)
            _ = wordStarts (name :: t :: method :: rest) := wordStarts_append.symm
        · simpa [Header.nameTokens, HeaderName.read, ht, hmethod] using
            hnone (t :: method :: rest)
    · have hparameters : (HeaderName.read name (t :: rest)).parameters =
          .read .none (t :: rest) := by
        simp [HeaderName.read, ht]
      have hnames : Header.nameTokens (name :: t :: rest) = [name] := by
        cases rest <;> simp [Header.nameTokens, ht]
      rw [hparameters, hnames]
      calc wordStarts [name] + (ParameterList.read .none (t :: rest)).starts
          ≤ wordStarts [name] + wordStarts (t :: rest) :=
            add_le_add_right (ParameterList.starts_read_le .none (t :: rest)) _
        _ = wordStarts (name :: t :: rest) := wordStarts_append.symm

/-- The name in a header, the variables that the header binds and the names of its keywords are
different words of it. -/
theorem Header.starts_read_le {file : Path} {word : Token} {after : List Token} {sig : Signature}
    (h : (Header.read file word after).signature = some sig) :
    wordStarts (Header.nameTokens after) + (↑(occurrenceStarts (Outline.headerBindings sig)) +
      ↑(sig.keywords.map (·.span.startCursor))) ≤ wordStarts (word :: after) := by
  cases after with
  | nil => simp [Header.read] at h
  | cons name rest =>
    simp only [Header.read] at h
    split at h
    · obtain rfl := Option.some.inj h
      rw [Signature.starts_headerBindings]
      exact (HeaderName.starts_read_le name rest).trans (wordStarts_le_cons word _)
    · cases h

namespace Statement

/-- The signature that the statement declares, if it is a header. -/
def signature? (file : Path) : Statement → Option Signature
  | [] => none
  | word :: after => if word.startsRoutine then (Header.read file word after).signature else none

/-- Where a header names its routine and its keywords. -/
def headStarts (file : Path) (s : Statement) : Multiset Cursor :=
  match s.signature? file with
  | some sig => wordStarts (Header.nameTokens s.tail) + ↑(sig.keywords.map (·.span.startCursor))
  | none => 0

/-- What a statement may enter into the ledger of a scope: the variables that it binds as a header,
and else all of its words. -/
def claims (file : Path) (s : Statement) : Multiset Cursor :=
  if s.isHeader then
    match s.signature? file with
    | some sig => ↑(occurrenceStarts (Outline.headerBindings sig))
    | none => 0
  else wordStarts s

theorem headStarts_add_claims_le (file : Path) (s : Statement) :
    s.headStarts file + s.claims file ≤ wordStarts s := by
  cases s with
  | nil => simp [headStarts, claims, signature?, isHeader]
  | cons word after =>
    have hheader : isHeader (word :: after) = word.startsRoutine := rfl
    simp only [headStarts, claims, signature?, hheader]
    cases hstarts : word.startsRoutine with
    | false => simp
    | true =>
      cases hread : (Header.read file word after).signature with
      | none => exact Multiset.zero_le _
      | some sig =>
        refine le_trans (le_of_eq ?_) (Header.starts_read_le hread)
        simp only [if_true, List.tail_cons]
        abel

end Statement

/-! ## Files -/

/-- What counts for one element counts for all of them. -/
theorem mem_sum_map {α : Type} {count : α → Multiset Cursor} {l : List α} {a : α} (ha : a ∈ l)
    {x : Cursor} (hx : x ∈ count a) : x ∈ (l.map count).sum := by
  refine Multiset.mem_of_le (List.single_le_sum ?_ _ (List.mem_map_of_mem ha)) hx
  exact fun y _ => Multiset.zero_le y

/-- A change that adds at most `more` to what one element counts for adds no more to the sum. -/
theorem sum_map_modify_le {α : Type} {count : α → Multiset Cursor} {f : α → α}
    {more : Multiset Cursor} (h : ∀ a, count (f a) ≤ count a + more) (l : List α) (i : Nat) :
    ((l.modify i f).map count).sum ≤ (l.map count).sum + more := by
  induction l generalizing i with
  | nil => simp
  | cons a rest ih =>
    cases i with
    | zero =>
      simp only [List.modify_zero_cons, List.map_cons, List.sum_cons]
      refine le_trans (add_le_add_left (h a) _) (le_of_eq ?_)
      abel
    | succ i =>
      simp only [List.modify_succ_cons, List.map_cons, List.sum_cons, add_assoc]
      exact add_le_add_right (ih i) _

namespace ScopeDraft

/-- What a scope has in the ledger: where the variables of its head occur, and the words of its
statements. -/
def kept (d : ScopeDraft) : Multiset Cursor :=
  ↑(occurrenceStarts d.bindings) + (d.statements.map wordStarts).sum

/-- Where the statements name keywords that a call may pass. -/
def keywordStarts (d : ScopeDraft) : Multiset Cursor :=
  (d.statements.map Statement.keywordStarts).sum

/-- What is recorded for a scope comes out of what it has in the ledger. -/
theorem starts_scope_le (d : ScopeDraft) (index : Nat) :
    ↑(occurrenceStarts (d.scope index).bindings) +
        ↑((d.calls index).map (·.span.startCursor)) + d.keywordStarts ≤ d.kept := by
  have hfound : (↑((d.findings index).map Finding.start) : Multiset Cursor) =
      (d.statements.map fun s => (↑((s.findings index d.known).map Finding.start))).sum := by
    rw [findings, List.map_flatMap, ← Multiset.coe_bind]
    rfl
  have hstatements : ↑((d.findings index).map Finding.start) + d.keywordStarts ≤
      (d.statements.map wordStarts).sum := by
    rw [hfound, keywordStarts, ← List.sum_map_add]
    exact List.sum_le_sum fun s _ => s.starts_findings_le index d.known
  rw [scope, calls, Finding.starts_foldl_bind, add_assoc]
  exact add_le_add_right hstatements _

end ScopeDraft

namespace Outline

variable {file : Path} {o : Outline} {s : Statement}

/-- What all scopes have in the ledger. -/
def kept (o : Outline) : Multiset Cursor :=
  (o.scopes.map ScopeDraft.kept).sum

@[simp] theorem kept_abandon (o : Outline) : o.abandon.kept = o.kept := by
  unfold abandon
  split <;> rfl

theorem kept_addHeader_le (o : Outline) {word : Token} (hstarts : word.startsRoutine = true)
    (after : List Token) : (o.addHeader file word after).kept ≤
      o.kept + Statement.claims file (word :: after) := by
  have hheader : Statement.isHeader (word :: after) = true := hstarts
  simp only [addHeader, Statement.claims, Statement.signature?, hheader, hstarts, if_true]
  cases (Header.read file word after).signature with
  | none => exact Multiset.le_add_right _ _
  | some sig => simp [begin, kept, ScopeDraft.kept]

theorem kept_put_le (o : Outline) (scope : Nat) (s : Statement) :
    (o.put scope s).kept ≤ o.kept + wordStarts s := by
  refine sum_map_modify_le ?_ o.scopes scope
  intro d
  simp [ScopeDraft.kept, add_assoc]

theorem kept_close (o : Outline) (r : OpenRoutine) (s : Statement) :
    (o.close r s).kept = o.kept := by
  refine congrArg List.sum (map_modify_of_eq ?_ o.scopes r.scope)
  exact fun _ => rfl

theorem kept_withMain (o : Outline) (start : Span) : (o.withMain start).2.kept = o.kept := by
  unfold withMain
  split
  · rfl
  · simp [kept, ScopeDraft.kept, occurrenceStarts]

/-- A statement enters no more than it may. -/
theorem kept_add_le (file : Path) (o : Outline) (s : Statement) :
    (o.add file s).kept ≤ o.kept + s.claims file := by
  cases s with
  | nil => exact Multiset.le_add_right _ _
  | cons first after =>
    cases hstarts : first.startsRoutine with
    | true =>
      simp only [add, hstarts, if_true]
      exact le_of_le_of_eq (o.abandon.kept_addHeader_le hstarts after) (by rw [kept_abandon])
    | false =>
      have hclaims : Statement.claims file (first :: after) = wordStarts (first :: after) := by
        have hheader : Statement.isHeader (first :: after) = false := hstarts
        rw [Statement.claims, hheader]
        rfl
      simp only [add, hstarts, Bool.false_eq_true, if_false, hclaims]
      split
      · unfold addToRoutine
        split
        · rw [kept_close]
          exact Multiset.le_add_right _ _
        · exact kept_put_le _ _ _
      · unfold addToMain
        split
        · exact Multiset.le_add_right _ _
        · refine le_trans (kept_put_le _ _ _) (le_of_eq ?_)
          exact congrArg (· + _) (o.kept_withMain first.start)

theorem kept_foldl_add_le (file : Path) (o : Outline) (ss : List Statement) :
    (ss.foldl (add file) o).kept ≤ o.kept + (ss.map (Statement.claims file)).sum := by
  induction ss generalizing o with
  | nil => simp
  | cons s rest ih =>
    rw [List.foldl_cons, List.map_cons, List.sum_cons, ← add_assoc]
    exact (ih _).trans (add_le_add_left (kept_add_le file o s) _)

/-- All statements together enter no more than they may. -/
theorem kept_ofStatements_le (file : Path) (ss : List Statement) :
    (ofStatements file ss).kept ≤ (ss.map (Statement.claims file)).sum := by
  have hfold := kept_foldl_add_le file empty ss
  rw [ofStatements, kept_abandon]
  simpa [kept, empty] using hfold

end Outline

/-! ## Records -/

namespace Record

/-- Where variables occur. -/
def occurrenceStarts (r : Record) : List Cursor :=
  r.scopes.flatMap fun s => RoutineAtlas.occurrenceStarts s.bindings

/-- Where the names of calls start. -/
def callStarts (r : Record) : List Cursor :=
  r.calls.map (·.span.startCursor)

theorem mem_occurrenceStarts {r : Record} {x : Cursor} : x ∈ r.occurrenceStarts ↔
    ∃ s ∈ r.scopes, ∃ b ∈ s.bindings, ∃ o ∈ b.occurrences, o.span.startCursor = x := by
  simp [occurrenceStarts, RoutineAtlas.occurrenceStarts]

end Record

namespace Outline

/-- Where keywords are named that a call may pass. -/
def keywordStarts (o : Outline) : Multiset Cursor :=
  (o.scopes.map ScopeDraft.keywordStarts).sum

/-- All that is recorded comes out of the ledger. -/
theorem starts_record_le (o : Outline) :
    ↑o.record.occurrenceStarts + ↑o.record.callStarts + o.keywordStarts ≤ o.kept := by
  have hoccurrences : (↑o.record.occurrenceStarts : Multiset Cursor) =
      (o.scopes.zipIdx.map fun x => (↑(occurrenceStarts (x.1.scope x.2).bindings))).sum := by
    rw [Record.occurrenceStarts, record, List.mapIdx_eq_zipIdx_map, List.flatMap_map,
      ← Multiset.coe_bind]
    rfl
  have hcalls : (↑o.record.callStarts : Multiset Cursor) =
      (o.scopes.zipIdx.map fun x => (↑((x.1.calls x.2).map (·.span.startCursor)))).sum := by
    simp only [Record.callStarts, record, List.mapIdx_eq_zipIdx_map]
    rw [← List.flatMap_def, List.map_flatMap, ← Multiset.coe_bind]
    rfl
  have hdrafts {count : ScopeDraft → Multiset Cursor} :
      (o.scopes.map count).sum = (o.scopes.zipIdx.map fun x => count x.1).sum := by
    nth_rewrite 1 [← List.zipIdx_map_fst 0 o.scopes]
    rw [List.map_map]
    rfl
  rw [hoccurrences, hcalls, keywordStarts, kept, hdrafts, hdrafts, ← List.sum_map_add,
    ← List.sum_map_add]
  exact List.sum_le_sum fun x _ => x.1.starts_scope_le x.2

end Outline

/-- Where the headers among the statements name routines and keywords. -/
def headStarts (file : Path) (tokens : List Token) : Multiset Cursor :=
  ((Statement.split tokens).map (Statement.headStarts file)).sum

/-- Occurrences of variables, calls, the keywords that calls name and what headers name are
different words of the file. -/
theorem Outline.starts_le (file : Path) (tokens : List Token) :
    let o := ofStatements file (Statement.split tokens)
    ↑o.record.occurrenceStarts + ↑o.record.callStarts + o.keywordStarts + headStarts file tokens ≤
      wordStarts tokens := by
  intro o
  calc ↑o.record.occurrenceStarts + ↑o.record.callStarts + o.keywordStarts + headStarts file tokens
      ≤ ((Statement.split tokens).map (Statement.claims file)).sum + headStarts file tokens :=
        add_le_add_left (o.starts_record_le.trans (kept_ofStatements_le file _)) _
    _ = ((Statement.split tokens).map fun s => s.headStarts file + s.claims file).sum := by
        rw [headStarts, List.sum_map_add, add_comm]
    _ ≤ ((Statement.split tokens).map wordStarts).sum :=
        List.sum_le_sum fun s _ => s.headStarts_add_claims_le file
    _ = wordStarts (tokens.filter Token.isContent) := by
        rw [sum_wordStarts, Statement.flatten_split]
    _ ≤ wordStarts tokens := wordStarts_le_of_sublist List.filter_sublist

theorem Statement.isCommon_of_call {s : Statement} {scope : Nat} {known : List Text} {c : CallSite}
    (h : .call c ∈ s.findings scope known) : s.isCommon = false := by
  unfold findings at h
  split at h
  · cases h
  · split at h
    · obtain ⟨t, -, ht⟩ := List.mem_map.1 h
      cases ht
    · rename_i hcommon
      simpa using hcommon

/-- Every keyword that a call passes is entered. -/
theorem Outline.mem_keywordStarts {o : Outline} {c : CallSite} (hc : c ∈ o.record.calls)
    {k : PassedKeyword} (hk : k ∈ c.keywords) : k.span.startCursor ∈ o.keywordStarts := by
  obtain ⟨d, s, hd, hs, hfound⟩ := finding_of_mem_calls hc
  obtain ⟨p, kind, hp, hcall⟩ := Statement.call_of_findings hfound
  have hplace : p.In s := (Place.of_mem_rolesFrom hp).1
  rw [hcall] at hk
  obtain ⟨q, hq, hnames, rfl⟩ := Place.keyword_of_call hplace hk
  have hstatement : q.token.start.startCursor ∈ s.keywordStarts := by
    rw [Statement.keywordStarts, Statement.isCommon_of_call hfound]
    exact List.mem_map.2 ⟨q, List.mem_filter.2 ⟨hq.mem_places, decide_eq_true hnames⟩, rfl⟩
  exact mem_sum_map (List.mem_of_getElem? hd) (mem_sum_map hs hstatement)

/-- Each word of a file is accounted for at most once. Within a scope, variables differ in their
names, which are in small letters, and each of them occurs, only where a word of its name stands. No
two occurrences and calls start at one place, and where a call passes a keyword there is neither. -/
structure Record.AccountsOnce (tokens : List Token) (r : Record) : Prop where
  distinct : ∀ s ∈ r.scopes, (s.bindings.map (·.name)).Nodup
  small : ∀ s ∈ r.scopes, ∀ b ∈ s.bindings, b.name.lower = b.name
  occurs : ∀ s ∈ r.scopes, ∀ b ∈ s.bindings, b.occurrences ≠ []
  named : ∀ s ∈ r.scopes, ∀ b ∈ s.bindings, ∀ o ∈ b.occurrences,
    ∃ t ∈ tokens, t.isWord = true ∧ t.key = b.name ∧ o.span = t.start
  once : (r.occurrenceStarts ++ r.callStarts).Nodup
  keywords : ∀ c ∈ r.calls, ∀ k ∈ c.keywords,
    k.span.startCursor ∉ r.occurrenceStarts ++ r.callStarts

namespace Outline

variable {file : Path} {o : Outline} {good : List Binding → Prop}

/-- A statement begins a scope with what its header binds or with nothing, and leaves the heads of
all other scopes as they are. -/
theorem forall_bindings_add (hnone : good []) (hheader : ∀ sig, good (headerBindings sig))
    (h : ∀ d ∈ o.scopes, good d.bindings) (s : Statement) :
    ∀ d ∈ (o.add file s).scopes, good d.bindings := by
  have habandon : o.abandon.scopes = o.scopes := by unfold abandon; split <;> rfl
  cases s with
  | nil => exact h
  | cons first after =>
    simp only [add]
    split
    · simp only [addHeader]
      split
      · refine List.forall_mem_append.2 ⟨habandon ▸ h, ?_⟩
        simpa using hheader _
      · exact habandon ▸ h
    · split
      · unfold addToRoutine
        split
        · exact forall_mem_modify h _ fun _ hd => hd
        · exact forall_mem_modify h _ fun _ hd => hd
      · unfold addToMain
        split
        · exact h
        · have hmain : ∀ d ∈ (o.withMain first.start).2.scopes, good d.bindings := by
            unfold withMain
            split
            · exact h
            · refine List.forall_mem_append.2 ⟨h, ?_⟩
              simpa using hnone
          exact forall_mem_modify hmain _ fun _ hd => hd

theorem forall_bindings_ofStatements (hnone : good [])
    (hheader : ∀ sig, good (headerBindings sig)) (ss : List Statement) :
    ∀ d ∈ (ofStatements file ss).scopes, good d.bindings := by
  have hfold : ∀ o : Outline, (∀ d ∈ o.scopes, good d.bindings) →
      ∀ d ∈ (ss.foldl (add file) o).scopes, good d.bindings := by
    induction ss with
    | nil => exact fun o h => h
    | cons s rest ih => exact fun o h => ih _ (forall_bindings_add hnone hheader h s)
  have habandon (o : Outline) : o.abandon.scopes = o.scopes := by unfold abandon; split <;> rfl
  rw [ofStatements, habandon]
  exact hfold empty (by simp [empty])

theorem namedApart_scopes (file : Path) (ss : List Statement) :
    ∀ s ∈ (ofStatements file ss).record.scopes, NamedApart s.bindings := by
  have hheads : ∀ d ∈ (ofStatements file ss).scopes, NamedApart d.bindings := by
    refine forall_bindings_ofStatements namedApart_nil (fun sig => ?_) ss
    rw [headerBindings_eq]
    exact Finding.namedApart_foldl_bind namedApart_nil _
  intro s hs
  obtain ⟨n, hn, rfl⟩ := List.mem_mapIdx.1 hs
  exact Finding.namedApart_foldl_bind (hheads _ (List.getElem_mem hn)) _

end Outline

theorem Record.accountsOnce_ofTokens (file : Path) {tokens : List Token} (h : Token.Laid tokens) :
    (Record.ofTokens file tokens).1.AccountsOnce tokens := by
  have hle := Outline.starts_le file tokens
  have hapart := Outline.namedApart_scopes file (Statement.split tokens)
  have hwritten := (Record.writtenIn_ofTokens file tokens).1.bindings
  obtain ⟨hused, -, -⟩ := Multiset.nodup_add.1 (Multiset.nodup_of_le hle h.nodup_wordStarts)
  obtain ⟨honce, -, hdisjoint⟩ := Multiset.nodup_add.1 hused
  rw [Multiset.coe_add] at honce hdisjoint
  refine ⟨fun s hs => (hapart s hs).distinct, fun s hs => (hapart s hs).small,
    fun s hs b hb => (hwritten s hs b hb).occurs, ?_, Multiset.coe_nodup.1 honce, ?_⟩
  · intro s hs b hb o ho
    obtain ⟨t, ht, hkey, hspan⟩ := (hwritten s hs b hb).named o ho
    have hmem : o.span.startCursor ∈ wordStarts tokens := by
      have hoccurs : o.span.startCursor ∈
          (Outline.ofStatements file (Statement.split tokens)).record.occurrenceStarts :=
        mem_occurrenceStarts.2 ⟨s, hs, b, hb, o, ho, rfl⟩
      exact Multiset.mem_of_le hle (by simp [hoccurs])
    obtain ⟨u, hu, huword, hstart⟩ := mem_wordStarts.1 hmem
    rw [hspan] at hstart
    obtain rfl := h.eq_of_startCursor_eq hu ht hstart
    exact ⟨u, hu, huword, hkey, hspan⟩
  · intro c hc k hk hmem
    exact Multiset.disjoint_left.1 hdisjoint hmem (Outline.mem_keywordStarts hc hk)

/-- In the record of every text, each word is accounted for at most once. -/
theorem Analysis.accountsOnce_read (path : Path) (text : Text) :
    (Analysis.read path text).record.AccountsOnce (Analysis.read path text).tokens :=
  Record.accountsOnce_ofTokens path (laid_tokensFrom text.sourceLines)

/-- One name as the parameter of a header, as keywords and an argument of a call, as a function that
is no function since the name is a variable, and as the method of a class. -/
example :
    let r := (Analysis.read (.ofString "a.pro")
      "pro p, x=X\nf, x=X, /x, x(1)\nx->x::x, x\nend\n".toList).record
    r.occurrenceStarts = [⟨0, 9⟩, ⟨1, 5⟩, ⟨1, 12⟩, ⟨2, 0⟩, ⟨2, 9⟩] ∧
      r.callStarts = [⟨1, 0⟩, ⟨2, 3⟩] ∧
      r.calls.flatMap (·.keywords.map (·.span.startCursor)) = [⟨1, 3⟩, ⟨1, 9⟩] := by
  decide +kernel

end RoutineAtlas
