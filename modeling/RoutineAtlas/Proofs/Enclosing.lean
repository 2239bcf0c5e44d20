import Mathlib.Data.List.Flatten
import RoutineAtlas.Proofs.Arguments
import RoutineAtlas.Query.Completion

/-!
# The call around the cursor

Completion offers the keywords of the call that is typed. This is the last call of the record that
has begun before the word at the cursor and that reaches it: the word is within the call, or the
token before it is the last one of the call, as it is where the call is unfinished. The calls that
reach one place are in one statement, and those of a statement are recorded in reading order. So no
call with the word in its arguments starts after the one that is found.

The test does not look at how a call ends. A call whose parenthesis has been closed reaches as far
as one that is unfinished, and is found as long as nothing has been written after it.

## Main definitions

* `Token.IsLastBefore` — the last token before a place, comments left out.
* `ArgumentList.Contains` — a place is in the arguments.
* `CallSite.Reaches` — a call reaches a place.
* `Typing.enclosing_call_innermost` — which call is found around the cursor.
-/

namespace RoutineAtlas

/-! ## Places in argument lists -/

/-- The token is the last one that starts before the place, comments left out. -/
structure Token.IsLastBefore (tokens : List Token) (here : Cursor) (t : Token) : Prop where
  mem : t ∈ tokens
  code : t.kind.isComment = false
  starts : t.start.startCursor < here
  last : ∀ u ∈ tokens, u.kind.isComment = false → u.start.startCursor < here →
    u.start.startCursor ≤ t.start.startCursor

instance (tokens : List Token) (here : Cursor) (t : Token) :
    Decidable (t.IsLastBefore tokens here) :=
  decidable_of_iff (t ∈ tokens ∧ t.kind.isComment = false ∧ t.start.startCursor < here ∧
      ∀ u ∈ tokens, u.kind.isComment = false → u.start.startCursor < here →
        u.start.startCursor ≤ t.start.startCursor)
    ⟨fun ⟨hmem, hcode, hstarts, hlast⟩ => ⟨hmem, hcode, hstarts, hlast⟩,
      fun h => ⟨h.mem, h.code, h.starts, h.last⟩⟩

namespace ArgumentList

/-- The place is in the arguments: after what opens the list and before the end of what closes it.
If nothing does, the list goes on to the next token that is no comment. -/
structure Contains (tokens : List Token) (here : Cursor) (l : ArgumentList) : Prop where
  opened : l.opener.start.endCursor ≤ here
  closed : ∀ closer ∈ l.closer, here < closer.start.endCursor
  unclosed : l.closer = none → here ≤ l.last.start.endCursor ∨ l.last.IsLastBefore tokens here

instance (tokens : List Token) (here : Cursor) (l : ArgumentList) :
    Decidable (l.Contains tokens here) :=
  decidable_of_iff (l.opener.start.endCursor ≤ here ∧
      (∀ closer ∈ l.closer, here < closer.start.endCursor) ∧
      (l.closer = none → here ≤ l.last.start.endCursor ∨ l.last.IsLastBefore tokens here))
    ⟨fun ⟨hopened, hclosed, hunclosed⟩ => ⟨hopened, hclosed, hunclosed⟩,
      fun h => ⟨h.opened, h.closed, h.unclosed⟩⟩

end ArgumentList

/-! ## The token before the word -/

theorem rel_of_getLast? {α : Type} {R : α → α → Prop} {l : List α} (h : l.Pairwise R) {a b : α}
    (hlast : l.getLast? = some a) (ha : R a a) (hb : b ∈ l) : R b a := by
  have heq : l.dropLast ++ [a] = l := List.dropLast_append_getLast? a hlast
  rw [← heq] at h hb
  rcases List.mem_append.1 hb with hb | hb
  · exact (List.pairwise_append.1 h).2.2 b hb a List.mem_cons_self
  · rwa [List.mem_singleton.1 hb]

namespace Typing

variable {tokens : List Token} {here : Cursor}

/-- Tokens in reading order that start before a place come first. -/
theorem mem_takeWhile {ts : List Token}
    (h : ts.Pairwise fun t u => t.start.startCursor ≤ u.start.startCursor) {t : Token} (ht : t ∈ ts)
    (hlt : t.start.startCursor < here) :
    t ∈ ts.takeWhile fun t => t.start.startCursor.lt here := by
  induction ts with
  | nil => cases ht
  | cons u ts ih =>
    obtain ⟨hu, hts⟩ := List.pairwise_cons.1 h
    have hfirst : u.start.startCursor < here := by
      rcases List.mem_cons.1 ht with rfl | ht
      · exact hlt
      · exact (hu t ht).trans_lt hlt
    rw [List.takeWhile_cons, Cursor.lt_eq_true_iff.2 hfirst]
    rcases List.mem_cons.1 ht with rfl | ht
    · exact List.mem_cons_self
    · exact List.mem_cons_of_mem u (ih hts ht)

/-- The token before the word is the last one that starts before it. -/
theorem previous_eq_some_iff (h : Token.Laid tokens) {t : Token} :
    (ofCursor tokens here).previous = some t ↔
      t.IsLastBefore tokens (ofCursor tokens here).place := by
  let code := tokens.filter fun t => !t.kind.isComment
  let place := (ofCursor tokens here).place
  let passed := code.takeWhile fun t => t.start.startCursor.lt place
  have hprevious : (ofCursor tokens here).previous = passed.getLast? := rfl
  have hcode : code.Pairwise fun t u => t.start.startCursor ≤ u.start.startCursor :=
    (h.pairwise_lt.imp le_of_lt).sublist List.filter_sublist
  have hmem (u : Token) : u ∈ passed ↔
      u ∈ tokens ∧ u.kind.isComment = false ∧ u.start.startCursor < place := by
    constructor
    · intro hu
      obtain ⟨hu', hcomment⟩ := List.mem_filter.1 ((List.takeWhile_sublist _).subset hu)
      exact ⟨hu', by simpa using hcomment, Cursor.lt_eq_true_iff.1
        (List.all_eq_true.1 List.all_takeWhile u hu)⟩
    · rintro ⟨hu, hcomment, hlt⟩
      exact mem_takeWhile hcode (List.mem_filter.2 ⟨hu, by simpa using hcomment⟩) hlt
  have hlast {u : Token} (hu : passed.getLast? = some u) : u.IsLastBefore tokens place := by
    obtain ⟨hin, hcomment, hlt⟩ := (hmem u).1 (List.mem_of_getLast? hu)
    refine ⟨hin, hcomment, hlt, fun v hv hv' hvlt => ?_⟩
    exact rel_of_getLast? (hcode.sublist (List.takeWhile_sublist _)) hu le_rfl
      ((hmem v).2 ⟨hv, hv', hvlt⟩)
  rw [hprevious]
  refine ⟨hlast, fun ht => ?_⟩
  obtain ⟨hin, hcomment, hlt, hmax⟩ := ht
  have hpassed : passed ≠ [] := List.ne_nil_of_mem ((hmem t).2 ⟨hin, hcomment, hlt⟩)
  obtain ⟨u, hu⟩ : ∃ u, passed.getLast? = some u := ⟨_, List.getLast?_eq_some_getLast hpassed⟩
  obtain ⟨hin', hcomment', hlt', hmax'⟩ := hlast hu
  rw [hu, h.eq_of_startCursor_eq hin' hin
    (le_antisymm (hmax u hin' hcomment' hlt') (hmax' t hin hcomment hlt))]

end Typing

/-! ## Calls in reading order -/

namespace Outline

variable {file : Path} {o : Outline} {statements : List Statement} {s : Statement}

/-- Each scope holds its statements in the order in which they were read. -/
def InOrder (statements : List Statement) (o : Outline) : Prop :=
  ∀ d ∈ o.scopes, d.statements.Sublist statements

theorem InOrder.mono (h : o.InOrder statements) (s : Statement) : o.InOrder (statements ++ [s]) :=
  fun d hd => (h d hd).trans (List.sublist_append_left statements [s])

theorem InOrder.abandon (h : o.InOrder statements) : o.abandon.InOrder statements := by
  unfold Outline.abandon
  split <;> exact h

theorem InOrder.append (h : o.InOrder statements) {o' : Outline} {d : ScopeDraft}
    (hscopes : o'.scopes = o.scopes ++ [d]) (hd : d.statements = []) : o'.InOrder statements := by
  rw [InOrder, hscopes]
  refine List.forall_mem_append.2 ⟨h, List.forall_mem_singleton.2 ?_⟩
  rw [hd]
  exact List.nil_sublist _

theorem InOrder.put (h : o.InOrder statements) (scope : Nat) (s : Statement) :
    (o.put scope s).InOrder (statements ++ [s]) := by
  intro d hd
  obtain ⟨i, hi⟩ := List.mem_iff_getElem?.1 hd
  rw [Outline.put, List.getElem?_modify, Option.map_eq_map, Option.map_eq_some_iff] at hi
  obtain ⟨d', hd', rfl⟩ := hi
  have hold := h d' (List.mem_of_getElem? hd')
  split
  · exact hold.append (List.Sublist.refl [s])
  · exact hold.trans (List.sublist_append_left statements [s])

/-- One statement keeps the order. -/
theorem InOrder.add (h : o.InOrder statements) (s : Statement) :
    (o.add file s).InOrder (statements ++ [s]) := by
  cases s with
  | nil => exact h.mono []
  | cons first after =>
    simp only [Outline.add]
    split
    · simp only [addHeader]
      split
      · exact (h.abandon.mono _).append rfl rfl
      · exact h.abandon.mono _
    · split
      · unfold addToRoutine
        split
        · exact forall_mem_modify (h.mono _) _ fun _ hd => hd
        · exact InOrder.put h _ _
      · unfold addToMain
        split
        · exact h.mono _
        · have hmain : (o.withMain first.start).2.InOrder statements := by
            unfold withMain
            split
            · exact h
            · exact h.append rfl rfl
          exact InOrder.put hmain _ _

theorem inOrder_ofStatements (file : Path) (statements : List Statement) :
    (ofStatements file statements).InOrder statements := by
  have hfold (done rest : List Statement) (o : Outline) (h : o.InOrder done) :
      (rest.foldl (Outline.add file) o).InOrder (done ++ rest) := by
    induction rest generalizing done o with
    | nil => rwa [List.append_nil]
    | cons s rest ih =>
      rw [List.append_cons]
      exact ih _ _ (h.add s)
  exact (hfold [] statements empty (by simp [InOrder, empty])).abandon

end Outline

/-- The calls of a statement are named by tokens of it, in their order. -/
theorem Statement.calls_sublist (s : Statement) (scope : Nat) (known : List Text) :
    (((s.findings scope known).filterMap Finding.call?).map (·.span)).Sublist
      (s.map (·.start)) := by
  have hroles (roles : List (Place × IdentifierRole)) :
      (((roles.filterMap fun x => Finding.ofRole? scope x.1 x.2).filterMap
        Finding.call?).map (·.span)).Sublist (roles.map fun x => x.1.token.start) := by
    induction roles with
    | nil => exact List.Sublist.refl _
    | cons x roles ih =>
      obtain ⟨p, role⟩ := x
      cases role with
      | call kind => exact ih.cons_cons _
      | definition | reference | aside => exact ih.cons _
  unfold findings
  split
  · exact List.nil_sublist _
  · split
    · have hnone : (s.commonMembers.map fun t =>
          Finding.ofToken t (.common ((s[1]?.map (·.text)).getD [])) .definition).filterMap
            Finding.call? = [] := by
        simp [List.filterMap_map, Finding.ofToken, Finding.call?]
      rw [hnone]
      exact List.nil_sublist _
    · split
      · exact List.nil_sublist _
      · refine (hroles _).trans ?_
        have htokens := (Place.tokens_rolesFrom_sublist known [] [] s).map (·.start)
        rwa [List.map_map] at htokens

theorem ScopeDraft.calls_sublist (d : ScopeDraft) (index : Nat) :
    ((d.calls index).map (·.span)).Sublist (d.statements.flatten.map (·.start)) := by
  have hall (known : List Text) (statements : List Statement) :
      (((statements.flatMap fun s => s.findings index known).filterMap Finding.call?).map
        (·.span)).Sublist (statements.flatten.map (·.start)) := by
    induction statements with
    | nil => exact List.Sublist.refl _
    | cons s rest ih =>
      rw [List.flatMap_cons, List.filterMap_append, List.map_append, List.flatten_cons,
        List.map_append]
      exact (s.calls_sublist index known).append ih
  exact hall d.known d.statements

section Laid

variable {file : Path} {tokens : List Token} {o : Outline} (h : Token.Laid tokens)

include h in
/-- The calls of a scope are recorded in reading order. -/
theorem Outline.InOrder.pairwise_calls (ho : o.InOrder (Statement.split tokens)) :
    o.record.calls.Pairwise fun c c' =>
      c.scope = c'.scope → c.span.startCursor ≤ c'.span.startCursor := by
  refine List.pairwise_flatten.2 ⟨?_, ?_⟩
  · intro calls hcalls
    obtain ⟨i, hi, rfl⟩ := List.mem_mapIdx.1 hcalls
    have hsub : o.scopes[i].statements.flatten.Sublist tokens := by
      refine (ho _ (List.getElem_mem hi)).flatten.trans ?_
      rw [Statement.flatten_split]
      exact List.filter_sublist
    have hstarts : (o.scopes[i].statements.flatten.map (·.start)).Pairwise
        fun a b => a.startCursor ≤ b.startCursor :=
      List.pairwise_map.2 ((h.pairwise_lt.imp le_of_lt).sublist hsub)
    have hspans := hstarts.sublist (o.scopes[i].calls_sublist i)
    refine (List.pairwise_map.1 hspans).imp ?_
    intro c c' hle _
    exact hle
  · rw [List.pairwise_iff_getElem]
    intro i j hi hj hij c hc c' hc' hscope
    rw [List.getElem_mapIdx] at hc hc'
    rw [(ScopeDraft.finding_of_mem_calls hc).1, (ScopeDraft.finding_of_mem_calls hc').1] at hscope
    omega

include h in
/-- Of two statements one comes before the other. -/
theorem Statement.before_or_before {s s' : Statement} (hs : s ∈ Statement.split tokens)
    (hs' : s' ∈ Statement.split tokens) (hne : s ≠ s') :
    (∀ t ∈ s, ∀ u ∈ s', t.Before u) ∨ ∀ t ∈ s', ∀ u ∈ s, t.Before u := by
  have hflat : (Statement.split tokens).flatten.Pairwise Token.Before := by
    rw [Statement.flatten_split]
    exact h.before.sublist List.filter_sublist
  have hpairwise : (Statement.split tokens).Pairwise fun s s' =>
      (∀ t ∈ s, ∀ u ∈ s', t.Before u) ∨ ∀ t ∈ s', ∀ u ∈ s, t.Before u :=
    (List.pairwise_flatten.1 hflat).2.imp Or.inl
  have hsymm : Std.Symm fun s s' : Statement =>
      (∀ t ∈ s, ∀ u ∈ s', t.Before u) ∨ ∀ t ∈ s', ∀ u ∈ s, t.Before u := ⟨fun _ _ => Or.symm⟩
  exact hpairwise.forall hs hs' hne

end Laid

/-! ## Calls that reach a place -/

/-- The call has begun before the place and reaches it: the place is not after the end of the call,
or nothing stands between them. -/
structure CallSite.Reaches (tokens : List Token) (here : Cursor) (c : CallSite) : Prop where
  begun : c.span.endCursor < here
  reaches : here ≤ c.stop.endCursor ∨ ∃ t : Token, t.IsLastBefore tokens here ∧ t.start = c.stop

/-- The call around the word is the last one that reaches it. -/
theorem Typing.enclosingCall?_eq {tokens : List Token} (h : Token.Laid tokens) (here : Cursor)
    (r : Record) : ∃ calls : List CallSite, calls.Sublist r.calls ∧
      (∀ c, c ∈ calls ↔ c ∈ r.calls ∧ c.Reaches tokens (ofCursor tokens here).place) ∧
      (ofCursor tokens here).enclosingCall? r = calls.getLast? := by
  refine ⟨_, List.filter_sublist, fun c => ?_, rfl⟩
  rw [List.mem_filter]
  refine and_congr_right fun _ => ?_
  have hany : ((ofCursor tokens here).previous.any fun t => t.start == c.stop) = true ↔
      ∃ t : Token, t.IsLastBefore tokens (ofCursor tokens here).place ∧ t.start = c.stop := by
    simp only [Option.any_eq_true, beq_iff_eq, previous_eq_some_iff h]
  have hstart : c.span.endCursor < (ofCursor tokens here).place →
      c.span.startCursor ≤ (ofCursor tokens here).place := fun hlt =>
    c.span.startCursor_le.trans hlt.le
  rw [Bool.and_eq_true, Bool.or_eq_true, hany, Cursor.lt_eq_true_iff, CallSite.spans,
    Span.encloses_iff]
  constructor
  · rintro ⟨hbegun, hspans | hlast⟩
    · exact ⟨hbegun, .inl hspans.2⟩
    · exact ⟨hbegun, .inr hlast⟩
  · rintro ⟨hbegun, hstop | hlast⟩
    · exact ⟨hbegun, .inl ⟨hstart hbegun, hstop⟩⟩
    · exact ⟨hbegun, .inr hlast⟩

section Written

variable {file : Path} {tokens : List Token} {o : Outline} {c c' : CallSite} {d d' : ScopeDraft}
  {s s' : Statement} {p p' : Place} {kind kind' : RoutineKind} {here : Cursor}
  (h : Token.Laid tokens) (ho : o.Allotted file (Statement.split tokens))

namespace CallSite.WrittenAt

/-- A call ends with a token of its statement. -/
theorem stop_mem (hc : c.WrittenAt o d s p kind) : ∃ t ∈ s, c.stop = t.stop := by
  obtain ⟨first, rest, hwritten, -, -, t, ht, hstop⟩ :=
    Place.writtenIn_call hc.place.1.suffix.sublist kind c.scope
  exact ⟨t, hwritten.subset ht, by rw [hc.call]; exact hstop⟩

include h ho in
/-- A call does not reach a place after a later statement has begun. -/
theorem not_reaches (hc : c.WrittenAt o d s p kind) (hc' : c'.WrittenAt o d' s' p' kind')
    (hbefore : ∀ t ∈ s, ∀ u ∈ s', t.Before u) (hbegun : c'.span.endCursor < here) :
    ¬c.Reaches tokens here := by
  intro hreaches
  obtain ⟨t, ht, hstop⟩ := hc.stop_mem
  have htmem := (Statement.sublist_of_mem_split (hc.mem_split ho).1).subset ht
  obtain ⟨hp', hword, -⟩ := hc'.place
  have hlater := Token.before_iff.1 (hbefore t ht p'.token hp'.mem)
  have hwide := Span.startCursor_lt (h.nonempty p'.token (hc'.token_mem ho))
  rw [hc'.span] at hbegun
  rw [h.single t htmem] at hstop
  rcases hreaches.reaches with hle | ⟨u, hu, hstart⟩
  · rw [hstop] at hle
    order
  · have hcomment : p'.token.kind.isComment = false := by
      have hcontent := Token.isContent_of_isWord hword
      simp only [Token.isContent, Bool.and_eq_true] at hcontent
      simpa using hcontent.1.1
    have hle := hu.last p'.token (hc'.token_mem ho) hcomment (hwide.trans hbegun)
    have hown := Span.startCursor_lt (h.nonempty t htmem)
    rw [hstart, hstop] at hle
    order

end CallSite.WrittenAt

end Written

/-! ## The innermost call -/

namespace Token

variable {tokens : List Token} {here : Cursor} {t : Token}

/-- Where a token ends, it is the last one before the place. -/
theorem Laid.isLastBefore_endCursor (h : Laid tokens) (ht : t ∈ tokens)
    (hcomment : t.kind.isComment = false) : t.IsLastBefore tokens t.start.endCursor := by
  refine ⟨ht, hcomment, Span.startCursor_lt (h.nonempty t ht), ?_⟩
  intro u hu _ hlt
  by_cases heq : u = t
  · rw [heq]
  · rcases h.before_or_before hu ht heq with hbefore | hbefore
    · have hend := Token.before_iff.1 hbefore
      exact u.start.startCursor_le.trans hend
    · have hend := Token.before_iff.1 hbefore
      order

theorem IsLastBefore.endCursor_le (h : t.IsLastBefore tokens here) (hlength : t.start.length = 1) :
    t.start.endCursor ≤ here := by
  have hlt := h.starts
  rw [Cursor.lt_def] at hlt
  rw [Cursor.le_def]
  simp only [Span.startCursor, Span.endCursor, Span.endColumn, hlength] at hlt ⊢
  omega

end Token

section Lists

variable {file : Path} {tokens : List Token} {o : Outline} {c : CallSite} {l : ArgumentList}
  {here : Cursor} (h : Token.Laid tokens) (ho : o.Allotted file (Statement.split tokens))
include h ho

/-- The calls that reach a place are in one scope. -/
theorem CallSite.scope_eq_of_reaches {c' : CallSite}
    (hc : c ∈ o.record.calls ∧ c.Reaches tokens here)
    (hc' : c' ∈ o.record.calls ∧ c'.Reaches tokens here) : c.scope = c'.scope := by
  obtain ⟨d, s, p, kind, hw⟩ := Outline.writtenAt_of_mem_calls hc.1
  obtain ⟨d', s', p', kind', hw'⟩ := Outline.writtenAt_of_mem_calls hc'.1
  have hs : s = s' := by
    by_contra hne
    rcases Statement.before_or_before h (hw.mem_split ho).1 (hw'.mem_split ho).1 hne with
      hbefore | hbefore
    · exact hw.not_reaches h ho hw' hbefore hc'.2.begun hc.2
    · exact hw'.not_reaches h ho hw hbefore hc.2.begun hc'.2
  subst hs
  exact ho.once _ _ s ⟨d, hw.draft, hw.statement⟩ ⟨d', hw'.draft, hw'.statement⟩

/-- A call reaches the places in its arguments. -/
theorem ArgumentList.Contains.reaches (hcontains : l.Contains tokens here)
    (hc : c ∈ o.record.calls) (hl : c.argumentList? tokens = some l) : c.Reaches tokens here := by
  obtain ⟨hopener, hbefore, -, -, hstop⟩ := CallSite.spec_argumentList? h ho hc hl
  have hopened := hcontains.opened
  have hwide := Span.startCursor_lt (h.nonempty _ hopener)
  refine ⟨by order, ?_⟩
  cases hcloser : l.closer with
  | some closer =>
    rw [hcloser] at hstop
    exact .inl (hstop ▸ le_of_lt (hcontains.closed closer hcloser))
  | none =>
    rw [hcloser] at hstop
    rcases hcontains.unclosed hcloser with hle | hlast
    · exact .inl (hstop ▸ hle)
    · exact .inr ⟨l.last, hlast, hstop.symm⟩

/-- A call reaches no further than to its end, unless no token comes between it and the place. -/
theorem CallSite.Reaches.le_or (hreaches : c.Reaches tokens here) (hc : c ∈ o.record.calls)
    (hl : c.argumentList? tokens = some l) :
    here ≤ (l.closer.getD l.last).start.endCursor ∨
      (l.closer.getD l.last).IsLastBefore tokens here := by
  obtain ⟨-, -, hlast, hcloser, hstop⟩ := spec_argumentList? h ho hc hl
  have hmem : l.closer.getD l.last ∈ tokens := by
    cases hclosed : l.closer with
    | none => exact hlast
    | some closer => exact (hcloser closer hclosed).1
  rcases hreaches.reaches with hle | ⟨t, ht, hstart⟩
  · exact .inl (hstop ▸ hle)
  · rw [h.eq_of_startCursor_eq ht.mem hmem (by rw [hstart, hstop])] at ht
    exact .inr ht

/-- A closed call is left behind by a place exactly if its parenthesis is the last token before the
place. -/
theorem CallSite.Reaches.lt_iff (hreaches : c.Reaches tokens here) (hc : c ∈ o.record.calls)
    (hl : c.argumentList? tokens = some l) {closer : Token} (hcloser : l.closer = some closer)
    (hlength : closer.start.length = 1) :
    here < closer.start.endCursor ↔ ¬closer.IsLastBefore tokens here := by
  constructor
  · intro hlt hlast
    exact absurd (hlast.endCursor_le hlength) (not_le_of_gt hlt)
  · intro hlast
    by_contra hle
    obtain ⟨-, -, -, hclosers, -⟩ := spec_argumentList? h ho hc hl
    obtain ⟨hmem, hkind⟩ := hclosers closer hcloser
    have hreached := hreaches.le_or h ho hc hl
    rw [hcloser, Option.getD_some] at hreached
    rcases hreached with hend | hlast'
    · obtain rfl := le_antisymm hend (not_lt.1 hle)
      exact hlast (h.isLastBefore_endCursor hmem (by rw [hkind]; rfl))
    · exact hlast hlast'

/-- A place that a call reaches after its arguments have begun is in the arguments, or what closes
them is the last token before the place. -/
theorem CallSite.Reaches.contains_or (hreaches : c.Reaches tokens here) (hc : c ∈ o.record.calls)
    (hl : c.argumentList? tokens = some l)
    (hlength : ∀ closer ∈ l.closer, closer.start.length = 1)
    (hopened : l.opener.start.endCursor ≤ here) :
    l.Contains tokens here ∨ ∃ closer ∈ l.closer, closer.IsLastBefore tokens here := by
  cases hcloser : l.closer with
  | some closer =>
    by_cases hlast : closer.IsLastBefore tokens here
    · exact .inr ⟨closer, rfl, hlast⟩
    · refine .inl ⟨hopened, ?_, by simp [hcloser]⟩
      rw [hcloser]
      rintro _ ⟨rfl⟩
      exact (hreaches.lt_iff h ho hc hl hcloser (hlength closer hcloser)).2 hlast
  | none =>
    have hreached := hreaches.le_or h ho hc hl
    rw [hcloser] at hreached
    exact .inl ⟨hopened, by simp [hcloser], fun _ => hreached⟩

end Lists

/-- If the word is in the arguments of a call, then a call is found around the word that starts no
earlier. The word is in the arguments of the call that is found, unless they begin after the word or
their closing parenthesis is the last token before it. So a closed call is found at places before
the end of its parenthesis, and at places after it that no other token comes before. -/
theorem Typing.enclosing_call_innermost (path : Path) (text : Text) (here : Cursor) :
    let a := Analysis.read path text
    let t := Typing.ofCursor a.tokens here
    (∀ c ∈ a.record.calls, ∀ l, c.argumentList? a.tokens = some l → l.Contains a.tokens t.place →
      ∃ found, t.enclosingCall? a.record = some found ∧
        c.span.startCursor ≤ found.span.startCursor) ∧
    ∀ c, t.enclosingCall? a.record = some c → c ∈ a.record.calls ∧
      (c.kind.isFunction = true → (c.argumentList? a.tokens).isSome = true) ∧
      ∀ l, c.argumentList? a.tokens = some l →
        (l.opener.start.endCursor ≤ t.place → l.Contains a.tokens t.place ∨
          ∃ closer ∈ l.closer, closer.IsLastBefore a.tokens t.place) ∧
        ∀ closer ∈ l.closer, c.stop = closer.start ∧
          (t.place < c.stop.endCursor ↔ ¬closer.IsLastBefore a.tokens t.place) := by
  intro a t
  have hlaid : Token.Laid a.tokens := laid_tokensFrom text.sourceLines
  have ho := Outline.allotted_ofStatements path (Statement.nodup_split hlaid)
  have horder := (Outline.inOrder_ofStatements path (Statement.split a.tokens)).pairwise_calls hlaid
  obtain ⟨calls, hsub, hmem, hfound⟩ := Typing.enclosingCall?_eq hlaid here a.record
  constructor
  · intro c hc l hl hcontains
    have hreaches := (hmem c).2 ⟨hc, hcontains.reaches hlaid ho hc hl⟩
    obtain ⟨found, hlast⟩ : ∃ found, calls.getLast? = some found :=
      ⟨_, List.getLast?_eq_some_getLast (List.ne_nil_of_mem hreaches)⟩
    refine ⟨found, hfound.trans hlast, ?_⟩
    refine rel_of_getLast? (horder.sublist hsub) hlast (fun _ => le_rfl) hreaches ?_
    exact CallSite.scope_eq_of_reaches hlaid ho ((hmem c).1 hreaches)
      ((hmem found).1 (List.mem_of_getLast? hlast))
  · intro c hc
    rw [hfound] at hc
    obtain ⟨hcall, hreaches⟩ := (hmem c).1 (List.mem_of_getLast? hc)
    refine ⟨hcall, CallSite.isSome_argumentList? hlaid ho hcall, fun l hl => ?_⟩
    obtain ⟨-, -, -, hcloser, hstop⟩ := CallSite.spec_argumentList? hlaid ho hcall hl
    have hlength : ∀ closer ∈ l.closer, closer.start.length = 1 := fun closer hclosed =>
      Token.length_of_rightParen (hcloser closer hclosed).1 (hcloser closer hclosed).2
    refine ⟨hreaches.contains_or hlaid ho hcall hl hlength, fun closer hclosed => ?_⟩
    have hend : c.stop = closer.start := by
      rw [hstop, Option.mem_def.1 hclosed, Option.getD_some]
    rw [hend]
    exact ⟨rfl, hreaches.lt_iff hlaid ho hcall hl hclosed (hlength closer hclosed)⟩

/-- Two unfinished calls, one in the arguments of the other and after a finished one. The inner one
is found. -/
theorem Typing.enclosing_call_innermost_unfinished :
    let a := Analysis.read (.ofText "/a.pro".toList) "p, f(g(1), h(2, \n".toList
    let t := Typing.ofCursor a.tokens ⟨0, 16⟩
    ∃ c ∈ a.record.calls, c.name = ['h'] ∧ ∃ found, t.enclosingCall? a.record = some found ∧
      c.span.startCursor ≤ found.span.startCursor := by
  intro a t
  have hinner : ∃ c ∈ a.record.calls, c.name = ['h'] ∧
      ∃ l ∈ c.argumentList? a.tokens, l.Contains a.tokens t.place := by
    decide +kernel
  obtain ⟨c, hc, hname, l, hl, hcontains⟩ := hinner
  exact ⟨c, hc, hname,
    (enclosing_call_innermost (.ofText "/a.pro".toList) _ ⟨0, 16⟩).1 c hc l hl hcontains⟩

/-- In the arguments of one call, after another one that is closed. The closed one is found. -/
theorem Typing.closed_call_found :
    let a := Analysis.read (.ofText "/a.pro".toList) "y = g(f(1) )\n".toList
    let t := Typing.ofCursor a.tokens ⟨0, 11⟩
    (∃ c ∈ t.enclosingCall? a.record, c.name = ['f'] ∧ c.kind = .function ∧
      ∃ l ∈ c.argumentList? a.tokens, ∃ closer ∈ l.closer,
        closer.start = c.stop ∧ closer.start.endCursor < t.place) ∧
      ∃ c ∈ a.record.calls, c.name = ['g'] ∧
        ∃ l ∈ c.argumentList? a.tokens, l.Contains a.tokens t.place := by
  decide +kernel

end RoutineAtlas
