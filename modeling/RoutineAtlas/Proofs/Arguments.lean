import RoutineAtlas.Proofs.Selection
import RoutineAtlas.Proofs.Sequence

/-!
# Argument lists

A call keeps where its name is and where it ends, but not where its arguments begin nor what ends
them. Both are told by the tokens of its statement: the arguments of a function are opened by a
parenthesis right after the name and go on to the one that closes it, if there is one, and those of
a procedure come after a comma and are never closed.

## Main definitions

* `ArgumentList` — the arguments of a call as they are written.
* `Place.argumentList?`, `CallSite.argumentList?` — the arguments at a place, and those of a call.
* `CallSite.spec_argumentList?` — a call ends with the last token of its arguments.
-/

namespace RoutineAtlas

/-- The arguments of a call: what opens the list, the tokens in it, and the parenthesis that closes
it. The list of a procedure is opened by a comma and goes on to the end of the statement. -/
structure ArgumentList where
  opener : Token
  items : List Token
  closer : Option Token
deriving DecidableEq, Repr

namespace ArgumentList

/-- The token ends a list outside of brackets. -/
def ends (parens : Bool) (t : Token) : Bool :=
  if parens then t.kind == .rightParen else t.isReserved "else"

/-- The tokens that a list starts with and the parenthesis that closes it, given how many brackets
are open. -/
def itemsFrom (parens : Bool) (depth : Int) : List Token → List Token × Option Token
  | [] => ([], none)
  | t :: ts =>
    if depth == 0 && ends parens t then ([], if parens then some t else none)
    else
      let rest := itemsFrom parens (depth + PassedItems.depthDelta t) ts
      (t :: rest.1, rest.2)

/-- The last token of the list that does not close it. -/
def last (l : ArgumentList) : Token :=
  l.items.getLast?.getD l.opener

end ArgumentList

/-- The arguments of a call of the given kind whose name starts at the place. -/
def Place.argumentList? (p : Place) (kind : RoutineKind) : Option ArgumentList :=
  match if kind.isMethod then p.methodName.after else p.after with
  | [] => none
  | t :: ts =>
    if t.kind == (if kind.isFunction then .leftParen else .comma) then
      let items := ArgumentList.itemsFrom kind.isFunction 0 ts
      some ⟨t, items.1, items.2⟩
    else none

/-- The arguments of a call, given the tokens of its file. -/
def CallSite.argumentList? (tokens : List Token) (c : CallSite) : Option ArgumentList := do
  let places := (Statement.split tokens).flatMap Statement.places
  (← places.find? fun p => p.token.start == c.span).argumentList? c.kind

/-! ## Arguments at a place -/

namespace ArgumentList

variable {parens : Bool} {depth : Int} {ts : List Token}

/-- What closes a list is a parenthesis. -/
theorem closer_itemsFrom {t : Token} (h : (itemsFrom parens depth ts).2 = some t) :
    t ∈ ts ∧ t.kind = .rightParen := by
  induction ts generalizing depth with
  | nil => cases h
  | cons u ts ih =>
    rw [itemsFrom] at h
    split at h
    · rename_i hends
      cases parens with
      | false => cases h
      | true =>
        obtain rfl := Option.some.inj h
        exact ⟨List.mem_cons_self, by simpa [ends] using (Bool.and_eq_true_iff.1 hends).2⟩
    · exact (ih h).imp_left (List.mem_cons_of_mem u)

theorem items_subset (parens : Bool) (depth : Int) (ts : List Token) :
    (itemsFrom parens depth ts).1 ⊆ ts := by
  induction ts generalizing depth with
  | nil => exact List.Subset.refl _
  | cons t ts ih =>
    rw [itemsFrom]
    split
    · exact List.nil_subset _
    · exact List.cons_subset_cons t (ih _)

theorem depthDelta_of_comma {t : Token} (h : t.kind = .comma) : PassedItems.depthDelta t = 0 := by
  simp [PassedItems.depthDelta, h, TokenKind.opens, TokenKind.closes]

theorem kind_ne_comma_of_ends {t : Token} (h : ends parens t = true) : t.kind ≠ .comma := by
  intro hcomma
  cases parens <;> simp [ends, Token.isReserved, hcomma] at h

theorem stop_add (item : List Token) (isEmpty : Bool) (items : PassedItems) :
    (PassedItems.add item isEmpty items).stop = items.stop := by
  unfold PassedItems.add
  split
  · rfl
  · split <;> rfl

/-- A call ends with what closes its list, or else with the last token of the list. -/
theorem stop_readFrom (parens : Bool) (item : List Token) (isEmpty : Bool) (depth : Int)
    (first : Token) (ts : List Token) :
    (PassedItems.readFrom parens item isEmpty depth first.stop ts).stop =
      ((itemsFrom parens depth ts).2.getD
        ((itemsFrom parens depth ts).1.getLast?.getD first)).stop := by
  induction ts generalizing item isEmpty depth first with
  | nil => exact stop_add item isEmpty _
  | cons t ts ih =>
    have hitem : PassedItems.endsItem parens t = (t.kind == .comma || ends parens t) := rfl
    by_cases hends : (depth == 0 && ends parens t) = true
    · obtain ⟨hdepth, hend⟩ := Bool.and_eq_true_iff.1 hends
      have hcomma : ¬(t.kind == .comma) = true := by simpa using kind_ne_comma_of_ends hend
      rw [PassedItems.readFrom, if_pos (by simp [hdepth, hitem, hend]), if_neg hcomma, stop_add,
        itemsFrom, if_pos hends]
      cases parens <;> rfl
    · rw [itemsFrom, if_neg hends, List.getLast?_cons, Option.getD_some]
      by_cases hcomma : depth = 0 ∧ t.kind = .comma
      · -- the next item starts outside of brackets again
        obtain ⟨rfl, hcomma⟩ := hcomma
        rw [PassedItems.readFrom, if_pos (by simp [hitem, hcomma]), if_pos (by simp [hcomma]),
          stop_add, depthDelta_of_comma hcomma]
        exact ih ts true 0 t
      · rw [PassedItems.readFrom, if_neg (by simp_all)]
        exact ih item false _ t

end ArgumentList

namespace Place

variable {p : Place} {kind : RoutineKind} {l : ArgumentList}

/-- What is known of the arguments at a place: all of their tokens come after the name, and the call
ends with the last of them. -/
theorem spec_argumentList? (h : p.argumentList? kind = some l) :
    l.opener ∈ p.after ∧ l.last ∈ p.after ∧
      (∀ t ∈ l.closer, t ∈ p.after ∧ t.kind = .rightParen) ∧
      ∀ scope, (p.call kind scope).stop = (l.closer.getD l.last).stop := by
  have hafter : (if kind.isMethod then p.methodName.after else p.after) ⊆ p.after := by
    split
    · exact (MethodName.suffix_of_extend p.token.text p.token p.after).subset
    · exact List.Subset.refl _
  have hname (name : MethodName) : (if kind.isMethod then p.methodName else name).after =
      if kind.isMethod then p.methodName.after else name.after := apply_ite _ _ _ _
  unfold argumentList? at h
  split at h
  · cases h
  · rename_i t ts hts
    by_cases hopens : (t.kind == if kind.isFunction then .leftParen else .comma) = true
    · rw [if_pos hopens] at h
      obtain rfl := Option.some.inj h
      rw [hts] at hafter
      obtain ⟨ht, hts'⟩ := List.cons_subset.1 hafter
      refine ⟨ht, ?_, ?_, ?_⟩
      · cases hlast : (ArgumentList.itemsFrom kind.isFunction 0 ts).1.getLast? with
        | none => simpa [ArgumentList.last, hlast] using ht
        | some u =>
          have hu := hts' (ArgumentList.items_subset _ _ _ (List.mem_of_getLast? hlast))
          simpa [ArgumentList.last, hlast] using hu
      · intro closer hcloser
        exact (ArgumentList.closer_itemsFrom hcloser).imp_left fun hmem => hts' hmem
      · intro scope
        simp only [call, hname, hts, PassedItems.read, hopens, if_true]
        exact ArgumentList.stop_readFrom _ _ _ _ _ _
    · rw [if_neg hopens] at h
      cases h

theorem isSome_argumentList? (hkind : kind.isFunction = true)
    (hafter : ((if kind.isMethod then p.methodName.after else p.after).head?.any
      fun t => t.kind == .leftParen) = true) : (p.argumentList? kind).isSome = true := by
  unfold argumentList?
  cases hts : if kind.isMethod then p.methodName.after else p.after with
  | nil => simp [hts] at hafter
  | cons t ts =>
    rw [hts] at hafter
    have hopens : (t.kind == .leftParen) = true := hafter
    simp [hkind, hopens]

theorem plainRole_eq_call {known : List Text} (h : p.plainRole known = .call kind) :
    kind = .procedure ∨ kind = .function ∧ p.nextIs (·.kind == .leftParen) = true := by
  unfold plainRole at h
  dsimp only at h
  iterate 4
    split at h
    · cases h
  iterate 2
    split at h
    · exact .inl (IdentifierRole.call.inj h).symm
  split at h
  · rename_i hparen
    exact .inr ⟨(IdentifierRole.call.inj h).symm, (Bool.and_eq_true_iff.1 hparen).1⟩
  · cases h

/-- A call of a function has an argument list. -/
theorem isSome_argumentList?_of_role {enclosing : Option TokenKind} {known : List Text}
    (h : p.role enclosing known = .call kind) (hkind : kind.isFunction = true) :
    (p.argumentList? kind).isSome = true := by
  unfold role at h
  split at h
  · cases h
  · split at h
    · -- a method is called with a value if it is called with parentheses
      obtain rfl := IdentifierRole.call.inj h
      cases hparens : p.methodHasParens with
      | false =>
        rw [hparens] at hkind
        cases hkind
      | true => exact isSome_argumentList? rfl hparens
    · split at h
      · cases h
      · rcases plainRole_eq_call h with rfl | ⟨rfl, hparen⟩
        · cases hkind
        · exact isSome_argumentList? rfl hparen

end Place

/-! ## Closing parentheses -/

/-- A closing parenthesis is one character. -/
theorem Lexeme.length_of_rightParen {leading : Bool} {c : Char} {cs : Text}
    (h : (read leading c cs).kind = .rightParen) : (read leading c cs).length = 1 := by
  rcases read_cases leading c cs with ⟨-, hread⟩ | hread | hkind
  · have hkind := kind_comment leading cs
    rw [← hread, h] at hkind
    exact absurd hkind (by decide)
  · rw [hread] at h ⊢
    unfold mark at h ⊢
    cases cs with
    | nil => rfl
    | cons d rest =>
      dsimp only at h ⊢
      cases hpair : pairKind c d with
      | none => rfl
      | some kind =>
        rw [hpair] at h
        obtain rfl : kind = .rightParen := h
        unfold pairKind at hpair
        grind
  · rw [h] at hkind
    exact absurd hkind (by decide)

theorem Token.length_of_rightParen {lines : List Text} {t : Token} (ht : t ∈ tokensFrom 0 lines)
    (hkind : t.kind = .rightParen) : t.start.length = 1 := by
  obtain ⟨i, line, hline, ht⟩ := mem_tokensFrom.1 ht
  obtain ⟨s, hs, rfl⟩ := List.mem_map.1 ht
  obtain ⟨before, c, after, leading, -, htoken⟩ := lexeme_of_mem_scanFrom hs
  dsimp only at htoken
  rw [htoken] at hkind ⊢
  exact Lexeme.length_of_rightParen hkind

/-! ## Arguments of a call -/

section Written

variable {file : Path} {tokens : List Token} {o : Outline} {c : CallSite} {d : ScopeDraft}
  {s : Statement} {p : Place} {kind : RoutineKind} {l : ArgumentList} (h : Token.Laid tokens)
  (ho : o.Allotted file (Statement.split tokens))

namespace CallSite.WrittenAt

include h ho in
/-- The arguments of a call are those at the place where it is written. -/
theorem argumentList?_eq (hc : c.WrittenAt o d s p kind) :
    c.argumentList? tokens = p.argumentList? c.kind := by
  have hs := (hc.mem_split ho).1
  have hp := hc.place.1
  have hmem : p ∈ (Statement.split tokens).flatMap Statement.places :=
    List.mem_flatMap.2 ⟨s, hs, hp.mem_places⟩
  have hfound : ((Statement.split tokens).flatMap Statement.places).find?
      (fun q => q.token.start == c.span) = some p := by
    cases hfind : ((Statement.split tokens).flatMap Statement.places).find?
        fun q => q.token.start == c.span with
    | none =>
      have hnone := List.find?_eq_none.1 hfind p hmem
      rw [hc.span] at hnone
      exact absurd BEq.rfl hnone
    | some q =>
      obtain ⟨s', hs', hq⟩ := List.mem_flatMap.1 (List.mem_of_find?_eq_some hfind)
      have hq := Place.in_of_mem_places hq
      have hspan : q.token.start = c.span := by simpa using List.find?_some hfind
      have hstart : q.token.start = p.token.start := hspan.trans hc.span
      have htoken : q.token = p.token := h.eq_of_startCursor_eq
        ((Statement.sublist_of_mem_split hs').subset hq.mem) (hc.token_mem ho) (by rw [hstart])
      obtain rfl : s = s' := Statement.eq_of_mem_of_mem h hs hs' hp.mem (htoken ▸ hq.mem)
      rw [hq.eq hp (Statement.nodup_of_mem_split h hs) htoken]
  rw [CallSite.argumentList?, hfound]
  rfl

theorem kind_eq (hc : c.WrittenAt o d s p kind) : c.kind = kind := by
  rw [hc.call]
  rfl

end CallSite.WrittenAt

include h ho

theorem CallSite.isSome_argumentList? (hc : c ∈ o.record.calls) (hkind : c.kind.isFunction = true) :
    (c.argumentList? tokens).isSome = true := by
  obtain ⟨d, s, p, kind, hw⟩ := Outline.writtenAt_of_mem_calls hc
  obtain ⟨-, -, enclosing, hrole⟩ := hw.place
  rw [hw.argumentList?_eq h ho]
  rw [hw.kind_eq] at hkind ⊢
  exact Place.isSome_argumentList?_of_role hrole hkind

/-- The tokens of an argument list are tokens of the file, and the call ends with the last one. -/
theorem CallSite.spec_argumentList? (hc : c ∈ o.record.calls)
    (hl : c.argumentList? tokens = some l) :
    l.opener ∈ tokens ∧ c.span.endCursor ≤ l.opener.start.startCursor ∧ l.last ∈ tokens ∧
      (∀ t ∈ l.closer, t ∈ tokens ∧ t.kind = .rightParen) ∧
      c.stop = (l.closer.getD l.last).start := by
  obtain ⟨d, s, p, kind, hc⟩ := Outline.writtenAt_of_mem_calls hc
  rw [hc.argumentList?_eq h ho, hc.kind_eq] at hl
  obtain ⟨hopener, hlast, hcloser, hstop⟩ := Place.spec_argumentList? hl
  have hsub : (p.token :: p.after).Sublist tokens :=
    hc.place.1.suffix.sublist.trans (Statement.sublist_of_mem_split (hc.mem_split ho).1)
  obtain ⟨hfirst, -⟩ := List.pairwise_cons.1 (h.before.sublist hsub)
  have hmem : ∀ t ∈ p.after, t ∈ tokens := fun t ht => hsub.subset (List.mem_cons_of_mem _ ht)
  refine ⟨hmem _ hopener, ?_, hmem _ hlast, ?_, ?_⟩
  · rw [hc.span]
    exact Token.before_iff.1 (hfirst _ hopener)
  · exact fun t ht => (hcloser t ht).imp_left (hmem t)
  · rw [hc.call, hstop]
    refine h.single _ ?_
    cases hclosed : l.closer with
    | none => exact hmem _ hlast
    | some t => exact hmem t (hcloser t hclosed).1

end Written

end RoutineAtlas
