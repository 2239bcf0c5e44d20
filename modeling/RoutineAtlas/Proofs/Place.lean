import Mathlib.Data.List.Nodup
import RoutineAtlas.Proofs.Provenance

/-!
# Places and what they name

A token of a statement has one place in it and at most one role. What a call passes by name stands
at a place of its own sort: after a comma or an opening parenthesis, perhaps with a slash between
them. An identifier at such a place is an aside, so nothing is both a keyword passed in a call and
the name of a call or a variable.

## Main definitions

* `Place.In` — the place is one of the statement.
* `Place.NamesKeyword` — a call passes a keyword there.
* `Place.NamesKeyword.role_eq_aside` — what stands at such a place has no other role.
* `Place.keyword_of_call` — every keyword that a call passes stands at such a place.
-/

namespace RoutineAtlas

namespace Place

variable {s : Statement} {p q : Place} {known : List Text} {before ts : List Token}
  {brackets : List TokenKind} {x y : Place × IdentifierRole}

/-- The place is one of the statement. -/
def In (s : Statement) (p : Place) : Prop :=
  p.before.reverse ++ p.token :: p.after = s

theorem In.suffix (h : p.In s) : p.token :: p.after <:+ s :=
  ⟨p.before.reverse, h⟩

theorem In.mem (h : p.In s) : p.token ∈ s :=
  h.suffix.subset List.mem_cons_self

/-- In a statement without repetitions, a token has one place. -/
theorem In.eq (hp : p.In s) (hq : q.In s) (hs : s.Nodup) (htoken : p.token = q.token) : p = q := by
  obtain ⟨before, t, after⟩ := p
  obtain ⟨before', t', after'⟩ := q
  obtain rfl : t = t' := htoken
  have hnodup : (before.reverse ++ t :: after).Nodup := by
    rw [show before.reverse ++ t :: after = s from hp]
    exact hs
  have hnone := (List.nodup_cons.1 (List.nodup_middle.1 hnodup)).1
  rw [List.mem_append, not_or] at hnone
  have hsplit := (List.append_cons_inj_of_notMem hnone.1 hnone.2).1 (hp.trans hq.symm)
  rw [List.reverse_inj.1 hsplit.1, hsplit.2.2]

theorem mem_placesFrom (before earlier : List Token) (t : Token) (after : List Token) :
    ⟨earlier.reverse ++ before, t, after⟩ ∈ placesFrom before (earlier ++ t :: after) := by
  induction earlier generalizing before with
  | nil => exact List.mem_cons_self
  | cons u earlier ih =>
    rw [List.reverse_cons, List.append_assoc]
    exact List.mem_cons_of_mem _ (ih (u :: before))

theorem In.mem_places (h : p.In s) : p ∈ s.places := by
  have hmem := mem_placesFrom [] p.before.reverse p.token p.after
  rw [List.reverse_reverse, List.append_nil, show p.before.reverse ++ p.token :: p.after = s from h]
    at hmem
  exact hmem

theorem in_of_mem_placesFrom (h : p ∈ placesFrom before ts) : p.In (before.reverse ++ ts) := by
  induction ts generalizing before with
  | nil => cases h
  | cons t ts ih =>
    rcases List.mem_cons.1 h with rfl | h
    · rfl
    · simpa using ih h

theorem in_of_mem_places (h : p ∈ s.places) : p.In s :=
  in_of_mem_placesFrom h

/-! ## Roles -/

/-- A place with a role is one of the statement, and its role is told by what stands around it. -/
theorem of_mem_rolesFrom (h : x ∈ rolesFrom known before brackets ts) :
    x.1.In (before.reverse ++ ts) ∧ x.1.hasRole = true ∧
      ∃ enclosing, x.2 = x.1.role enclosing known := by
  induction ts generalizing before brackets with
  | nil => cases h
  | cons t ts ih =>
    simp only [rolesFrom] at h
    split at h
    · rename_i hrole
      rcases List.mem_cons.1 h with rfl | h
      · exact ⟨rfl, hrole, _, rfl⟩
      · simpa using ih h
    · simpa using ih h

theorem tokens_rolesFrom_sublist (known : List Text) (before : List Token)
    (brackets : List TokenKind) (ts : List Token) :
    ((rolesFrom known before brackets ts).map fun x => x.1.token).Sublist ts := by
  induction ts generalizing before brackets with
  | nil => exact List.Sublist.refl _
  | cons t ts ih =>
    simp only [rolesFrom]
    split
    · exact (ih _ _).cons_cons t
    · exact (ih _ _).cons t

/-- In a statement without repetitions, a token has one role at most. -/
theorem eq_of_mem_roles (hs : s.Nodup) (hx : x ∈ s.roles known) (hy : y ∈ s.roles known)
    (htoken : x.1.token = y.1.token) : x = y := by
  have hnodup : ((s.roles known).map fun x => x.1.token).Nodup :=
    hs.sublist (tokens_rolesFrom_sublist known [] [] s)
  exact List.inj_on_of_nodup_map hnodup hx hy htoken

theorem isWord_of_hasRole (h : p.hasRole = true) : p.token.isWord = true := by
  simp only [hasRole, Token.isWord, Bool.or_eq_true, Bool.and_eq_true] at h ⊢
  exact h.imp_right And.left

/-! ## Keywords passed in calls -/

/-- A call passes the keyword that the token names: the token is written as such, and right before
it stands a separator or a slash. -/
structure NamesKeyword (p : Place) : Prop where
  isWord : p.token.isWord = true
  isKeywordName : p.isKeywordName = true
  prev : p.prevIs (fun t => separates t || t.isOperator "/") = true

theorem kind_of_separates {t : Token} (h : (separates t || t.isOperator "/") = true) :
    t.kind = .comma ∨ t.kind = .leftParen ∨ t.kind = .operator ∧ t.text = Text.ofString "/" := by
  simpa [separates, Token.isOperator, or_assoc] using h

/-- What a call passes as a keyword is neither a variable nor a routine. -/
theorem NamesKeyword.role_eq_aside (h : p.NamesKeyword) (enclosing : Option TokenKind)
    (known : List Text) : p.role enclosing known = .aside := by
  obtain ⟨before, t, after⟩ := p
  cases before with
  | nil => simpa [prevIs, prev?] using h.prev
  | cons prev earlier =>
    have hkind := kind_of_separates (t := prev) (by simpa [prevIs, prev?] using h.prev)
    have hstarts : startsStatement ⟨prev :: earlier, t, after⟩ = false := by
      rcases hkind with hkind | hkind | ⟨hkind, -⟩ <;> simp [startsStatement, hkind]
    have hfield : (prev.isOperator "." || prev.kind == .doubleColon) = false := by
      rcases hkind with hkind | hkind | ⟨hkind, htext⟩
      · simp [Token.isOperator, hkind]
      · simp [Token.isOperator, hkind]
      · have hdot : (Text.ofString "/" == Text.ofString ".") = false := by decide
        simp [Token.isOperator, hkind, htext, hdot]
    have harrow : (prev.kind == .arrow) = false := by
      rcases hkind with hkind | hkind | ⟨hkind, -⟩ <;> simp [hkind]
    have haside : isAside ⟨prev :: earlier, t, after⟩ enclosing = true := by
      simp [isAside, h.isKeywordName, hstarts]
    simp [role, prevIs, prev?, hfield, harrow, haside]

end Place

namespace PassedItems

variable {s : Statement} {item ts : List Token} {k : PassedKeyword}

/-- The tokens come after a separator in the statement. -/
def Separated (s : Statement) (item : List Token) : Prop :=
  ∃ before separator, before ++ separator :: item = s ∧ Place.separates separator = true

/-- An item that passes a keyword starts with its name, or with a slash and its name. -/
theorem keyword_of_item (hitem : Separated s item) (hk : keyword? item = some k) :
    ∃ q : Place, q.In s ∧ q.NamesKeyword ∧ k = ⟨q.token.text, q.token.start⟩ := by
  obtain ⟨before, separator, rfl, hseparates⟩ := hitem
  match item, hk with
  | first :: second :: rest, hk =>
    simp only [keyword?] at hk
    split at hk
    · rename_i hassigned
      rw [Bool.and_eq_true] at hassigned
      refine ⟨⟨separator :: before.reverse, first, second :: rest⟩, by simp [Place.In],
        ⟨hassigned.1, ?_, ?_⟩, (Option.some.inj hk).symm⟩
      · simp [Place.isKeywordName, Place.nextIs, Place.next?, hassigned.2, hseparates]
      · simp [Place.prevIs, Place.prev?, hseparates]
    · split at hk
      · rename_i hslash
        rw [Bool.and_eq_true] at hslash
        refine ⟨⟨first :: separator :: before.reverse, second, rest⟩, by simp [Place.In],
          ⟨hslash.2, ?_, ?_⟩, (Option.some.inj hk).symm⟩
        · simp [Place.isKeywordName, hslash.1, hseparates]
        · simp [Place.prevIs, Place.prev?, hslash.1]
      · cases hk

theorem keyword_of_add {isEmpty : Bool} {items : PassedItems} (hitem : Separated s item)
    (hk : k ∈ (add item isEmpty items).keywords) : k ∈ items.keywords ∨
      ∃ q : Place, q.In s ∧ q.NamesKeyword ∧ k = ⟨q.token.text, q.token.start⟩ := by
  unfold add at hk
  split at hk
  · exact .inl hk
  · split at hk
    · rename_i hkeyword
      rcases List.mem_cons.1 hk with rfl | hk
      · exact .inr (keyword_of_item hitem hkeyword)
      · exact .inl hk
    · exact .inl hk

/-- Every item comes after a separator, so the keywords do. -/
theorem keyword_of_readFrom {parens isEmpty : Bool} {depth : Int} {stop : Span}
    (hitem : Separated s item) (hts : ts <:+ s)
    (hk : k ∈ (readFrom parens item isEmpty depth stop ts).keywords) :
    ∃ q : Place, q.In s ∧ q.NamesKeyword ∧ k = ⟨q.token.text, q.token.start⟩ := by
  induction ts generalizing item isEmpty depth stop with
  | nil => exact (keyword_of_add hitem hk).resolve_left (by simp)
  | cons t ts ih =>
    have hrest : ts <:+ s := (List.suffix_cons t ts).trans hts
    rw [readFrom] at hk
    split at hk
    · split at hk
      · rename_i hcomma
        rcases keyword_of_add hitem hk with hk | hk
        · obtain ⟨before, hbefore⟩ := hts
          exact ih ⟨before, t, hbefore, by simp [Place.separates, hcomma]⟩ hrest hk
        · exact hk
      · exact (keyword_of_add hitem hk).resolve_left (by simp)
    · exact ih hitem hrest hk

theorem keyword_of_read {isFunction : Bool} {last : Token} (hts : ts <:+ s)
    (hk : k ∈ (read isFunction last ts).keywords) :
    ∃ q : Place, q.In s ∧ q.NamesKeyword ∧ k = ⟨q.token.text, q.token.start⟩ := by
  cases ts with
  | nil => cases hk
  | cons t ts =>
    rw [read] at hk
    by_cases hopens : (t.kind == if isFunction then .leftParen else .comma) = true
    · rw [if_pos hopens] at hk
      have hseparates : Place.separates t = true := by
        cases isFunction <;> simp_all [Place.separates]
      obtain ⟨before, hbefore⟩ := hts
      exact keyword_of_readFrom ⟨before, t, hbefore, hseparates⟩
        ((List.suffix_cons t ts).trans ⟨before, hbefore⟩) hk
    · rw [if_neg hopens] at hk
      cases hk

end PassedItems

theorem MethodName.suffix_of_extend (text : Text) (last : Token) (after : List Token) :
    (MethodName.extend text last after).after <:+ after := by
  fun_induction MethodName.extend text last after with
  | case1 text last => exact List.suffix_refl _
  | case2 text last t => exact List.suffix_refl _
  | case3 text last t w rest hcolons ih =>
    exact ih.trans ((List.suffix_cons w rest).trans (List.suffix_cons t _))
  | case4 text last t w rest hcolons => exact List.suffix_refl _

/-- Every keyword that a call passes stands at a place where calls name keywords. -/
theorem Place.keyword_of_call {s : Statement} {p : Place} (hp : p.In s) {kind : RoutineKind}
    {scope : Nat} {k : PassedKeyword} (hk : k ∈ (p.call kind scope).keywords) :
    ∃ q : Place, q.In s ∧ q.NamesKeyword ∧ k = ⟨q.token.text, q.token.start⟩ := by
  have hafter : p.after <:+ s := (List.suffix_cons p.token p.after).trans hp.suffix
  simp only [Place.call] at hk
  split at hk
  · exact PassedItems.keyword_of_read ((MethodName.suffix_of_extend _ _ _).trans hafter) hk
  · exact PassedItems.keyword_of_read hafter hk

/-- A call is named by a word in the role of a call. -/
theorem Statement.call_of_findings {s : Statement} {scope : Nat} {known : List Text}
    {c : CallSite} (h : .call c ∈ s.findings scope known) :
    ∃ p kind, (p, .call kind) ∈ s.roles known ∧ c = p.call kind scope := by
  unfold findings at h
  split at h
  · cases h
  · split at h
    · obtain ⟨t, -, ht⟩ := List.mem_map.1 h
      cases ht
    · split at h
      · cases h
      · obtain ⟨⟨p, role⟩, hp, hfound⟩ := List.mem_filterMap.1 h
        cases role with
        | call kind =>
          obtain rfl := Finding.call.inj (Option.some.inj hfound)
          exact ⟨p, kind, hp, rfl⟩
        | definition => cases hfound
        | reference => cases hfound
        | aside => cases hfound

end RoutineAtlas
