import RoutineAtlas.Proofs.Reports

/-!
# Recorded places are real

Nearly all places that a record keeps are those of tokens, so they lie within their lines. The name
of a method is the one place that is computed: it begins with the class and is as long as the
distance of two columns, that of the class and that of the end of the method's own name. This is the
name as it is written if the whole of it is on one line, and no stretch of source if the header goes
on to another line in the midst of the name.

## Main definitions

* `Record.places` — the places that a record keeps, but for the names of its routines.
* `Span.Within` — a place lies within its line.
* `Span.spelled` — what the tokens of a place spell.
* `Record.places_within` — which places of a record are real.
-/

namespace RoutineAtlas

/-! ## Places -/

/-- The places that a head keeps besides its name. -/
def Signature.places (s : Signature) : List Span :=
  s.start :: s.stop :: (s.args.map (·.span) ++ s.keywords.flatMap fun k => [k.span, k.targetSpan])

/-- The places that a scope keeps. -/
def Scope.places (s : Scope) : List Span :=
  s.start :: s.stop :: s.bindings.flatMap fun b => b.occurrences.map (·.span)

/-- The places that a call keeps. -/
def CallSite.places (c : CallSite) : List Span :=
  c.span :: c.stop :: c.keywords.map (·.span)

/-- The places that a record keeps, but for the names of its routines. -/
def Record.places (r : Record) : List Span :=
  r.signatures.flatMap Signature.places ++ r.scopes.flatMap Scope.places ++
    r.calls.flatMap CallSite.places

/-- The place lies within its line. -/
def Span.Within (lines : List Text) (s : Span) : Prop :=
  ∃ line ∈ lines[s.line]?, s.column + s.length ≤ line.length

instance (lines : List Text) (s : Span) : Decidable (s.Within lines) :=
  inferInstanceAs (Decidable (∃ line ∈ lines[s.line]?, s.column + s.length ≤ line.length))

/-- The token stands in the place. -/
def Span.holds (s : Span) (t : Token) : Bool :=
  t.start.line == s.line && s.column ≤ t.start.column && t.start.endColumn ≤ s.endColumn

/-- What the tokens of a place spell, comments and continuations left out. -/
def Span.spelled (tokens : List Token) (s : Span) : Text :=
  ((tokens.filter Token.isContent).filter s.holds).flatMap (·.text)

/-- The place is that of a token. -/
def Span.IsTokenOf (tokens : List Token) (s : Span) : Prop :=
  ∃ t ∈ tokens, t.start = s

theorem Span.IsTokenOf.within {lines : List Text} {s : Span}
    (h : s.IsTokenOf (tokensFrom 0 lines)) : s.Within lines := by
  obtain ⟨t, ht, rfl⟩ := h
  obtain ⟨line, hline, hstands⟩ := standsIn_of_mem_tokensFrom ht
  refine ⟨line, hline, ?_⟩
  simpa [Span.endColumn] using hstands.ends

theorem Statement.isTokenOf_stop {tokens : List Token} (hlaid : Token.Laid tokens) {s : Statement}
    (hs : s ∈ split tokens) : s.stop.IsTokenOf tokens := by
  obtain ⟨last, hmem, hlast, -⟩ := s.endCursor_stop_eq
    (fun t ht => hlaid.single t ((sublist_of_mem_split hs).subset ht)) (ne_nil_of_mem_splitFrom hs)
  have htoken := (sublist_of_mem_split hs).subset hmem
  refine ⟨last, htoken, ?_⟩
  rw [stop, hlast]
  exact (hlaid.single last htoken).symm

/-! ## Scopes -/

namespace Outline

variable {tokens : List Token} {file : Path} {o : Outline}

/-- The scopes so far begin and end with tokens. -/
def Bounded (tokens : List Token) (o : Outline) : Prop :=
  ∀ d ∈ o.scopes, d.start.IsTokenOf tokens ∧ d.stop.IsTokenOf tokens

theorem Bounded.extend (h : o.Bounded tokens) {s : Statement} (hs : s.stop.IsTokenOf tokens)
    (scope : Nat) {f : ScopeDraft → ScopeDraft} (hstart : ∀ d, (f d).start = d.start)
    (hstop : ∀ d, (f d).stop = s.stop) :
    ∀ d ∈ o.scopes.modify scope f, d.start.IsTokenOf tokens ∧ d.stop.IsTokenOf tokens := by
  refine forall_mem_modify h scope fun d hd => ?_
  rw [hstart, hstop]
  exact ⟨hd.1, hs⟩

/-- One statement keeps the scopes bounded by tokens. -/
theorem Bounded.add (h : o.Bounded tokens) {s : Statement} (hs : s ⊆ tokens)
    (hstop : s.stop.IsTokenOf tokens) : (o.add file s).Bounded tokens := by
  cases s with
  | nil => exact h
  | cons first after =>
    have hfirst : first.start.IsTokenOf tokens := ⟨first, hs List.mem_cons_self, rfl⟩
    simp only [Outline.add]
    split
    · have habandon : o.abandon.scopes = o.scopes := by
        unfold abandon
        split <;> rfl
      simp only [addHeader]
      split
      · rename_i sig hread
        obtain ⟨hsigstart, hsigstop⟩ := Header.ends_of_read hread
        refine List.forall_mem_append.2 ⟨habandon ▸ h, List.forall_mem_singleton.2 ?_⟩
        rw [hsigstart, hsigstop]
        exact ⟨hfirst, hstop⟩
      · exact habandon ▸ h
    · split
      · unfold addToRoutine
        split
        · exact h.extend hstop _ (fun _ => rfl) fun _ => rfl
        · exact h.extend hstop _ (fun _ => rfl) fun _ => rfl
      · unfold addToMain
        split
        · exact h
        · have hmain : (o.withMain first.start).2.Bounded tokens := by
            unfold withMain
            split
            · exact h
            · exact List.forall_mem_append.2
                ⟨h, List.forall_mem_singleton.2 ⟨hfirst, hfirst⟩⟩
          exact hmain.extend hstop _ (fun _ => rfl) fun _ => rfl

theorem bounded_ofStatements (file : Path) {statements : List Statement}
    (h : ∀ s ∈ statements, s ⊆ tokens ∧ s.stop.IsTokenOf tokens) :
    (ofStatements file statements).Bounded tokens := by
  have hfold : ∀ o : Outline, o.Bounded tokens →
      (statements.foldl (Outline.add file) o).Bounded tokens := by
    induction statements with
    | nil => exact fun o ho => ho
    | cons s rest ih =>
      obtain ⟨hs, hrest⟩ := List.forall_mem_cons.1 h
      exact fun o ho => ih hrest _ (ho.add hs.1 hs.2)
  have hall := hfold empty (by simp [Bounded, empty])
  unfold ofStatements abandon
  split <;> exact hall

end Outline

/-! ## Records -/

namespace Record

variable (file : Path) {tokens : List Token} (hlaid : Token.Laid tokens)
include hlaid

theorem isTokenOf_signature {s : Signature}
    (hs : s ∈ (Record.ofTokens file tokens).1.signatures) :
    ∀ p ∈ s.places, p.IsTokenOf tokens := by
  have hwritten := (Record.writtenIn_ofTokens file tokens).1.signatures s hs
  obtain ⟨word, after, hstatement, -, hread⟩ := exists_header file hlaid hs
  obtain ⟨hstart, hstop⟩ := Header.ends_of_read hread
  refine List.forall_mem_cons.2 ⟨?_, List.forall_mem_cons.2 ⟨?_, List.forall_mem_append.2 ⟨?_, ?_⟩⟩⟩
  · exact ⟨word, (Statement.sublist_of_mem_split hstatement).subset List.mem_cons_self, hstart.symm⟩
  · exact hstop ▸ Statement.isTokenOf_stop hlaid hstatement
  · intro p hp
    obtain ⟨a, ha, rfl⟩ := List.mem_map.1 hp
    obtain ⟨t, ht, rfl⟩ := hwritten.args a ha
    exact ⟨t, ht, rfl⟩
  · intro p hp
    obtain ⟨k, hk, hp⟩ := List.mem_flatMap.1 hp
    obtain ⟨t, ht, u, hu, rfl⟩ := hwritten.keywords k hk
    rcases List.mem_pair.1 hp with rfl | rfl
    · exact ⟨t, ht, rfl⟩
    · exact ⟨u, hu, rfl⟩

theorem isTokenOf_scope {s : Scope} (hs : s ∈ (Record.ofTokens file tokens).1.scopes) :
    ∀ p ∈ s.places, p.IsTokenOf tokens := by
  have hwritten := (Record.writtenIn_ofTokens file tokens).1.bindings s hs
  have hbounded : (Outline.ofStatements file (Statement.split tokens)).Bounded tokens :=
    Outline.bounded_ofStatements file fun s hs =>
      ⟨(Statement.sublist_of_mem_split hs).subset, Statement.isTokenOf_stop hlaid hs⟩
  obtain ⟨i, hi, rfl⟩ := List.mem_mapIdx.1 hs
  obtain ⟨hstart, hstop⟩ := hbounded _ (List.getElem_mem hi)
  refine List.forall_mem_cons.2 ⟨hstart, List.forall_mem_cons.2 ⟨hstop, ?_⟩⟩
  intro p hp
  obtain ⟨b, hb, hp⟩ := List.mem_flatMap.1 hp
  obtain ⟨o, ho, rfl⟩ := List.mem_map.1 hp
  obtain ⟨t, ht, -, hspan⟩ := (hwritten b hb).named o ho
  exact ⟨t, ht, hspan.symm⟩

theorem isTokenOf_call {c : CallSite} (hc : c ∈ (Record.ofTokens file tokens).1.calls) :
    ∀ p ∈ c.places, p.IsTokenOf tokens := by
  obtain ⟨t, rest, hsub, hspan, hkeywords, u, hu, hstop⟩ :=
    (Record.writtenIn_ofTokens file tokens).1.calls c hc
  have hsub := hsub.subset
  refine List.forall_mem_cons.2 ⟨⟨t, hsub List.mem_cons_self, hspan.symm⟩,
    List.forall_mem_cons.2 ⟨⟨u, hsub hu, ?_⟩, ?_⟩⟩
  · rw [hstop, hlaid.single u (hsub hu)]
  · intro p hp
    obtain ⟨k, hk, rfl⟩ := List.mem_map.1 hp
    obtain ⟨u, hu, rfl⟩ := hkeywords k hk
    exact ⟨u, hsub hu, rfl⟩

/-- All places of a record but for the names of its routines are those of tokens. -/
theorem isTokenOf_of_mem_places :
    ∀ p ∈ (Record.ofTokens file tokens).1.places, p.IsTokenOf tokens := by
  intro p hp
  rw [places, List.mem_append, List.mem_append] at hp
  rcases hp with (hp | hp) | hp
  · obtain ⟨s, hs, hp⟩ := List.mem_flatMap.1 hp
    exact isTokenOf_signature file hlaid hs p hp
  · obtain ⟨s, hs, hp⟩ := List.mem_flatMap.1 hp
    exact isTokenOf_scope file hlaid hs p hp
  · obtain ⟨c, hc, hp⟩ := List.mem_flatMap.1 hp
    exact isTokenOf_call file hlaid hc p hp

end Record

/-! ## Names -/

/-- Two colons that make one token are written so. -/
theorem Lexeme.read_of_doubleColon {leading : Bool} {c : Char} {cs : Text}
    (h : (read leading c cs).kind = .doubleColon) :
    (c :: cs).take (read leading c cs).length = [':', ':'] := by
  rcases read_cases leading c cs with ⟨-, hread⟩ | hread | hkind
  · have hkind := kind_comment leading cs
    rw [← hread, h] at hkind
    exact absurd hkind (by decide)
  · rw [hread] at h ⊢
    rcases mark_cases c cs with hkind | ⟨d, rest, kind, rfl, hpair, hmark⟩
    · rw [h] at hkind
      exact absurd hkind (by decide)
    · rw [hmark] at h ⊢
      have hcolons : c = ':' ∧ d = ':' := by
        unfold pairKind at hpair
        grind
      obtain ⟨rfl, rfl⟩ := hcolons
      rfl
  · rw [h] at hkind
    exact absurd hkind (by decide)

theorem Token.text_of_doubleColon {lines : List Text} {t : Token} (ht : t ∈ tokensFrom 0 lines)
    (hkind : t.kind = .doubleColon) : t.text = [':', ':'] := by
  obtain ⟨i, line, hline, ht⟩ := mem_tokensFrom.1 ht
  obtain ⟨s, hs, rfl⟩ := List.mem_map.1 ht
  obtain ⟨before, c, after, leading, -, htoken⟩ := lexeme_of_mem_scanFrom hs
  dsimp only at htoken
  rw [htoken] at hkind ⊢
  exact Lexeme.read_of_doubleColon hkind

theorem Token.text_ne_nil {lines : List Text} {t : Token} (ht : t ∈ tokensFrom 0 lines) :
    t.text ≠ [] := by
  obtain ⟨line, hline, hstands⟩ := standsIn_of_mem_tokensFrom ht
  have hnonempty := hstands.nonempty
  have hends := hstands.ends
  rw [hstands.text, ← List.length_pos_iff, List.length_take, List.length_drop]
  simp only [Span.endColumn] at hends
  omega

/-- The place that is kept for the name of a method, given the tokens of its class and of its own
name. -/
def Header.methodSpan (name method : Token) : Span :=
  { name.start with length := method.stop.endColumn - name.start.column }

/-- The name in a header: a word, or the class and the method with two colons between them. -/
theorem Header.spelling_of_read {file : Path} {word : Token} {after : List Token} {s : Signature}
    (h : (Header.read file word after).signature = some s) :
    ∃ name rest, after = name :: rest ∧
      ((nameTokens after = [name] ∧ s.name = name.text ∧ s.nameSpan = name.start) ∨
        ∃ colons method later, rest = colons :: method :: later ∧ colons.kind = .doubleColon ∧
          nameTokens after = [name, method] ∧ s.name = name.text ++ ':' :: ':' :: method.text ∧
          s.nameSpan = methodSpan name method) := by
  cases after with
  | nil => simp [Header.read] at h
  | cons name rest =>
    simp only [Header.read] at h
    split at h
    · obtain rfl := Option.some.inj h
      refine ⟨name, rest, rfl, ?_⟩
      cases rest with
      | nil => exact .inl ⟨rfl, rfl, rfl⟩
      | cons t rest =>
        cases rest with
        | nil =>
          refine .inl ⟨rfl, ?_⟩
          by_cases ht : t.kind = .doubleColon <;> simp [HeaderName.read, ht]
        | cons method later =>
          by_cases hmethod : t.kind = .doubleColon ∧ method.isWord = true
          · obtain ⟨ht, hmethod⟩ := hmethod
            refine .inr ⟨t, method, later, rfl, ht, ?_, ?_⟩
            · simp [nameTokens, ht, hmethod]
            · simp [HeaderName.read, ht, hmethod, methodSpan]
          · refine .inl ⟨?_, ?_⟩
            · simpa [nameTokens] using hmethod
            · by_cases ht : t.kind = .doubleColon <;> simp_all [HeaderName.read]
    · cases h

namespace Span

variable {s : Span} {t u : Token}

theorem holds_iff : s.holds t = true ↔
    t.start.line = s.line ∧ s.column ≤ t.start.column ∧ t.start.endColumn ≤ s.endColumn := by
  simp [holds, and_assoc]

/-- What comes before the first token of a place is not in it. -/
theorem holds_of_before (h : t.Before u) (ht : 0 < t.start.length) (hline : u.start.line = s.line)
    (hcolumn : u.start.column = s.column) : s.holds t = false := by
  rw [Bool.eq_false_iff, ne_eq, holds_iff]
  simp only [Token.Before, Span.endColumn] at h ⊢
  omega

/-- Nor is what comes after a token that the place does not reach beyond. -/
theorem holds_of_after (h : u.Before t) (ht : 0 < t.start.length) (hline : s.line ≤ u.start.line)
    (hcolumn : s.line = u.start.line → s.endColumn ≤ u.start.endColumn) : s.holds t = false := by
  rw [Bool.eq_false_iff, ne_eq, holds_iff]
  simp only [Token.Before, Span.endColumn] at h hcolumn ⊢
  omega

/-- What the tokens of a place spell, if all of them are in one part of a statement. -/
theorem spelled_eq {tokens earlier part later : List Token} (hlaid : Token.Laid tokens)
    (hs : earlier ++ part ++ later ∈ Statement.split tokens)
    (hbefore : ∀ t ∈ tokens, (∀ u ∈ part, t.Before u) → s.holds t = false)
    (hafter : ∀ t ∈ tokens, (∀ u ∈ part, u.Before t) → s.holds t = false) :
    s.spelled tokens = (part.filter s.holds).flatMap (·.text) := by
  have hpairwise : (tokens.filter Token.isContent).Pairwise Token.Before :=
    hlaid.before.sublist List.filter_sublist
  have hmem : ∀ t ∈ tokens.filter Token.isContent, t ∈ tokens := fun t ht =>
    List.mem_of_mem_filter ht
  obtain ⟨front, back, hparts⟩ : ∃ front back,
      tokens.filter Token.isContent = front ++ (part ++ back) := by
    obtain ⟨above, below, heq⟩ := List.append_of_mem hs
    refine ⟨above.flatten ++ earlier, later ++ below.flatten, ?_⟩
    rw [← Statement.flatten_split, heq]
    simp
  rw [hparts] at hpairwise hmem
  obtain ⟨-, hrest, hfront⟩ := List.pairwise_append.1 hpairwise
  obtain ⟨-, -, hback⟩ := List.pairwise_append.1 hrest
  have hnone : front.filter s.holds = [] := by
    refine List.filter_eq_nil_iff.2 fun t ht => ?_
    rw [hbefore t (hmem t (by simp [ht])) fun u hu => hfront t ht u (by simp [hu])]
    decide
  have hnone' : back.filter s.holds = [] := by
    refine List.filter_eq_nil_iff.2 fun t ht => ?_
    rw [hafter t (hmem t (by simp [ht])) fun u hu => hback u hu t ht]
    decide
  rw [spelled, hparts, List.filter_append, List.filter_append, hnone, hnone', List.nil_append,
    List.append_nil]

end Span

namespace Header

variable {lines : List Text} {word name colons method : Token} {rest later : List Token}

/-- A name that is a single word is written in its place. -/
theorem spelled_word (hs : word :: name :: rest ∈ Statement.split (tokensFrom 0 lines)) :
    name.start.spelled (tokensFrom 0 lines) = name.text := by
  have hlaid := laid_tokensFrom lines
  have hstatement : [word] ++ [name] ++ rest ∈ Statement.split (tokensFrom 0 lines) := hs
  rw [Span.spelled_eq hlaid hstatement]
  · simp [Span.holds_iff]
  · intro t ht hbefore
    exact Span.holds_of_before (hbefore name (by simp)) (hlaid.nonempty t ht) rfl rfl
  · intro t ht hafter
    exact Span.holds_of_after (hafter name (by simp)) (hlaid.nonempty t ht) (Nat.le_refl _)
      fun _ => Nat.le_refl _

section Method

variable (hs : word :: name :: colons :: method :: later ∈ Statement.split (tokensFrom 0 lines))
include hs

theorem before_of_mem_split : name.Before colons ∧ colons.Before method ∧ name.Before method := by
  have hpairwise := (laid_tokensFrom lines).before.sublist (Statement.sublist_of_mem_split hs)
  simp only [List.pairwise_cons, List.mem_cons] at hpairwise
  exact ⟨hpairwise.2.1 _ (.inl rfl), hpairwise.2.2.1 _ (.inl rfl),
    hpairwise.2.1 _ (.inr (.inl rfl))⟩

/-- The place of a method's name spells what it holds of the three tokens of the name. -/
theorem spelled_method : (methodSpan name method).spelled (tokensFrom 0 lines) =
    ([name, colons, method].filter (methodSpan name method).holds).flatMap (·.text) := by
  have hlaid := laid_tokensFrom lines
  have hstatement : [word] ++ [name, colons, method] ++ later ∈
      Statement.split (tokensFrom 0 lines) := hs
  obtain ⟨-, -, hbefore⟩ := before_of_mem_split hs
  have hsingle := hlaid.single method ((Statement.sublist_of_mem_split hs).subset (by simp))
  refine Span.spelled_eq hlaid hstatement ?_ ?_
  · intro t ht hpart
    exact Span.holds_of_before (hpart name (by simp)) (hlaid.nonempty t ht) rfl rfl
  · intro t ht hpart
    refine Span.holds_of_after (hpart method (by simp)) (hlaid.nonempty t ht) ?_ ?_
    all_goals
      simp only [methodSpan, hsingle, Token.Before, Span.endColumn] at hbefore ⊢
      omega

/-- The place of a method's name is real if the whole name is on one line. -/
theorem method_of_same_line (hkind : colons.kind = .doubleColon)
    (hline : method.start.line = name.start.line) : (methodSpan name method).Within lines ∧
      (methodSpan name method).spelled (tokensFrom 0 lines) =
        name.text ++ ':' :: ':' :: method.text := by
  have hmem := (Statement.sublist_of_mem_split hs).subset
  have hsingle := (laid_tokensFrom lines).single method (hmem (by simp))
  obtain ⟨hleft, hright, hbefore⟩ := before_of_mem_split hs
  have hend : (methodSpan name method).endColumn = method.start.endColumn := by
    simp only [methodSpan, hsingle, Token.Before, Span.endColumn] at hbefore ⊢
    omega
  constructor
  · obtain ⟨line, hsource, hwidth⟩ := Span.IsTokenOf.within ⟨method, hmem (by simp), rfl⟩
    exact ⟨line, hline ▸ hsource, (Nat.le_of_eq hend).trans hwidth⟩
  · have hall : ∀ t ∈ [name, colons, method], (methodSpan name method).holds t = true := by
      have hholds {t : Token} (hsame : t.start.line = name.start.line)
          (hfrom : name.start.column ≤ t.start.column)
          (hto : t.start.endColumn ≤ method.start.endColumn) :
          (methodSpan name method).holds t = true :=
        Span.holds_iff.2 ⟨hsame, hfrom, hend ▸ hto⟩
      simp only [Token.Before, Span.endColumn] at hleft hright hbefore hholds
      simp only [List.forall_mem_cons]
      exact ⟨hholds rfl (Nat.le_refl _) (by omega), hholds (by omega) (by omega) (by omega),
        hholds hline (by omega) (Nat.le_refl _), by simp⟩
    rw [spelled_method hs, List.filter_eq_self.2 hall]
    simp [Token.text_of_doubleColon (hmem (by simp)) hkind]

/-- If the method is on another line than its class, what the place spells is too short. -/
theorem method_of_other_line (hkind : colons.kind = .doubleColon)
    (hline : method.start.line ≠ name.start.line) :
    (methodSpan name method).spelled (tokensFrom 0 lines) ≠
      name.text ++ ':' :: ':' :: method.text := by
  have hmem := (Statement.sublist_of_mem_split hs).subset
  have hmethod : (methodSpan name method).holds method = false := by
    rw [Bool.eq_false_iff, ne_eq, Span.holds_iff]
    exact fun h => hline h.1
  have hcolons := Token.text_of_doubleColon (hmem (by simp)) hkind
  have hlength := List.length_pos_iff.2 (Token.text_ne_nil (hmem (by simp) : method ∈ _))
  have hfilter : [name, colons, method].filter (methodSpan name method).holds =
      [name, colons].filter (methodSpan name method).holds := by
    rw [show [name, colons, method] = [name, colons] ++ [method] from rfl, List.filter_append]
    simp [hmethod]
  have hshort : (([name, colons].filter (methodSpan name method).holds).flatMap (·.text)).length ≤
      name.text.length + 2 := by
    rw [List.filter_cons, List.filter_cons, List.filter_nil]
    split <;> split <;> simp [hcolons]
  intro heq
  rw [spelled_method hs, hfilter] at heq
  rw [heq] at hshort
  simp only [List.length_append, List.length_cons] at hshort
  omega

end Method

end Header

/-- The places of a record are real: each lies within its line and is that of a token, except that
the name of a routine is a stretch of source which spells it exactly if the words of the name are on
one line. -/
theorem Record.places_within (file : Path) (lines : List Text) :
    let tokens := (TokenStream.ofLines lines).tokens
    let record := (Record.ofTokens file tokens).1
    (∀ p ∈ record.places, p.Within lines ∧ p.IsTokenOf tokens) ∧
      ∀ s ∈ record.signatures, ∃ word after, word :: after ∈ Statement.split tokens ∧
        (Header.read file word after).signature = some s ∧
        ((s.nameSpan.Within lines ∧ s.nameSpan.spelled tokens = s.name) ↔
          ∀ t ∈ Header.nameTokens after, t.start.line = s.nameSpan.line) := by
  intro tokens record
  have hlaid : Token.Laid tokens := laid_tokensFrom lines
  constructor
  · intro p hp
    have htoken := isTokenOf_of_mem_places file hlaid p hp
    exact ⟨Span.IsTokenOf.within htoken, htoken⟩
  · intro s hs
    obtain ⟨word, after, hstatement, -, hread⟩ := exists_header file hlaid hs
    refine ⟨word, after, hstatement, hread, ?_⟩
    obtain ⟨name, rest, rfl, ⟨hwords, hname, hspan⟩ |
      ⟨colons, method, later, rfl, hcolons, hwords, hname, hspan⟩⟩ := Header.spelling_of_read hread
    · rw [hwords, hname, hspan]
      have hmem := (Statement.sublist_of_mem_split hstatement).subset
      have hwithin : name.start.Within lines :=
        Span.IsTokenOf.within ⟨name, hmem (by simp), rfl⟩
      simpa using ⟨hwithin, Header.spelled_word hstatement⟩
    · rw [hwords, hname, hspan]
      constructor
      · rintro ⟨-, hspelled⟩
        by_contra hlines
        refine Header.method_of_other_line hstatement hcolons ?_ hspelled
        simpa [Header.methodSpan] using hlines
      · intro hlines
        exact Header.method_of_same_line hstatement hcolons (hlines method (by simp))

/-- A header that goes on over two more lines after its name. -/
theorem Record.places_within_continued_header :
    let lines := ["pro a::b, $".toList, "  x, $".toList, "  k=v".toList, "end".toList]
    let tokens := (TokenStream.ofLines lines).tokens
    ∃ s ∈ (Record.ofTokens (.ofText ['a']) tokens).1.signatures, s.nameSpan.line < s.stop.line ∧
      s.nameSpan.Within lines ∧ s.nameSpan.spelled tokens = s.name := by
  intro lines tokens
  have hheader : ∃ s ∈ (Record.ofTokens (.ofText ['a']) tokens).1.signatures,
      s.nameSpan.line < s.stop.line ∧
        ∀ statement ∈ Statement.split tokens, statement.head?.map (·.start) = some s.start →
          ∀ t ∈ Header.nameTokens statement.tail, t.start.line = s.nameSpan.line := by
    decide +kernel
  obtain ⟨s, hs, hcontinued, hlines⟩ := hheader
  obtain ⟨word, after, hstatement, hread, hname⟩ :=
    (Record.places_within (.ofText ['a']) lines).2 s hs
  have hstart := (Header.ends_of_read hread).1
  exact ⟨s, hs, hcontinued, hname.2 (hlines _ hstatement (congrArg some hstart.symm))⟩

/-- Where the method is on another line than its class, the place of the name goes on beyond its
line. -/
theorem Record.name_beyond_line :
    let lines := ["pro a:: $".toList, "          b".toList, "end".toList]
    let tokens := (TokenStream.ofLines lines).tokens
    ∃ s ∈ (Record.ofTokens (.ofText ['a']) tokens).1.signatures, ¬s.nameSpan.Within lines := by
  decide +kernel

end RoutineAtlas
