import RoutineAtlas.Proofs.Respelling
import RoutineAtlas.Proofs.Transcription.Record

/-!
# Layout does not matter

A statement may be continued over several lines, share its line with others, and have comments and
blank lines around it. Once the statements are split, nothing looks at a line or a column again:
places are copied into the record and into the problems, but decide nothing. Two files with the same
statements, whatever their layout, therefore have the same structure and the same problems up to
places.

Neither file is compared with the other. Both are written down again with all places forgotten,
which makes their statements equal.

## Main definitions

* `Token.written` — what is written in a token, wherever it stands.
* `Record.SameUpToPlaces` — all that two records have in common but for places.
* `Transcription.placeless` — all places forgotten.
-/

namespace RoutineAtlas

/-- What is written in a token, wherever it stands. -/
def Token.written (t : Token) : TokenKind × Text :=
  (t.kind, t.text)

/-- What is written in the statements, wherever they stand. -/
def Statement.written (ss : List Statement) : List (List (TokenKind × Text)) :=
  ss.map (List.map Token.written)

/-- What two records have in common if only places set their statements apart. -/
structure Record.SameUpToPlaces (r r' : Record) : Prop where
  routines : r.routines.map (fun x => (x.signature.name, x.signature.kind,
      x.signature.args.map (·.name), x.signature.keywords.map (fun k => (k.name, k.target)),
      x.signature.acceptsExtra, x.scope, x.closed)) =
    r'.routines.map fun x => (x.signature.name, x.signature.kind,
      x.signature.args.map (·.name), x.signature.keywords.map (fun k => (k.name, k.target)),
      x.signature.acceptsExtra, x.scope, x.closed)
  scopes : r.scopes.map (fun s => (s.kind,
      s.bindings.map fun b => (b.name, b.kind, b.occurrences.map (·.role)))) =
    r'.scopes.map fun s => (s.kind,
      s.bindings.map fun b => (b.name, b.kind, b.occurrences.map (·.role)))
  calls : r.calls.map (fun c => (c.name, c.kind, c.keywords.map (·.name), c.positional, c.scope)) =
    r'.calls.map fun c => (c.name, c.kind, c.keywords.map (·.name), c.positional, c.scope)

namespace Transcription

/-- All texts as they are, and all places forgotten. -/
def placeless : Transcription where
  text := id
  span := fun _ => ⟨0, 0, 0⟩
  info := id
  lower_text _ := rfl
  text_colons _ _ := rfl
  beq_text _ _ := rfl
  span_span _ := rfl
  span_zero := rfl
  span_through _ _ := rfl
  info_quoted _ _ _ := rfl

theorem map_placeless_of_written_eq {ss ss' : List Statement}
    (h : Statement.written ss = Statement.written ss') :
    ss.map (List.map placeless.token) = ss'.map (List.map placeless.token) := by
  have hplaced := congrArg (List.map (List.map fun x : TokenKind × Text =>
    (⟨x.1, x.2, ⟨0, 0, 0⟩, ⟨0, 0, 0⟩⟩ : Token))) h
  simp only [Statement.written, List.map_map, Function.comp_def] at hplaced
  exact hplaced

theorem placeless_bindingKind (kind : BindingKind) : placeless.bindingKind kind = kind := by
  cases kind <;> rfl

/-- Records that are equal without places are the same up to places. -/
theorem sameUpToPlaces_of_placeless_eq {r r' : Record}
    (h : placeless.record r = placeless.record r') : r.SameUpToPlaces r' where
  routines := by
    refine map_view_eq_of_map_eq (fun x => ?_) (congrArg Record.routines h)
    simp only [routine, signature, List.map_map, Function.comp_def]
    rfl
  scopes := by
    refine map_view_eq_of_map_eq (fun s => ?_) (congrArg Record.scopes h)
    simp only [scope, binding, placeless_bindingKind, List.map_map, Function.comp_def]
    rfl
  calls := by
    refine map_view_eq_of_map_eq (fun c => ?_) (congrArg Record.calls h)
    simp only [callSite, List.map_map, Function.comp_def]
    rfl

end Transcription

namespace Record

theorem SameUpToPlaces.movedTo {r r' : Record} (h : r.SameUpToPlaces r') (file : Path) :
    r.SameUpToPlaces (r'.movedTo file) :=
  { h with
    routines := by
      rw [h.routines, Record.movedTo, List.map_map]
      rfl }

/-- Layout does not matter. Two streams of tokens whose statements say the same, whatever path each
is read under, have the same structure up to places, and the same problems are found in both. -/
theorem layout_independent (file file' : Path) {ts us : List Token}
    (hsame : Statement.written (Statement.split ts) = Statement.written (Statement.split us)) :
    (Record.ofTokens file ts).1.SameUpToPlaces (Record.ofTokens file' us).1 ∧
      (Record.ofTokens file ts).2.map (fun p => (p.code, p.info)) =
        (Record.ofTokens file' us).2.map fun p => (p.code, p.info) := by
  have ht := Outline.transcribed_ofStatements .placeless file (Statement.split ts)
  have hu := Outline.transcribed_ofStatements .placeless file (Statement.split us)
  rw [← Transcription.map_placeless_of_written_eq hsame] at hu
  simp only [ofTokens, Outline.ofStatements_eq_movedTo file' file (Statement.split us)]
  constructor
  · have hrecord := Transcription.sameUpToPlaces_of_placeless_eq (ht.record.symm.trans hu.record)
    exact hrecord.movedTo file'
  · exact map_view_eq_of_map_eq (fun p => by rfl) (ht.problems.symm.trans hu.problems)

/-- A head and a call that are continued, with remarks and a blank line between, against two
statements on one line; the repeated parameter and the missing `end` are found in both. -/
theorem layout_independent_continued :
    let t : Text := "pro foo, x, $ ; head\n  key=X\n\n  y = x & bar, y, /z".toList
    let u : Text := "pro foo, x, key=X\n; body\ny = x\nbar, $\n\n  y, /z".toList
    let ts := (TokenStream.ofLines t.sourceLines).tokens
    let us := (TokenStream.ofLines u.sourceLines).tokens
    let a := Record.ofTokens (.ofText ['a']) ts
    let b := Record.ofTokens (.ofText ['b']) us
    Statement.written (Statement.split ts) = Statement.written (Statement.split us) ∧
      Statement.split ts ≠ Statement.split us ∧ a.2.length = 2 ∧ a.1.calls.length = 1 ∧
      a.1.SameUpToPlaces b.1 ∧
      a.2.map (fun p => (p.code, p.info)) = b.2.map fun p => (p.code, p.info) := by
  intro t u ts us a b
  obtain ⟨hsame, hsplit, hproblems, hcalls⟩ :
      Statement.written (Statement.split ts) = Statement.written (Statement.split us) ∧
        Statement.split ts ≠ Statement.split us ∧ a.2.length = 2 ∧ a.1.calls.length = 1 := by
    decide +kernel
  exact ⟨hsame, hsplit, hproblems, hcalls, layout_independent _ _ hsame⟩

end Record

end RoutineAtlas
