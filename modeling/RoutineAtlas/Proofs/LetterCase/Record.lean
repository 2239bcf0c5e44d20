import RoutineAtlas.Proofs.LetterCase.Token
import RoutineAtlas.Proofs.Transcription.Record

/-!
# Records in small letters

Statements are split by the kinds and lines of tokens. To put all letters small is then one way to
write statements down again, which changes no span, so the record of small tokens is the record in
small letters. The problems agree up to case only, since a report may quote a name.

## Main definitions

* `Record.lower` — the record in small letters.
* `Transcription.small` — all letters small.
* `Record.ofTokens_lower` — the record of tokens in small letters.
-/

namespace RoutineAtlas

/-! ## Splitting -/

namespace Statement

theorem collected_lower (s : Statement) :
    collected (s.map Token.lower) = (collected s).map (List.map Token.lower) := by
  cases s <;> rfl

theorem splitFrom_lower (current : Statement) (continued : Bool) (lastLine : Option Nat)
    (ts : List Token) :
    splitFrom (current.map Token.lower) continued lastLine (ts.map Token.lower) =
      (splitFrom current continued lastLine ts).map (List.map Token.lower) := by
  fun_induction splitFrom current continued lastLine ts with
  | case1 => exact collected_lower _
  | case2 current continued lastLine t ts hcomment ih =>
    rw [List.map_cons, splitFrom, Token.kind_lower, if_pos hcomment, ih]
  | case3 current continued lastLine t ts hcomment hcontinued ih =>
    rw [List.map_cons, splitFrom, Token.kind_lower, if_neg hcomment, if_pos hcontinued, ih]
  | case4 current continued lastLine t ts hcomment hcontinued broken finished kept hsep ih =>
    rw [List.map_cons, splitFrom, Token.kind_lower, if_neg hcomment, if_neg hcontinued,
      if_pos hsep]
    have ih : splitFrom [] false (some t.start.line) (ts.map Token.lower) = _ := ih
    have hbroken : (lastLine.any (· != t.start.line) && !continued) = broken := rfl
    have hnone : collected [] = [] := rfl
    simp only [Token.start_lower, hbroken, ih, finished, kept]
    by_cases h : broken = true <;> simp [h, hnone, collected_lower]
  | case5 current continued lastLine t ts hcomment hcontinued broken finished kept hsep ih =>
    rw [List.map_cons, splitFrom, Token.kind_lower, if_neg hcomment, if_neg hcontinued,
      if_neg hsep]
    have hbroken : (lastLine.any (· != t.start.line) && !continued) = broken := rfl
    simp only [Token.start_lower, hbroken, List.map_append, ← ih, finished, kept]
    by_cases h : broken = true <;> simp [h, collected_lower]

/-- The statements of small tokens are the small statements. -/
theorem split_lower (tokens : List Token) :
    split (tokens.map Token.lower) = (split tokens).map (List.map Token.lower) :=
  splitFrom_lower [] false none tokens

end Statement

/-! ## Calls, variables and scopes -/

/-- The passed keyword in small letters. -/
def PassedKeyword.lower (k : PassedKeyword) : PassedKeyword :=
  { k with name := k.name.lower }

/-- The call in small letters. -/
def CallSite.lower (c : CallSite) : CallSite :=
  { c with name := c.name.lower, keywords := c.keywords.map PassedKeyword.lower }

/-- The kind of a variable, with its names in small letters. -/
def BindingKind.lower : BindingKind → BindingKind
  | .keyword name => .keyword name.lower
  | .common block => .common block.lower
  | kind => kind

/-- The variable in small letters; its own name is in small letters already. -/
def Binding.lower (b : Binding) : Binding :=
  { b with kind := b.kind.lower }

theorem Binding.isUsed_lower (b : Binding) : b.lower.isUsed = b.isUsed := by
  obtain ⟨name, kind, occurrences⟩ := b
  cases kind <;> rfl

/-- The scope in small letters. -/
def Scope.lower (s : Scope) : Scope :=
  { s with bindings := s.bindings.map Binding.lower }

/-! ## Routines -/

/-- The argument in small letters. -/
def Argument.lower (a : Argument) : Argument :=
  { a with name := a.name.lower }

/-- The keyword in small letters. -/
def Keyword.lower (k : Keyword) : Keyword :=
  { k with name := k.name.lower, target := k.target.lower }

/-- The signature in small letters. -/
def Signature.lower (s : Signature) : Signature :=
  { s with
    name := s.name.lower
    args := s.args.map Argument.lower
    keywords := s.keywords.map Keyword.lower }

theorem Signature.key_lower (s : Signature) : s.lower.key = s.key :=
  congrArg (RoutineKey.mk · s.kind) (Text.lower_lower s.name)

theorem isExtraKeyword_lower (name : Text) : isExtraKeyword name.lower = isExtraKeyword name := by
  rw [isExtraKeyword, Text.lower_lower, isExtraKeyword]

/-- The routine in small letters. -/
def Routine.lower (r : Routine) : Routine :=
  { r with signature := r.signature.lower }

/-- The record in small letters. -/
def Record.lower (r : Record) : Record where
  routines := r.routines.map Routine.lower
  scopes := r.scopes.map Scope.lower
  calls := r.calls.map CallSite.lower

/-! ## Small letters as a transcription -/

namespace Transcription

/-- All letters small, and everything in its place. -/
def small : Transcription where
  text := Text.lower
  span := id
  info := lowerString
  lower_text := Text.lower_lower
  text_colons s t := by simp
  beq_text := Text.beq_lower
  span_span _ := rfl
  span_zero := rfl
  span_through _ _ := rfl
  info_quoted before after t := by simp

theorem small_occurrences (os : List Occurrence) : os.map small.occurrence = os :=
  List.map_id os

theorem small_binding : small.binding = Binding.lower := by
  funext b
  rw [binding, small_occurrences]
  obtain ⟨name, kind, occurrences⟩ := b
  cases kind <;> rfl

theorem small_record (r : Record) : small.record r = r.lower := by
  have hscope : small.scope = Scope.lower := by
    funext s
    rw [scope, small_binding]
    rfl
  rw [record, hscope]
  rfl

end Transcription

/-- The record of small tokens is the record in small letters. -/
theorem Record.ofTokens_lower (file : Path) (tokens : List Token) :
    (Record.ofTokens file (tokens.map Token.lower)).1 = (Record.ofTokens file tokens).1.lower ∧
      (Record.ofTokens file (tokens.map Token.lower)).2.map Problem.lower =
        (Record.ofTokens file tokens).2.map Problem.lower := by
  have h := Outline.transcribed_ofStatements .small file (Statement.split tokens)
  simp only [ofTokens, Statement.split_lower]
  exact ⟨h.record.trans (Transcription.small_record _), h.problems⟩

end RoutineAtlas
