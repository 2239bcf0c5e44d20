import RoutineAtlas.Proofs.Stored
import RoutineAtlas.Proofs.Tiling
import RoutineAtlas.Query.SemanticToken

/-!
# Semantic tokens can be read back

An editor is sent the tokens of a file as numbers, each token by its place relative to the one
before. The differences are taken without a look at their sign, so everything rests on the order of
the tokens. The scanner gives them in order and apart from each other; classifying leaves some of
them out and keeps the places of the others. Hence no difference is negative, and adding the numbers
up again gives every place back.

## Main definitions

* `SemanticToken.InOrder` — tokens with characters of their own, one after the other.
* `SemanticToken.encodeFrom?` — the encoding by differences that must not be negative.
* `SemanticToken.decode` — the tokens that some numbers stand for.
* `Session.semantic_tokens_decodable` — what is sent of a file stands for its tokens.
-/

namespace RoutineAtlas

namespace SemanticToken

/-- Every token has characters, and each starts where those before it have ended, or later. -/
structure InOrder (ts : List SemanticToken) : Prop where
  nonempty : ∀ t ∈ ts, 0 < t.span.length
  increasing : ts.Pairwise fun t u => t.span.startCursor.lt u.span.startCursor = true
  /-- A token ends before a later one of its line starts. -/
  apart : ts.Pairwise fun t u => t.span.line = u.span.line → t.span.endColumn ≤ u.span.column

/-! ## Classifying -/

theorem span_ofToken? {marks : List Mark} {blocks : List DocBlock} {t : Token} {u : SemanticToken}
    (h : ofToken? marks blocks t = some u) : u.span = t.start := by
  unfold ofToken? at h
  split at h
  · rw [← Option.some.inj h]
  · cases hlexical : lexical? t with
    | none => simp [hlexical] at h
    | some meaning =>
      rw [hlexical] at h
      rw [← Option.some.inj h]

/-- Classifying keeps the order of the tokens, whatever their marks. -/
theorem inOrder_classify {a : Analysis} (h : a.tokens.Pairwise Token.Before) :
    InOrder (classify a) := by
  have hnonempty : ∀ u ∈ classify a, 0 < u.span.length := by
    intro u hu
    obtain ⟨t, ht, hu⟩ := List.mem_filterMap.1 hu
    rw [span_ofToken? hu]
    exact of_decide_eq_true (List.mem_filter.1 ht).2
  have hbefore : (classify a).Pairwise fun t u => t.span.line < u.span.line ∨
      (t.span.line = u.span.line ∧ t.span.endColumn ≤ u.span.column) := by
    refine List.pairwise_filterMap.2 ((h.filter _).imp fun hbefore u hu v hv => ?_)
    rw [span_ofToken? hu, span_ofToken? hv]
    exact hbefore
  refine ⟨hnonempty, ?_, hbefore.imp ?_⟩
  · refine hbefore.imp_of_mem fun {t u} ht _ htu => Cursor.lt_iff.2 ?_
    have hlength := hnonempty t ht
    simp only [Span.endColumn] at htu
    simp only [Span.startCursor]
    omega
  · rintro t u (hline | ⟨-, hcolumn⟩) hsame
    · omega
    · exact hcolumn

/-! ## Differences -/

/-- The difference of two numbers, if it is not negative. -/
def difference? (a b : Nat) : Option Nat :=
  if b ≤ a then some (a - b) else none

/-- The tokens relative to each other, the first of them relative to `line` and `column`; nothing if
a difference would be negative. -/
def encodeFrom? (line column : Nat) : List SemanticToken → Option (List Delta)
  | [] => some []
  | t :: rest =>
    (difference? t.span.line line).bind fun deltaLine =>
      (if deltaLine = 0 then difference? t.span.column column else some t.span.column).bind
        fun start => (encodeFrom? t.span.line t.span.column rest).map
          (⟨deltaLine, start, t.span.length, SemanticToken.classIndex t.meaning,
            t.modifiers.bits⟩ :: ·)

/-- A token by its own place. -/
structure Absolute where
  span : Span
  classIndex : Nat
  modifierBits : Nat
deriving DecidableEq, Repr

/-- What an editor is told of a token. -/
def absolute (t : SemanticToken) : Absolute :=
  ⟨t.span, SemanticToken.classIndex t.meaning, t.modifiers.bits⟩

/-- The tokens that some numbers stand for, the first of them relative to `line` and `column`. Five
numbers make a token. -/
def decodeFrom (line column : Nat) : List Nat → List Absolute
  | deltaLine :: deltaStart :: length :: classIndex :: modifierBits :: rest =>
    let start := if deltaLine = 0 then column + deltaStart else deltaStart
    ⟨⟨line + deltaLine, start, length⟩, classIndex, modifierBits⟩ ::
      decodeFrom (line + deltaLine) start rest
  | _ => []

/-- The tokens that some numbers stand for. -/
def decode (numbers : List Nat) : List Absolute :=
  decodeFrom 0 0 numbers

/-- The token does not start before the place. -/
def StartsFrom (line column : Nat) (t : SemanticToken) : Prop :=
  line < t.span.line ∨ (line = t.span.line ∧ column ≤ t.span.column)

/-- What follows a token in order starts from that token on. -/
theorem InOrder.of_cons {t : SemanticToken} {rest : List SemanticToken}
    (h : InOrder (t :: rest)) :
    InOrder rest ∧ ∀ u ∈ rest, StartsFrom t.span.line t.span.column u := by
  obtain ⟨hfirst, hincreasing⟩ := List.pairwise_cons.1 h.increasing
  refine ⟨⟨(List.forall_mem_cons.1 h.nonempty).2, hincreasing, (List.pairwise_cons.1 h.apart).2⟩,
    fun u hu => ?_⟩
  exact (Cursor.lt_iff.1 (hfirst u hu)).imp_right fun hcolumn => ⟨hcolumn.1, Nat.le_of_lt hcolumn.2⟩

theorem encodeFrom?_eq {line column : Nat} {ts : List SemanticToken} (h : InOrder ts)
    (hfrom : ∀ t ∈ ts, StartsFrom line column t) :
    encodeFrom? line column ts = some (encodeFrom line column ts) := by
  induction ts generalizing line column with
  | nil => rfl
  | cons t rest ih =>
    obtain ⟨hrest, hlater⟩ := h.of_cons
    have hstart : (if t.span.line - line = 0 then difference? t.span.column column
        else some t.span.column) =
          some (if t.span.line - line = 0 then t.span.column - column else t.span.column) := by
      split
      · rename_i hsame
        rcases hfrom t List.mem_cons_self with hline | ⟨-, hcolumn⟩
        · omega
        · rw [difference?, if_pos hcolumn]
      · rfl
    have hline : line ≤ t.span.line := by
      rcases hfrom t List.mem_cons_self with hline | ⟨hline, -⟩ <;> omega
    rw [encodeFrom?, difference?, if_pos hline, Option.bind_some, hstart, Option.bind_some,
      ih hrest hlater]
    rfl

theorem decodeFrom_encodeFrom {line column : Nat} {ts : List SemanticToken} (h : InOrder ts)
    (hfrom : ∀ t ∈ ts, StartsFrom line column t) :
    decodeFrom line column ((encodeFrom line column ts).flatMap Delta.numbers) =
      ts.map absolute := by
  induction ts generalizing line column with
  | nil => rfl
  | cons t rest ih =>
    obtain ⟨hrest, hlater⟩ := h.of_cons
    obtain ⟨hline, hstart⟩ : line + (t.span.line - line) = t.span.line ∧
        (if t.span.line - line = 0 then
          column + (if t.span.line - line = 0 then t.span.column - column else t.span.column)
        else if t.span.line - line = 0 then t.span.column - column else t.span.column) =
          t.span.column := by
      rcases hfrom t List.mem_cons_self with hline | ⟨rfl, hcolumn⟩
      · rw [if_neg (by omega), if_neg (by omega)]
        exact ⟨by omega, rfl⟩
      · rw [if_pos (by omega), if_pos (by omega)]
        omega
    simp only [encodeFrom, List.flatMap_cons, Delta.numbers, List.cons_append, List.nil_append,
      decodeFrom, hline, hstart, ih hrest hlater, List.map_cons]
    rfl

end SemanticToken

/-! ## Files -/

theorem FileEntry.IsReading.pairwise_before {e : FileEntry} (h : e.IsReading) :
    e.analysis.tokens.Pairwise Token.Before := by
  obtain ⟨text, problems, heq⟩ := h
  rw [heq]
  exact pairwise_before_tokensFrom 0 text.sourceLines

namespace Session

open SemanticToken

/-- After every run that commits only what was analysed for a submission: the semantic tokens of a
file stand in order and apart from each other. So no difference of their encoding is negative, and
the numbers that are sent stand for these tokens, each with its place, its class and its
modifiers. -/
theorem semantic_tokens_decodable (patterns : List Text) (steps : List Step)
    (hsteps : (start patterns).Obeys Submission.Own steps) :
    ∀ p e, ((start patterns).run steps).workspace.file? p = some e →
      InOrder (classify e.analysis) ∧
      encodeFrom? 0 0 (classify e.analysis) = some (encode (classify e.analysis)) ∧
      decode ((encode (classify e.analysis)).flatMap Delta.numbers) =
        (classify e.analysis).map absolute := by
  intro p e he
  have hreading := (storesReadings_run patterns hsteps).readings p e he
  have hinOrder := inOrder_classify hreading.pairwise_before
  have hfrom : ∀ t ∈ classify e.analysis, StartsFrom 0 0 t := by
    intro t _
    rcases Nat.eq_zero_or_pos t.span.line with hline | hline
    · exact .inr ⟨hline.symm, Nat.zero_le _⟩
    · exact .inl hline
  exact ⟨hinOrder, encodeFrom?_eq hinOrder hfrom, decodeFrom_encodeFrom hinOrder hfrom⟩

/-- A head with a remark, and after a blank line a call. Commas are left out, the parameter is
declared first and then used, and the end of the documentation block is at column 0 like its
beginning. -/
theorem semantic_tokens_decodable_call :
    let p := Path.ofString "/a.pro"
    let text := ";+\n;-\npro p, x ; c\n\n  q, x\nend\n".toList
    let w := ((start []).run [.index p text true]).workspace
    let numbers := [0, 0, 2, 8, 4, 1, 0, 2, 8, 4, 1, 0, 3, 0, 0, 0, 4, 1, 1, 1, 0, 3, 1, 4, 1,
      0, 2, 3, 8, 0, 2, 2, 1, 1, 0, 0, 3, 1, 4, 0, 1, 0, 3, 0, 0]
    ∃ e, w.file? p = some e ∧ (encode (classify e.analysis)).flatMap Delta.numbers = numbers ∧
      InOrder (classify e.analysis) ∧ (encodeFrom? 0 0 (classify e.analysis)).isSome ∧
      (classify e.analysis).map absolute =
        [⟨⟨0, 0, 2⟩, 8, 4⟩, ⟨⟨1, 0, 2⟩, 8, 4⟩, ⟨⟨2, 0, 3⟩, 0, 0⟩, ⟨⟨2, 4, 1⟩, 1, 1⟩,
          ⟨⟨2, 7, 1⟩, 4, 1⟩, ⟨⟨2, 9, 3⟩, 8, 0⟩, ⟨⟨4, 2, 1⟩, 1, 0⟩, ⟨⟨4, 5, 1⟩, 4, 0⟩,
          ⟨⟨5, 0, 3⟩, 0, 0⟩] := by
  intro p text w numbers
  have hfile : w.file? p = some ⟨p, 1, w.preview p text true⟩ := by decide +kernel
  have hnumbers : (encode (classify (w.preview p text true))).flatMap Delta.numbers = numbers := by
    decide +kernel
  obtain ⟨hinOrder, hencode, hdecode⟩ :=
    semantic_tokens_decodable [] [.index p text true] ⟨trivial, trivial⟩ p _ hfile
  refine ⟨_, hfile, hnumbers, hinOrder, by rw [hencode]; rfl, hdecode.symm.trans ?_⟩
  rw [hnumbers]
  rfl

end Session

end RoutineAtlas
