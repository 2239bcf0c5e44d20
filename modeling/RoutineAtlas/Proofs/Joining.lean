import RoutineAtlas.Proofs.Sequence

/-!
# Where statements go on

The tokens of a file fall into statements: each token that is neither a comment nor a continuation
nor an `&` belongs to one, and the statements take them in order. Whether two such tokens that
follow each other belong together is decided by what stands between them. An `&` parts them. On one
line they are together otherwise, and so they are if the line of the first is continued.

The splitter remembers a continuation until the next token of a statement, and does not ask on which
line it stands. So two lines are also joined by a `$` that stands at the start of the second, or
alone on a line between them.

## Main definitions

* `Token.Neighbours` — two tokens of statements with nothing of a statement between them.
* `ContinuedLine` — a line that ends with a continuation, comments aside.
* `Statement.split_follows_lines` — which tokens are in one statement.
-/

namespace RoutineAtlas

/-- The first and the last token are parts of statements, and none of those between them is. -/
structure Token.Neighbours (tokens : List Token) (t : Token) (between : List Token) (u : Token) :
    Prop where
  left : t.isContent = true
  right : u.isContent = true
  passed : ∀ x ∈ between, x.isContent = false
  adjacent : ∃ before after, tokens = before ++ t :: (between ++ u :: after)

/-- The last token on line number `n` that is no comment is a continuation. -/
def ContinuedLine (tokens : List Token) (n : Nat) : Prop :=
  ∃ x, (tokens.filter fun x => x.start.line == n && !x.kind.isComment).getLast? = some x ∧
    x.kind = .continuation

/-- The numbers that the tokens of a statement have among those of the file. -/
def Statement.positions (tokens : List Token) (s : Statement) : List Nat :=
  s.map tokens.idxOf

namespace Statement

variable {current : Statement} {continued : Bool} {lastLine : Option Nat} {t u : Token}
  {between : List Token}

/-! ## Reading on -/

theorem splitFrom_content (ht : t.isContent = true) (rest : List Token) :
    splitFrom current continued lastLine (t :: rest) =
      if lastLine.any (· != t.start.line) && !continued then
        collected current ++ splitFrom [t] false (some t.start.line) rest
      else splitFrom (current ++ [t]) false (some t.start.line) rest := by
  simp only [Token.isContent, Bool.and_eq_true, Bool.not_eq_true', bne_iff_ne] at ht
  rw [splitFrom]
  cases lastLine.any (· != t.start.line) && !continued <;> simp [ht]

theorem splitFrom_ampersand (ht : t.kind = .ampersand) (rest : List Token) :
    splitFrom current continued lastLine (t :: rest) =
      collected current ++ splitFrom [] false (some t.start.line) rest := by
  rw [splitFrom]
  cases lastLine.any (· != t.start.line) && !continued <;>
    simp [ht, TokenKind.isComment, collected]

/-- A token that is no part of a statement is an `&`, or it is passed over. -/
theorem splitFrom_passed (ht : t.isContent = false) (hand : t.kind ≠ .ampersand)
    (rest : List Token) : splitFrom current continued lastLine (t :: rest) =
      splitFrom current (continued || t.kind == .continuation) lastLine rest := by
  have hkind : t.kind.isComment = true ∨ t.kind = .continuation := by
    simpa [Token.isContent, hand, Decidable.or_iff_not_imp_left] using ht
  rw [splitFrom]
  rcases hkind with hcomment | hcontinuation
  · have hother : (t.kind == .continuation) = false := by
      cases hkind : t.kind <;> simp_all [TokenKind.isComment]
    simp [hcomment, hother]
  · simp [hcontinuation, TokenKind.isComment]

/-- Whatever has been read, the splitter goes on from some state. -/
theorem exists_splitFrom_append (before : List Token) (current : Statement) (continued : Bool)
    (lastLine : Option Nat) : ∃ done current' continued' lastLine', ∀ rest,
      splitFrom current continued lastLine (before ++ rest) =
        done ++ splitFrom current' continued' lastLine' rest := by
  induction before generalizing current continued lastLine with
  | nil => exact ⟨[], current, continued, lastLine, fun rest => rfl⟩
  | cons x before ih =>
    by_cases hcontent : x.isContent = true
    · by_cases hbroken : (lastLine.any (· != x.start.line) && !continued) = true
      · obtain ⟨done, current', continued', lastLine', hrest⟩ := ih [x] false (some x.start.line)
        refine ⟨collected current ++ done, current', continued', lastLine', fun rest => ?_⟩
        rw [List.cons_append, splitFrom_content hcontent, if_pos hbroken, hrest,
          List.append_assoc]
      · obtain ⟨done, current', continued', lastLine', hrest⟩ :=
          ih (current ++ [x]) false (some x.start.line)
        refine ⟨done, current', continued', lastLine', fun rest => ?_⟩
        rw [List.cons_append, splitFrom_content hcontent, if_neg hbroken, hrest]
    · by_cases hand : x.kind = .ampersand
      · obtain ⟨done, current', continued', lastLine', hrest⟩ := ih [] false (some x.start.line)
        refine ⟨collected current ++ done, current', continued', lastLine', fun rest => ?_⟩
        rw [List.cons_append, splitFrom_ampersand hand, hrest, List.append_assoc]
      · obtain ⟨done, current', continued', lastLine', hrest⟩ :=
          ih current (continued || x.kind == .continuation) lastLine
        refine ⟨done, current', continued', lastLine', fun rest => ?_⟩
        rw [List.cons_append, splitFrom_passed (by simpa using hcontent) hand, hrest]

/-- A token is put to what has been collected, or what has been collected is complete. -/
theorem exists_splitFrom_content (current : Statement) (continued : Bool) (lastLine : Option Nat)
    (n : Nat) : ∃ done kept, ∀ t : Token, t.isContent = true → t.start.line = n → ∀ rest,
      splitFrom current continued lastLine (t :: rest) =
        done ++ splitFrom (kept ++ [t]) false (some n) rest := by
  by_cases hbroken : (lastLine.any (· != n) && !continued) = true
  · refine ⟨collected current, [], fun t ht hline rest => ?_⟩
    rw [splitFrom_content ht, hline, if_pos hbroken, List.nil_append]
  · refine ⟨[], current, fun t ht hline rest => ?_⟩
    rw [splitFrom_content ht, hline, if_neg hbroken, List.nil_append]

/-- What has been collected begins the first statement that comes. -/
theorem exists_splitFrom_eq_cons (continued : Bool) (lastLine : Option Nat) (rest : List Token) :
    ∃ more later, ∀ current : Statement, current ≠ [] →
      splitFrom current continued lastLine rest = (current ++ more) :: later := by
  have hcollected (current : Statement) (hcurrent : current ≠ []) :
      collected current = [current] := by simp [collected, hcurrent]
  induction rest generalizing continued lastLine with
  | nil =>
    refine ⟨[], [], fun current hcurrent => ?_⟩
    rw [splitFrom, hcollected current hcurrent, List.append_nil]
  | cons x rest ih =>
    by_cases hcontent : x.isContent = true
    · by_cases hbroken : (lastLine.any (· != x.start.line) && !continued) = true
      · refine ⟨[], splitFrom [x] false (some x.start.line) rest, fun current hcurrent => ?_⟩
        rw [splitFrom_content hcontent, if_pos hbroken, hcollected current hcurrent,
          List.append_nil]
        rfl
      · obtain ⟨more, later, hmore⟩ := ih false (some x.start.line)
        refine ⟨x :: more, later, fun current _ => ?_⟩
        rw [splitFrom_content hcontent, if_neg hbroken, hmore _ (by simp), List.append_assoc]
        rfl
    · by_cases hand : x.kind = .ampersand
      · refine ⟨[], splitFrom [] false (some x.start.line) rest, fun current hcurrent => ?_⟩
        rw [splitFrom_ampersand hand, hcollected current hcurrent, List.append_nil]
        rfl
      · obtain ⟨more, later, hmore⟩ := ih (continued || x.kind == .continuation) lastLine
        refine ⟨more, later, fun current hcurrent => ?_⟩
        rw [splitFrom_passed (by simpa using hcontent) hand, hmore current hcurrent]

/-- Of a token of a statement, nothing but its line matters to where statements begin and end. -/
theorem exists_split_append (before after : List Token) (n : Nat) :
    ∃ earlier kept more later, ∀ t : Token, t.isContent = true → t.start.line = n →
      split (before ++ t :: after) = earlier ++ (kept ++ t :: more) :: later := by
  obtain ⟨done, current, continued, lastLine, hbefore⟩ :=
    exists_splitFrom_append before [] false none
  obtain ⟨done', kept, hcontent⟩ := exists_splitFrom_content current continued lastLine n
  obtain ⟨more, later, hafter⟩ := exists_splitFrom_eq_cons false (some n) after
  refine ⟨done ++ done', kept, more, later, fun t ht hline => ?_⟩
  rw [split, hbefore, hcontent t ht hline, hafter _ (by simp)]
  simp only [List.append_assoc, List.cons_append, List.nil_append]

/-! ## Between two tokens -/

/-- Without an `&`, all that counts is whether a continuation was among the tokens. -/
theorem splitFrom_passedAll (h : ∀ x ∈ between, x.isContent = false)
    (hand : ∀ x ∈ between, x.kind ≠ .ampersand) (rest : List Token) :
    splitFrom current continued lastLine (between ++ rest) =
      splitFrom current (continued || between.any (·.kind == .continuation)) lastLine rest := by
  induction between generalizing continued with
  | nil => simp
  | cons x between ih =>
    obtain ⟨hx, h⟩ := List.forall_mem_cons.1 h
    obtain ⟨hxand, hand⟩ := List.forall_mem_cons.1 hand
    rw [List.cons_append, splitFrom_passed hx hxand, ih h hand, List.any_cons, Bool.or_assoc]

/-- While nothing has been collected, tokens that are no parts of statements complete nothing. -/
theorem exists_splitFrom_idle (h : ∀ x ∈ between, x.isContent = false) (continued : Bool)
    (lastLine : Option Nat) (rest : List Token) : ∃ continued' lastLine',
      splitFrom [] continued lastLine (between ++ rest) =
        splitFrom [] continued' lastLine' rest := by
  induction between generalizing continued lastLine with
  | nil => exact ⟨continued, lastLine, rfl⟩
  | cons x between ih =>
    obtain ⟨hx, h⟩ := List.forall_mem_cons.1 h
    rw [List.cons_append]
    by_cases hand : x.kind = .ampersand
    · rw [splitFrom_ampersand hand]
      exact ih h _ _
    · rw [splitFrom_passed hx hand]
      exact ih h _ _

/-- An `&` completes what has been collected. -/
theorem exists_splitFrom_parted (current : Statement) (continued : Bool) (lastLine : Option Nat)
    (h : ∀ x ∈ between, x.isContent = false) (hand : ∃ x ∈ between, x.kind = .ampersand)
    (rest : List Token) : ∃ continued' lastLine',
      splitFrom current continued lastLine (between ++ rest) =
        collected current ++ splitFrom [] continued' lastLine' rest := by
  induction between generalizing continued with
  | nil => simp at hand
  | cons x between ih =>
    obtain ⟨hx, h⟩ := List.forall_mem_cons.1 h
    rw [List.cons_append]
    by_cases hxand : x.kind = .ampersand
    · obtain ⟨continued', lastLine', heq⟩ :=
        exists_splitFrom_idle h false (some x.start.line) rest
      exact ⟨continued', lastLine', by rw [splitFrom_ampersand hxand, heq]⟩
    · rw [splitFrom_passed hx hxand]
      refine ih _ h ?_
      obtain ⟨y, hy, hyand⟩ := hand
      rcases List.mem_cons.1 hy with rfl | hy
      · exact absurd hyand hxand
      · exact ⟨y, hy, hyand⟩

/-- No `&` is among the tokens between, and the two lines are one or a continuation is. -/
def Joins (t : Token) (between : List Token) (u : Token) : Prop :=
  (∀ x ∈ between, x.kind ≠ .ampersand) ∧
    (t.start.line = u.start.line ∨ ∃ x ∈ between, x.kind = .continuation)

/-- After a token, the next one is put to it or begins a statement of its own. -/
theorem splitFrom_neighbours (hu : u.isContent = true) (h : ∀ x ∈ between, x.isContent = false)
    (kept : Statement) (after : List Token) :
    (Joins t between u → splitFrom (kept ++ [t]) false (some t.start.line)
        (between ++ u :: after) =
      splitFrom (kept ++ [t] ++ [u]) false (some u.start.line) after) ∧
    (¬Joins t between u → splitFrom (kept ++ [t]) false (some t.start.line)
        (between ++ u :: after) =
      (kept ++ [t]) :: splitFrom [u] false (some u.start.line) after) := by
  have hcollected : collected (kept ++ [t]) = [kept ++ [t]] := by simp [collected]
  by_cases hand : ∀ x ∈ between, x.kind ≠ .ampersand
  · rw [splitFrom_passedAll h hand, splitFrom_content hu]
    have hbroken : ((some t.start.line).any (· != u.start.line) &&
        !(false || between.any (·.kind == .continuation))) = true ↔ ¬Joins t between u := by
      rw [Joins, and_iff_right hand]
      simp
    constructor
    · intro hjoins
      rw [if_neg (fun hb => hbroken.1 hb hjoins)]
    · intro hparts
      rw [if_pos (hbroken.2 hparts), hcollected]
      rfl
  · have hparts : ¬Joins t between u := fun hjoins => hand hjoins.1
    refine ⟨fun hjoins => absurd hjoins hparts, fun _ => ?_⟩
    obtain ⟨continued', lastLine', heq⟩ := exists_splitFrom_parted (kept ++ [t]) false
      (some t.start.line) h (by simpa using hand) (u :: after)
    rw [heq, splitFrom_content hu, hcollected]
    split <;> rfl

end Statement

namespace Token.Neighbours

open Statement

variable {tokens between : List Token} {t u : Token}

/-- Two neighbours are in one statement exactly if what stands between them joins them. -/
theorem exists_statement_iff (h : Neighbours tokens t between u) (hlaid : Token.Laid tokens) :
    (∃ s ∈ split tokens, t ∈ s ∧ u ∈ s) ↔ Joins t between u := by
  obtain ⟨before, after, heq⟩ := h.adjacent
  obtain ⟨done, current, continued, lastLine, hbefore⟩ :=
    exists_splitFrom_append before [] false none
  obtain ⟨done', kept, hcontent⟩ :=
    exists_splitFrom_content current continued lastLine t.start.line
  have hsplit : split tokens = done ++ done' ++
      splitFrom (kept ++ [t]) false (some t.start.line) (between ++ u :: after) := by
    rw [split, heq, hbefore, hcontent t h.left rfl, List.append_assoc]
  obtain ⟨hjoined, hparted⟩ := splitFrom_neighbours h.right h.passed kept after
  obtain ⟨more, later, hmore⟩ := exists_splitFrom_eq_cons false (some u.start.line) after
  constructor
  · rintro ⟨s, hs, hts, hus⟩
    by_contra hparts
    rw [hparted hparts, hmore _ (by simp)] at hsplit
    -- `t` is in the statement before that of `u`, and a token is in one statement only
    have hs' : s = kept ++ [t] :=
      eq_of_mem_of_mem hlaid hs (by simp [hsplit]) hts (by simp)
    have hdisjoint := (List.nodup_flatten.1 (nodup_flatten_split hlaid)).2
    rw [hsplit, List.pairwise_append] at hdisjoint
    have hu := List.rel_of_pairwise_cons hdisjoint.2.1 List.mem_cons_self
    exact hu (hs' ▸ hus) (by simp)
  · intro hjoins
    rw [hjoined hjoins, hmore _ (by simp)] at hsplit
    exact ⟨kept ++ [t] ++ [u] ++ more, by simp [hsplit], by simp, by simp⟩

theorem line_le (h : Neighbours tokens t between u) (hbefore : tokens.Pairwise Token.Before)
    {x : Token} (hx : x ∈ between) : t.start.line ≤ x.start.line := by
  obtain ⟨before, after, rfl⟩ := h.adjacent
  have hordered := (List.pairwise_append.1 hbefore).2.1
  exact (List.rel_of_pairwise_cons hordered (List.mem_append_left _ hx)).line_le

/-- The line of the first of two neighbours on different lines is continued if a continuation
follows on it. -/
theorem continuedLine_iff (h : Neighbours tokens t between u)
    (hbefore : tokens.Pairwise Token.Before) (hand : ∀ x ∈ between, x.kind ≠ .ampersand)
    (hlines : t.start.line ≠ u.start.line) : ContinuedLine tokens t.start.line ↔
      ∃ x ∈ between, x.kind = .continuation ∧ x.start.line = t.start.line := by
  obtain ⟨before, after, rfl⟩ := h.adjacent
  have hleft := h.left
  simp only [Token.isContent, Bool.and_eq_true, Bool.not_eq_true', bne_iff_ne] at hleft
  have hordered := (List.pairwise_append.1 hbefore).2.1
  have hlater : (u :: after).filter
      (fun x => x.start.line == t.start.line && !x.kind.isComment) = [] := by
    rw [List.filter_eq_nil_iff]
    intro x hx
    have hu := (List.rel_of_pairwise_cons hordered
      (List.mem_append_right between List.mem_cons_self)).line_le
    have hux : u.start.line ≤ x.start.line := by
      rcases List.mem_cons.1 hx with rfl | hx
      · exact Nat.le_refl _
      · have hrest := (List.pairwise_append.1 (List.pairwise_cons.1 hordered).2).2.1
        exact (List.rel_of_pairwise_cons hrest hx).line_le
    have hx : x.start.line ≠ t.start.line := by omega
    simp [hx]
  -- what is left of the line after `t` are its continuations
  have hkind : ∀ x ∈ between, x.kind.isComment = false ↔ x.kind = .continuation := by
    intro x hx
    have hcontent := h.passed x hx
    have hxand := hand x hx
    cases hk : x.kind <;> simp_all [Token.isContent, TokenKind.isComment]
  rw [ContinuedLine, List.filter_append, List.filter_cons_of_pos (by simp [hleft.1.1]),
    List.filter_append, hlater, List.append_nil]
  generalize hends : between.filter
    (fun x => x.start.line == t.start.line && !x.kind.isComment) = ends
  have hmem (x : Token) : x ∈ ends ↔
      x ∈ between ∧ x.start.line = t.start.line ∧ x.kind.isComment = false := by
    simp [← hends]
  cases hlast : ends.getLast? with
  | none =>
    obtain rfl := List.getLast?_eq_none_iff.1 hlast
    constructor
    · rintro ⟨x, hx, hcontinuation⟩
      obtain rfl : t = x := by simpa using hx
      exact absurd hcontinuation hleft.1.2
    · rintro ⟨x, hx, hcontinuation, hline⟩
      exact absurd ((hmem x).2 ⟨hx, hline, (hkind x hx).2 hcontinuation⟩) (by simp)
  | some last =>
    obtain ⟨hbetween, hline, hcomment⟩ := (hmem last).1 (List.mem_of_getLast? hlast)
    have hcontinuation := (hkind last hbetween).1 hcomment
    refine ⟨fun _ => ⟨last, hbetween, hcontinuation, hline⟩, fun _ => ⟨last, ?_, hcontinuation⟩⟩
    rw [List.getLast?_append, List.getLast?_cons, hlast]
    rfl

end Token.Neighbours

/-- The numbers of chosen elements, each of which stands in one place only. -/
theorem map_idxOf_filter {α : Type} [DecidableEq α] {l : List α} (h : l.Nodup) (p : α → Bool) :
    (l.filter p).map l.idxOf = (List.range l.length).filter fun i => l[i]?.any p := by
  have hindex (i : Fin l.length) : l.idxOf (l.get i) = i := h.idxOf_getElem i.1 i.2
  calc (l.filter p).map l.idxOf
      = (((List.finRange l.length).map l.get).filter p).map l.idxOf := by
        rw [List.map_get_finRange]
    _ = ((List.finRange l.length).filter (p ∘ l.get)).map Fin.val := by
        rw [List.filter_map, List.map_map]
        exact List.map_congr_left fun i _ => hindex i
    _ = ((List.finRange l.length).map Fin.val).filter fun i => l[i]?.any p := by
        rw [List.filter_map]
        exact congrArg (List.map Fin.val) (List.filter_congr fun i _ => by simp)
    _ = (List.range l.length).filter fun i => l[i]?.any p := by
        rw [List.map_coe_finRange_eq_range]

namespace Statement

/-- Statements follow line ends, continuations and `&`. They take all tokens but comments,
continuations and `&` in order, none of them is empty, and two tokens that follow each other are in
one statement exactly if no `&` stands between them and they are on one line, or the line of the
first is continued, or a continuation stands between them on a later line. -/
theorem split_follows_lines (lines : List Text) :
    let tokens := (TokenStream.ofLines lines).tokens
    (∀ s ∈ split tokens, s ≠ []) ∧
      (split tokens).flatMap (positions tokens) =
        (List.range tokens.length).filter (fun i => tokens[i]?.any Token.isContent) ∧
      ∀ t between u, Token.Neighbours tokens t between u →
        ((∃ s ∈ split tokens, t ∈ s ∧ u ∈ s) ↔ (∀ x ∈ between, x.kind ≠ .ampersand) ∧
          (t.start.line = u.start.line ∨ ContinuedLine tokens t.start.line ∨
            ∃ x ∈ between, x.kind = .continuation ∧ t.start.line < x.start.line)) := by
  intro tokens
  have hlaid : Token.Laid tokens := laid_tokensFrom lines
  refine ⟨fun s hs => ne_nil_of_mem_splitFrom hs, ?_, ?_⟩
  · have hpositions : (split tokens).flatMap (positions tokens) =
        (split tokens).flatten.map tokens.idxOf := List.map_flatten.symm
    rw [hpositions, flatten_split, map_idxOf_filter hlaid.nodup]
  · intro t between u h
    rw [h.exists_statement_iff hlaid, Joins]
    refine and_congr_right fun hand => ?_
    by_cases hlines : t.start.line = u.start.line
    · simp [hlines]
    · rw [h.continuedLine_iff hlaid.before hand hlines]
      constructor
      · rintro (heq | ⟨x, hx, hcontinuation⟩)
        · exact absurd heq hlines
        · rcases Nat.lt_or_eq_of_le (h.line_le hlaid.before hx) with hlt | heq
          · exact .inr (.inr ⟨x, hx, hcontinuation, hlt⟩)
          · exact .inr (.inl ⟨x, hx, hcontinuation, heq.symm⟩)
      · rintro (heq | ⟨x, hx, hcontinuation, -⟩ | ⟨x, hx, hcontinuation, -⟩)
        · exact absurd heq hlines
        · exact .inr ⟨x, hx, hcontinuation⟩
        · exact .inr ⟨x, hx, hcontinuation⟩

/-- A continued line, an `&`, and a continuation that stands alone on a line. -/
theorem split_follows_lines_continued :
    let lines := ["f, x $ ; on", "  , y & g", "$", "h"].map Text.ofString
    let tokens := (TokenStream.ofLines lines).tokens
    let token (kind : TokenKind) (text : String) (line column : Nat) : Token :=
      .single kind (.ofString text) ⟨line, column, text.length⟩
    let x := token .identifier "x" 0 3
    let comma := token .comma "," 1 2
    let y := token .identifier "y" 1 4
    let g := token .identifier "g" 1 8
    let h := token .identifier "h" 3 0
    let going := [token .continuation "$" 0 5, token .comment "; on" 0 7]
    let parting := [token .ampersand "&" 1 6]
    let stray := [token .continuation "$" 2 0]
    (Token.Neighbours tokens x going comma ∧ ∃ s ∈ split tokens, x ∈ s ∧ comma ∈ s) ∧
      (Token.Neighbours tokens y parting g ∧ ¬∃ s ∈ split tokens, y ∈ s ∧ g ∈ s) ∧
      (Token.Neighbours tokens g stray h ∧ ∃ s ∈ split tokens, g ∈ s ∧ h ∈ s) := by
  intro lines tokens token x comma y g h going parting stray
  obtain ⟨-, -, hsame⟩ := split_follows_lines lines
  have hgoing : Token.Neighbours tokens x going comma :=
    ⟨rfl, rfl, by decide, tokens.take 2, tokens.drop 6, by decide +kernel⟩
  have hparting : Token.Neighbours tokens y parting g :=
    ⟨rfl, rfl, by decide, tokens.take 6, tokens.drop 9, by decide +kernel⟩
  have hstray : Token.Neighbours tokens g stray h :=
    ⟨rfl, rfl, by decide, tokens.take 8, tokens.drop 11, by decide +kernel⟩
  refine ⟨⟨hgoing, ?_⟩, ⟨hparting, ?_⟩, hstray, ?_⟩
  · have hcontinued : ContinuedLine tokens 0 :=
      ⟨token .continuation "$" 0 5, by decide +kernel, rfl⟩
    exact (hsame x going comma hgoing).2 ⟨by decide, .inr (.inl hcontinued)⟩
  · intro hs
    exact ((hsame y parting g hparting).1 hs).1 (token .ampersand "&" 1 6) (by decide) rfl
  · exact (hsame g stray h hstray).2
      ⟨by decide, .inr (.inr ⟨token .continuation "$" 2 0, by decide, rfl, by decide⟩)⟩

/-- Two lines are joined although the first is not continued: the `$` stands on a line of its own
between them. -/
theorem split_joins_stray_continuation :
    let tokens := (TokenStream.ofLines [['a'], ['$'], ['b']]).tokens
    let a : Token := .single .identifier ['a'] ⟨0, 0, 1⟩
    let b : Token := .single .identifier ['b'] ⟨2, 0, 1⟩
    Token.Neighbours tokens a [.single .continuation ['$'] ⟨1, 0, 1⟩] b ∧
      (∃ s ∈ split tokens, a ∈ s ∧ b ∈ s) ∧
      ¬(a.start.line = b.start.line ∨ ContinuedLine tokens a.start.line) := by
  intro tokens a b
  refine ⟨⟨rfl, rfl, by decide, [], [], by decide +kernel⟩, ⟨[a, b], by decide +kernel, ?_⟩, ?_⟩
  · simp
  · rintro (hline | ⟨x, hlast, hkind⟩)
    · exact absurd hline (by decide)
    · obtain rfl : a = x := by simpa using (by decide +kernel : some a = _).trans hlast
      cases hkind

end Statement

end RoutineAtlas
