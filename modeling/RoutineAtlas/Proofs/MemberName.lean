import RoutineAtlas.Proofs.Joining
import RoutineAtlas.Proofs.Lines
import RoutineAtlas.Proofs.Lookahead
import RoutineAtlas.Proofs.Place

/-!
# Names of members

A word that comes right after `->` or the operator `.` is the name of a method or of a field, also
where it is reserved. Another name of the same length can be put in its place: the text is still cut
into the same tokens and the same statements, and only the one word differs. What a name can do to
the tokens before it is known from the lexemes; what it cannot do is move the tokens behind it.

## Main definitions

* `MemberName` — a word of a text that is used as the name of a member.
* `MemberName.exists_renamed` — a name in its place is the name of a member again.
* `MemberName.surroundings` — two texts that differ in such a name agree in everything else.
-/

namespace RoutineAtlas

/-- The token marks what follows it as the name of a member. -/
def Token.marksMember (t : Token) : Bool :=
  t.kind == .arrow || t.isOperator "."

theorem Token.isSign_of_marksMember {t : Token} (h : t.marksMember = true) :
    Lexeme.isSign t.kind = true := by
  rcases Bool.or_eq_true_iff.1 h with harrow | hpoint
  · rw [eq_of_beq harrow]
    rfl
  · rw [eq_of_beq (Bool.and_eq_true_iff.1 hpoint).1]
    rfl

/-- Between `before` and `after` stands a word that is used as a name: in its statement it comes
right after `->` or the operator `.`. -/
structure MemberName (before word after : Text) where
  /-- The statements before that of the word. -/
  earlier : List Statement
  statement : Statement
  later : List Statement
  place : Place
  split : Statement.split (TokenStream.ofLines (before ++ word ++ after).sourceLines).tokens =
    earlier ++ statement :: later
  inside : place.In statement
  start : place.token.start.startCursor = before.endCursor
  text : place.token.text = word
  isWord : place.token.isWord = true
  isMember : place.prevIs Token.marksMember = true

/-! ## Lines -/

namespace Lexeme

theorem singleKind_ne_arrow (c : Char) : singleKind c ≠ .arrow := by
  unfold singleKind
  split
  iterate 9 simp
  split <;> simp

theorem mark_of_arrow {c : Char} {cs : Text} (h : (mark c cs).kind = .arrow) :
    c = '-' ∧ ∃ rest, cs = '>' :: rest := by
  unfold mark at h
  split at h
  · exact absurd h (singleKind_ne_arrow c)
  · rename_i d rest
    split at h
    · rename_i kind hkind
      obtain rfl : kind = .arrow := h
      unfold pairKind at hkind
      split at hkind
      · rename_i harrow
        simp only [Bool.and_eq_true, beq_iff_eq] at harrow
        exact ⟨harrow.1, rest, by rw [harrow.2]⟩
      · split at hkind
        · cases hkind
        · split at hkind <;> cases hkind
    · exact absurd h (singleKind_ne_arrow c)

theorem read_of_arrow {leading : Bool} {c : Char} {cs : Text}
    (h : (read leading c cs).kind = .arrow) : c = '-' ∧ ∃ rest, cs = '>' :: rest := by
  have hcases : (read leading c cs).kind ≠ .arrow ∨ read leading c cs = mark c cs := by
    unfold read
    split
    · refine .inl ?_
      unfold comment
      dsimp only
      split
      · simp
      · split <;> simp
    · split
      · exact .inl (by simp [lineContinuation])
      · split
        · exact .inl (by simp)
        · split
          · refine .inl fun hkind => ?_
            have hsign := not_isSign_quoted c cs
            rw [hkind] at hsign
            cases hsign
          · split
            · exact .inl (by simp)
            · split
              · exact .inl (by simp)
              · split
                · refine .inl fun hkind => ?_
                  have hsign := not_isSign_word c cs
                  rw [hkind] at hsign
                  cases hsign
                · exact .inr rfl
  rw [hcases.resolve_left (not_not_intro h)] at h
  exact mark_of_arrow h

/-- What marks a member begins with a character that no lexeme before it takes. -/
theorem read_of_marksMember {leading : Bool} {c : Char} {cs : Text} {span : Span}
    (h : Token.marksMember (.single (read leading c cs).kind
      ((c :: cs).take (read leading c cs).length) span) = true) :
    (c = '-' ∨ c = '.') ∧ next Char.isDigit cs = false := by
  rcases Bool.or_eq_true_iff.1 h with harrow | hpoint
  · obtain ⟨rfl, rest, rfl⟩ := read_of_arrow (eq_of_beq harrow)
    exact ⟨.inl rfl, rfl⟩
  · obtain ⟨hkind, htext⟩ := Bool.and_eq_true_iff.1 hpoint
    have hkind : (read leading c cs).kind = .operator := eq_of_beq hkind
    have htext : (c :: cs).take (read leading c cs).length = ['.'] := eq_of_beq htext
    obtain ⟨n, hn⟩ := Nat.exists_eq_succ_of_ne_zero (Nat.ne_of_gt (fits_read leading c cs).pos)
    rw [hn, List.take_succ_cons] at htext
    obtain rfl := (List.cons.inj htext).1
    refine ⟨.inr rfl, ?_⟩
    by_contra hdigit
    simp [read, Bool.not_eq_false _ ▸ hdigit] at hkind

end Lexeme

section Line

variable {n : Nat} {left word word' right : Text}

theorem Lexeme.next_of_isName (h : word.isName = true) (p : Char → Bool) (right : Text) :
    Lexeme.next p (word ++ right) = Lexeme.next p word := by
  obtain ⟨c, cs, rfl, -⟩ := Text.exists_of_isName h
  rfl

theorem Lexeme.isNameStart_of_isName (h : word.isName = true) :
    Lexeme.next isNameStart word = true := by
  obtain ⟨c, cs, rfl, hc, -⟩ := Text.exists_of_isName h
  exact hc

/-- If only signs stand between the mark and the name, another name can follow the tokens before
it. The mark may also stand on an earlier line. -/
theorem scanFrom_renamed (hword : word.isName = true) (hword' : word'.isName = true)
    (hpoint : Lexeme.partsPoint word = true → Lexeme.partsPoint word' = true)
    (first : Nat) (hfirst : first = 0 ∨ ∃ s ∈ scanFrom n 0 0 true (left ++ (word ++ right)),
      s.token.marksMember = true ∧ s.token.start.column = first ∧ first < left.length)
    (hstarts : ∃ s ∈ scanFrom n 0 0 true (left ++ (word ++ right)),
      s.token.start.column = left.length)
    (hsigns : ∀ s ∈ scanFrom n 0 0 true (left ++ (word ++ right)),
      first ≤ s.token.start.column → s.token.start.column < left.length →
        Lexeme.isSign s.token.kind = true) :
    ∃ before leading,
      scanFrom n 0 0 true (left ++ (word ++ right)) =
        before ++ scanFrom n left.length 0 leading (word ++ right) ∧
      scanFrom n 0 0 true (left ++ (word' ++ right)) =
        before ++ scanFrom n left.length 0 leading (word' ++ right) := by
  have hnext : Lexeme.Interchangeable Lexeme.isSign (word ++ right) (word' ++ right) := by
    refine Lexeme.interchangeable_of_word ?_ ?_
    · rw [Lexeme.next_of_isName hword]
      exact Lexeme.isNameStart_of_isName hword
    · rw [Lexeme.next_of_isName hword']
      exact Lexeme.isNameStart_of_isName hword'
  rcases hfirst with rfl | ⟨p, hp, hmarks, rfl, hlt⟩
  · have hreaches : Reaches Lexeme.isSign n 0 true left (word ++ right) := by
      refine ⟨?_, fun s hs hcolumn => hsigns s hs (Nat.zero_le _) ?_⟩
      · rwa [Nat.zero_add]
      · rwa [Nat.zero_add] at hcolumn
    obtain ⟨before, leading, hscan, hscan', -⟩ := scanFrom_before hnext hreaches
    rw [Nat.zero_add] at hscan hscan'
    exact ⟨before, leading, hscan, hscan'⟩
  · obtain ⟨front, c, more, leading, hline, htoken⟩ := lexeme_of_mem_scanFrom hp
    dsimp only at htoken
    have hcolumn : p.token.start.column = front.length := by
      rw [htoken]
      exact Nat.zero_add _
    rw [htoken] at hmarks
    obtain ⟨hx, hdigit⟩ := Lexeme.read_of_marksMember hmarks
    rw [hcolumn] at hlt hsigns
    -- the line up to the name is what stands before the mark, the mark and a gap
    obtain ⟨gap, rfl, rfl⟩ : ∃ gap, left = front ++ c :: gap ∧ more = gap ++ (word ++ right) := by
      rcases List.append_eq_append_iff.1 hline with ⟨rest, hfront, -⟩ | ⟨rest, hleft, hrest⟩
      · rw [hfront, List.length_append] at hlt
        omega
      · cases rest with
        | nil =>
          rw [hleft, List.append_nil] at hlt
          omega
        | cons d gap =>
          obtain ⟨rfl, hmore⟩ := List.cons.inj hrest
          exact ⟨gap, hleft, hmore⟩
    have hdigit' : Lexeme.next Char.isDigit (gap ++ (word' ++ right)) = false := by
      cases gap with
      | nil =>
        rw [List.nil_append, Lexeme.next_of_isName hword']
        obtain ⟨d, rest, rfl, hd⟩ := Lexeme.next_eq_true (Lexeme.isNameStart_of_isName hword')
        exact isDigit_eq_false_of_isNameStart hd
      | cons d gap => exact hdigit
    have hparts : Lexeme.partsPoint (gap ++ (word ++ right)) = true →
        Lexeme.partsPoint (gap ++ (word' ++ right)) = true := by
      cases gap with
      | nil =>
        rw [List.nil_append, List.nil_append, Lexeme.partsPoint, Lexeme.partsPoint,
          Lexeme.next_of_isName hword, Lexeme.next_of_isName hword']
        exact hpoint
      | cons d gap => exact id
    have hlines (v : Text) : front ++ c :: gap ++ v = front ++ c :: (gap ++ v) := by
      rw [List.append_assoc, List.cons_append]
    rw [hlines] at hp hstarts hsigns ⊢
    rw [hlines]
    have hreaches : Reaches (fun _ => true) n 0 true front (c :: (gap ++ (word ++ right))) :=
      ⟨⟨p, hp, by rw [hcolumn, Nat.zero_add]⟩, fun _ _ _ => rfl⟩
    obtain ⟨earlier, leading', hscan, hscan', hearlier⟩ :=
      scanFrom_before (Lexeme.interchangeable_of_mark hx hdigit hdigit' hparts) hreaches
    rw [Nat.zero_add] at hscan hscan' hearlier
    have hlength : front.length + (c :: gap).length = (front ++ c :: gap).length :=
      List.length_append.symm
    have hreaches' : Reaches Lexeme.isSign n front.length leading' (c :: gap) (word ++ right) := by
      rw [hscan] at hstarts hsigns
      constructor
      · obtain ⟨s, hs, hstart⟩ := hstarts
        refine ⟨s, (List.mem_append.1 hs).resolve_left fun hs => ?_, hstart.trans hlength.symm⟩
        have hearly := hearlier s hs
        omega
      · intro s hs hlate
        exact hsigns s (List.mem_append_right _ hs) (le_column_of_mem_scanFrom hs)
          (hlength ▸ hlate)
    obtain ⟨between, leading'', hbetween, hbetween', -⟩ := scanFrom_before hnext hreaches'
    rw [hlength] at hbetween hbetween'
    rw [List.cons_append] at hbetween hbetween'
    refine ⟨earlier ++ between, leading'', ?_, ?_⟩
    · rw [hscan, hbetween, List.append_assoc]
    · rw [hscan', hbetween', List.append_assoc]

end Line

/-! ## Tokens -/

theorem scanLinesFrom_append (first : Nat) (above below : List Text) :
    scanLinesFrom first (above ++ below) =
      scanLinesFrom first above ++ scanLinesFrom (first + above.length) below := by
  induction above generalizing first with
  | nil => rfl
  | cons line above ih =>
    rw [List.cons_append, scanLinesFrom, scanLinesFrom, ih, List.append_assoc, List.length_cons,
      Nat.add_assoc, Nat.add_comm 1]

theorem tokensFrom_append (first : Nat) (above below : List Text) :
    tokensFrom first (above ++ below) =
      tokensFrom first above ++ tokensFrom (first + above.length) below := by
  rw [tokensFrom, scanLinesFrom_append, List.map_append]
  rfl

/-- The tokens of a line among those of a text. -/
theorem mem_lineTokens_iff {above below : List Text} {line : Text} {t : Token} :
    t ∈ lineTokens above.length line ↔
      t ∈ tokensFrom 0 (above ++ line :: below) ∧ t.start.line = above.length := by
  have hget : (above ++ line :: below)[above.length]? = some line := by
    rw [List.getElem?_append_right (Nat.le_refl _), Nat.sub_self]
    rfl
  constructor
  · intro ht
    exact ⟨mem_tokensFrom.2 ⟨above.length, line, hget, by rwa [Nat.zero_add]⟩,
      (standsIn_of_mem_lineTokens ht).line⟩
  · rintro ⟨ht, hline⟩
    obtain ⟨i, line', hi, ht⟩ := mem_tokensFrom.1 ht
    rw [Nat.zero_add] at ht
    obtain rfl : i = above.length := (standsIn_of_mem_lineTokens ht).line.symm.trans hline
    obtain rfl : line = line' := Option.some.inj (hget.symm.trans hi)
    exact ht

/-- From a mark to the name after it there are only signs. -/
theorem isSign_of_between {tokens ahead behind : List Token} {p q t : Token}
    (hlaid : Token.Laid tokens) (hp : p.marksMember = true)
    (hcontent : tokens.filter Token.isContent = ahead ++ p :: t :: behind) (hq : q ∈ tokens)
    (hline : q.start.line = t.start.line) (hlt : q.start.column < t.start.column)
    (hle : p.start.line = t.start.line → p.start.column ≤ q.start.column) :
    Lexeme.isSign q.kind = true := by
  cases hkind : q.isContent with
  | false =>
    -- what belongs to no statement is a comment, `$` or `&`
    simp only [Token.isContent, Bool.and_eq_false_iff, Bool.not_eq_eq_eq_not, Bool.not_false,
      bne_eq_false_iff_eq] at hkind
    rcases hkind with (hcomment | hkind) | hkind
    · cases hq : q.kind <;> simp [hq, TokenKind.isComment] at hcomment <;> rfl
    · rw [hkind]
      rfl
    · rw [hkind]
      rfl
  | true =>
    have hpairs := hlaid.before.sublist (List.filter_sublist (p := Token.isContent))
    have hmem := List.mem_filter.2 ⟨hq, hkind⟩
    rw [hcontent] at hpairs hmem
    obtain ⟨-, hrest, hahead⟩ := List.pairwise_append.1 hpairs
    obtain ⟨hnext, hrest⟩ := List.pairwise_cons.1 hrest
    have hlast := hnext t List.mem_cons_self
    have hpos := hlaid.nonempty q hq
    simp only [List.mem_append, List.mem_cons] at hmem
    rcases hmem with hmem | rfl | rfl | hmem
    · have hfirst := hahead q hmem p List.mem_cons_self
      simp only [Token.Before, Span.endColumn] at hfirst hlast
      omega
    · exact Token.isSign_of_marksMember hp
    · omega
    · have hafter := (List.pairwise_cons.1 hrest).1 q hmem
      simp only [Token.Before, Span.endColumn] at hafter
      omega

/-- A word of a line is a name as it is spelled, and what follows does not go on with the name. -/
theorem word_of_mem_lineTokens {n : Nat} {left word right : Text} {t : Token}
    (ht : t ∈ lineTokens n (left ++ word ++ right)) (hword : t.isWord = true)
    (hcolumn : t.start.column = left.length) (htext : t.text = word) :
    Lexeme.nameTail right = 0 ∧ t = .ofName word ⟨n, left.length, word.length⟩ := by
  obtain ⟨s, hs, rfl⟩ := List.mem_map.1 ht
  obtain ⟨front, c, cs, hline, -, htoken⟩ := word_of_mem_scanFrom hs hword
  rw [htoken] at hcolumn htext ⊢
  have hfront : left.length = front.length := (hcolumn.symm.trans (Nat.zero_add _) :)
  have hname : c :: cs.take (Lexeme.nameTail cs) = word := htext
  subst hname
  rw [List.append_assoc] at hline
  obtain ⟨rfl, hrest⟩ := List.append_inj hline hfront
  have hcs : cs.take (Lexeme.nameTail cs) ++ right = cs := (List.cons.inj hrest).2
  have hlength : (cs.take (Lexeme.nameTail cs)).length = Lexeme.nameTail cs :=
    List.length_take_of_le (Lexeme.nameTail_le cs)
  constructor
  · have htail : Lexeme.nameTail (cs.take (Lexeme.nameTail cs) ++ right) = _ :=
      Lexeme.nameTail_append ((Lexeme.nameTail_take cs).trans hlength.symm)
    rw [hcs, hlength] at htail
    omega
  · rw [List.length_cons, hlength, Nat.zero_add]

namespace MemberName

variable {before word word' after : Text} (m : MemberName before word after)
  (m' : MemberName before word' after)

theorem split_eq : Statement.split (tokensFrom 0 (before ++ word ++ after).sourceLines) =
    m.earlier ++ m.statement :: m.later :=
  m.split

theorem mem_split : m.statement ∈
    Statement.split (tokensFrom 0 (before ++ word ++ after).sourceLines) := by
  rw [m.split_eq]
  exact List.mem_append_right _ List.mem_cons_self

theorem mem_tokens : m.place.token ∈ tokensFrom 0 (before ++ word ++ after).sourceLines :=
  (Statement.sublist_of_mem_split m.mem_split).subset m.inside.mem

include m in
theorem isName : word.isName = true := by
  have hspelled := (isSpelled_of_mem_tokensFrom m.mem_tokens m.isWord).1
  rwa [m.text] at hspelled

theorem exists_prev : ∃ p rest, m.place.before = p :: rest ∧ p.marksMember = true := by
  have hmember := m.isMember
  unfold Place.prevIs Place.prev? at hmember
  cases hbefore : m.place.before with
  | nil =>
    rw [hbefore] at hmember
    cases hmember
  | cons p rest =>
    rw [hbefore] at hmember
    exact ⟨p, rest, rfl, hmember⟩

/-- Among the tokens that belong to statements, the mark comes right before the name. -/
theorem exists_mark : ∃ p ahead behind,
    (tokensFrom 0 (before ++ word ++ after).sourceLines).filter Token.isContent =
      ahead ++ p :: m.place.token :: behind ∧ p.marksMember = true := by
  obtain ⟨p, rest, hbefore, hp⟩ := m.exists_prev
  refine ⟨p, m.earlier.flatten ++ rest.reverse, m.place.after ++ m.later.flatten, ?_, hp⟩
  rw [← Statement.flatten_split, m.split_eq, ← m.inside, hbefore]
  simp

section

variable {above below : List Text} {left right : Text}
  (habove : above.length = before.endCursor.line)
  (hleft : left.length = before.endCursor.character)
  (hlines : Text.sourceLines (before ++ word ++ after) = above ++ (left ++ word ++ right) :: below)
include m habove hleft hlines

theorem mem_lineTokens :
    m.place.token ∈ lineTokens above.length (left ++ word ++ right) ∧
      m.place.token.start.column = left.length := by
  have hstart := m.start
  have ht := m.mem_tokens
  rw [hlines] at ht
  refine ⟨mem_lineTokens_iff.2 ⟨ht, ?_⟩, ?_⟩
  · rw [habove, ← hstart]
    rfl
  · rw [hleft, ← hstart]
    rfl

/-- The tokens before the name do not depend on it. -/
theorem exists_scan (hname : word'.isName = true)
    (hpoint : Lexeme.partsPoint word = true → Lexeme.partsPoint word' = true) :
    ∃ scanned leading,
      scanFrom above.length 0 0 true (left ++ (word ++ right)) =
        scanned ++ scanFrom above.length left.length 0 leading (word ++ right) ∧
      scanFrom above.length 0 0 true (left ++ (word' ++ right)) =
        scanned ++ scanFrom above.length left.length 0 leading (word' ++ right) := by
  have hlaid := laid_tokensFrom (before ++ word ++ after).sourceLines
  obtain ⟨p, ahead, behind, hcontent, hp⟩ := m.exists_mark
  obtain ⟨ht, hcolumn⟩ := m.mem_lineTokens habove hleft hlines
  have hline := (standsIn_of_mem_lineTokens ht).line
  have htext {s : ScannedToken}
      (hs : s ∈ scanFrom above.length 0 0 true (left ++ (word ++ right))) :
      s.token ∈ tokensFrom 0 (before ++ word ++ after).sourceLines ∧
        s.token.start.line = above.length := by
    rw [hlines, List.append_assoc left]
    exact mem_lineTokens_iff.1 (List.mem_map_of_mem hs)
  have hscanned {t : Token} (ht : t ∈ tokensFrom 0 (before ++ word ++ after).sourceLines)
      (hline : t.start.line = above.length) :
      ∃ s ∈ scanFrom above.length 0 0 true (left ++ (word ++ right)), s.token = t := by
    rw [hlines, List.append_assoc left] at ht
    exact List.mem_map.1 (mem_lineTokens_iff.2 ⟨ht, hline⟩)
  have hstarts : ∃ s ∈ scanFrom above.length 0 0 true (left ++ (word ++ right)),
      s.token.start.column = left.length := by
    obtain ⟨s, hs, htoken⟩ := hscanned m.mem_tokens hline
    exact ⟨s, hs, by rw [htoken, hcolumn]⟩
  have hsign {q : ScannedToken}
      (hq : q ∈ scanFrom above.length 0 0 true (left ++ (word ++ right)))
      (hlt : q.token.start.column < left.length)
      (hle : p.start.line = above.length → p.start.column ≤ q.token.start.column) :
      Lexeme.isSign q.token.kind = true := by
    obtain ⟨hmem, hqline⟩ := htext hq
    refine isSign_of_between hlaid hp hcontent hmem (hqline.trans hline.symm) ?_ ?_
    · rwa [hcolumn]
    · rwa [hline]
  by_cases hsame : p.start.line = above.length
  · have hpairs := hlaid.before.sublist (List.filter_sublist (p := Token.isContent))
    rw [hcontent] at hpairs
    have hbefore := (List.pairwise_cons.1 (List.pairwise_append.1 hpairs).2.1).1 _
      List.mem_cons_self
    have hmark : p ∈ tokensFrom 0 (before ++ word ++ after).sourceLines := by
      refine (List.mem_filter.1 (show p ∈ List.filter Token.isContent _ from ?_)).1
      rw [hcontent]
      simp
    have hlt := hbefore.lt (hlaid.nonempty p hmark)
    obtain ⟨s, hs, rfl⟩ := hscanned hmark hsame
    refine scanFrom_renamed m.isName hname hpoint s.token.start.column
      (.inr ⟨s, hs, hp, rfl, ?_⟩) hstarts fun q hq hle hlt => hsign hq hlt fun _ => hle
    rw [Cursor.lt_iff] at hlt
    simp only [Span.startCursor] at hlt
    omega
  · exact scanFrom_renamed m.isName hname hpoint 0 (.inl rfl) hstarts fun q hq _ hlt =>
      hsign hq hlt fun h => absurd h hsame

end

/-- In the place of a name stands the other one, and all other tokens are the same. -/
theorem tokens_renamed (hname : word'.isName = true) (hlength : word'.length = word.length)
    (hpoint : Lexeme.partsPoint word = true → Lexeme.partsPoint word' = true) :
    ∃ earlier later,
      tokensFrom 0 (before ++ word ++ after).sourceLines = earlier ++ m.place.token :: later ∧
      tokensFrom 0 (before ++ word' ++ after).sourceLines =
        earlier ++ .ofName word' m.place.token.start :: later := by
  obtain ⟨above, left, right, below, habove, hleft, hlines⟩ :=
    Text.exists_sourceLines before after
  have hlines {word : Text} (h : word.isName = true) : Text.sourceLines (before ++ word ++ after) =
      above ++ (left ++ word ++ right) :: below := by
    obtain ⟨c, cs, hcons, -⟩ := Text.exists_of_isName h
    have hnone {x : Char} (hx : extendsWord x = false) : x ∉ word := by
      intro hmem
      rw [Text.extendsWord_of_isName h x hmem] at hx
      cases hx
    exact hlines word (by simp [hcons]) (hnone rfl) (hnone rfl)
  have hword := hlines m.isName
  obtain ⟨ht, hcolumn⟩ := m.mem_lineTokens habove hleft hword
  obtain ⟨hright, htoken⟩ := word_of_mem_lineTokens ht m.isWord hcolumn m.text
  obtain ⟨scanned, leading, hscan, hscan'⟩ := m.exists_scan habove hleft hword hname hpoint
  -- from the word on, a line is scanned as it is from the start of a word
  have hline {word : Text} (h : word.isName = true)
      (hscan : scanFrom above.length 0 0 true (left ++ (word ++ right)) =
        scanned ++ scanFrom above.length left.length 0 leading (word ++ right)) :
      lineTokens above.length (left ++ word ++ right) = scanned.map (·.token) ++
        .ofName word ⟨above.length, left.length, word.length⟩ ::
          tokensAt above.length (left.length + word.length) false right := by
    rw [lineTokens, scanLine, List.append_assoc, hscan, List.map_append,
      ← tokensAt_name above.length left.length leading h hright]
    rfl
  refine ⟨tokensFrom 0 above ++ scanned.map (·.token),
    tokensAt above.length (left.length + word.length) false right ++
      tokensFrom (0 + above.length + 1) below, ?_, ?_⟩
  · rw [hword, tokensFrom_append, tokensFrom_cons, Nat.zero_add, hline m.isName hscan, ← htoken]
    simp
  · rw [hlines hname, tokensFrom_append, tokensFrom_cons, Nat.zero_add, hline hname hscan',
      htoken, hlength]
    simp [Token.ofName, Token.single]

theorem token_eq {t : Token} (ht : t ∈ tokensFrom 0 (before ++ word ++ after).sourceLines)
    (hstart : t.start.startCursor = before.endCursor) : m.place.token = t :=
  (laid_tokensFrom _).eq_of_startCursor_eq m.mem_tokens ht (m.start.trans hstart.symm)

/-- The tokens of two texts that differ in the name of a member. -/
theorem exists_tokens (hlength : word'.length = word.length) : ∃ earlier later,
    tokensFrom 0 (before ++ word ++ after).sourceLines = earlier ++ m.place.token :: later ∧
    tokensFrom 0 (before ++ word' ++ after).sourceLines = earlier ++ m'.place.token :: later ∧
    m'.place.token.start = m.place.token.start := by
  by_cases hpoint : Lexeme.partsPoint word = true → Lexeme.partsPoint word' = true
  · obtain ⟨earlier, later, htokens, htokens'⟩ := m.tokens_renamed m'.isName hlength hpoint
    have htoken : m'.place.token = .ofName word' m.place.token.start := by
      refine m'.token_eq ?_ m.start
      rw [htokens']
      exact List.mem_append_right _ List.mem_cons_self
    rw [htoken]
    exact ⟨earlier, later, htokens, htokens', rfl⟩
  · -- then the second name takes part in no number, and neither does the first in its place
    obtain ⟨earlier, later, htokens', htokens⟩ := m'.tokens_renamed m.isName hlength.symm
      fun h => absurd (fun _ => h) hpoint
    have htoken : m.place.token = .ofName word m'.place.token.start := by
      refine m.token_eq ?_ m'.start
      rw [htokens]
      exact List.mem_append_right _ List.mem_cons_self
    rw [htoken]
    exact ⟨earlier, later, htokens, htokens', rfl⟩

/-! ## Statements -/

theorem eq_of_split {earlier later : List Statement} {kept more : List Token}
    (h : Statement.split (tokensFrom 0 (before ++ word ++ after).sourceLines) =
      earlier ++ (kept ++ m.place.token :: more) :: later) :
    m.earlier = earlier ∧ m.later = later ∧ m.place.before = kept.reverse ∧
      m.place.after = more := by
  have hlaid := laid_tokensFrom (before ++ word ++ after).sourceLines
  have hmem : kept ++ m.place.token :: more ∈
      Statement.split (tokensFrom 0 (before ++ word ++ after).sourceLines) := by
    rw [h]
    exact List.mem_append_right _ List.mem_cons_self
  have hstatement : m.statement = kept ++ m.place.token :: more :=
    Statement.eq_of_mem_of_mem hlaid m.mem_split hmem m.inside.mem (by simp)
  have hin : Place.In m.statement ⟨kept.reverse, m.place.token, more⟩ := by
    rw [Place.In, hstatement, List.reverse_reverse]
  have hplace := m.inside.eq hin (Statement.nodup_of_mem_split hlaid m.mem_split) rfl
  have hnodup := Statement.nodup_split hlaid
  rw [← hstatement, m.split_eq] at h
  rw [m.split_eq] at hnodup
  have hnone := (List.nodup_cons.1 (List.nodup_middle.1 hnodup)).1
  rw [List.mem_append, not_or] at hnone
  obtain ⟨hearlier, -, hlater⟩ := (List.append_cons_inj_of_notMem hnone.1 hnone.2).1 h
  exact ⟨hearlier, hlater, by rw [hplace], by rw [hplace]⟩

include m in
/-- Another name of the same length is the name of a member in the place of the first one, unless a
point before it would belong to a number. -/
theorem exists_renamed (hname : word'.isName = true) (hlength : word'.length = word.length)
    (hpoint : Lexeme.partsPoint word = true → Lexeme.partsPoint word' = true) :
    Nonempty (MemberName before word' after) := by
  obtain ⟨ahead, behind, htokens, htokens'⟩ := m.tokens_renamed hname hlength hpoint
  obtain ⟨earlier, kept, more, later, hsplit⟩ :=
    Statement.exists_split_append ahead behind m.place.token.start.line
  have hword : (Token.ofName word' m.place.token.start).isWord = true := by
    unfold Token.ofName
    split <;> rfl
  have h := hsplit _ (Token.isContent_of_isWord m.isWord) rfl
  have h' := hsplit _ (Token.isContent_of_isWord hword) rfl
  rw [← htokens] at h
  rw [← htokens'] at h'
  obtain ⟨-, -, hbefore, -⟩ := m.eq_of_split h
  have hmember := m.isMember
  unfold Place.prevIs Place.prev? at hmember
  rw [hbefore] at hmember
  exact ⟨{
    earlier, statement := kept ++ .ofName word' m.place.token.start :: more, later
    place := ⟨kept.reverse, .ofName word' m.place.token.start, more⟩
    split := h'
    inside := by rw [Place.In, List.reverse_reverse]
    start := m.start
    text := rfl
    isWord := hword
    isMember := hmember }⟩

/-- Two texts that differ in the name of a member have the same statements but for the name. -/
theorem surroundings (hlength : word'.length = word.length) :
    m'.earlier = m.earlier ∧ m'.later = m.later ∧ m'.place.before = m.place.before ∧
      m'.place.after = m.place.after ∧ m'.place.token.start = m.place.token.start := by
  obtain ⟨ahead, behind, htokens, htokens', hstart⟩ := m.exists_tokens m' hlength
  obtain ⟨earlier, kept, more, later, hsplit⟩ :=
    Statement.exists_split_append ahead behind m.place.token.start.line
  have h := hsplit _ (Token.isContent_of_isWord m.isWord) rfl
  have h' := hsplit _ (Token.isContent_of_isWord m'.isWord) (congrArg Span.line hstart)
  rw [← htokens] at h
  rw [← htokens'] at h'
  obtain ⟨hearlier, hlater, hbefore, hafter⟩ := m.eq_of_split h
  obtain ⟨hearlier', hlater', hbefore', hafter'⟩ := m'.eq_of_split h'
  rw [hearlier, hlater, hbefore, hafter]
  exact ⟨hearlier', hlater', hbefore', hafter', hstart⟩

end MemberName

end RoutineAtlas
