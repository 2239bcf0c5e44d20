import RoutineAtlas.Proofs.MemberName
import RoutineAtlas.Proofs.Nesting
import RoutineAtlas.Proofs.Repetition
import RoutineAtlas.Proofs.Reports

/-!
# Renaming a member

Blocks are counted by words, and the only words that are left out are names of keywords. So the name
of a member counts as well, if it is a word that opens or closes a block. This is all that it does:
if it is put in the place of another one, the count of its statement changes by what the two words
count, and the outline of the file, which is its routines with their ends and the extents of its
scopes, can change only with the number of blocks that are open after the statement.

What carries the proof is that the outline of a file is read without looking at the statements that
it has collected. They are left out of it, and then the two files have the same outline after each
statement.

## Main definitions

* `Outline.bare` — an outline without the statements of its scopes.
* `Text.blockDelta` — what a word counts.
* `Analysis.read_renamed_member` — what changes with the name of a member.
-/

namespace RoutineAtlas

open Problem (withCode)

/-! ## Blocks -/

namespace Place

/-- What is asked of the tokens around a word to find out whether it names a keyword. -/
def signs (t : Token) : Bool × Bool × Bool :=
  (separates t, t.isOperator "/", t.isOperator "=")

theorem signs_of_isWord {t : Token} (h : t.isWord = true) : signs t = (false, false, false) := by
  simp only [Token.isWord, Bool.or_eq_true, beq_iff_eq] at h
  rcases h with h | h <;> simp [signs, separates, Token.isOperator, h]

theorem signs_of_marksMember {t : Token} (h : t.marksMember = true) :
    signs t = (false, false, false) := by
  simp only [Token.marksMember, Token.isOperator, Bool.or_eq_true, Bool.and_eq_true,
    beq_iff_eq] at h
  rcases h with hkind | ⟨hkind, htext⟩
  · simp [signs, separates, Token.isOperator, hkind]
  · simp only [signs, separates, Token.isOperator, hkind, htext]
    decide

variable {before before' after after' : List Token} {t t' : Token}

theorem isKeywordName_congr (hbefore : before.map signs = before'.map signs)
    (hafter : after.map signs = after'.map signs) (t t' : Token) :
    isKeywordName ⟨before, t, after⟩ = isKeywordName ⟨before', t', after'⟩ := by
  have hnext : nextIs ⟨before, t, after⟩ (·.isOperator "=") =
      nextIs ⟨before', t', after'⟩ (·.isOperator "=") := by
    have hhead := congrArg (fun signs => signs.head?.any (·.2.2)) hafter
    simp only [List.head?_map, Option.any_map] at hhead
    exact hhead
  cases before with
  | nil =>
    obtain rfl : before' = [] := List.map_eq_nil_iff.1 hbefore.symm
    rfl
  | cons prev earlier =>
    obtain ⟨prev', earlier', rfl, hprev, hearlier⟩ := List.map_eq_cons_iff.1 hbefore.symm
    have hseparates : separates prev = separates prev' := congrArg (·.1) hprev.symm
    have hslash : prev.isOperator "/" = prev'.isOperator "/" := congrArg (·.2.1) hprev.symm
    have hhead := congrArg (fun signs => signs.head?.any (·.1)) hearlier.symm
    simp only [List.head?_map, Option.any_map] at hhead
    have hitem : earlier.head?.any separates = earlier'.head?.any separates := hhead
    simp only [isKeywordName]
    rw [hseparates, hslash, hitem]
    exact congrArg (fun next => next && separates prev' || _) hnext

theorem blockDelta_congr (hbefore : before.map signs = before'.map signs)
    (hafter : after.map signs = after'.map signs) (t : Token) :
    blockDelta ⟨before, t, after⟩ = blockDelta ⟨before', t, after'⟩ := by
  simp only [blockDelta, isKeywordName_congr hbefore hafter t t]

theorem blockDeltas_congr (hbefore : before.map signs = before'.map signs) (ts : List Token) :
    (placesFrom before ts).map blockDelta = (placesFrom before' ts).map blockDelta := by
  induction ts generalizing before before' with
  | nil => rfl
  | cons t ts ih =>
    have hnext : (t :: before).map signs = (t :: before').map signs := by simp [hbefore]
    rw [placesFrom, placesFrom, List.map_cons, List.map_cons, blockDelta_congr hbefore rfl,
      ih hnext]

/-- Another word in the same place counts for itself and leaves the other tokens as they are. -/
theorem exists_blockDeltas (ht : t.isWord = true) (ht' : t'.isWord = true)
    (before ahead behind : List Token) : ∃ front back,
      (placesFrom before (ahead ++ t :: behind)).map blockDelta =
        front ++ blockDelta ⟨ahead.reverse ++ before, t, behind⟩ :: back ∧
      (placesFrom before (ahead ++ t' :: behind)).map blockDelta =
        front ++ blockDelta ⟨ahead.reverse ++ before, t', behind⟩ :: back := by
  have hsigns : signs t = signs t' := (signs_of_isWord ht).trans (signs_of_isWord ht').symm
  induction ahead generalizing before with
  | nil =>
    have hback : (placesFrom (t :: before) behind).map blockDelta =
        (placesFrom (t' :: before) behind).map blockDelta :=
      blockDeltas_congr (by simp [hsigns]) behind
    refine ⟨[], (placesFrom (t :: before) behind).map blockDelta, rfl, ?_⟩
    rw [hback]
    rfl
  | cons u ahead ih =>
    obtain ⟨front, back, hfront, hfront'⟩ := ih (u :: before)
    have hu : blockDelta ⟨before, u, ahead ++ t :: behind⟩ =
        blockDelta ⟨before, u, ahead ++ t' :: behind⟩ := blockDelta_congr rfl (by simp [hsigns]) u
    refine ⟨blockDelta ⟨before, u, ahead ++ t :: behind⟩ :: front, back, ?_, ?_⟩
    · rw [List.cons_append, placesFrom, List.map_cons, hfront]
      simp
    · rw [List.cons_append, placesFrom, List.map_cons, hfront', hu]
      simp

end Place

namespace Statement

/-- A word in another's place changes the count of blocks by what the two words count. -/
theorem blockDelta_sub {t t' : Token} (ht : t.isWord = true) (ht' : t'.isWord = true)
    (ahead behind : List Token) :
    blockDelta (ahead ++ t :: behind) - Place.blockDelta ⟨ahead.reverse, t, behind⟩ =
      blockDelta (ahead ++ t' :: behind) - Place.blockDelta ⟨ahead.reverse, t', behind⟩ := by
  obtain ⟨front, back, hfront, hfront'⟩ := Place.exists_blockDeltas ht ht' [] ahead behind
  rw [List.append_nil] at hfront hfront'
  have hsum (s : Statement) :
      s.blockDelta = ((Place.placesFrom [] s).map Place.blockDelta).sum := by
    rw [blockDelta, places, List.sum_eq_foldl, List.foldl_map]
  rw [hsum, hsum, hfront, hfront']
  simp only [List.sum_append, List.sum_cons]
  omega

end Statement

/-! ## Heads -/

section

variable {p : Token} (hp : p.marksMember = true)
include hp

theorem Token.of_marksMember : p.isWord = false ∧ p.kind ≠ .comma ∧ p.kind ≠ .doubleColon := by
  simp only [marksMember, isOperator, Bool.or_eq_true, Bool.and_eq_true, beq_iff_eq] at hp
  rcases hp with hkind | ⟨hkind, -⟩ <;> simp [isWord, hkind]

/-- What stands after `->` or `.` is not read as a parameter. -/
theorem ParameterList.read_marked (seen : Seen) (ahead behind behind' : List Token) :
    ParameterList.read seen (ahead ++ p :: behind) =
      ParameterList.read seen (ahead ++ p :: behind') := by
  obtain ⟨hword, hcomma, -⟩ := Token.of_marksMember hp
  have hsign : p.isOperator "=" = false := congrArg (·.2.2) (Place.signs_of_marksMember hp)
  have hname : p.kind ≠ .identifier := by
    intro hkind
    simp [Token.isWord, hkind] at hword
  induction hlength : ahead.length using Nat.strongRecOn generalizing ahead seen with
  | ind length ih =>
    subst hlength
    cases ahead with
    | nil => rw [List.nil_append, List.nil_append, read_unexpected hcomma, read_unexpected hcomma]
    | cons separator ahead =>
      rw [List.cons_append, List.cons_append]
      by_cases hseparator : separator.kind = .comma
      · cases ahead with
        | nil =>
          rw [List.nil_append, List.nil_append, read_missingParameter hseparator hword,
            read_missingParameter hseparator hword]
        | cons t ahead =>
          rw [List.cons_append, List.cons_append]
          cases ht : t.isWord with
          | false => rw [read_missingParameter hseparator ht, read_missingParameter hseparator ht]
          | true =>
            cases hassigns : ahead.head?.any (·.isOperator "=") with
            | false =>
              have hnext (behind : List Token) :
                  (ahead ++ p :: behind).head?.any (·.isOperator "=") = false := by
                cases ahead with
                | nil => exact hsign
                | cons sign ahead => exact hassigns
              rw [read_argument hseparator ht (hnext behind),
                read_argument hseparator ht (hnext behind'),
                ih ahead.length (by simp only [List.length_cons]; omega) _ ahead rfl]
            | true =>
              cases ahead with
              | nil => cases hassigns
              | cons sign ahead =>
                have hassign : sign.isOperator "=" = true := hassigns
                rw [List.cons_append, List.cons_append]
                cases ahead with
                | nil =>
                  rw [List.nil_append, List.nil_append,
                    read_missingVariable hseparator ht hassign hname,
                    read_missingVariable hseparator ht hassign hname]
                | cons target ahead =>
                  rw [List.cons_append, List.cons_append]
                  by_cases htarget : target.kind = .identifier
                  · rw [read_keyword hseparator ht hassign htarget,
                      read_keyword hseparator ht hassign htarget,
                      ih ahead.length (by simp only [List.length_cons]; omega) _ ahead rfl]
                  · rw [read_missingVariable hseparator ht hassign htarget,
                      read_missingVariable hseparator ht hassign htarget]
      · rw [read_unexpected hseparator, read_unexpected hseparator]

theorem HeaderName.read_marked (name : Token) (ahead behind behind' : List Token) :
    HeaderName.read name (ahead ++ p :: behind) = HeaderName.read name (ahead ++ p :: behind') := by
  obtain ⟨hword, -, hcolon⟩ := Token.of_marksMember hp
  have hparameters := ParameterList.read_marked hp .none
  cases ahead with
  | nil =>
    have hrest := hparameters [] behind behind'
    rw [List.nil_append, List.nil_append] at hrest ⊢
    simp [HeaderName.read, hcolon, hrest]
  | cons t ahead =>
    have hrest := hparameters (t :: ahead) behind behind'
    rw [List.cons_append, List.cons_append] at hrest ⊢
    cases ahead with
    | nil =>
      rw [List.nil_append, List.nil_append] at hrest ⊢
      simp [HeaderName.read, hword, hrest]
    | cons method ahead =>
      have hmethod := hparameters ahead behind behind'
      simp only [HeaderName.read, List.cons_append] at hrest ⊢
      rw [hmethod, hrest]

/-- A head is read up to the first `->` or `.`, and ends where its last token does. -/
theorem Header.read_marked (file : Path) (word : Token) (ahead : List Token)
    {behind behind' : List Token}
    (hstop : Statement.stop (word :: (ahead ++ p :: behind)) =
      Statement.stop (word :: (ahead ++ p :: behind'))) :
    Header.read file word (ahead ++ p :: behind) =
      Header.read file word (ahead ++ p :: behind') := by
  obtain ⟨hword, -⟩ := Token.of_marksMember hp
  cases ahead with
  | nil => simp [Header.read, hword]
  | cons name ahead =>
    rw [List.cons_append, List.cons_append] at hstop ⊢
    simp only [Header.read, hstop, HeaderName.read_marked hp name ahead behind behind']

end

/-! ## Outlines -/

/-- The draft without its statements. -/
def ScopeDraft.bare (d : ScopeDraft) : ScopeDraft :=
  { d with statements := [] }

namespace Outline

/-- The outline without the statements of its scopes. -/
def bare (o : Outline) : Outline :=
  { o with scopes := o.scopes.map ScopeDraft.bare }

/-- How many blocks are open where the next statement is read. -/
def depth (o : Outline) : Nat :=
  match o.openRoutine with
  | some r => r.depth
  | none => o.mainDepth

variable (file : Path) (o : Outline)

theorem bare_abandon : o.abandon.bare = o.bare.abandon := by
  unfold abandon bare
  split <;> rename_i h <;> simp [h]

theorem bare_addHeader (word : Token) (after : List Token) :
    (o.addHeader file word after).bare = o.bare.addHeader file word after := by
  simp only [addHeader]
  split
  · simp [begin, bare, redefinition, ScopeDraft.bare]
  · rfl

theorem bare_close (r : OpenRoutine) (s : Statement) :
    (o.close r s).bare = o.bare.close r s := by
  have hscopes :
      (o.scopes.map ScopeDraft.bare).modify r.scope (fun d => { d with stop := s.stop }) =
      (o.scopes.modify r.scope fun d => { d with stop := s.stop }).map ScopeDraft.bare :=
    modify_map (fun _ => by rfl) _ _
  simp only [close, bare, hscopes]

/-- All that is left of a statement is where it stops. -/
theorem bare_put (scope : Nat) (s : Statement) : (o.put scope s).bare =
    { o.bare with scopes := o.bare.scopes.modify scope fun d => { d with stop := s.stop } } := by
  have hscopes : (o.scopes.map ScopeDraft.bare).modify scope (fun d => { d with stop := s.stop }) =
      (o.scopes.modify scope fun d =>
        { d with stop := s.stop, statements := d.statements ++ [s] }).map ScopeDraft.bare :=
    modify_map (fun _ => by rfl) _ _
  simp only [put, bare, hscopes]

theorem withMain_bare (start : Span) : o.bare.withMain start =
    ((o.withMain start).1, (o.withMain start).2.bare) := by
  unfold withMain
  cases h : o.mainScope with
  | some scope => simp [bare, h]
  | none => simp [bare, h, ScopeDraft.bare]

theorem bare_bare : o.bare.bare = o.bare := by
  simp [bare, ScopeDraft.bare, Function.comp_def]

theorem put_bare (scope : Nat) (s : Statement) :
    (o.put scope s).bare = (o.bare.put scope s).bare := by
  rw [bare_put, bare_put, bare_bare]

theorem bare_addToRoutine (r : OpenRoutine) (s : Statement) :
    (o.addToRoutine r s).bare = (o.bare.addToRoutine r s).bare := by
  unfold addToRoutine
  split
  · rw [bare_close, bare_close, bare_bare]
  · exact put_bare _ _ _

theorem bare_addToMain (first : Token) (s : Statement) :
    (o.addToMain first s).bare = (o.bare.addToMain first s).bare := by
  have hdepth : o.bare.mainDepth = o.mainDepth := rfl
  simp only [addToMain, hdepth, withMain_bare]
  split
  · exact o.bare_bare.symm
  · exact put_bare _ _ _

/-- What a statement does to the rest of an outline does not depend on the statements in it. -/
theorem bare_add (s : Statement) : (o.add file s).bare = (o.bare.add file s).bare := by
  cases s with
  | nil => exact o.bare_bare.symm
  | cons first after =>
    cases hfirst : first.startsRoutine with
    | true =>
      simp only [add, hfirst, if_true, bare_addHeader, bare_abandon, bare_bare]
    | false =>
      have hopen : o.bare.openRoutine = o.openRoutine := rfl
      simp only [add, hfirst, Bool.false_eq_true, if_false, hopen]
      split
      · exact bare_addToRoutine _ _ _
      · exact bare_addToMain _ _ _

variable {file o} {o' : Outline}

theorem bare_foldl (h : o.bare = o'.bare) (ss : List Statement) :
    (ss.foldl (add file) o).bare = (ss.foldl (add file) o').bare := by
  induction ss generalizing o o' with
  | nil => exact h
  | cons s ss ih =>
    refine ih ?_
    rw [bare_add, h, ← bare_add]

/-- Of a statement that is no head, what counts is where it starts and stops and how many blocks are
open after it. -/
theorem bare_add_congr {first : Token} {after after' : List Token}
    (hfirst : first.startsRoutine = false)
    (hsingle : Statement.isSingle (first :: after) "end" = false)
    (hsingle' : Statement.isSingle (first :: after') "end" = false)
    (hstop : Statement.stop (first :: after') = Statement.stop (first :: after))
    (hdepth : Statement.depthAfter (first :: after') o.depth =
      Statement.depthAfter (first :: after) o.depth) :
    (o.add file (first :: after')).bare = (o.add file (first :: after)).bare := by
  simp only [add, hfirst, Bool.false_eq_true, if_false]
  unfold depth at hdepth
  cases hopen : o.openRoutine with
  | some r =>
    rw [hopen] at hdepth
    simp only [addToRoutine, hsingle, hsingle', Bool.false_and, Bool.false_eq_true, if_false,
      bare_put, hstop, hdepth]
  | none =>
    rw [hopen] at hdepth
    have hmain : (o.withMain first.start).2.mainDepth = o.mainDepth := by
      unfold withMain
      split <;> rfl
    simp only [addToMain, hsingle, hsingle', Bool.false_and, Bool.false_eq_true, if_false,
      bare_put, hstop, hmain, hdepth]

end Outline

/-! ## Members -/

/-- How many blocks a word opens less how many it closes. -/
def Text.blockDelta (word : Text) : Int :=
  if blockOpeners.contains word.lower then 1
  else if blockClosers.contains word.lower then -1
  else 0

theorem Text.blockDelta_eq_zero {word : Text} (h : isReservedWord word = false) :
    word.blockDelta = 0 := by
  have hreserved : (blockOpeners ++ blockClosers).all (reservedWords.contains ·) = true := by decide
  have hnone (words : List Text) (hwords : words ⊆ blockOpeners ++ blockClosers) :
      words.contains word.lower = false := by
    by_contra hmem
    have hmem := hwords (List.contains_iff_mem.1 (Bool.not_eq_false _ ▸ hmem))
    have hword : isReservedWord word = true := List.all_eq_true.1 hreserved _ hmem
    rw [h] at hword
    cases hword
  rw [blockDelta, hnone _ (List.subset_append_left _ _), hnone _ (List.subset_append_right _ _)]
  rfl

namespace MemberName

variable {before word word' after : Text} (m : MemberName before word after)
  (m' : MemberName before word' after)

/-- How many blocks are open before the statement with the name. -/
def depth (path : Path) : Nat :=
  (m.earlier.foldl (Outline.add path) .empty).depth

/-- The name of a member counts for what it is as a word. -/
theorem blockDelta_place : m.place.blockDelta = word.blockDelta := by
  obtain ⟨p, rest, hbefore, hp⟩ := m.exists_prev
  have hsigns := Place.signs_of_marksMember hp
  have hkeyword : m.place.isKeywordName = false := by
    have hseparates : Place.separates p = false := congrArg (·.1) hsigns
    have hslash : p.isOperator "/" = false := congrArg (·.2.1) hsigns
    simp [Place.isKeywordName, hbefore, hseparates, hslash]
  obtain ⟨span, hspan⟩ := (isSpelled_of_mem_tokensFrom m.mem_tokens m.isWord).2
  rw [m.text] at hspan
  rw [Place.blockDelta, hkeyword, hspan]
  cases hreserved : isReservedWord word with
  | true => simp [Token.ofName, Token.single, Token.key, hreserved, Text.blockDelta]
  | false => simp [Token.ofName, Token.single, hreserved, Text.blockDelta_eq_zero]

theorem blockDelta_renamed (hlength : word'.length = word.length) :
    m'.statement.blockDelta = m.statement.blockDelta - word.blockDelta + word'.blockDelta := by
  obtain ⟨-, -, hbefore, hafter, -⟩ := m.surroundings m' hlength
  have hsub := Statement.blockDelta_sub m.isWord m'.isWord m.place.before.reverse m.place.after
  have hin' : m.place.before.reverse ++ m'.place.token :: m.place.after = m'.statement := by
    rw [← hbefore, ← hafter]
    exact m'.inside
  have hplace' :
      Place.blockDelta ⟨m.place.before, m'.place.token, m.place.after⟩ = word'.blockDelta := by
    rw [← hbefore, ← hafter]
    exact m'.blockDelta_place
  have hplace : Place.blockDelta ⟨m.place.before, m.place.token, m.place.after⟩ = word.blockDelta :=
    m.blockDelta_place
  rw [List.reverse_reverse, m.inside, hin', hplace, hplace'] at hsub
  omega

theorem stop_renamed (hlength : word'.length = word.length) :
    m'.statement.stop = m.statement.stop := by
  obtain ⟨-, -, hbefore, hafter, hstart⟩ := m.surroundings m' hlength
  have hstop : m'.place.token.stop = m.place.token.stop := by
    rw [(laid_tokensFrom _).single _ m'.mem_tokens, (laid_tokensFrom _).single _ m.mem_tokens,
      hstart]
  rw [← m'.inside, ← m.inside, hbefore, hafter]
  cases m.place.after <;> simp [Statement.stop, hstop]

theorem bare_add_renamed (path : Path) (o : Outline) (hlength : word'.length = word.length)
    (h : m.statement.isHeader = true ∨
      m'.statement.depthAfter o.depth = m.statement.depthAfter o.depth) :
    (o.add path m'.statement).bare = (o.add path m.statement).bare := by
  obtain ⟨-, -, hbefore, hafter, -⟩ := m.surroundings m' hlength
  have hstop := m.stop_renamed m' hlength
  obtain ⟨p, rest, hprev, hp⟩ := m.exists_prev
  have hstatement : m.statement = rest.reverse ++ p :: m.place.token :: m.place.after := by
    rw [← m.inside, hprev]
    simp
  have hstatement' : m'.statement = rest.reverse ++ p :: m'.place.token :: m.place.after := by
    rw [← m'.inside, hbefore, hafter, hprev]
    simp
  rw [hstatement, hstatement'] at h hstop ⊢
  generalize rest.reverse = ahead at h hstop ⊢
  cases ahead with
  | nil =>
    -- the mark begins no routine
    have hfirst : p.startsRoutine = false := by
      have hword := (Token.of_marksMember hp).1
      simp only [Token.isWord, Bool.or_eq_false_iff] at hword
      simp [Token.startsRoutine, Token.isReserved, hword.2]
    have hdepth := h.resolve_left (by simp [Statement.isHeader, hfirst])
    exact Outline.bare_add_congr hfirst rfl rfl hstop hdepth
  | cons first ahead =>
    rw [List.cons_append, List.cons_append] at h hstop ⊢
    cases hfirst : first.startsRoutine with
    | true =>
      have hread := Header.read_marked hp path first ahead hstop
      simp only [Outline.add, hfirst, if_true, Outline.addHeader, hread]
    | false =>
      have hsingle (t : Token) : Statement.isSingle
          (first :: (ahead ++ p :: t :: m.place.after)) "end" = false := by
        cases ahead <;> rfl
      have hdepth := h.resolve_left (by simp [Statement.isHeader, hfirst])
      exact Outline.bare_add_congr hfirst (hsingle _) (hsingle _) hstop hdepth

theorem bare_ofStatements_renamed (path : Path) (hlength : word'.length = word.length)
    (h : m.statement.isHeader = true ∨
      m'.statement.depthAfter (m.depth path) = m.statement.depthAfter (m.depth path)) :
    (Outline.ofStatements path
        (Statement.split (tokensFrom 0 (before ++ word' ++ after).sourceLines))).bare =
      (Outline.ofStatements path
        (Statement.split (tokensFrom 0 (before ++ word ++ after).sourceLines))).bare := by
  obtain ⟨hearlier, hlater, -⟩ := m.surroundings m' hlength
  have hstep := m.bare_add_renamed m' path _ hlength h
  rw [m.split_eq, m'.split_eq, hearlier, hlater, Outline.ofStatements, Outline.ofStatements,
    Outline.bare_abandon, Outline.bare_abandon, List.foldl_append, List.foldl_append,
    List.foldl_cons, List.foldl_cons, Outline.bare_foldl hstep]

end MemberName

namespace Analysis

/-- A name that is put in the place of the name of a member is the name of a member again, unless a
point before it would become part of a number. The count of blocks changes by what the two words
count. If as many blocks are open after the statement as before the change, or if the statement is
the head of a routine, then the routines, the extents of the scopes and the missing ends that are
reported stay the same. -/
theorem read_renamed_member (path : Path) {before word word' after : Text}
    (m : MemberName before word after) (hname : word'.isName = true)
    (hlength : word'.length = word.length) :
    ((Lexeme.partsPoint word = true → Lexeme.partsPoint word' = true) →
      Nonempty (MemberName before word' after)) ∧
    ∀ m' : MemberName before word' after,
      m'.statement.blockDelta = m.statement.blockDelta - word.blockDelta + word'.blockDelta ∧
      (m.statement.isHeader = true ∨
          m'.statement.depthAfter (m.depth path) = m.statement.depthAfter (m.depth path) →
        let a := Analysis.read path (before ++ word ++ after)
        let a' := Analysis.read path (before ++ word' ++ after)
        a'.record.routines = a.record.routines ∧
          a'.record.scopes.map Scope.frame = a.record.scopes.map Scope.frame ∧
          withCode .missingEnd a'.parseProblems = withCode .missingEnd a.parseProblems) := by
  refine ⟨m.exists_renamed hname hlength, fun m' => ⟨m.blockDelta_renamed m' hlength, fun h => ?_⟩⟩
  have hbare := m.bare_ofStatements_renamed m' path hlength h
  have hroutines : (Analysis.read path (before ++ word' ++ after)).record.routines =
      (Analysis.read path (before ++ word ++ after)).record.routines :=
    congrArg (·.routines) hbare
  refine ⟨hroutines, ?_, ?_⟩
  · have hview (d : ScopeDraft) : d.bare.frame = d.frame := rfl
    have hframes := map_view_eq_of_map_eq hview (congrArg (·.scopes) hbare)
    exact (Outline.map_frame_record _).trans (hframes.trans (Outline.map_frame_record _).symm)
  · rw [withCode_missingEnd_read, withCode_missingEnd_read, hroutines]

/-- A method is called `end`, where no block is open that the word could close. -/
theorem read_renamed_member_closer :
    let path := Path.ofText ['f']
    let before : Text := "pro p\n  y->".toList
    let after : Text := "\nend\n".toList
    let a := Analysis.read path (before ++ "end".toList ++ after)
    let a' := Analysis.read path (before ++ "abc".toList ++ after)
    Nonempty (MemberName before "end".toList after) ∧
      Nonempty (MemberName before "abc".toList after) ∧
      Text.blockDelta "end".toList = -1 ∧
      a'.record.routines = a.record.routines ∧
      a'.record.scopes.map Scope.frame = a.record.scopes.map Scope.frame ∧
      withCode .missingEnd a'.parseProblems = withCode .missingEnd a.parseProblems := by
  intro path before after a a'
  let token (kind : TokenKind) (text : String) (line column : Nat) : Token :=
    .single kind (.ofString text) ⟨line, column, text.length⟩
  let m : MemberName before "end".toList after :=
    { earlier := [[token .reserved "pro" 0 0, token .identifier "p" 0 4]]
      statement := [token .identifier "y" 1 2, token .arrow "->" 1 3, token .reserved "end" 1 5]
      later := [[token .reserved "end" 2 0]]
      place := ⟨[token .arrow "->" 1 3, token .identifier "y" 1 2], token .reserved "end" 1 5, []⟩
      split := by decide +kernel
      inside := rfl
      start := by decide +kernel
      text := rfl
      isWord := rfl
      isMember := rfl }
  obtain ⟨hexists, hsame⟩ :=
    read_renamed_member path m (by decide +kernel : Text.isName "abc".toList = true) rfl
  obtain ⟨m'⟩ := hexists (by decide +kernel)
  obtain ⟨hdelta, hsame⟩ := hsame m'
  refine ⟨⟨m⟩, ⟨m'⟩, by decide +kernel, hsame (.inr ?_)⟩
  have hdepth : m.depth path = 0 := by decide +kernel
  have hcount : m.statement.blockDelta = -1 := by decide +kernel
  have hcloses : Text.blockDelta "end".toList = -1 := by decide +kernel
  have hplain : Text.blockDelta "abc".toList = 0 := by decide +kernel
  rw [hcount, hcloses, hplain] at hdelta
  rw [Statement.depthAfter, Statement.depthAfter, hdepth, hdelta, hcount]
  rfl

/-- A method that is called `begin` opens a block, and the `end` of the routine closes it. -/
theorem renamed_member_opens_block :
    let path := Path.ofText ['f']
    let before : Text := "pro p\n  x->".toList
    let after : Text := "\nend\n".toList
    let closed (word : Text) : List Bool :=
      (Analysis.read path (before ++ word ++ after)).record.routines.map (·.closed)
    Nonempty (MemberName before "begin".toList after) ∧
      Nonempty (MemberName before "abcde".toList after) ∧
      closed "begin".toList = [false] ∧ closed "abcde".toList = [true] := by
  intro path before after closed
  let token (kind : TokenKind) (text : String) (line column : Nat) : Token :=
    .single kind (.ofString text) ⟨line, column, text.length⟩
  let m : MemberName before "begin".toList after :=
    { earlier := [[token .reserved "pro" 0 0, token .identifier "p" 0 4]]
      statement := [token .identifier "x" 1 2, token .arrow "->" 1 3, token .reserved "begin" 1 5]
      later := [[token .reserved "end" 2 0]]
      place := ⟨[token .arrow "->" 1 3, token .identifier "x" 1 2], token .reserved "begin" 1 5, []⟩
      split := by decide +kernel
      inside := rfl
      start := by decide +kernel
      text := rfl
      isWord := rfl
      isMember := rfl }
  refine ⟨⟨m⟩, m.exists_renamed ?_ ?_ ?_, ?_, ?_⟩ <;> decide +kernel

end Analysis

end RoutineAtlas
